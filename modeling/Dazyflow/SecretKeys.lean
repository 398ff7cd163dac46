import Dazyflow.ProgramStages
import Dazyflow.SecretScopes

/-!
# Data keys of stored secrets

`EncryptedSecrets`: each tenant's secrets are sealed under a data key that is stored wrapped under the master
key, created on first use, kept in every instance's memory and deleted with the tenant.
-/
namespace Dazyflow.SecretKeys
open Interleaving List Function

abbrev Key:=Nat

structure Box(α:Type) where
 key:Key
 aad:List String
 content:α
 deriving DecidableEq

/-- Opens a box with the associated data, or one that was sealed without any. -/
def openBound{α:Type}(key:Key)(box:Box α)(aad:List String):Option α:=
 if box.key=key∧(box.aad=aad∨box.aad=[]) then some box.content else none

def secretAAD(tenant name:String):List String:=["dazyflow/secret/v1",tenant,name]

def dekAAD(tenant:String):List String:=["dazyflow/dek/v1",tenant]

lemma openBound_seal{α:Type}(key aad)(content:α):
 openBound key ⟨key,aad,content⟩ aad=some content:=if_pos ⟨rfl,.inl rfl⟩

/-- How many instances there are, and the master key they share. -/
structure Config where
 instances:Nat
 master:Key

def Config.wrap(cfg:Config)(tenant:String)(key:Key):Box Key:=⟨cfg.master,dekAAD tenant,key⟩

/-- The shared store, and the data keys in each instance's memory. -/
structure State(cfg:Config) where
 secrets:String→String→Option (Box String):=fun _ _=>none
 deks:String→Option (Box Key):=fun _=>none
 caches:Fin cfg.instances→String→Option Key:=fun _ _=>none

inductive Lookup(α:Type)
 | found (a:α)
 | notFound
 | failed

inductive Answer
 | value (v:String)
 | notFound
 | undecryptable
 /-- a store call failed -/
 | failed
 /-- no tenant, or a data key that is gone or does not unwrap -/
 | refused
 deriving DecidableEq

section Machine

variable {cfg:Config}

def State.putSecret(s:State cfg)(tenant name:String)(box:Option (Box String)):State cfg:=
 {s with secrets:=update s.secrets tenant (update (s.secrets tenant) name box)}

def State.putDEK(s:State cfg)(tenant:String)(box:Box Key):State cfg:=
 {s with deks:=update s.deks tenant (some box)}

def State.deleteTenant(s:State cfg)(tenant:String):State cfg:=
 {s with secrets:=update s.secrets tenant (fun _=>none),deks:=update s.deks tenant none}

def State.setCache(s:State cfg)(inst:Fin cfg.instances)(tenant:String)(key:Option Key):State cfg:=
 {s with caches:=update s.caches inst (update (s.caches inst) tenant key)}

inductive Call(cfg:Config)
 | cached (inst:Fin cfg.instances)(tenant:String)
 | getWrappedDEK (tenant:String)
 | generate
 | setWrappedDEK (tenant:String)(box:Box Key)
 | cache (inst:Fin cfg.instances)(tenant:String)(key:Key)
 | uncache (inst:Fin cfg.instances)(tenant:String)
 | getSecret (tenant name:String)
 | putSecret (tenant name:String)(box:Box String)
 | deleteSecret (tenant name:String)
 | deleteTenant (tenant:String)
 | returned (r:Answer)

@[reducible] def Res:Call cfg→Type
 | .cached _ _=>Option Key
 | .getWrappedDEK _=>Lookup (Box Key)
 | .generate=>Key
 | .setWrappedDEK _ _=>Option Bool
 | .cache _ _ _=>Unit
 | .uncache _ _=>Unit
 | .getSecret _ _=>Lookup (Box String)
 | .putSecret _ _ _=>Bool
 | .deleteSecret _ _=>Bool
 | .deleteTenant _=>Bool
 | .returned _=>Unit

@[reducible] def sig(cfg:Config):Sig where
 Call:=Call cfg
 Res:=Res

abbrev ask(c:Call cfg):Prog (sig cfg) (Res c):=Prog.ask (S:=sig cfg) c

/-- The random source, whether the store fails the call, and whether a write that it
 reports as failed took place all the same. -/
structure Oracle where
 random:Key:=0
 fails:Bool:=false
 applied:Bool:=false

def lookup{α:Type}(o:Oracle):Option α→Lookup α
 | none=>if o.fails then .failed else .notFound
 | some a=>if o.fails then .failed else .found a

def Oracle.write(o:Oracle)(s s':State cfg):State cfg:=if o.fails&&!o.applied then s else s'

def step:(c:Call cfg)→Oracle→State cfg→Res c×State cfg
 | .cached inst tenant,_,s=>(s.caches inst tenant,s)
 | .getWrappedDEK tenant,o,s=>(lookup o (s.deks tenant),s)
 | .generate,o,s=>(o.random,s)
 | .setWrappedDEK tenant box,o,s=>
  -- an existing data key is never overwritten
  match s.deks tenant with
  | some _=>(if o.fails then none else some false,s)
  | none=>(if o.fails then none else some true,o.write s (s.putDEK tenant box))
 | .cache inst tenant key,_,s=>((),s.setCache inst tenant (some key))
 | .uncache inst tenant,_,s=>((),s.setCache inst tenant none)
 | .getSecret tenant name,o,s=>(lookup o (s.secrets tenant name),s)
 | .putSecret tenant name box,o,s=>(!o.fails,o.write s (s.putSecret tenant name (some box)))
 | .deleteSecret tenant name,o,s=>(!o.fails,o.write s (s.putSecret tenant name none))
 -- one transaction of two deletes
 | .deleteTenant tenant,o,s=>(!o.fails,o.write s (s.deleteTenant tenant))
 | .returned _,_,s=>((),s)

/-- The last part of `dekFor`: unwraps the stored key and keeps it. -/
def unwrap(inst:Fin cfg.instances)(tenant:String)(box:Box Key):Prog (sig cfg) (Except Answer Key):=
 match openBound cfg.master box (dekAAD tenant) with
 | none=>pure (.error .refused)
 | some key=>do
  let _←ask (.cache inst tenant key)
  pure (.ok key)

def dekFor(inst:Fin cfg.instances)(tenant:String):Prog (sig cfg) (Except Answer Key):=do
 match←ask (.cached inst tenant) with
 | some key=>pure (.ok key)
 | none=>
  match←ask (.getWrappedDEK tenant) with
  | .failed=>pure (.error .failed)
  | .found box=>unwrap inst tenant box
  | .notFound=>
   let key←ask .generate
   match←ask (.setWrappedDEK tenant (cfg.wrap tenant key)) with
   | none=>pure (.error .failed)
   | some true=>unwrap inst tenant (cfg.wrap tenant key)
   | some false=>
    match←ask (.getWrappedDEK tenant) with
    | .found box=>unwrap inst tenant box
    | .notFound=>pure (.error .refused)
    | .failed=>pure (.error .failed)

def put(inst:Fin cfg.instances)(tenant name value:String):Prog (sig cfg) Unit:=
 if tenant=""∨name="" then pure ()
 else do
  match←dekFor inst tenant with
  | .error _=>pure ()
  | .ok key=>
   let _←ask (.putSecret tenant name ⟨key,secretAAD tenant name,value⟩)
   pure ()

def getRaw(inst:Fin cfg.instances)(tenant storageName:String):Prog (sig cfg) Answer:=do
 match←ask (.getSecret tenant storageName) with
 | .notFound=>pure .notFound
 | .failed=>pure .failed
 | .found box=>
  match←dekFor inst tenant with
  | .error r=>pure r
  | .ok key=>
   match openBound key box (secretAAD tenant storageName) with
   | none=>pure .undecryptable
   | some v=>pure (.value v)

/-- Tries the candidates in turn; only a missing secret leads to the next. -/
def firstOf(inst:Fin cfg.instances)(tenant:String):List String→Prog (sig cfg) Answer
 | []=>pure .notFound
 | name::rest=>do
  match←getRaw inst tenant name with
  | .notFound=>firstOf inst tenant rest
  | r=>pure r

def get(inst:Fin cfg.instances)(tenant flow name:String):Prog (sig cfg) Unit:=do
 let r←if tenant="" then pure .refused else firstOf inst tenant (SecretScopes.candidates flow name)
 let _←ask (.returned r)
 pure ()

def delete(tenant name:String):Prog (sig cfg) Unit:=
 if tenant="" then pure ()
 else do
  let _←ask (.deleteSecret tenant name)
  pure ()

/-- Drops the instance's own key even when the store reports an error. -/
def deleteByTenant(inst:Fin cfg.instances)(tenant:String):Prog (sig cfg) Unit:=
 if tenant="" then pure ()
 else do
  let _←ask (.deleteTenant tenant)
  let _←ask (.uncache inst tenant)
  pure ()

end Machine

inductive Entry(cfg:Config)
 | put (inst:Fin cfg.instances)(tenant name value:String)
 | get (inst:Fin cfg.instances)(tenant flow name:String)
 | delete (tenant name:String)
 | deleteByTenant (inst:Fin cfg.instances)(tenant:String)

@[reducible] def machine(cfg:Config):Machine (sig cfg) where
 State:=State cfg
 Oracle:=Oracle
 step:=step
 Entry:=Entry cfg
 entry
  | .put inst tenant name value=>put inst tenant name value
  | .get inst tenant flow name=>get inst tenant flow name
  | .delete tenant name=>delete tenant name
  | .deleteByTenant inst tenant=>deleteByTenant inst tenant

structure Request(cfg:Config) where
 inst:Fin cfg.instances
 tenant:String
 keys:List String
 deriving DecidableEq

inductive Goal(cfg:Config)
 | store (name value:String)
 | read (q:Request cfg)(name:String)(box:Box String)
 deriving DecidableEq

inductive Stage(cfg:Config)
 | trying (q:Request cfg)(left:List String)
 | asking (inst:Fin cfg.instances)(tenant:String)(goal:Goal cfg)
 | loading (inst:Fin cfg.instances)(tenant:String)(goal:Goal cfg)
 | generating (inst:Fin cfg.instances)(tenant:String)(goal:Goal cfg)
 | provisioning (inst:Fin cfg.instances)(tenant:String)(goal:Goal cfg)(key:Key)
 | rereading (inst:Fin cfg.instances)(tenant:String)(goal:Goal cfg)
 | caching (inst:Fin cfg.instances)(tenant:String)(goal:Goal cfg)(key:Key)
 | sealing (inst:Fin cfg.instances) (tenant name value:String) (key:Key)
 | stored (tenant name value:String)
 | answers (q:Request cfg) (r:Answer)
 | answered (q:Request cfg) (r:Answer)
 | deleting (tenant name:String)
 | erasing (inst:Fin cfg.instances) (tenant:String)
 | erased (inst:Fin cfg.instances) (tenant:String)
 | ended
 deriving DecidableEq

section Stages

variable {cfg:Config}

def Stage.first:Entry cfg→Stage cfg
 | .put inst tenant name value=>.asking inst tenant (.store name value)
 | .get inst tenant flow name=>
  if tenant="" then .answers ⟨inst,tenant,SecretScopes.candidates flow name⟩ .refused
  else .trying ⟨inst,tenant,SecretScopes.candidates flow name⟩ (SecretScopes.candidates flow name)
 | .delete tenant name=>.deleting tenant name
 | .deleteByTenant inst tenant=>.erasing inst tenant

def opened(tenant name:String)(box:Box String)(key:Key):Answer:=
 match openBound key box (secretAAD tenant name) with
 | none=>.undecryptable
 | some v=>.value v

def Goal.go(inst:Fin cfg.instances)(tenant:String)(key:Key):Goal cfg→Stage cfg
 | .store name value=>.sealing inst tenant name value key
 | .read q name box=>.answers q (opened tenant name box key)

def Goal.fail(r:Answer):Goal cfg→Stage cfg
 | .store _ _=>.ended
 | .read q _ _=>.answers q r

def unwrapped(inst:Fin cfg.instances)(tenant:String)(goal:Goal cfg)(box:Box Key):Stage cfg:=
 match openBound cfg.master box (dekAAD tenant) with
 | none=>goal.fail .refused
 | some key=>.caching inst tenant goal key

def Stage.next:Stage cfg→(c:Call cfg)→Res c→Stage cfg
 | .trying q (name::_),.getSecret _ _,.found box=>.asking q.inst q.tenant (.read q name box)
 | .trying q (_::rest),.getSecret _ _,.notFound=>.trying q rest
 | .trying q (_::_),.getSecret _ _,.failed=>.answers q .failed
 | .trying q [],.returned r,_=>.answered q r
 | .asking inst tenant goal,.cached _ _,some key=>goal.go inst tenant key
 | .asking inst tenant goal,.cached _ _,none=>.loading inst tenant goal
 | .loading inst tenant goal,.getWrappedDEK _,.found box=>unwrapped inst tenant goal box
 | .loading inst tenant goal,.getWrappedDEK _,.notFound=>.generating inst tenant goal
 | .loading _ _ goal,.getWrappedDEK _,.failed=>goal.fail .failed
 | .generating inst tenant goal,.generate,key=>.provisioning inst tenant goal key
 | .provisioning inst tenant goal key,.setWrappedDEK _ _,some true=>
  unwrapped inst tenant goal (cfg.wrap tenant key)
 | .provisioning inst tenant goal _,.setWrappedDEK _ _,some false=>.rereading inst tenant goal
 | .provisioning _ _ goal _,.setWrappedDEK _ _,none=>goal.fail .failed
 | .rereading inst tenant goal,.getWrappedDEK _,.found box=>unwrapped inst tenant goal box
 | .rereading _ _ goal,.getWrappedDEK _,.notFound=>goal.fail .refused
 | .rereading _ _ goal,.getWrappedDEK _,.failed=>goal.fail .failed
 | .caching inst tenant goal key,.cache _ _ _,_=>goal.go inst tenant key
 | .sealing _ tenant name value _,.putSecret _ _ _,true=>.stored tenant name value
 | .answers q r,.returned _,_=>.answered q r
 | .erasing inst tenant,.deleteTenant _,_=>.erased inst tenant
 | _,_,_=>.ended

def Stage.allows:Stage cfg→Call cfg→Prop
 | .trying q (name::_),.getSecret tenant name'=>tenant=q.tenant∧name'=name
 | .trying _ [],.returned r=>r=.notFound
 | .asking inst tenant _,.cached inst' tenant'=>inst'=inst∧tenant'=tenant
 | .loading _ tenant _,.getWrappedDEK tenant'=>tenant'=tenant
 | .generating _ _ _,.generate=>True
 | .provisioning _ tenant _ key,.setWrappedDEK tenant' box=>tenant'=tenant∧box=cfg.wrap tenant key
 | .rereading _ tenant _,.getWrappedDEK tenant'=>tenant'=tenant
 | .caching inst tenant _ key,.cache inst' tenant' key'=>inst'=inst∧tenant'=tenant∧key'=key
 | .sealing _ tenant name value key,.putSecret tenant' name' box=>
  tenant'=tenant∧name'=name∧box=⟨key,secretAAD tenant name,value⟩
 | .answers _ r,.returned r'=>r'=r
 | .deleting tenant name,.deleteSecret tenant' name'=>tenant'=tenant∧name'=name
 | .erasing _ tenant,.deleteTenant tenant'=>tenant'=tenant
 | .erased inst tenant,.uncache inst' tenant'=>inst'=inst∧tenant'=tenant
 | _,_=>False

end Stages

@[reducible] def stages(cfg:Config):Protocol (machine cfg) where
 Stage:=Stage cfg
 first:=Stage.first
 next:=Stage.next
 allowed:=Stage.allows

section Follows

open Protocol

variable {cfg:Config}{inst:Fin cfg.instances}{tenant:String}

def Goal.Left(goal:Goal cfg)(inst:Fin cfg.instances)(tenant:String)(n:Stage cfg):Except Answer Key→Prop
 | .error r=>n=goal.fail r∧r≠.notFound
 | .ok key=>n=goal.go inst tenant key

lemma obeys_unwrap(goal box):
 (stages cfg).Obeys (unwrap inst tenant box) (unwrapped inst tenant goal box) (fun r n=>goal.Left inst tenant n r):=by
 unfold unwrap unwrapped
 cases openBound cfg.master box (dekAAD tenant) with
 | none=>exact obeys_done ⟨rfl,nofun⟩
 | some key=>exact obeys_call ⟨rfl,rfl,rfl⟩ (fun _=>obeys_done rfl)
lemma obeys_dekFor(goal):
 (stages cfg).Obeys (dekFor inst tenant) (.asking inst tenant goal) (fun r n=>goal.Left inst tenant n r):=by
 refine obeys_call ⟨rfl,rfl⟩ fun
  | some key=>obeys_done rfl
  | none=>?_
 refine obeys_call rfl fun
  | .failed=>obeys_done ⟨rfl,nofun⟩
  | .found box=>obeys_unwrap goal box
  | .notFound=>?_
 refine obeys_call trivial fun key=>obeys_call ⟨rfl,rfl⟩ (fun wrote=>?_)
 match wrote with
 | none=>exact obeys_done ⟨rfl,nofun⟩
 | some true=>exact obeys_unwrap goal _
 | some false=>
  exact obeys_call rfl fun
   | .found box=>obeys_unwrap goal box
   | .notFound=>obeys_done ⟨rfl,nofun⟩
   | .failed=>obeys_done ⟨rfl,nofun⟩
lemma obeys_firstOf(q left):
 (stages cfg).Obeys (firstOf q.inst q.tenant left) (.trying q left)
  (fun r n=>n=.answers q r∨n=.trying q []∧r=.notFound):=by
 induction left with
 | nil=>exact obeys_done (.inr ⟨rfl,rfl⟩)
 | cons name rest ih=>
  refine obeys_bind (T:=stages cfg)
   (Q:=fun r n=>n=.answers q r∧r≠.notFound∨n=.trying q rest∧r=.notFound) ?_ ?_
  ·refine obeys_call ⟨rfl,rfl⟩ fun
    | .notFound=>obeys_done (.inr ⟨rfl,rfl⟩)
    | .failed=>obeys_done (.inl ⟨rfl,nofun⟩)
    | .found box=>?_
   refine obeys_bind (p:=dekFor q.inst q.tenant) (obeys_dekFor (.read q name box)) fun r n hn=>?_
   cases r with
   | error a=>
    obtain ⟨rfl,ha⟩:=hn
    exact obeys_done (.inl ⟨rfl,ha⟩)
   | ok key=>
    subst hn
    simp only[Goal.go,opened]
    cases openBound key box (secretAAD q.tenant name) with
    | none | some v=>exact obeys_done (.inl ⟨rfl,nofun⟩)
  ·rintro r n (⟨rfl,hr⟩ | ⟨rfl,rfl⟩)
   ·cases r with
    | notFound=>exact absurd rfl hr
    | _=>exact obeys_done (.inl rfl)
   ·exact ih
lemma follows(cfg):(stages cfg).Follows (fun _=>True) where
 entries e:=by
  cases e with
  | put inst tenant name value=>
   show (stages cfg).Obeys (put inst tenant name value) _ _
   refine obeys_if (fun _=>obeys_done trivial) fun _=>?_
   refine obeys_bind (obeys_dekFor (.store name value)) fun r n hn=>?_
   cases r with
   | error a=>exact obeys_done trivial
   | ok key=>
    subst hn
    exact obeys_end ⟨rfl,rfl,rfl⟩
  | get inst tenant flow name=>
   show (stages cfg).Obeys (get inst tenant flow name) (Stage.first (.get inst tenant flow name)) _
   simp only[get,Stage.first]
   split_ifs
   ·exact obeys_end rfl
   ·refine obeys_bind (obeys_firstOf ⟨inst,tenant,SecretScopes.candidates flow name⟩ _) ?_
    rintro r n (rfl | ⟨rfl,rfl⟩)
    ·exact obeys_end rfl
    ·exact obeys_end rfl
  | delete tenant name=>
   show (stages cfg).Obeys (delete tenant name) _ _
   exact obeys_if (fun _=>obeys_done trivial) fun _=>obeys_end ⟨rfl,rfl⟩
  | deleteByTenant inst tenant=>
   show (stages cfg).Obeys (deleteByTenant inst tenant) _ _
   exact obeys_if (fun _=>obeys_done trivial) fun _=>obeys_call rfl fun _=>obeys_end ⟨rfl,rfl⟩

end Follows

inductive Shift{cfg}(s:State cfg):Stage cfg→State cfg→Stage cfg→Prop
 | absent {q name rest} (hrow:s.secrets q.tenant name=none):
  Shift s (.trying q (name::rest)) s (.trying q rest)
 | reads {q name rest box}
  (hrow:s.secrets q.tenant name=some box):
  Shift s (.trying q (name::rest)) s (.asking q.inst q.tenant (.read q name box))
 | unread {q name rest}:
  Shift s (.trying q (name::rest)) s (.answers q .failed)
 | exhausted {q}:Shift s (.trying q []) s (.answered q .notFound)
 | hit {inst tenant goal key}
  (hc:s.caches inst tenant=some key):Shift s (.asking inst tenant goal) s (goal.go inst tenant key)
 | miss {inst tenant goal}:
  Shift s (.asking inst tenant goal) s (.loading inst tenant goal)
 | loads {n inst tenant goal box}
  (hn:n=.loading inst tenant goal∨n=.rereading inst tenant goal) (hdek:s.deks tenant=some box):
  Shift s n s (unwrapped inst tenant goal box)
 | unprovisioned {inst tenant goal}:
  Shift s (.loading inst tenant goal) s (.generating inst tenant goal)
 | generates {inst tenant goal key}:
  Shift s (.generating inst tenant goal) s (.provisioning inst tenant goal key)
 | wins {inst tenant goal key} (hdek:s.deks tenant=none):
  Shift s (.provisioning inst tenant goal key) (s.putDEK tenant (cfg.wrap tenant key))
   (.caching inst tenant goal key)
 | loses {inst tenant goal key}:
  Shift s (.provisioning inst tenant goal key) s (.rereading inst tenant goal)
 | fails {n inst tenant goal}
  (hn:n=.loading inst tenant goal∨n=.rereading inst tenant goal):Shift s n s (goal.fail .failed)
 | lost {inst tenant goal} (hdek:s.deks tenant=none):
  Shift s (.rereading inst tenant goal) s (goal.fail .refused)
 | unset {inst tenant goal key s'}
  (hs:s'=s∨s.deks tenant=none∧s'=s.putDEK tenant (cfg.wrap tenant key)):
  Shift s (.provisioning inst tenant goal key) s' (goal.fail .failed)
 | caches {inst tenant goal key}:
  Shift s (.caching inst tenant goal key) (s.setCache inst tenant (some key)) (goal.go inst tenant key)
 | stores {inst tenant name value key s' n'}
  (hs:s'=s∧n'=.ended∨
   s'=s.putSecret tenant name (some ⟨key,secretAAD tenant name,value⟩)∧
    (n'=.stored tenant name value∨n'=.ended)):
  Shift s (.sealing inst tenant name value key) s' n'
 | returns {q r}:Shift s (.answers q r) s (.answered q r)
 | deletes {tenant name s'} (hs:s'=s∨s'=s.putSecret tenant name none):
  Shift s (.deleting tenant name) s' .ended
 | erases {inst tenant s'} (hs:s'=s∨s'=s.deleteTenant tenant):
  Shift s (.erasing inst tenant) s' (.erased inst tenant)
 | uncaches {inst tenant}:
  Shift s (.erased inst tenant) (s.setCache inst tenant none) .ended

section Shift

variable {cfg:Config}{s s':State cfg}{n n':Stage cfg}{ns:List (Stage cfg)}{i:Nat}

lemma lookup_cases{α:Type}(o:Oracle)(row:Option α):
 lookup o row=.failed∨(∃ a,row=some a∧lookup o row=.found a)∨row=none∧lookup o row=.notFound:=by
 cases row<;>cases hf:o.fails<;>simp[lookup,hf]
lemma write_cases(o:Oracle)(s s':State cfg):
 (o.write s s'=s∧o.fails)∨o.write s s'=s':=by
 cases hf:o.fails<;>cases ha:o.applied<;>simp[Oracle.write,hf,ha]
lemma unwrapped_wrap(inst:Fin cfg.instances)(tenant:String)(goal:Goal cfg)(key:Key):
 unwrapped inst tenant goal (cfg.wrap tenant key)=.caching inst tenant goal key:=by
 rw[unwrapped,Config.wrap,openBound_seal]
lemma shift_of_allows{c}(hall:n.allows c)(o:Oracle):
 Shift s n (step c o s).2 (n.next c (step c o s).1):=by
 cases n with
 | trying q left=>
  cases left with
  | nil=>
   cases c<;>cases hall
   exact .exhausted
  | cons name rest=>
   cases c<;>obtain ⟨rfl,rfl⟩:=hall
   simp only[step]
   rcases lookup_cases o (s.secrets q.tenant _) with h | ⟨box,hrow,h⟩ | ⟨hrow,h⟩
   ·rw[h]
    exact .unread
   ·rw[h]
    exact .reads hrow
   ·rw[h]
    exact .absent hrow
 | asking inst tenant goal=>
  cases c<;>obtain ⟨rfl,rfl⟩:=hall
  simp only[step]
  cases hc:s.caches _ _ with
  | none=>exact .miss
  | some key=>exact .hit hc
 | loading inst tenant goal=>
  cases c<;>cases hall
  simp only[step]
  rcases lookup_cases o (s.deks _) with h | ⟨box,hdek,h⟩ | ⟨_,h⟩
  ·rw[h]
   exact .fails (.inl rfl)
  ·rw[h]
   exact .loads (.inl rfl) hdek
  ·rw[h]
   exact .unprovisioned
 | generating inst tenant goal=>
  cases c<;>cases hall
  exact .generates
 | provisioning inst tenant goal key=>
  cases c<;>obtain ⟨rfl,rfl⟩:=hall
  simp only[step]
  cases hdek:s.deks _ with
  | some box=>
   cases hf:o.fails with
   | true=>exact .unset (.inl rfl)
   | false=>exact .loses
  | none=>
   cases hf:o.fails with
   | true=>
    refine .unset ?_
    rcases write_cases o s (s.putDEK _ (cfg.wrap _ key)) with ⟨hw,_⟩ | hw
    ·exact .inl hw
    ·exact .inr ⟨hdek,hw⟩
   | false=>
    simp only[Oracle.write,hf,Bool.false_and,Bool.false_eq_true,if_false,Stage.next,unwrapped_wrap]
    exact .wins hdek
 | rereading inst tenant goal=>
  cases c<;>cases hall
  simp only[step]
  rcases lookup_cases o (s.deks _) with h | ⟨box,hdek,h⟩ | ⟨hdek,h⟩
  ·rw[h]
   exact .fails (.inr rfl)
  ·rw[h]
   exact .loads (.inr rfl) hdek
  ·rw[h]
   exact .lost hdek
 | caching inst tenant goal key=>
  cases c<;>obtain ⟨rfl,rfl,rfl⟩:=hall
  exact .caches
 | sealing inst tenant name value key=>
  cases c<;>obtain ⟨rfl,rfl,rfl⟩:=hall
  refine .stores ?_
  rcases write_cases o s (s.putSecret _ _ (some ⟨key,secretAAD _ _,value⟩)) with ⟨hw,hf⟩ | hw
  ·exact .inl ⟨hw,by simp[step,hf,Stage.next]⟩
  ·refine .inr ⟨hw,?_⟩
   cases hf:o.fails<;>simp[step,hf,Stage.next]
 | answers q r=>
  cases c<;>cases hall
  exact .returns
 | deleting tenant name=>
  cases c<;>obtain ⟨rfl,rfl⟩:=hall
  exact .deletes ((write_cases o s _).imp_left And.left)
 | erasing inst tenant=>
  cases c<;>cases hall
  exact .erases ((write_cases o s _).imp_left And.left)
 | erased inst tenant=>
  cases c<;>obtain ⟨rfl,rfl⟩:=hall
  exact .uncaches
 | _=>cases c<;>cases hall

def Stage.holds:Stage cfg→Option (String×Key)
 | .caching _ tenant _ key=>some (tenant,key)
 | .sealing _ tenant _ _ key=>some (tenant,key)
 | _=>none

/-- A tenant is erased while no other instance has its key in memory and nobody is about to
 use it, and an instance does not look for a key in its memory while it is erasing the
 tenant there. -/
def calm(s:State cfg)(ns:List (Stage cfg)):Stage cfg→Bool
 | .erasing inst tenant=>
  decide (∀ other,other≠inst → s.caches other tenant=none) &&
   ns.all (fun m=>m.holds.all fun p=>p.1≠tenant)
 | .asking inst tenant _=>ns.all (fun m=>m≠.erased inst tenant)
 | _=>true

/-- Every box, every instance's memory and every program has the key that is stored. -/
structure Keyed(s:State cfg)(ns:List (Stage cfg)):Prop where
 wrapped:∀ tenant box,s.deks tenant=some box→∃ key,box=cfg.wrap tenant key
 boxed:∀ tenant name box,s.secrets tenant name=some box→
  ∃ key value,box=⟨key,secretAAD tenant name,value⟩∧s.deks tenant=some (cfg.wrap tenant key)
 cached:∀ inst tenant key,s.caches inst tenant=some key→
  s.deks tenant=some (cfg.wrap tenant key)∨.erased inst tenant∈ns
 held:∀ n∈ns,∀ tenant key,n.holds=some (tenant,key) → s.deks tenant=some (cfg.wrap tenant key)

variable {inst:Fin cfg.instances}{tenant:String}{goal:Goal cfg}{key':Key}

lemma holds_go{tenant' key}
 (h:(goal.go inst tenant key).holds=some (tenant',key')):tenant'=tenant∧key'=key:=by
 cases goal with
 | store name value=>
  cases h
  exact ⟨rfl,rfl⟩
 | read q name box=>cases h
lemma holds_fail(goal:Goal cfg)(r):(goal.fail r).holds=none:=by cases goal<;>rfl
lemma holds_first(e:Entry cfg):(Stage.first e).holds=none:=by
 cases e with
 | get inst tenant flow name=>
  simp only[Stage.first]
  split_ifs<;>rfl
 | _=>rfl
lemma Keyed.start(h:Keyed s ns)(e:Entry cfg):Keyed s (ns++[Stage.first e]):=by
 refine ⟨h.wrapped,h.boxed,fun inst tenant key hc=>?_,fun n hn tenant key hk=>?_⟩
 ·exact (h.cached inst tenant key hc).imp_right (mem_append_left _)
 ·rcases mem_append.1 hn with hn | hn
  ·exact h.held n hn tenant key hk
  ·rw[mem_singleton.1 hn,holds_first] at hk
   cases hk
lemma Shift.deks_cases(hs:Shift s n s' n')(tenant):
 s'.deks tenant=s.deks tenant∨
  (s.deks tenant=none∧∃ key,s'.deks tenant=some (cfg.wrap tenant key))∨
  ∃ inst,n=.erasing inst tenant∧s'=s.deleteTenant tenant:=by
 have hput:∀ (t:String) (key:Key),s.deks t=none→
  ((s.putDEK t (cfg.wrap t key)).deks tenant=s.deks tenant∨
   s.deks tenant=none∧∃ key',(s.putDEK t (cfg.wrap t key)).deks tenant=some (cfg.wrap tenant key')):=by
  intro t key hnone
  by_cases ht:tenant=t
  ·subst ht
   exact .inr ⟨hnone,key,by simp[State.putDEK]⟩
  ·exact .inl (by simp[State.putDEK,update_of_ne ht])
 cases hs with
 | wins hdek=>
  rcases hput _ _ hdek with h | h
  ·exact .inl h
  ·exact .inr (.inl h)
 | unset hs=>
  rcases hs with rfl | ⟨hdek,rfl⟩
  ·exact .inl rfl
  ·rcases hput _ _ hdek with h | h
   ·exact .inl h
   ·exact .inr (.inl h)
 | @erases inst t _ hs=>
  rcases hs with rfl | rfl
  ·exact .inl rfl
  ·by_cases ht:tenant=t
   ·subst ht
    exact .inr (.inr ⟨inst,rfl,rfl⟩)
   ·exact .inl (by simp[State.deleteTenant,update_of_ne ht])
 | stores hs=>
  rcases hs with ⟨rfl,_⟩ | ⟨rfl,_⟩<;>exact .inl rfl
 | deletes hs=>
  rcases hs with rfl | rfl<;>exact .inl rfl
 | _=>exact .inl rfl
lemma Shift.deks_kept(hs:Shift s n s' n'){box}(h:s.deks tenant=some box)
 (hn:∀ inst,n≠.erasing inst tenant):s'.deks tenant=some box:=by
 rcases hs.deks_cases tenant with he | ⟨hnone,_⟩ | ⟨inst,rfl,_⟩
 ·exact he.trans h
 ·rw[hnone] at h
  cases h
 ·exact absurd rfl (hn inst)
lemma putSecret_apply(s:State cfg)(tenant name tenant' name':String)(box:Option (Box String)):
 (s.putSecret tenant name box).secrets tenant' name' =
  if tenant'=tenant∧name'=name then box else s.secrets tenant' name':=by
 by_cases ht:tenant'=tenant
 ·subst ht
  by_cases hn:name'=name
  ·subst hn
   simp[State.putSecret]
  ·simp[State.putSecret,hn]
 ·simp[State.putSecret,ht]
lemma Shift.secrets_cases(hs:Shift s n s' n'){name box}
 (h:s'.secrets tenant name=some box):
 (s.secrets tenant name=some box∧∀ inst,n=.erasing inst tenant → s'=s)∨
  ∃ inst value key,n=.sealing inst tenant name value key∧box=⟨key,secretAAD tenant name,value⟩:=by
 cases hs with
 | @stores inst t m value key _ _ hs=>
  rcases hs with ⟨rfl,_⟩ | ⟨rfl,_⟩
  ·exact .inl ⟨h,fun _ _=>rfl⟩
  ·rw[putSecret_apply] at h
   split_ifs at h with hm
   ·obtain ⟨rfl,rfl⟩:=hm
    exact .inr ⟨inst,value,key,rfl,(Option.some.inj h).symm⟩
   ·exact .inl ⟨h,nofun⟩
 | deletes hs=>
  rcases hs with rfl | rfl
  ·exact .inl ⟨h,fun _ _=>rfl⟩
  ·rw[putSecret_apply] at h
   split_ifs at h
   exact .inl ⟨h,nofun⟩
 | @erases inst t _ hs=>
  rcases hs with rfl | rfl
  ·exact .inl ⟨h,fun _ _=>rfl⟩
  by_cases ht:tenant=t
  ·subst ht
   simp[State.deleteTenant] at h
  ·simp only[State.deleteTenant,update_of_ne ht] at h
   refine .inl ⟨h,fun inst' hn=>?_⟩
   cases hn
   exact absurd rfl ht
 | loads hn | fails hn=>
  refine .inl ⟨h,fun inst he=>?_⟩
  rcases hn with rfl | rfl<;>cases he
 | unset hs=>
  refine .inl ⟨?_,nofun⟩
  rcases hs with rfl | ⟨_,rfl⟩<;>exact h
 | _=>exact .inl ⟨h,nofun⟩
lemma setCache_apply(s:State cfg)(inst inst':Fin cfg.instances)(tenant tenant':String)(key:Option Key):
 (s.setCache inst tenant key).caches inst' tenant' =
  if inst'=inst∧tenant'=tenant then key else s.caches inst' tenant':=by
 by_cases hi:inst'=inst
 ·subst hi
  by_cases ht:tenant'=tenant
  ·subst ht
   simp[State.setCache]
  ·simp[State.setCache,ht]
 ·simp[State.setCache,hi]
lemma Shift.caches_cases(hs:Shift s n s' n'){key}
 (h:s'.caches inst tenant=some key):
 (s.caches inst tenant=some key∧n≠.erased inst tenant)∨n.holds=some (tenant,key):=by
 cases hs with
 | @caches inst' t goal key'=>
  rw[setCache_apply] at h
  split_ifs at h with hm
  ·obtain ⟨rfl,rfl⟩:=hm
   obtain rfl:=Option.some.inj h
   exact .inr rfl
  ·exact .inl ⟨h,nofun⟩
 | @uncaches inst' t=>
  rw[setCache_apply] at h
  split_ifs at h with hm
  refine .inl ⟨h,fun he=>hm ?_⟩
  cases he
  exact ⟨rfl,rfl⟩
 | loads hn | fails hn=>exact .inl ⟨h,by rcases hn with rfl | rfl<;>nofun⟩
 | unset hs=>exact .inl ⟨by rcases hs with rfl | ⟨_,rfl⟩<;>exact h,nofun⟩
 | stores hs=>exact .inl ⟨by rcases hs with ⟨rfl,_⟩ | ⟨rfl,_⟩<;>exact h,nofun⟩
 | deletes hs | erases hs=>exact .inl ⟨by rcases hs with rfl | rfl<;>exact h,nofun⟩
 | _=>exact .inl ⟨h,nofun⟩

variable {tenant:String}{key:Key}

lemma Keyed.hit(h:Keyed s ns)
 (hcalm:calm s ns (.asking inst tenant goal))(hc:s.caches inst tenant=some key):
 s.deks tenant=some (cfg.wrap tenant key):=by
 refine (h.cached inst tenant key hc).resolve_right fun hmem=>?_
 simpa using all_eq_true.1 hcalm _ hmem
lemma unwrap_eq{box}(h:Keyed s ns)(hdek:s.deks tenant=some box)(inst:Fin cfg.instances)
 (goal:Goal cfg):
 ∃ key,s.deks tenant=some (cfg.wrap tenant key)∧unwrapped inst tenant goal box=.caching inst tenant goal key:=by
 obtain ⟨key,rfl⟩:=h.wrapped tenant box hdek
 exact ⟨key,hdek,unwrapped_wrap inst tenant goal key⟩
lemma Keyed.held_next(h:Keyed s ns)(hn:n∈ns)(hcalm:calm s ns n)(hs:Shift s n s' n')
 (hk:n'.holds=some (tenant,key)):s'.deks tenant=some (cfg.wrap tenant key):=by
 cases hs with
 | hit hc=>
  obtain ⟨rfl,rfl⟩:=holds_go hk
  exact h.hit hcalm hc
 | @loads _ inst t goal box hcase hdek=>
  obtain ⟨key',hdek',he⟩:=unwrap_eq h hdek inst goal
  rw[he] at hk
  cases hk
  exact hdek'
 | wins=>
  cases hk
  simp[State.putDEK]
 | caches=>
  obtain ⟨rfl,rfl⟩:=holds_go hk
  exact h.held _ hn _ _ rfl
 | fails | unset | lost=>rw[holds_fail] at hk; cases hk
 | stores hs=>
  rcases hs with ⟨_,rfl⟩ | ⟨_,rfl | rfl⟩<;>cases hk
 | _=>cases hk
lemma Keyed.shift(h:Keyed s ns)(hn:ns[i]? = some n)(hcalm:calm s ns n)(hs:Shift s n s' n'):
 Keyed s' (ns.set i n'):=by
 have hmem:=mem_of_getElem? hn
 refine ⟨fun tenant box hdek=>?_,fun tenant name box hrow=>?_,fun inst tenant key hc=>?_,
  fun m hm tenant key hk=>?_⟩
 ·rcases hs.deks_cases tenant with he | ⟨_,key,he⟩ | ⟨inst,_,rfl⟩
  ·exact h.wrapped tenant box (he▸hdek)
  ·exact ⟨key,Option.some.inj (hdek.symm.trans he)⟩
  ·simp[State.deleteTenant] at hdek
 ·rcases hs.secrets_cases hrow with ⟨hold,herase⟩ | ⟨inst,value,key,rfl,rfl⟩
  ·obtain ⟨key,value,rfl,hdek⟩:=h.boxed tenant name box hold
   refine ⟨key,value,rfl,?_⟩
   by_cases he:∃ inst,n=.erasing inst tenant
   ·obtain ⟨inst,he⟩:=he
    rwa[herase inst he]
   ·exact hs.deks_kept hdek fun inst hinst=>he ⟨inst,hinst⟩
  ·exact ⟨key,value,rfl,hs.deks_kept (h.held _ hmem tenant key rfl) fun _=>nofun⟩
 ·rcases hs.caches_cases hc with ⟨hold,hne⟩ | hk
  ·rcases h.cached inst tenant key hold with hdek | herased
   ·by_cases he:∃ inst',n=.erasing inst' tenant
    ·obtain ⟨inst',rfl⟩:=he
     simp only[calm,Bool.and_eq_true,decide_eq_true_eq] at hcalm
     have hinst:inst=inst':=by
      by_contra hii
      rw[hcalm.1 inst hii] at hold
      cases hold
     subst hinst
     have hmem':=List.mem_set (List.getElem?_eq_some_iff.1 hn).1 n'
     cases hs with
     | erases=>exact .inr hmem'
     | loads hcase | fails hcase=>simp at hcase
    ·exact .inl (hs.deks_kept hdek fun inst' hi=>he ⟨inst',hi⟩)
   ·exact .inr (mem_set_of_ne herased hn (Ne.symm hne))
  ·refine .inl (hs.deks_kept (h.held n hmem tenant key hk) fun inst'=>?_)
   rintro rfl
   cases hk
 ·rcases mem_or_eq_of_mem_set hm with hm | rfl
  ·refine hs.deks_kept (h.held m hm tenant key hk) fun inst'=>?_
   rintro rfl
   simp only[calm,Bool.and_eq_true,all_eq_true] at hcalm
   simpa[hk] using hcalm.2 m hm
  ·exact h.held_next hmem hcalm hs hk
lemma Shift.of_sealing{name value}
 (hs:Shift s (.sealing inst tenant name value key) s' n'):
 s'=s∧n'=.ended∨s'=s.putSecret tenant name (some ⟨key,secretAAD tenant name,value⟩)∧
  (n'=.stored tenant name value∨n'=.ended):=by
 cases hs with
 | stores hcase=>exact hcase
 | loads hcase | fails hcase=>simp at hcase

/-- A stored secret: the box under its name, the key of the tenant, and names that are not in use. -/
structure Kept(tenant name value:String)(key:Key)(free:List String)(s:State cfg):Prop where
 row:s.secrets tenant name=some ⟨key,secretAAD tenant name,value⟩
 dek:s.deks tenant=some (cfg.wrap tenant key)
 free:∀ k∈free,s.secrets tenant k=none

def Stage.leaves(tenant:String)(names:List String):Stage cfg→Bool
 | .sealing _ t name _ _=>t≠tenant||!names.contains name
 | .deleting t name=>t≠tenant||!names.contains name
 | .erasing _ t=>t≠tenant
 | _=>true

variable {name value:String}{free:List String}

lemma Shift.secrets_left(hs:Shift s n s' n')(hl:n.leaves tenant (name::free)){k}
 (hk:k∈name::free):s'.secrets tenant k=s.secrets tenant k:=by
 have hput:∀ t m box,(t≠tenant||!(name::free).contains m)→
  (s.putSecret t m box).secrets tenant k=s.secrets tenant k:=by
  intro t m box hne
  rw[putSecret_apply,if_neg]
  rintro ⟨rfl,rfl⟩
  simp[hk] at hne
 cases hs with
 | stores hs=>
  rcases hs with ⟨rfl,_⟩ | ⟨rfl,_⟩
  ·rfl
  ·exact hput _ _ _ hl
 | deletes hs=>
  rcases hs with rfl | rfl
  ·rfl
  ·exact hput _ _ _ hl
 | erases hs=>
  rcases hs with rfl | rfl
  ·rfl
  ·simp only[Stage.leaves,decide_eq_true_eq] at hl
   simp[State.deleteTenant,update_of_ne (Ne.symm hl)]
 | unset hs=>
  rcases hs with rfl | ⟨_,rfl⟩<;>rfl
 | _=>rfl
lemma Kept.shift(h:Kept tenant name value key free s)(hs:Shift s n s' n')
 (hl:n.leaves tenant (name::free)):Kept tenant name value key free s':=by
 refine ⟨(hs.secrets_left hl mem_cons_self).trans h.row,hs.deks_kept h.dek fun inst=>?_,fun k hk=>?_⟩
 ·rintro rfl
  simp[Stage.leaves] at hl
 ·exact (hs.secrets_left hl (mem_cons_of_mem _ hk)).trans (h.free k hk)

/-- A read whose first candidates are not in use, and then comes the secret. -/
def Request.Asks(q:Request cfg)(tenant name:String)(free rest:List String):Prop:=
 q.tenant=tenant∧q.keys=free++name::rest

def Goal.Good(tenant name value:String)(key:Key)(free rest:List String)(t:String):Goal cfg→Prop
 | .store _ _=>True
 | .read q m box=>q.Asks tenant name free rest→
  t=tenant∧m=name∧box=⟨key,secretAAD tenant name,value⟩

def Stage.Good(tenant name value:String)(key:Key)(free rest:List String):Stage cfg→Prop
 | .trying q left=>q.Asks tenant name free rest→∃ before,left=before++name::rest∧∀ k∈before,k∈free
 | .asking _ t goal=>goal.Good tenant name value key free rest t
 | .loading _ t goal=>goal.Good tenant name value key free rest t
 | .generating _ t goal=>goal.Good tenant name value key free rest t
 | .provisioning _ t goal _=>goal.Good tenant name value key free rest t
 | .rereading _ t goal=>goal.Good tenant name value key free rest t
 | .caching _ t goal _=>goal.Good tenant name value key free rest t
 | .answers q r=>q.Asks tenant name free rest → r=.value value∨r=.failed
 | .answered q r=>q.Asks tenant name free rest → r=.value value∨r=.failed
 | _=>True

variable {rest:List String}

lemma good_go{t}
 (hdek:t=tenant→key'=key)(hg:goal.Good tenant name value key free rest t):
 (goal.go inst t key').Good tenant name value key free rest:=by
 cases goal with
 | store m v=>trivial
 | read q m box=>
  intro hq
  obtain ⟨rfl,rfl,rfl⟩:=hg hq
  left
  rw[hdek rfl,opened,openBound_seal]
lemma good_fail:(goal.fail .failed).Good tenant name value key free rest:=by
 cases goal with
 | store m v=>trivial
 | read q m box=>exact fun _=>.inr rfl
lemma wrap_inj(h:s.deks tenant=some (cfg.wrap tenant key))
 (h':s.deks tenant=some (cfg.wrap tenant key')):key'=key:=by
 have:=Option.some.inj (h'.symm.trans h)
 simpa[Config.wrap] using this
lemma Kept.good(h:Kept tenant name value key free s)(hk:Keyed s ns)(hn:n∈ns)
 (hcalm:calm s ns n)(hs:Shift s n s' n')(hg:n.Good tenant name value key free rest):
 n'.Good tenant name value key free rest:=by
 cases hs with
 | @absent q m left hrow=>
  intro hq
  obtain ⟨before,hleft,hfree⟩:=hg hq
  cases before with
  | nil=>
   -- the secret itself is there
   obtain ⟨rfl,rfl⟩:=List.cons.inj hleft
   rw[hq.1,h.row] at hrow
   cases hrow
  | cons k before=>
   obtain ⟨rfl,rfl⟩:=List.cons.inj hleft
   exact ⟨before,rfl,fun k' hk'=>hfree k' (mem_cons_of_mem _ hk')⟩
 | @reads q m left box hrow=>
  intro hq
  obtain ⟨before,hleft,hfree⟩:=hg hq
  cases before with
  | nil=>
   obtain ⟨rfl,rfl⟩:=List.cons.inj hleft
   rw[hq.1,h.row] at hrow
   exact ⟨hq.1,rfl,(Option.some.inj hrow).symm⟩
  | cons k before=>
   obtain ⟨rfl,rfl⟩:=List.cons.inj hleft
   rw[hq.1,h.free _ (hfree _ mem_cons_self)] at hrow
   cases hrow
 | unread=>exact fun _=>.inr rfl
 | exhausted=>
  intro hq
  obtain ⟨before,hleft,_⟩:=hg hq
  simp at hleft
 | hit hc=>
  refine good_go (fun ht=>?_) hg
  subst ht
  exact wrap_inj h.dek (hk.hit hcalm hc)
 | miss | unprovisioned | generates | wins | loses | returns=>exact hg
 | @loads _ inst t goal box hcase hdek=>
  obtain ⟨key',hdek',he⟩:=unwrap_eq hk hdek inst goal
  rw[he]
  rcases hcase with rfl | rfl<;>exact hg
 | fails | unset=>exact good_fail
 | @lost inst t goal hdek=>
  cases goal with
  | store m v=>trivial
  | read q m box=>
   -- the tenant's key is stored
   intro hq
   rw[(hg hq).1,h.dek] at hdek
   cases hdek
 | caches=>
  refine good_go (fun ht=>?_) hg
  subst ht
  exact wrap_inj h.dek (hk.held _ hn _ _ rfl)
 | stores hs=>
  rcases hs with ⟨_,rfl⟩ | ⟨_,rfl | rfl⟩<;>trivial
 | _=>trivial

end Shift

variable {cfg:Config}

def standing(P:Pool (machine cfg)):List (Stage cfg):=(stages cfg).stages P

/-- The runs in which a tenant is erased only while nobody has its key. -/
abbrev calmRuns(cfg:Config):Rules (machine cfg):=
 Allowed (fun _ _=>True) (fun P i _ _=>∀ n∈(standing P)[i]?,calm P.state (standing P) n)

/-- Those in which, besides, nobody writes or deletes under these names or erases the tenant. -/
abbrev quietRuns(cfg:Config)(tenant:String)(names:List String):
 Rules (machine cfg):=
 Allowed (fun _ _=>True) (fun P i _ _=>∀ n∈(standing P)[i]?,
  calm P.state (standing P) n∧n.leaves tenant names)

lemma keyed_reach{P}(hr:Reach (calmRuns cfg) {state:={} } P):
 Keyed P.state (standing P):=by
 refine (follows cfg).run_inv rfl (J:=Keyed) ?_ (fun P e _ _ h=>h.start e) ?_ hr
 ·exact ⟨nofun,nofun,nofun,
   fun _ h=>(not_mem_nil h).elim⟩
 ·intro P i o c n _ hok hnext hn hall h
  exact h.shift hn (hok c hnext n hn) (shift_of_allows hall o)

def Stage.waiting:Stage cfg→Bool
 | .trying q left=>left=q.keys
 | .asking _ _ (.store _ _)=>true
 | .deleting _ _=>true
 | .erasing _ _=>true
 | _=>false

def Later(P:Pool (machine cfg))(j:Nat):Prop:=∀ n,(standing P)[j]? = some n → n.waiting

instance (P:Pool (machine cfg))(j:Nat):Decidable (Later P j):=
 decidable_of_iff (∀ n∈(standing P)[j]?,n.waiting) Iff.rfl

section Read

variable {tenant name value:String}{key:Key}{free rest:List String}

lemma good_waiting{n:Stage cfg}(h:n.waiting):n.Good tenant name value key free rest:=by
 cases n with
 | trying q left=>
  simp only[Stage.waiting,decide_eq_true_eq] at h
  exact fun hq=>⟨free,h.trans hq.2,fun _ hk=>hk⟩
 | asking inst t goal=>
  cases goal with
  | store m v=>trivial
  | read q m box=>cases h
 | _=>trivial
lemma good_first(htenant:tenant≠"")(e:Entry cfg):(Stage.first e).Good tenant name value key free rest:=by
 cases e with
 | get inst t flow m=>
  simp only[Stage.first]
  split_ifs with ht
  ·exact fun hq=>absurd (hq.1.symm.trans ht) htenant
  ·exact good_waiting (by simp[Stage.waiting])
 | _=>exact good_waiting rfl

end Read

def three:Config:={instances:=3,master:=0}

def first:Fin three.instances:=⟨0,by decide⟩

def second:Fin three.instances:=⟨1,by decide⟩

def third:Fin three.instances:=⟨2,by decide⟩

def steps(i n:Nat)(random:Key):List (Action (machine three)):=replicate n (.step i {random:=random})

/-- The runs in which nobody touches these names, whatever else happens. -/
abbrev leavingRuns(cfg:Config)(tenant:String)(names:List String):
 Rules (machine cfg):=
 Allowed (fun _ _=>True) (fun P i _ _=>∀ n∈(standing P)[i]?,n.leaves tenant names)

/-- One instance stores a secret, another erases the tenant, and the first is about to store again. -/
def erasedElsewhere:Pool (machine three):=
 Pool.after (anyRuns (machine three)) {state:={} }
  ([.start (.put first "t" "x" "one")]++steps 0 6 1++[.start (.deleteByTenant second "t")]++steps 1 2 0 ++
   [.start (.put first "t" "y" "two")]++steps 2 1 0)

def storedAgain:Pool (machine three):=Pool.after (anyRuns (machine three)) erasedElsewhere (steps 2 1 0)

def readAfresh:Pool (machine three):=
 Pool.after (leavingRuns three "t" ["y"]) storedAgain ([.start (.get third "t" "" "y")]++steps 3 7 2)

def storing:Pool (machine three):=
 Pool.after (calmRuns three) {state:={} }
  ([.start (.put first "t" "x" "one")]++steps 0 6 1++[.start (.put first "t" "y" "two")]++steps 1 1 0)

def storedTwo:Pool (machine three):=Pool.after (calmRuns three) storing (steps 1 1 0)

def readTwo:Pool (machine three):=
 Pool.after (quietRuns three "t" ["y"]) storedTwo ([.start (.get third "t" "" "y")]++steps 2 5 2)

end Dazyflow.SecretKeys
