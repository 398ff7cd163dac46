import Dazyflow.ExpiringCache
import Dazyflow.ProgramStages

/-!
# The moderation cache

`ModerationGate.suspended` over `suspensionCache`, next to the platform administrator's changes of an
account's or organisation's status.
-/
namespace Dazyflow.ModerationCache
open Interleaving KeyedTable List
open ExpiringCache (Versioned)
open ExpiringCache (Cache Item find_drop find_get find_put get_hit)

inductive Account
 | user (subject:String)
 | org (tenant:String)
 deriving DecidableEq

def Account.key:Account→String
 | .user subject=>subject
 | .org tenant=>tenant

/-- `normal` is `ToLower` after `TrimSpace`, which leads from a subject to the address of its row; `subject` is what the
row of an address has for its subject. -/
structure Config where
 (ttl max:Nat)
 (normal subject:String→String)

/-- The row a lookup of the account reads. -/
def Config.row(cfg:Config):Account→Account
 | .user subject=>.user (cfg.normal subject)
 | .org tenant=>.org tenant

/-- The account whose cached answer a change of the row drops. -/
def Config.owner(cfg:Config):Account→Account
 | .user email=>.user (cfg.subject email)
 | .org tenant=>.org tenant

def Config.capacity(cfg:Config):Nat:=if cfg.max=0 then 50000 else cfg.max

abbrev SuspensionCache:=Cache String (Versioned Bool)

structure State where
 rows:Account→Versioned (Option Bool)
 users:SuspensionCache:=empty
 orgs:SuspensionCache:=empty

def State.cache(s:State):Account→SuspensionCache
 | .user _=>s.users
 | .org _=>s.orgs

def State.setCache(s:State)(a:Account)(c:SuspensionCache):State:=
 match a with
 | .user _=>{s with users:=c}
 | .org _=>{s with orgs:=c}

inductive Call
 | cacheGet (a:Account)
 | lookup (a:Account)
 | cachePut (a:Account)(v:Versioned Bool)
 | getRow (a:Account)
 | putRow (a:Account)(suspended:Bool)
 | invalidate (a:Account)
 | verdict (a:Account) (suspended:Bool)

@[reducible] def Res:Call→Type
 | .cacheGet _=>Option (Versioned Bool)
 | .lookup _=>Option (Versioned Bool)
 | .cachePut _ _=>Unit
 | .getRow _=>Bool
 | .putRow _ _=>Option Nat
 | .invalidate _=>Unit
 | .verdict _ _=>Unit

@[reducible] def sig:Sig where
 Call:=Call
 Res:=Res

abbrev ask(c:Call):Prog sig (Res c):=Prog.ask (S:=sig) c

structure Oracle where
 now:Nat
 fails:Bool:=false

def fresh(cfg:Config)(now:Nat)(e:Item String (Versioned Bool)):Bool:=
 now-e.cachedAt<cfg.ttl

def step(cfg:Config):(c:Call)→Oracle→State→Res c×State
 | .cacheGet a,o,s=>
  if cfg.ttl=0 then (none,s)
  else
   let r:=ExpiringCache.get (fresh cfg o.now) (s.cache a) a.key
   (r.1,s.setCache a r.2)
 | .lookup a,o,s=>
  -- no such row is a definite answer, any other error is not
  (if o.fails then none else some ⟨(s.rows (cfg.row a)).value.getD false,(s.rows (cfg.row a)).version⟩,s)
 | .cachePut a v,o,s=>
  if cfg.ttl=0 then ((),s)
  else ((),s.setCache a (ExpiringCache.put cfg.capacity (fresh cfg o.now) (s.cache a) ⟨a.key,v,o.now⟩))
 | .getRow a,o,s=>(!o.fails&&(s.rows a).value.isSome,s)
 | .putRow a suspended,o,s=>
  if o.fails then (none,s)
  else (some ((s.rows a).version+1),
   {s with rows:=Function.update s.rows a ⟨some suspended,(s.rows a).version+1⟩})
 | .invalidate a,_,s=>
  if cfg.ttl=0∨(cfg.owner a).key="" then ((),s)
  else ((),s.setCache a (ExpiringCache.drop (fun e=>e.key=(cfg.owner a).key) (s.cache a)))
 | .verdict _ _,_,s=>((),s)

/-- Whether the account is locked out, with the status that says so: none after a failed
 store read, which counts as not suspended and is not remembered. -/
def suspended(a:Account):Prog sig (Option (Versioned Bool)):=do
 let hit←ask (.cacheGet a)
 match hit with
 | some v=>pure (some v)
 | none=>
  let found←ask (.lookup a)
  match found with
  | none=>pure none
  | some v=>
   let _←ask (.cachePut a v)
   pure (some v)

def isSuspended(seen:Option (Versioned Bool)):Bool:=(seen.map Versioned.value).getD false

/-- One half of `Authenticate`: a principal without the key is not looked up. -/
def gate(a:Account):Prog sig Unit:=
 if a.key="" then pure ()
 else do
  let seen←suspended a
  let _←ask (.verdict a (isSuspended seen))
  pure ()

/-- A change of a row's status: an unknown user is refused, an unknown organisation gets a row. -/
def change(a:Account)(suspend:Bool):Prog sig Unit:=do
 let found←ask (.getRow a)
 match a,found with
 | .user _,false=>pure ()
 | _,_=>
  let written←ask (.putRow a suspend)
  match written with
  | none=>pure ()
  | some _=>
   let _←ask (.invalidate a)
   pure ()

inductive Entry
 | lookup (a:Account)
 | change (a:Account)(suspend:Bool)

@[reducible] def machine(cfg:Config):Machine sig where
 State:=State
 Oracle:=Oracle
 step:=step cfg
 Entry:=Entry
 entry
  | .lookup a=>gate a
  | .change a suspend=>change (cfg.row a) suspend

inductive Stage
 | looking (a:Account)
 | missed (a:Account)
 | read (a:Account) (v:Versioned Bool)
 | answers (a:Account) (seen:Option (Versioned Bool))
 | answered (a:Account) (seen:Option (Versioned Bool))
 | changing (a:Account)
 | written (a:Account) (version:Nat)
 | settled (a:Account) (version:Nat)
 | refused
 deriving DecidableEq

def Stage.first(cfg:Config):Entry→Stage
 | .lookup a=>.looking a
 | .change a _=>.changing (cfg.row a)

def Stage.next:Stage→(c:Call)→Res c→Stage
 | .looking a,.cacheGet _,some v=>.answers a (some v)
 | .looking a,.cacheGet _,none=>.missed a
 | .missed a,.lookup _,some v=>.read a v
 | .missed a,.lookup _,none=>.answers a none
 | .read a v,.cachePut _ _,_=>.answers a (some v)
 | .answers a seen,.verdict _ _,_=>.answered a seen
 | .changing _,.putRow a _,some version=>.written a version
 | .changing _,.putRow _ _,none=>.refused
 | .written a version,.invalidate _,_=>.settled a version
 | n,_,_=>n

def Stage.allows:Stage→Call→Prop
 | .looking a,.cacheGet b=>b=a∧a.key≠""
 | .missed a,.lookup b=>b=a
 | .read a v,.cachePut b w=>b=a∧w=v
 | .answers a seen,.verdict b suspended=>b=a∧suspended=isSuspended seen
 | .changing a,.getRow b=>b=a
 | .changing a,.putRow b _=>b=a
 | .written a _,.invalidate b=>b=a
 | _,_=>False

@[reducible] def stages(cfg:Config):Protocol (machine cfg) where
 Stage:=Stage
 first:=Stage.first cfg
 next:=Stage.next
 allowed:=Stage.allows

open Protocol in
lemma obeys_change(cfg a suspend):(stages cfg).Obeys (change a suspend) (.changing a) (fun _ _=>True):=by
 have hwrite:(stages cfg).Obeys (do
   let written←ask (.putRow a suspend)
   match written with
   | none=>pure ()
   | some _=>
    let _←ask (.invalidate a)
    pure ()) (Stage.changing a) (fun _ _=>True):=by
  exact obeys_call rfl fun
   | none=>obeys_done trivial
   | some version=>obeys_end rfl
 refine obeys_call rfl fun found=>?_
 cases a with
 | user subject=>
  cases found with
  | false=>exact obeys_done trivial
  | true=>exact hwrite
 | org tenant=>exact hwrite

open Protocol in
lemma follows(cfg):(stages cfg).Follows (fun _=>True) where
 entries e:=by
  cases e with
  | lookup a=>
   show (stages cfg).Obeys (gate a) _ _
   refine obeys_if (fun _=>obeys_done trivial) fun hkey=>obeys_call ⟨rfl,hkey⟩ fun
    | some v=>obeys_end ⟨rfl,rfl⟩
    | none=>?_
   exact obeys_call rfl fun
    | none=>obeys_end ⟨rfl,rfl⟩
    | some v=>obeys_call ⟨rfl,rfl⟩ fun _=>obeys_end ⟨rfl,rfl⟩
  | change a suspend=>exact obeys_change cfg (cfg.row a) suspend

section Step

variable {cfg:Config}{a b:Account}{v i:Nat}{s:State}{ns:List Stage}{n:Stage}

@[simp] lemma rows_setCache(s:State)(a:Account)(c:SuspensionCache):(s.setCache a c).rows=s.rows:=by
 cases a<;>rfl

lemma find_setCache{c e}
 (h:((s.setCache b c).cache a).find? a.key=some e):
 (s.cache a).find? a.key=some e∨s.cache a=s.cache b∧c.find? a.key=some e∧(a.key=b.key→a=b):=by
 cases a<;>cases b
 ·exact .inr ⟨rfl,h,congrArg Account.user⟩
 ·exact .inl h
 ·exact .inl h
 ·exact .inr ⟨rfl,h,congrArg Account.org⟩

/-- Nothing older than this version of the row is left to be seen. -/
structure Safe(cfg:Config)(a:Account)(v:Nat)(s:State)(ns:List Stage):Prop where
 row:v≤(s.rows a).version
 cached:cfg.ttl≠0→∀ b,cfg.row b=a→b.key≠""→∀ e,(s.cache b).find? b.key=some e→v ≤ e.value.version
 reading:cfg.ttl≠0→∀ b w,cfg.row b=a → .read b w∈ns→v ≤ w.version

lemma Safe.start(h:Safe cfg a v s ns)(e):Safe cfg a v s (ns++[Stage.first cfg e]):=by
 refine ⟨h.row,h.cached,fun httl b w hb hw=>?_⟩
 rcases mem_append.1 hw with hw | hw
 ·exact h.reading httl b w hb hw
 ·cases e<;>cases mem_singleton.1 hw
lemma rows_step(c:Call)(o:Oracle)(s:State)(a:Account):
 (s.rows a).version≤((step cfg c o s).2.rows a).version:=by
 cases c with
 | putRow b suspended=>
  simp only[step]
  split_ifs
  ·exact le_rfl
  ·by_cases hab:a=b
   ·subst hab
    simp
   ·simp[Function.update_of_ne hab]
 | cacheGet b | cachePut b w | invalidate b=>simp only[step]; split_ifs<;>simp
 | lookup b | getRow b | verdict b r=>exact le_rfl

variable {c:Call}{o:Oracle}

lemma Safe.cached_step(h:Safe cfg a v s ns)(httl:cfg.ttl≠0)(o)(hb:cfg.row b=a)(hkey:b.key≠"")
 (hput:∀ w,c=.cachePut b w→v ≤ w.version):
 ∀ e,((step cfg c o s).2.cache b).find? b.key=some e→v ≤ e.value.version:=by
 intro e he
 have hcached:=h.cached httl b hb hkey e
 cases c with
 | cacheGet d=>
  simp only[step,if_neg httl] at he
  rcases find_setCache he with he | ⟨hc,he,_⟩
  ·exact hcached he
  ·exact hcached (hc▸find_get he)
 | cachePut d w=>
  simp only[step,if_neg httl] at he
  rcases find_setCache he with he | ⟨hc,he,hsame⟩
  ·exact hcached he
  ·rcases find_put he with ⟨hk,rfl⟩ | ⟨_,he⟩
   ·exact hput w (by rw[hsame hk])
   ·exact hcached (hc▸he)
 | invalidate d=>
  simp only[step] at he
  split_ifs at he
  ·exact hcached he
  ·rcases find_setCache he with he | ⟨hc,he,_⟩
   ·exact hcached he
   ·exact hcached (hc▸(find_drop he).1)
 | putRow d suspended=>
  simp only[step] at he
  split_ifs at he
  ·exact hcached he
  ·exact hcached (by cases b<;>exact he)
 | lookup d | getRow d | verdict d r=>exact hcached he
lemma next_read{w}(hall:n.allows c)
 (h:n.next c (step cfg c o s).1=.read a w):w.version=(s.rows (cfg.row a)).version:=by
 cases n with
 | missed b=>
  cases c<;>cases hall
  cases hf:o.fails with
  | true=>simp[step,hf,Stage.next] at h
  | false=>
   have hread:Stage.read b ⟨(s.rows (cfg.row b)).value.getD false,(s.rows (cfg.row b)).version⟩=.read a w:=by
    simpa[step,hf,Stage.next] using h
   cases hread
   rfl
 | looking b=>
  cases c<;>cases hall
  simp only[Stage.next] at h
  split at h<;>simp_all
 | changing b=>
  cases c<;>cases hall
  ·cases h
  ·simp only[Stage.next] at h
   split at h<;>simp_all
 | _=>cases c<;>simp_all[Stage.allows,Stage.next]
lemma Safe.call(h:Safe cfg a v s ns)(o)(hn:ns[i]? = some n)(hall:n.allows c):
 Safe cfg a v (step cfg c o s).2 (ns.set i (n.next c (step cfg c o s).1)):=by
 have hmem:=mem_of_getElem? hn
 refine ⟨h.row.trans (rows_step c o s a),fun httl b hb hkey=>h.cached_step httl o hb hkey fun w hc=>?_,
  fun httl b w hb hw=>?_⟩
 ·subst hc
  cases n<;>obtain ⟨rfl,rfl⟩:=hall
  exact h.reading httl _ _ hb hmem
 ·rcases mem_or_eq_of_mem_set hw with hw | hw
  ·exact h.reading httl b w hb hw
  ·rw[next_read hall hw.symm,hb]
   exact h.row

def Stage.filling(cfg:Config)(a:Account):Stage→Bool
 | .read b _=>cfg.row b=a
 | _=>false

/-- When a row's cached answer is dropped, no lookup that reads the row stands between its store read and its cache fill,
 and no answer for the row is cached under another spelling of its subject. -/
def calm(cfg:Config)(s:State)(ns:List Stage):Call→Bool
 | .invalidate a=>cfg.ttl=0||ns.all (fun n=>!n.filling cfg a) &&
  match a with
  | .user _=>s.users.rows.all fun e=>cfg.row (.user e.key)≠a∨e.key=(cfg.owner a).key
  | .org _=>true
 | _=>true

lemma Safe.settle(hrow:v≤(s.rows a).version)(hcalm:calm cfg s ns (.invalidate a))(o:Oracle)(i:Nat):
 Safe cfg a v (step cfg (.invalidate a) o s).2 (ns.set i (.settled a v)):=by
 refine ⟨hrow.trans (rows_step _ o s a),fun httl b hb hkey e he=>?_,fun httl b w hb hw=>?_⟩
 ·simp only[calm,httl,decide_false,Bool.false_or,Bool.and_eq_true] at hcalm
  -- the answer was cached under the key that is dropped
  have hspelled:∀ e,(s.cache b).find? b.key=some e→b.key=(cfg.owner a).key:=by
   intro e hf
   subst hb
   cases b with
   | user subject=>
    have hspell:=all_eq_true.1 hcalm.2 e ((find?_eq_some_iff _ _ _).1 hf).1
    rw[key_of_find? hf] at hspell
    simpa[Account.key] using hspell
   | org tenant=>rfl
  have hkind:∀ c,(s.setCache a c).cache b=c:=by
   subst hb
   cases b<;>exact fun _=>rfl
  have hsame:s.cache b=s.cache a:=by
   subst hb
   cases b<;>rfl
  simp only[step] at he
  split_ifs at he with hnone
  ·exact absurd ((hspelled e he).trans (hnone.resolve_left httl)) hkey
  ·rw[hkind,←hsame] at he
   obtain ⟨he,hgone⟩:=find_drop he
   rw[key_of_find? he,←hspelled e he] at hgone
   simp at hgone
 ·rcases mem_or_eq_of_mem_set hw with hw | hw
  ·simp only[calm,httl,decide_false,Bool.false_or,Bool.and_eq_true,all_eq_true] at hcalm
   simpa[Stage.filling,hb] using hcalm.1 _ hw
  ·cases hw

/-- Every change is in the store, and nothing older can still be seen once it is settled. -/
structure Settled(cfg:Config)(s:State)(ns:List Stage):Prop where
 written:∀ a v,.written a v∈ns→v≤(s.rows a).version
 settled:∀ a v,.settled a v∈ns→Safe cfg a v s ns

lemma Settled.start(h:Settled cfg s ns)(e):Settled cfg s (ns++[Stage.first cfg e]):=by
 refine ⟨fun a v hw=>?_,fun a v hw=>?_⟩
 ·rcases mem_append.1 hw with hw | hw
  ·exact h.written a v hw
  ·cases e<;>cases mem_singleton.1 hw
 ·rcases mem_append.1 hw with hw | hw
  ·exact (h.settled a v hw).start e
  ·cases e<;>cases mem_singleton.1 hw
lemma next_written(hall:n.allows c)
 (h:n.next c (step cfg c o s).1=.written a v):v≤((step cfg c o s).2.rows a).version:=by
 cases n with
 | changing b=>
  cases c with
  | putRow d suspended=>
   cases hf:o.fails with
   | true=>simp[step,hf,Stage.next] at h
   | false=>
    simp only[step,hf,Bool.false_eq_true,if_false,Stage.next,Stage.written.injEq] at h
    obtain ⟨rfl,rfl⟩:=h
    simp[step,hf]
  | _=>simp_all[Stage.allows,Stage.next]
 | looking b | missed b=>
  cases c<;>cases hall
  simp only[Stage.next] at h
  split at h<;>simp_all
 | _=>cases c<;>simp_all[Stage.allows,Stage.next]
lemma next_settled(hall:n.allows c)
 (h:n.next c (step cfg c o s).1=.settled a v):n=.written a v∧c=.invalidate a:=by
 cases n with
 | written b w=>
  cases c<;>simp only[Stage.allows] at hall
  simp only[Stage.next,Stage.settled.injEq] at h
  rw[hall,h.1,h.2]
  exact ⟨rfl,rfl⟩
 | looking b | missed b=>
  cases c<;>cases hall
  simp only[Stage.next] at h
  split at h<;>simp_all
 | changing b=>
  cases c<;>cases hall
  ·cases h
  ·simp only[Stage.next] at h
   split at h<;>simp_all
 | _=>cases c<;>simp_all[Stage.allows,Stage.next]
lemma Settled.call(h:Settled cfg s ns)(o)(hn:ns[i]? = some n)(hall:n.allows c)
 (hcalm:calm cfg s ns c):Settled cfg (step cfg c o s).2 (ns.set i (n.next c (step cfg c o s).1)):=by
 refine ⟨fun a v hw=>?_,fun a v hw=>?_⟩
 ·rcases mem_or_eq_of_mem_set hw with hw | hw
  ·exact (h.written a v hw).trans (rows_step c o s a)
  ·exact next_written hall hw.symm
 ·rcases mem_or_eq_of_mem_set hw with hw | hw
  ·exact (h.settled a v hw).call o hn hall
  ·obtain ⟨rfl,rfl⟩:=next_settled hall hw.symm
   exact Safe.settle (h.written a v (mem_of_getElem? hn)) hcalm o i

def Stage.NotOlder(cfg:Config)(a:Account)(v:Nat):Stage→Prop
 | .missed b=>b.key≠""
 | .read b w=>b.key≠""∧(cfg.row b=a→v ≤ w.version)
 | .answers b seen=>b.key≠""∧(cfg.row b=a→∀ w∈seen,v ≤ w.version)
 | .answered b seen=>b.key≠""∧(cfg.row b=a→∀ w∈seen,v ≤ w.version)
 | _=>True

lemma notOlder_next(h:Safe cfg a v s ns)(hall:n.allows c)
 (hn:n.NotOlder cfg a v):(n.next c (step cfg c o s).1).NotOlder cfg a v:=by
 cases n with
 | looking b=>
  cases c<;>obtain ⟨rfl,hkey⟩:=hall
  cases hres:(step cfg (.cacheGet _) o s).1 with
  | none=>exact hkey
  | some w=>?_
  refine ⟨hkey,?_⟩
  rintro hrow w hw
  cases hw
  simp only[step] at hres
  split_ifs at hres with httl
  obtain ⟨e,he,rfl⟩:=get_hit hres
  exact h.cached httl _ hrow hkey e he
 | missed b=>
  cases c<;>cases hall
  cases hf:o.fails with
  | true=>simpa[step,hf,Stage.next,Stage.NotOlder] using hn
  | false=>
   simp only[step,hf,Bool.false_eq_true,Stage.next,Stage.NotOlder]
   exact ⟨hn,fun hrow=>hrow▸h.row⟩
 | changing b=>
  cases c<;>cases hall
  ·trivial
  ·simp only[Stage.next]
   split<;>simp_all[Stage.NotOlder]
 | read b w=>
  cases c<;>cases hall
  refine ⟨hn.1,?_⟩
  rintro hrow w hw
  cases hw
  exact hn.2 hrow
 | answers b seen=>
  cases c<;>cases hall
  exact hn
 | written b w=>
  cases c<;>cases hall
  trivial
 | _=>cases c<;>cases hall

end Step

variable {cfg:Config}

def standing(P:Pool (machine cfg)):List Stage:=(stages cfg).stages P

abbrev promptRuns(cfg:Config):Rules (machine cfg):=
 Allowed (fun _ _=>True) (fun P _ c _=>calm cfg P.state (standing P) c)

lemma settled_reach{rows P}
 (hr:Reach (promptRuns cfg) {state:={rows:=rows} } P):Settled cfg P.state (standing P):=by
 refine (follows cfg).run_inv rfl (J:=Settled cfg) ?_ (fun P e _ _ h=>h.start e) ?_ hr
 ·exact ⟨fun a v h=>(not_mem_nil h).elim,fun a v h=>(not_mem_nil h).elim⟩
 ·exact fun P i o c n _ hok hnext hn hall h=>h.call o hn hall (hok c hnext)

def lowered(s:String):String:=if s="Ann" then "ann" else s

def minute:Config:={ttl:=60,max:=0,normal:=lowered,subject:=id}

def noon:Oracle:={now:=0}

def ann:Account:=.user "ann"

def known(a:Account):Versioned (Option Bool):=⟨if a=ann then some false else none,0⟩

def steps(i n:Nat):List (Action (machine minute)):=replicate n (.step i noon)

def anyRun(l:List (Action (machine minute))):Pool (machine minute):=
 Pool.after (anyRuns (machine minute)) {state:={rows:=known} } l

/-- A lookup has read the store; then the user is suspended and the answer dropped. -/
def pendingFill:List (Action (machine minute)):=
 [.start (.lookup ann)]++steps 0 2++[.start (.change ann true)]++steps 1 3

/-- The answer is cached under another spelling when the user is suspended. -/
def otherSpelling:List (Action (machine minute)):=
 [.start (.lookup (.user "Ann"))]++steps 0 4++[.start (.change ann true)]++steps 1 3

/-- The suspension has returned, and a lookup that starts afterwards still lets the user in. -/
structure LetIn(l rest:List (Action (machine minute)))(b:Account):Prop where
 before:Reach (anyRuns (machine minute)) {state:={rows:=known} } (anyRun l)
 settled:(standing (anyRun l))[1]? = some (.settled ann 1)
 row:minute.row b=ann
 later:(anyRun l).procs.length≤2
 after:Reach (anyRuns (machine minute)) {state:={rows:=known} } (anyRun (l++rest++[.start (.lookup b)]++steps 2 2))
 seen:(standing (anyRun (l++rest++[.start (.lookup b)]++steps 2 2)))[2]? = some (.answered b (some ⟨false,0⟩))

def earlyFill:List (Action (machine minute)):=
 [.start (.lookup ann)]++steps 0 4++[.start (.change ann true)]++steps 1 3

def suspendedFirst:Pool (machine minute):=Pool.after (promptRuns minute) {state:={rows:=known} } earlyFill

def lookedUp:Pool (machine minute):=
 Pool.after (promptRuns minute) suspendedFirst ([.start (.lookup ann)]++steps 2 4)

end Dazyflow.ModerationCache
