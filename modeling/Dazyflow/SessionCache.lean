import Dazyflow.ExpiringCache
import Dazyflow.ProgramStages

/-!
# The session cache

`CachingSessionStore` over the session table, with the requests that use it: plain lookups, the sliding
renewal of `maybeRenewSession`, sign-in, sign-out and the revocation of a subject's sessions.
-/
namespace Dazyflow.SessionCache
open Interleaving KeyedTable Function List
open ExpiringCache (Versioned Item find_drop find_get find_put get_hit get_hit_eq)

structure Session where
 subject:String
 (createdAt expiresAt:Nat)
 deriving DecidableEq

structure Config where
 (ttl max:Nat)
 /-- The sliding window of a renewal, and its ceiling from the session's creation. -/
 (idle maxAge:Nat)

def Config.capacity(cfg:Config):Nat:=if cfg.max=0 then 50000 else cfg.max

/-- The expiry a live session slides to, when that is worth persisting. -/
def nextSessionExpiry(cfg:Config)(sess:Session)(now:Nat):Option Nat:=
 if cfg.idle=0 then none
 else if now+cfg.idle / 2<sess.expiresAt then none
 else
  let next:=if 0<cfg.maxAge then min (now+cfg.idle) (sess.createdAt+cfg.maxAge) else now+cfg.idle
  if sess.expiresAt<next then some next else none

abbrev Cache:=ExpiringCache.Cache String (Versioned Session)

structure State where
 rows:String→Versioned (Option Session)
 cache:Cache:=empty
 evictions:Nat:=0

/-- What a deletion is about: one session, or every session of a subject. -/
inductive Cover
 | one (id:String)
 | all (subject:String)
 deriving DecidableEq

def Cover.covers:Cover→(id:String)→Session→Bool
 | .one id,id',_=>id'=id
 | .all subject,_,sess=>sess.subject=subject

def State.putRow(s:State)(id:String)(sess:Session):State:=
 {s with rows:=update s.rows id ⟨some sess,(s.rows id).version+1⟩}

def State.deleteRows(s:State)(cover:Cover):State:=
 { s with rows:=fun id=>
  if (s.rows id).value.any (cover.covers id) then ⟨none,(s.rows id).version+1⟩ else s.rows id}

/-- Drops what is covered under the lock, in a new generation. -/
def State.evict(s:State)(cover:Cover):State:=
 { s with
  cache:=ExpiringCache.drop (fun e=>cover.covers e.key e.value.value) s.cache
  evictions:=s.evictions+1}

inductive Call
 /-- The first critical section of `GetSession`: a fresh entry, or the generation and the time. -/
 | cacheGet (id:String)
 | getRow (id:String)
 | fill (id:String) (w:Versioned Session) (gen now:Nat)
 | clock
 | putRow (id:String) (sess:Session)
 | cachePut (id:String) (w:Versioned Session)
 | evict (cover:Cover)
 | deleteRows (cover:Cover)

@[reducible] def Res:Call→Type
 | .cacheGet _=>Option (Versioned Session)×Nat×Nat
 | .getRow _=>Option (Versioned (Option Session))
 | .fill _ _ _ _=>Unit
 | .clock=>Nat
 | .putRow _ _=>Option Nat
 | .cachePut _ _=>Unit
 | .evict _=>Unit
 | .deleteRows _=>Bool

@[reducible] def sig:Sig where
 Call:=Call
 Res:=Res

abbrev ask(c:Call):Prog sig (Res c):=Prog.ask (S:=sig) c

structure Oracle where
 now:Nat
 fails:Bool:=false

def fresh(cfg:Config)(now:Nat)(e:Item String (Versioned Session)):Bool:=
 now-e.cachedAt<cfg.ttl&&now<e.value.value.expiresAt

def putLocked(cfg:Config)(c:Cache)(id:String)(w:Versioned Session)(now:Nat):Cache:=
 ExpiringCache.put cfg.capacity (fresh cfg now) c ⟨id,w,now⟩

def step(cfg:Config):(c:Call)→Oracle→State→Res c×State
 | .cacheGet id,o,s=>
  let r:=ExpiringCache.get (fresh cfg o.now) s.cache id
  ((r.1,s.evictions,o.now),{s with cache:=r.2})
 | .getRow id,o,s=>(if o.fails then none else some (s.rows id),s)
 | .fill id w gen now,_,s=>
  ((),if s.evictions=gen then {s with cache:=putLocked cfg s.cache id w now} else s)
 | .clock,o,s=>(o.now,s)
 | .putRow id sess,o,s=>
  if o.fails then (none,s)
  else (some ((s.rows id).version+1),s.putRow id sess)
 | .cachePut id w,o,s=>((),{s with cache:=putLocked cfg s.cache id w o.now})
 | .evict cover,_,s=>((),s.evict cover)
 | .deleteRows cover,o,s=>if o.fails then (false,s) else (true,s.deleteRows cover)

def getSession(id:String):Prog sig (Option (Versioned Session)):=do
 match←ask (.cacheGet id) with
 | (some w,_,_)=>pure (some w)
 | (none,gen,now)=>
  match←ask (.getRow id) with
  | some ⟨some sess,version⟩=>
   let _←ask (.fill id ⟨sess,version⟩ gen now)
   pure (some ⟨sess,version⟩)
  | _=>pure none

def putSession(id:String)(sess:Session):Prog sig Unit:=do
 match←ask (.putRow id sess) with
 | none=>pure ()
 | some version=>
  let _←ask (.cachePut id ⟨sess,version⟩)
  pure ()

/-- Evicts around the inner delete, whether or not that succeeds. -/
def erase(cover:Cover):Prog sig Unit:=do
 let _←ask (.evict cover)
 let _←ask (.deleteRows cover)
 let _←ask (.evict cover)
 pure ()

def deleteSession(id:String):Prog sig Unit:=erase (.one id)

def revokeSubjectSessions(subject:String):Prog sig Unit:=erase (.all subject)

def maybeRenewSession(cfg:Config)(id:String):Prog sig Unit:=do
 match←getSession id with
 | none=>pure ()
 | some w=>
  let now←ask .clock
  match nextSessionExpiry cfg w.value now with
  | none=>pure ()
  | some next=>putSession id {w.value with expiresAt:=next}

inductive Entry
 | get (id:String)
 | renew (id:String)
 | signIn (id:String)(sess:Session)
 | delete (id:String)
 | revoke (subject:String)

@[reducible] def machine(cfg:Config):Machine sig where
 State:=State
 Oracle:=Oracle
 step:=step cfg
 Entry:=Entry
 entry
  | .get id=>do
   let _←getSession id
   pure ()
  | .renew id=>maybeRenewSession cfg id
  | .signIn id sess=>putSession id sess
  | .delete id=>deleteSession id
  | .revoke subject=>revokeSubjectSessions subject

inductive Source
 | signIn
 | renewal
 deriving DecidableEq

inductive Stage
 | getting (renew:Bool) (id:String)
 | missed (renew:Bool) (id:String) (gen now:Nat)
 /-- Between the store read and the cache fill. -/
 | read (renew:Bool) (id:String) (w:Versioned Session) (gen now:Nat)
 | found (renew:Bool) (id:String) (w:Versioned Session)
 | notFound (renew:Bool) (id:String) (version:Nat)
 | holding (id:String) (sess:Session)
 | signing (id:String) (sess:Session)
 /-- Between the inner write and the cache's. -/
 | putting (source:Source) (id:String) (w:Versioned Session)
 | put (source:Source) (id:String) (w:Versioned Session)
 | deleting (cover:Cover)
 | evicted (cover:Cover)
 /-- Between the inner delete and the second eviction. -/
 | deleted (cover:Cover)
 | failing (cover:Cover)
 | gone (cover:Cover)
 | ended
 deriving DecidableEq

def Stage.first:Entry→Stage
 | .get id=>.getting false id
 | .renew id=>.getting true id
 | .signIn id sess=>.signing id sess
 | .delete id=>.deleting (.one id)
 | .revoke subject=>.deleting (.all subject)

def Stage.next(cfg:Config):Stage→(c:Call)→Res c→Stage
 | .getting renew id,.cacheGet _,(some w,_,_)=>.found renew id w
 | .getting renew id,.cacheGet _,(none,gen,now)=>.missed renew id gen now
 | .missed renew id gen now,.getRow _,some ⟨some sess,version⟩=>.read renew id ⟨sess,version⟩ gen now
 | .missed renew id _ _,.getRow _,some ⟨none,version⟩=>.notFound renew id version
 | .read renew id w _ _,.fill _ _ _ _,_=>.found renew id w
 | .found _ id w,.clock,now=>
  match nextSessionExpiry cfg w.value now with
  | none=>.ended
  | some next=>.holding id {w.value with expiresAt:=next}
 | .holding id sess,.putRow _ _,some version=>.putting .renewal id ⟨sess,version⟩
 | .signing id sess,.putRow _ _,some version=>.putting .signIn id ⟨sess,version⟩
 | .putting source id w,.cachePut _ _,_=>.put source id w
 | .deleting cover,.evict _,_=>.evicted cover
 | .evicted cover,.deleteRows _,true=>.deleted cover
 | .evicted cover,.deleteRows _,false=>.failing cover
 | .deleted cover,.evict _,_=>.gone cover
 | _,_,_=>.ended

def Stage.allows:Stage→Call→Prop
 | .getting _ id,.cacheGet id'=>id'=id
 | .missed _ id _ _,.getRow id'=>id'=id
 | .read _ id w gen now,.fill id' w' gen' now'=>id'=id∧w'=w∧gen'=gen∧now'=now
 | .found renew _ _,.clock=>renew
 | .holding id sess,.putRow id' sess'=>id'=id∧sess'=sess
 | .signing id sess,.putRow id' sess'=>id'=id∧sess'=sess
 | .putting _ id w,.cachePut id' w'=>id'=id∧w'=w
 | .deleting cover,.evict cover'=>cover'=cover
 | .evicted cover,.deleteRows cover'=>cover'=cover
 | .deleted cover,.evict cover'=>cover'=cover
 | .failing cover,.evict cover'=>cover'=cover
 | _,_=>False

@[reducible] def stages(cfg:Config):Protocol (machine cfg) where
 Stage:=Stage
 first:=Stage.first
 next:=Stage.next cfg
 allowed:=Stage.allows

section Follows

open Protocol

variable {cfg:Config}

lemma obeys_getSession(renew id):
 (stages cfg).Obeys (getSession id) (.getting renew id) (fun r n=>∀ w,r=some w → n=.found renew id w):=by
 refine obeys_call rfl fun ⟨hit,gen,now⟩=>?_
 cases hit with
 | some w=>exact obeys_done (fun w' h=>by cases h; rfl)
 | none=>?_
 refine obeys_call rfl fun row=>?_
 match row with
 | none=>exact obeys_done (fun w' h=>by cases h)
 | some ⟨none,version⟩=>exact obeys_done (fun w' h=>by cases h)
 | some ⟨some sess,version⟩=>
  exact obeys_call ⟨rfl,rfl,rfl,rfl⟩ fun _=>obeys_done (fun w' h=>by cases h; rfl)
lemma obeys_putSession{id sess n}(hn:n=.holding id sess∨n=.signing id sess):
 (stages cfg).Obeys (putSession id sess) n (fun _ _=>True):=by
 rcases hn with rfl | rfl
 all_goals
  exact obeys_call ⟨rfl,rfl⟩ fun
   | none=>obeys_done trivial
   | some version=>obeys_end ⟨rfl,rfl⟩
lemma obeys_erase(cover):(stages cfg).Obeys (erase cover) (.deleting cover) (fun _ _=>True):=by
 refine obeys_call rfl fun _=>obeys_call rfl (fun ok=>?_)
 cases ok<;>exact obeys_end rfl
lemma follows(cfg):(stages cfg).Follows (fun _=>True) where
 entries e:=by
  cases e with
  | get id=>exact obeys_bind (obeys_getSession false id) (fun _ _ _=>obeys_done trivial)
  | renew id=>
   refine obeys_bind (obeys_getSession true id) fun r n hn=>?_
   cases r with
   | none=>exact obeys_done trivial
   | some w=>?_
   obtain rfl:=hn w rfl
   refine obeys_call rfl fun now=>?_
   change (stages cfg).Obeys (match nextSessionExpiry cfg w.value now with
    | none=>pure ()
    | some x=>putSession id {w.value with expiresAt:=x})
    (match nextSessionExpiry cfg w.value now with
    | none=>Stage.ended
    | some x=>.holding id {w.value with expiresAt:=x}) _
   cases nextSessionExpiry cfg w.value now with
   | none=>exact obeys_done trivial
   | some x=>exact obeys_putSession (.inl rfl)
  | signIn id sess=>exact obeys_putSession (.inr rfl)
  | delete id=>exact obeys_erase (.one id)
  | revoke subject=>exact obeys_erase (.all subject)

end Follows

inductive Shift(cfg:Config)(s:State):Stage→State→Stage→Prop
 | hit {renew id e}
  (he:s.cache.find? id=some e):Shift cfg s (.getting renew id) s (.found renew id e.value)
 | miss {renew id now cache}
  (hc:∀ k e,cache.find? k=some e → s.cache.find? k=some e):
  Shift cfg s (.getting renew id) {s with cache:=cache} (.missed renew id s.evictions now)
 | reads {renew id gen now version sess}
  (hrow:s.rows id=⟨some sess,version⟩):
  Shift cfg s (.missed renew id gen now) s (.read renew id ⟨sess,version⟩ gen now)
 | absent {renew id gen now version} (hrow:s.rows id=⟨none,version⟩):
  Shift cfg s (.missed renew id gen now) s (.notFound renew id version)
 | unread {renew id gen now}:Shift cfg s (.missed renew id gen now) s .ended
 | fills {renew id w now}:
  Shift cfg s (.read renew id w s.evictions now) {s with cache:=putLocked cfg s.cache id w now}
   (.found renew id w)
 | passes {renew id w gen now} (hgen:s.evictions≠gen):
  Shift cfg s (.read renew id w gen now) s (.found renew id w)
 | renews {id w next}:
  Shift cfg s (.found true id w) s (.holding id {w.value with expiresAt:=next})
 | keeps {id w}:Shift cfg s (.found true id w) s .ended
 | writes {n source id sess}
  (hn:n=.holding id sess∧source=.renewal∨n=.signing id sess∧source=.signIn):
  Shift cfg s n (s.putRow id sess) (.putting source id ⟨sess,(s.rows id).version+1⟩)
 | unwritten {n id sess} (hn:n=.holding id sess∨n=.signing id sess):
  Shift cfg s n s .ended
 | caches {source id w now}:
  Shift cfg s (.putting source id w) {s with cache:=putLocked cfg s.cache id w now} (.put source id w)
 | evicts {n n' cover}
  (hn:n=.deleting cover∧n'=.evicted cover∨n=.deleted cover∧n'=.gone cover∨
   n=.failing cover∧n'=.ended):
  Shift cfg s n (s.evict cover) n'
 | deletes {cover}:Shift cfg s (.evicted cover) (s.deleteRows cover) (.deleted cover)
 | undeleted {cover}:Shift cfg s (.evicted cover) s (.failing cover)

section Shift

variable {cfg:Config}{s s':State}{n n':Stage}{ns:List Stage}{i:Nat}

lemma shift_of_allows{c}(hall:n.allows c)(o):
 Shift cfg s n (step cfg c o s).2 (n.next cfg c (step cfg c o s).1):=by
 cases n with
 | getting renew id=>
  cases c<;>cases hall
  cases hget:ExpiringCache.get (fresh cfg o.now) s.cache id with
  | mk hit cache=>
   simp only[step,hget]
   cases hit with
   | none=>
    have hcache:_=cache:=congrArg Prod.snd hget
    exact .miss fun k e he=>find_get (hcache▸he)
   | some w=>
    have hhit:=congrArg Prod.fst hget
    obtain ⟨e,he,rfl⟩:=get_hit hhit
    obtain rfl:s.cache=cache:=(get_hit_eq hhit).symm.trans (congrArg Prod.snd hget)
    exact .hit he
 | missed renew id gen now=>
  cases c<;>cases hall
  cases hf:o.fails with
  | true=>
   simp only[step,hf,if_true,Stage.next]
   exact .unread
  | false=>
   simp only[step,hf,Bool.false_eq_true,if_false]
   match hrow:s.rows _ with
   | ⟨none,version⟩=>exact .absent hrow
   | ⟨some sess,version⟩=>exact .reads hrow
 | read renew id w gen now=>
  cases c<;>obtain ⟨rfl,rfl,rfl,rfl⟩:=hall
  simp only[step,Stage.next]
  split_ifs with hgen
  ·subst hgen
   exact .fills
  ·exact .passes hgen
 | found renew id w=>
  cases c<;>cases hall
  simp only[step,Stage.next]
  cases nextSessionExpiry cfg w.value o.now with
  | none=>exact .keeps
  | some next=>exact .renews
 | holding id sess=>
  cases c<;>obtain ⟨rfl,rfl⟩:=hall
  simp only[step]
  split_ifs
  ·exact .unwritten (.inl rfl)
  ·exact .writes (.inl ⟨rfl,rfl⟩)
 | signing id sess=>
  cases c<;>obtain ⟨rfl,rfl⟩:=hall
  simp only[step]
  split_ifs
  ·exact .unwritten (.inr rfl)
  ·exact .writes (.inr ⟨rfl,rfl⟩)
 | putting source id w=>
  cases c<;>obtain ⟨rfl,rfl⟩:=hall
  exact .caches
 | deleting cover=>
  cases c<;>cases hall
  exact .evicts (.inl ⟨rfl,rfl⟩)
 | evicted cover=>
  cases c<;>cases hall
  simp only[step]
  split_ifs
  ·exact .undeleted
  ·exact .deletes
 | deleted cover=>
  cases c<;>cases hall
  exact .evicts (.inr (.inl ⟨rfl,rfl⟩))
 | failing cover=>
  cases c<;>cases hall
  exact .evicts (.inr (.inr ⟨rfl,rfl⟩))
 | _=>cases c<;>cases hall
lemma Shift.rows_le(h:Shift cfg s n s' n')(id):(s.rows id).version≤(s'.rows id).version:=by
 cases h with
 | @writes _ source id' sess hn=>
  by_cases hid:id=id'
  ·subst hid
   simp[State.putRow]
  ·simp[State.putRow,update_of_ne hid]
 | deletes=>
  dsimp only[State.deleteRows]
  split_ifs
  ·exact Nat.le_succ _
  ·exact le_rfl
 | _=>exact le_rfl

variable {sess:Session}{w:Versioned Session}

lemma Shift.signing_of_putting{id}(h:Shift cfg s n s' (.putting .signIn id w)):
 ∃ sess,n=.signing id sess:=by
 cases h with
 | writes hn=>exact ⟨_,(hn.resolve_left fun hn=>by cases hn.2).1⟩
 | evicts hn=>simp at hn
lemma Shift.not_signing{id}(h:Shift cfg s n s' n'):n'≠.signing id sess:=by
 rintro rfl
 cases h with
 | evicts hn=>simp at hn
lemma Shift.evictions_le(h:Shift cfg s n s' n'):s.evictions ≤ s'.evictions:=by
 cases h with
 | evicts=>exact Nat.le_succ _
 | _=>exact le_rfl

structure Fresh(id:String)(v:Nat)(s:State)(ns:List Stage):Prop where
 row:v≤(s.rows id).version
 reading:∀ renew w gen now,.read renew id w gen now∈ns → gen<s.evictions∨v ≤ w.version
 putting:∀ source w,.putting source id w∈ns→v ≤ w.version

variable {id:String}{v:Nat}{cover:Cover}

lemma Fresh.start(h:Fresh id v s ns)(e):Fresh id v s (ns++[Stage.first e]):=by
 refine ⟨h.row,fun renew w gen now hr=>?_,fun source w hp=>?_⟩
 ·rcases mem_append.1 hr with hr | hr
  ·exact h.reading renew w gen now hr
  ·cases e<;>cases mem_singleton.1 hr
 ·rcases mem_append.1 hp with hp | hp
  ·exact h.putting source w hp
  ·cases e<;>cases mem_singleton.1 hp
lemma Fresh.shift(h:Fresh id v s ns)(hs:Shift cfg s n s' n'):Fresh id v s' (ns.set i n'):=by
 refine ⟨h.row.trans (hs.rows_le id),fun renew w gen now hw=>?_,fun source w hw=>?_⟩
 ·rcases mem_or_eq_of_mem_set hw with hw | rfl
  ·exact (h.reading renew w gen now hw).imp_left fun hg=>hg.trans_le hs.evictions_le
  cases hs with
  | reads hrow=>
   have hle:=h.row
   rw[hrow] at hle
   exact .inr hle
  | evicts hn=>simp at hn
 ·rcases mem_or_eq_of_mem_set hw with hw | rfl
  ·exact h.putting source w hw
  ·cases hs with
   | writes hn=>exact Nat.le_succ_of_le h.row
   | evicts hn=>simp at hn

def Stage.gen:Stage→Option Nat
 | .missed _ _ gen _=>some gen
 | .read _ _ _ gen _=>some gen
 | _=>none

def Stage.deletes(id:String)(sess:Session):Stage→Bool
 | .deleted cover=>cover.covers id sess
 | _=>false

def Stage.pending(evictions:Nat)(id:String):Stage→Bool
 | .read _ id' _ gen _=>id'=id&&gen=evictions
 | .putting _ id' _=>id'=id
 | _=>false

def Stage.carries:Stage→Option (String×Session)
 | .read true id w _ _=>some (id,w.value)
 | .found true id w=>some (id,w.value)
 | .holding id sess=>some (id,sess)
 | .putting _ id w=>some (id,w.value)
 | _=>none

/-- An inner write of a session is made while no deletion of it is between its inner
 delete and its return, and while no fill and no cache write of it is to come; a
 deletion returns while no renewal or sign-in carries what it deletes. -/
def calm(s:State)(ns:List Stage):Stage→Bool
 | .holding id sess=>ns.all (fun m=>!m.deletes id sess&&!m.pending s.evictions id)
 | .signing id sess=>ns.all (fun m=>!m.deletes id sess&&!m.pending s.evictions id)
 | .deleted cover=>ns.all (fun m=>!m.carries.any fun p=>cover.covers p.1 p.2)
 | _=>true

structure Orderly(s:State)(ns:List Stage):Prop where
 gens:∀ n∈ns,∀ gen,n.gen=some gen → gen ≤ s.evictions
 putting:∀ source id w,.putting source id w∈ns→Fresh id w.version s ns
 deleted:∀ cover,.deleted cover∈ns→∀ id sess,(s.rows id).value=some sess→cover.covers id sess=false

lemma Orderly.start(h:Orderly s ns)(e):Orderly s (ns++[Stage.first e]):=by
 have hold:∀ n,n∈ns++[Stage.first e] → n∈ns∨n=Stage.first e:=fun n hn=>by simpa using hn
 refine ⟨fun n hn gen hg=>?_,fun source id w hw=>?_,fun cover hc=>?_⟩
 ·rcases hold n hn with hn | rfl
  ·exact h.gens n hn gen hg
  ·cases e<;>cases hg
 ·rcases hold _ hw with hw | hw
  ·exact (h.putting source id w hw).start e
  ·cases e<;>cases hw
 ·rcases hold _ hc with hc | hc
  ·exact h.deleted cover hc
  ·cases e<;>cases hc
lemma calm_writes{source:Source}(hcalm:calm s ns n)
 (hn:n=.holding id sess∧source=.renewal∨n=.signing id sess∧source=.signIn):
 ∀ m∈ns,m.deletes id sess=false∧m.pending s.evictions id=false:=by
 intro m hm
 rcases hn with ⟨rfl,_⟩ | ⟨rfl,_⟩<;>simpa using all_eq_true.1 hcalm m hm
lemma Orderly.gens_shift(h:Orderly s ns)(hn:n∈ns)(hs:Shift cfg s n s' n'):
 ∀ m∈ns.set i n',∀ gen,m.gen=some gen → gen ≤ s'.evictions:=by
 intro m hm gen hg
 rcases mem_or_eq_of_mem_set hm with hm | rfl
 ·exact (h.gens m hm gen hg).trans hs.evictions_le
 cases hs with
 | miss=>exact (Option.some.inj hg).symm.le
 | reads=>exact h.gens _ hn gen hg
 | evicts hcase=>
  rcases hcase with ⟨_,rfl⟩ | ⟨_,rfl⟩ | ⟨_,rfl⟩<;>cases hg
 | _=>cases hg
lemma Orderly.putting_shift(h:Orderly s ns)(hcalm:calm s ns n)(hs:Shift cfg s n s' n')
 {source:Source}(hw: .putting source id w∈ns.set i n'):
 Fresh id w.version s' (ns.set i n'):=by
 rcases mem_or_eq_of_mem_set hw with hw | rfl
 ·exact (h.putting source id w hw).shift hs
 cases hs with
 | evicts hcase=>simp at hcase
 | @writes _ _ _ sess hn=>
  have hquiet:=calm_writes hcalm hn
  refine ⟨by simp[State.putRow],fun renew w' gen now hr=>?_,fun source' w' hp=>?_⟩
  ·rcases mem_or_eq_of_mem_set hr with hr | hr
   ·have hgen:=h.gens _ hr gen rfl
    have hne:gen≠s.evictions:=by simpa[Stage.pending] using (hquiet _ hr).2
    exact .inl (Nat.lt_of_le_of_ne hgen hne)
   ·cases hr
  ·rcases mem_or_eq_of_mem_set hp with hp | hp
   ·have:=(hquiet _ hp).2
    simp[Stage.pending] at this
   ·cases hp
    exact le_rfl
lemma Orderly.deleted_shift(h:Orderly s ns)(hcalm:calm s ns n)(hs:Shift cfg s n s' n')
 (hc: .deleted cover∈ns.set i n')(hrow:(s'.rows id).value=some sess):
 cover.covers id sess=false:=by
 have hdel:∀ (c:Cover) {x:Session},((s.deleteRows c).rows id).value=some x→
  (s.rows id).value=some x∧c.covers id x=false:=by
  intro c x hx
  simp only[State.deleteRows] at hx
  split_ifs at hx with hany
  exact ⟨hx,by simpa[hx] using hany⟩
 rcases mem_or_eq_of_mem_set hc with hold | rfl
 ·cases hs with
  | @writes _ _ id' sess' hn=>
   by_cases hid:id=id'
   ·subst hid
    simp only[State.putRow,update_self,Option.some.injEq] at hrow
    have:=(calm_writes hcalm hn _ hold).1
    rwa[hrow] at this
   ·simp only[State.putRow,update_of_ne hid] at hrow
    exact h.deleted cover hold id sess hrow
  | deletes=>exact h.deleted cover hold id sess (hdel _ hrow).1
  | _=>exact h.deleted cover hold id sess hrow
 ·cases hs with
  | deletes=>exact (hdel cover hrow).2
  | evicts hcase=>simp at hcase
lemma Orderly.shift(h:Orderly s ns)(hn:n∈ns)(hcalm:calm s ns n)(hs:Shift cfg s n s' n'):
 Orderly s' (ns.set i n'):=
 ⟨h.gens_shift hn hs,fun _ _ _ hw=>h.putting_shift hcalm hs hw,
  fun _ hc _ _ hrow=>h.deleted_shift hcalm hs hc hrow⟩

structure Recent(id:String)(v:Nat)(s:State)(ns:List Stage):Prop extends Fresh id v s ns where
 cached:∀ e,s.cache.find? id=some e→v ≤ e.value.version

lemma find_putLocked{c id' now}
 {e}(h:(putLocked cfg c id' w now).find? id=some e):
 id=id'∧e.value=w∨id≠id'∧c.find? id=some e:=by
 rcases find_put h with ⟨hk,rfl⟩ | ⟨hk,he⟩
 ·exact .inl ⟨hk,rfl⟩
 ·exact .inr ⟨hk,he⟩
lemma Recent.start(h:Recent id v s ns)(e):Recent id v s (ns++[Stage.first e]):=
 ⟨h.toFresh.start e,h.cached⟩
lemma Recent.shift(h:Recent id v s ns)(hn:n∈ns)(hs:Shift cfg s n s' n'):
 Recent id v s' (ns.set i n'):=by
 refine ⟨h.toFresh.shift hs,fun e he=>?_⟩
 cases hs with
 | miss hc=>exact h.cached e (hc id e he)
 | fills=>
  rcases find_putLocked he with ⟨rfl,rfl⟩ | ⟨_,he⟩
  ·exact (h.reading _ _ _ _ hn).resolve_left (Nat.lt_irrefl _)
  ·exact h.cached e he
 | caches=>
  rcases find_putLocked he with ⟨rfl,rfl⟩ | ⟨_,he⟩
  ·exact h.putting _ _ hn
  ·exact h.cached e he
 | evicts=>exact h.cached e (find_drop he).1
 | _=>exact h.cached e he

def Stage.NotOlder(id:String)(v:Nat):Stage→Prop
 | .read _ id' w _ _=>id'=id→v ≤ w.version
 | .found _ id' w=>id'=id→v ≤ w.version
 | .notFound _ id' version=>id'=id→v ≤ version
 | _=>True

lemma Recent.notOlder(h:Recent id v s ns)(hn:n.NotOlder id v)(hs:Shift cfg s n s' n'):
 n'.NotOlder id v:=by
 cases hs with
 | hit he=>
  rintro rfl
  exact h.cached _ he
 | reads hrow | absent hrow=>
  rintro rfl
  simpa[hrow] using h.row
 | fills | passes=>exact hn
 | evicts hcase=>rcases hcase with ⟨_,rfl⟩ | ⟨_,rfl⟩ | ⟨_,rfl⟩<;>trivial
 | _=>trivial

structure Absent(cover:Cover)(id:String)(s:State)(ns:List Stage):Prop where
 row:∀ sess,(s.rows id).value=some sess→cover.covers id sess=false
 cached:∀ e,s.cache.find? id=some e→cover.covers id e.value.value=false
 reading:∀ w gen now,.read false id w gen now∈ns→cover.covers id w.value → gen<s.evictions
 carried:∀ n∈ns,∀ sess,n.carries=some (id,sess)→cover.covers id sess=false

lemma covers_renewed(cover:Cover)(id:String)(sess:Session)(next:Nat):
 cover.covers id {sess with expiresAt:=next}=cover.covers id sess:=by
 cases cover<;>rfl
section

variable (h:Absent cover id s ns)

include h

section

variable (hn:n∈ns)(hs:Shift cfg s n s' n')

include hn hs

section

variable (hsign:∀ w,n'=.putting .signIn id w→cover.covers id w.value=false)

include hsign

lemma Absent.row_shift:
 ∀ sess,(s'.rows id).value=some sess→cover.covers id sess=false:=by
 intro sess hrow
 cases hs with
 | @writes _ source id' sess' hcase=>
  by_cases hid:id=id'
  ·subst hid
   simp only[State.putRow,update_self] at hrow
   cases hrow
   rcases hcase with ⟨rfl,rfl⟩ | ⟨rfl,rfl⟩
   ·exact h.carried _ hn _ rfl
   ·exact hsign _ rfl
  ·simp only[State.putRow,update_of_ne hid] at hrow
   exact h.row sess hrow
 | deletes=>
  simp only[State.deleteRows] at hrow
  split_ifs at hrow
  exact h.row sess hrow
 | _=>exact h.row sess hrow
omit hsign in
lemma Absent.cached_shift:
 ∀ e,s'.cache.find? id=some e→cover.covers id e.value.value=false:=by
 intro e he
 cases hs with
 | miss hc=>exact h.cached e (hc id e he)
 | @fills renew _ w=>
  rcases find_putLocked he with ⟨rfl,rfl⟩ | ⟨_,he⟩
  · -- a covered session that was read before the deletion carries an older generation
   cases renew with
   | true=>exact h.carried _ hn _ rfl
   | false=>exact Bool.eq_false_iff.2 (fun hc=>Nat.lt_irrefl _ (h.reading _ _ _ hn hc))
  ·exact h.cached e he
 | caches=>
  rcases find_putLocked he with ⟨rfl,rfl⟩ | ⟨_,he⟩
  ·exact h.carried _ hn _ rfl
  ·exact h.cached e he
 | evicts=>exact h.cached e (find_drop he).1
 | _=>exact h.cached e he
lemma Absent.carried_shift(hcarry:n'.carries=some (id,sess)):cover.covers id sess=false:=by
 cases hs with
 | @hit renew _ e he=>
  cases renew<;>cases hcarry
  exact h.cached e he
 | @reads renew _ _ _ version sess' hrow=>
  cases renew<;>cases hcarry
  exact h.row _ (by rw[hrow])
 | @fills renew=>
  cases renew<;>cases hcarry
  exact h.carried _ hn _ rfl
 | @passes renew=>
  cases renew<;>cases hcarry
  exact h.carried _ hn _ rfl
 | renews=>
  cases hcarry
  rw[covers_renewed]
  exact h.carried _ hn _ rfl
 | writes hcase=>
  cases hcarry
  rcases hcase with ⟨rfl,rfl⟩ | ⟨rfl,rfl⟩
  ·exact h.carried _ hn _ rfl
  ·exact hsign _ rfl
 | evicts hcase=>rcases hcase with ⟨_,rfl⟩ | ⟨_,rfl⟩ | ⟨_,rfl⟩<;>cases hcarry
 | _=>cases hcarry
lemma Absent.shift:
 Absent cover id s' (ns.set i n'):=by
 refine ⟨h.row_shift hn hs hsign,h.cached_shift hn hs,fun w gen now hr hc=>?_,fun m hm sess hcarry=>?_⟩
 ·rcases mem_or_eq_of_mem_set hr with hr | rfl
  ·exact (h.reading w gen now hr hc).trans_le hs.evictions_le
  cases hs with
  | reads hrow=>
   have:=h.row _ (by rw[hrow])
   rw[this] at hc
   cases hc
  | evicts hcase=>simp at hcase
 ·rcases mem_or_eq_of_mem_set hm with hm | rfl
  ·exact h.carried m hm sess hcarry
  ·exact h.carried_shift hn hs hsign hcarry

end

end

lemma Absent.start(e):Absent cover id s (ns++[Stage.first e]):=by
 refine ⟨h.row,h.cached,fun w gen now hr=>?_,fun m hm sess hcarry=>?_⟩
 ·rcases mem_append.1 hr with hr | hr
  ·exact h.reading w gen now hr
  ·cases e<;>cases mem_singleton.1 hr
 ·rcases mem_append.1 hm with hm | hm
  ·exact h.carried m hm sess hcarry
  ·obtain rfl:=mem_singleton.1 hm
   cases e<;>cases hcarry

def Stage.saw:Stage→Option (String×Session)
 | .read _ id w _ _=>some (id,w.value)
 | .found _ id w=>some (id,w.value)
 | _=>none

lemma Absent.saw_shift(hs:Shift cfg s n s' n')
 (hn:∀ sess,n.saw=some (id,sess)→cover.covers id sess=false)
 (hsaw:n'.saw=some (id,sess)):cover.covers id sess=false:=by
 cases hs with
 | hit he=>
  cases hsaw
  exact h.cached _ he
 | reads hrow=>
  cases hsaw
  exact h.row _ (by rw[hrow])
 | fills | passes=>exact hn sess hsaw
 | evicts hcase=>rcases hcase with ⟨_,rfl⟩ | ⟨_,rfl⟩ | ⟨_,rfl⟩<;>cases hsaw
 | _=>cases hsaw

end

def Stage.SignedIn(cover:Cover)(id:String)(n:Stage):Prop:=
 ∃ w,cover.covers id w.value∧(n=.putting .signIn id w∨n=.put .signIn id w)

lemma signedIn_shift(h:n.SignedIn cover id)(hs:Shift cfg s n s' n'):n'.SignedIn cover id:=by
 obtain ⟨w,hc,rfl | rfl⟩:=h
 ·cases hs with
  | caches=>exact ⟨w,hc,.inr rfl⟩
  | writes hcase | unwritten hcase | evicts hcase=>simp at hcase
 ·cases hs with
  | writes hcase | unwritten hcase | evicts hcase=>simp at hcase

end Shift

variable {cfg:Config}

def standing(P:Pool (machine cfg)):List Stage:=(stages cfg).stages P

/-- The runs in which writes and deletions of a session keep clear of each other and of
 the lookups under way. -/
abbrev calmRuns(cfg:Config):Rules (machine cfg):=
 Allowed (fun _ _=>True) (fun P i _ _=>∀ n∈(standing P)[i]?,calm P.state (standing P) n)

lemma orderly_reach{rows P}
 (hr:Reach (calmRuns cfg) {state:={rows:=rows} } P):Orderly P.state (standing P):=by
 refine (follows cfg).run_inv rfl (J:=Orderly) ?_ (fun P e _ _ h=>h.start e) ?_ hr
 ·exact ⟨fun _ h=>(not_mem_nil h).elim,fun _ _ _ h=>(not_mem_nil h).elim,
   fun _ h=>(not_mem_nil h).elim⟩
 ·intro P i o c n _ hok hnext hn hall h
  exact h.shift (mem_of_getElem? hn) (hok c hnext n hn) (shift_of_allows hall o)

def Stage.waiting:Stage→Bool
 | .getting _ _=>true
 | .signing _ _=>true
 | .deleting _=>true
 | _=>false

def Later(P:Pool (machine cfg))(j:Nat):Prop:=∀ n,(standing P)[j]? = some n → n.waiting

instance (P:Pool (machine cfg))(j:Nat):Decidable (Later P j):=
 decidable_of_iff (∀ n∈(standing P)[j]?,n.waiting) Iff.rfl

lemma waiting_first(e):(Stage.first e).waiting:=by cases e<;>rfl

variable {n:Stage}{v:Nat}

lemma notOlder_waiting{id:String}(h:n.waiting):n.NotOlder id v:=by
 cases n<;>trivial
lemma saw_waiting(h:n.waiting):n.saw=none:=by
 cases n<;>first | rfl | cases h
lemma later_of_le{P:Pool (machine cfg)}{k:Nat}(h:P.procs.length ≤ k):Later P k:=by
 intro n hn
 have hlt:=(List.getElem?_eq_some_iff.1 hn).1
 rw[standing,Protocol.stages,length_map] at hlt
 omega

section Returned

variable {rows:String→Versioned (Option Session)}{P P₁ P₂:Pool (machine cfg)}{i:Nat}{o:Oracle}
 {cover:Cover}{id:String}

section

variable (hr:Reach (calmRuns cfg) {state:={rows:=rows} } P)

include hr

lemma exec_shift(he:P.exec (.step i o)=some P₁){n}(hn:(standing P)[i]? = some n):
 ∃ n',Shift cfg P.state n P₁.state n'∧standing P₁=(standing P).set i n':=by
 rcases (follows cfg).exec_step rfl hr he with ⟨c,m,hnext,hm,hall,hstate,hstages⟩ | ⟨f,_⟩
 ·obtain rfl:m=n:=Option.some.inj (hm.symm.trans hn)
  refine ⟨_,?_,hstages⟩
  rw[hstate]
  exact shift_of_allows hall o
 ·exact f.elim
omit hr in
lemma calm_of_ok{n}(hok:calmRuns cfg P (.step i o))(he:P.exec (.step i o)=some P₁)
 (hn:(standing P)[i]? = some n):calm P.state (standing P) n:=by
 have hm:=moves_of_exec he
 cases hm with
 | call hproc=>exact hok _ (Pool.next_of_call hproc) n hn
 | @invoke _ _ _ _ f=>exact f.elim
lemma absent_of_returned(hok:calmRuns cfg P (.step i o))(he:P.exec (.step i o)=some P₁)
 (hn:(standing P)[i]? = some (.deleted cover)):Absent cover id P₁.state (standing P₁):=by
 have hord:=orderly_reach hr
 have hcalm:=calm_of_ok hok he hn
 have hmem:=mem_of_getElem? hn
 obtain ⟨n',hs,hstages⟩:=exec_shift hr he hn
 rw[hstages]
 generalize P₁.state=s' at hs ⊢
 cases hs with
 | writes hcase | unwritten hcase=>simp at hcase
 | @evicts _ _ cover' hcase=>
  simp only[reduceCtorEq,false_and,Stage.deleted.injEq,or_false,false_or] at hcase
  obtain ⟨rfl,rfl⟩:=hcase
  refine ⟨hord.deleted cover hmem id,fun e hc=>?_,fun w gen now hread _=>?_,fun m hm sess hcarry=>?_⟩
  ·obtain ⟨hc,hgone⟩:=find_drop hc
   rwa[key_of_find? hc] at hgone
  ·rcases mem_or_eq_of_mem_set hread with hread | hread
   ·exact Nat.lt_succ_of_le (hord.gens _ hread gen rfl)
   ·cases hread
  ·rcases mem_or_eq_of_mem_set hm with hm | rfl
   ·have:=all_eq_true.1 hcalm m hm
    simpa[hcarry] using this
   ·cases hcarry
lemma recent_of_returned{source w}
 (he:P.exec (.step i o)=some P₁)
 (hn:(standing P)[i]? = some (.putting source id w)):Recent id w.version P₁.state (standing P₁):=by
 have hfresh:=(orderly_reach hr).putting source id w (mem_of_getElem? hn)
 obtain ⟨n',hs,hstages⟩:=exec_shift hr he hn
 rw[hstages]
 refine ⟨hfresh.shift hs,fun e hc=>?_⟩
 generalize P₁.state=s' at hs hc
 cases hs with
 | writes hcase | unwritten hcase | evicts hcase=>simp at hcase
 | caches=>
  rcases find_putLocked hc with ⟨_,rfl⟩ | ⟨hne,_⟩
  ·exact le_rfl
  ·exact absurd rfl hne

end

lemma signed_in_of_found(h₁:Reach (calmRuns cfg) {state:={rows:=rows} } P₁)
 (habsent:Absent cover id P₁.state (standing P₁))(h₂:Reach (calmRuns cfg) P₁ P₂){j:Nat}
 {sess:Session}(hlater:Later P₁ j)(hn:(standing P₂)[j]? = some n)(hsaw:n.saw=some (id,sess))
 (hcov:cover.covers id sess):
 ∃ k m,Later P₁ k∧(standing P₂)[k]? = some m∧m.SignedIn cover id:=by
 have hinv:=(follows cfg).each_since rfl h₁ (P:=P₂)
  (J:=fun s ns=>(∃ k m,Later P₁ k∧ns[k]? = some m∧Stage.SignedIn cover id m)∨Absent cover id s ns∧
   ∀ k m,Later P₁ k → ns[k]? = some m→∀ sess,Stage.saw m=some (id,sess)→cover.covers id sess=false)
  (G:=fun k m=>∀ id' sess',m=.signing id' sess'→Later P₁ k) ?_ ?_ ?_ ?_ ?_ h₂
 ·rcases hinv.1 with hsigned | ⟨_,hnone⟩
  ·exact hsigned
  ·rw[hnone j n hlater hn sess hsaw] at hcov
   cases hcov
 ·refine .inr ⟨habsent,fun k m hk hm sess' hs=>?_⟩
  rw[saw_waiting (hk m hm)] at hs
  cases hs
 ·rintro k m hm id' sess' rfl m' hm'
  obtain rfl:=Option.some.inj (hm.symm.trans hm')
  rfl
 ·rintro s ns e (⟨k,m,hk,hm,hs⟩ | ⟨ha,hnone⟩)
  ·refine .inl ⟨k,m,hk,?_,hs⟩
   rwa[getElem?_append_left (List.getElem?_eq_some_iff.1 hm).1]
  ·refine .inr ⟨ha.start e,fun k m hk hm sess' hs=>?_⟩
   rcases append_cases hm with hm | ⟨_,rfl⟩
   ·exact hnone k m hk hm sess' hs
   ·rw[saw_waiting (waiting_first e)] at hs
    cases hs
 ·exact fun k e hk _ _ _=>later_of_le hk
 intro P i o c m _ hok hnext hm hall hJ hG
 have hs:Shift cfg P.state m _ _:=shift_of_allows hall o
 have hmem:=mem_of_getElem? hm
 have hi:=(List.getElem?_eq_some_iff.1 hm).1
 refine ⟨?_,fun id' sess' hsign=>?_⟩
 ·rcases hJ with ⟨k,m',hk,hm',hsigned⟩ | ⟨ha,hnone⟩
  ·refine .inl ?_
   by_cases hik:i=k
   ·subst hik
    obtain rfl:=Option.some.inj (hm.symm.trans hm')
    exact ⟨i,_,hk,getElem?_set_self hi,signedIn_shift hsigned hs⟩
   ·exact ⟨k,m',hk,by rwa[getElem?_set_ne hik],hsigned⟩
  ·by_cases hsign:∃ w,m.next cfg c (step cfg c o P.state).1=.putting .signIn id w∧
    cover.covers id w.value
   · -- the first sign-in of the session since the deletion returned
    obtain ⟨w,hw,hc⟩:=hsign
    rw[hw] at hs
    obtain ⟨sess',rfl⟩:=hs.signing_of_putting
    exact .inl ⟨i,_,hG id sess' rfl,getElem?_set_self hi,w,hc,.inl hw⟩
   ·refine .inr ⟨ha.shift hmem hs fun w hw=>?_,fun k m' hk hm' sess' hs'=>?_⟩
    ·exact Bool.eq_false_iff.2 fun hc=>hsign ⟨w,hw,hc⟩
    ·rcases set_cases hm' with ⟨rfl,rfl⟩ | ⟨_,hm'⟩
     ·exact ha.saw_shift hs (hnone k m hk hm) hs'
     ·exact hnone k m' hk hm' sess' hs'
 ·exact absurd hsign hs.not_signing
lemma notOlder_since(h₁:Reach (calmRuns cfg) {state:={rows:=rows} } P₁)
 (hrecent:Recent id v P₁.state (standing P₁))(h₂:Reach (calmRuns cfg) P₁ P₂){j:Nat}
 (hlater:Later P₁ j)(hn:(standing P₂)[j]? = some n):n.NotOlder id v:=by
 have hinv:=(follows cfg).each_since rfl h₁ (P:=P₂) (J:=Recent id v)
  (G:=fun k m=>Later P₁ k→Stage.NotOlder id v m) hrecent (fun k m hm hk=>notOlder_waiting (hk m hm))
  (fun s ns e h=>h.start e) (fun k e _ _=>notOlder_waiting (waiting_first e)) ?_ h₂
 ·exact hinv.2 j n hn hlater
 ·intro P i o c m _ _ _ hm hall hs hold
  have hshift:Shift cfg P.state m _ _:=shift_of_allows hall o
  exact ⟨hs.shift (mem_of_getElem? hm) hshift,fun hk=>hs.notOlder (hold hk) hshift⟩

end Returned

def hour:Config:={ttl:=60,max:=0,idle:=100,maxAge:=0}

def nobody:State:={rows:=fun _=>⟨none,0⟩}

def ann:Session:={subject:="ann",createdAt:=0,expiresAt:=100}

def steps(i n now:Nat):List (Action (machine hour)):=replicate n (.step i {now:=now})

/-- A renewal has read the session; then its owner signs out. -/
def renewalHolds:Pool (machine hour):=
 Pool.after (anyRuns (machine hour)) {state:=nobody}
  ([.start (.signIn "s" ann)]++steps 0 2 0++[.start (.renew "s")]++steps 1 2 59 ++
   [.start (.delete "s")]++steps 2 2 59)

def signedOut:Pool (machine hour):=Pool.after (anyRuns (machine hour)) renewalHolds (steps 2 1 59)

/-- The renewal writes, and a request with the session comes in. -/
def resurrected:Pool (machine hour):=
 Pool.after (anyRuns (machine hour)) signedOut (steps 1 2 59++[.start (.get "s")]++steps 3 1 59)

/-- A lookup has read the session; then a renewal writes a newer one. -/
def lookupReads:Pool (machine hour):=
 Pool.after (anyRuns (machine hour)) {state:=nobody}
  ([.start (.signIn "s" ann)]++steps 0 2 0++[.start (.get "s")]++steps 1 2 70 ++
   [.start (.renew "s")]++steps 2 5 70)

def renewed:Pool (machine hour):=Pool.after (anyRuns (machine hour)) lookupReads (steps 2 1 70)

/-- The lookup fills the cache with what it read, and another one follows. -/
def filledLate:Pool (machine hour):=
 Pool.after (anyRuns (machine hour)) renewed (steps 1 1 70++[.start (.get "s")]++steps 3 1 70)

def leaving:Pool (machine hour):=
 Pool.after (calmRuns hour) {state:=nobody}
  ([.start (.signIn "s" ann)]++steps 0 2 0++[.start (.delete "s")]++steps 1 2 10)

def left:Pool (machine hour):=Pool.after (calmRuns hour) leaving (steps 1 1 10)

def back:Pool (machine hour):=
 Pool.after (calmRuns hour) left ([.start (.signIn "s" ann)]++steps 2 2 20++[.start (.get "s")]++steps 3 1 20)

end Dazyflow.SessionCache
