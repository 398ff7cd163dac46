import Dazyflow.ProgramStages

/-!
# The scheduler's leader

`PgLeader` of `leader.go` and the loop of `scheduler.go` on any number of instances.
-/
namespace Dazyflow.SchedulerLeader
open Interleaving Function List
open Protocol hiding next

/-- The tracked cron entries, the same on every instance, and the next instant of each
 after a moment; none for a schedule that never fires. -/
structure Config where
 keys:List String
 nextFireFrom:String→Nat→Option Nat
 later:∀ k t u,nextFireFrom k t=some u→t<u

structure Fire where
 inst:Nat
 key:String
 due:Nat
 deriving DecidableEq

structure State where
 /-- the session that holds the advisory lock -/
 lock:Option Nat:=none
 sessions:Nat:=0
 ended:List Nat:=[]
 isLeader:Nat→Bool:=fun _=>false
 clock:Nat:=0
 fired:List Fire:=[]

inductive Wake
 | done | tick | rescan

inductive Call
 | stopped
 | wake
 | acquire
 | tryLock (session:Nat)
 | ping (session:Nat)
 | unlock (session:Nat)
 | close (session:Nat)
 | sessionEnds (session:Nat)
 | set (inst:Nat)(v:Bool)
 | isLeader (inst:Nat)
 | clock
 | fireGraph (f:Fire)
 deriving DecidableEq

@[reducible] def Res:Call→Type
 | .stopped=>Bool
 | .wake=>Wake
 | .acquire=>Option Nat
 | .tryLock _=>Option Bool
 | .ping _=>Bool
 | .unlock _=>Option Bool
 | .close _=>Unit
 | .sessionEnds _=>Unit
 | .set .. =>Unit
 | .isLeader _=>Bool
 | .clock=>Nat
 | .fireGraph _=>Unit

@[reducible] def sig:Sig where
 Call:=Call
 Res:=Res

abbrev ask(c:Call):Prog sig (Res c):=Prog.ask (S:=sig) c

structure Oracle where
 stopped:Bool:=false
 wake:Wake:=.tick
 now:Nat:=0
 fails:Bool:=false
 /-- the server has done what the client got an error for -/
 done:Bool:=false

/-- Postgres gives the lock to a live session when nobody else has it. -/
def State.grants(s:State)(session:Nat):Bool:=
 !s.ended.contains session&&(s.lock.isNone||s.lock==some session)

def State.release(s:State)(session:Nat):State:=
 if s.lock=some session then {s with lock:=none} else s

def State.endSession(s:State)(session:Nat):State:=
 {s.release session with ended:=session::s.ended}

def step:(c:Call)→Oracle→State→Res c×State
 | .stopped,o,s=>(o.stopped,s)
 | .wake,o,s=>(o.wake,s)
 | .acquire,o,s=>if o.fails then (none,s) else (some s.sessions,{s with sessions:=s.sessions+1})
 | .tryLock session,o,s=>
  if s.grants session then
   if o.fails then (none,if o.done then {s with lock:=some session} else s)
   else (some true,{s with lock:=some session})
  else (if o.fails∨session∈s.ended then none else some false,s)
 | .ping session,o,s=>(!o.fails&&!s.ended.contains session,s)
 | .unlock session,o,s=>
  if o.fails∨session∈s.ended then (none,if o.done then s.release session else s)
  else (some (s.lock==some session),s.release session)
 | .close session,o,s=>((),if o.fails then s else s.endSession session)
 | .sessionEnds session,_,s=>((),s.endSession session)
 | .set inst v,_,s=>((),{s with isLeader:=update s.isLeader inst v})
 | .isLeader inst,_,s=>(s.isLeader inst,s)
 | .clock,o,s=>(o.now,{s with clock:=o.now})
 | .fireGraph f,_,s=>((),{s with fired:=f::s.fired})

def hold(session:Nat):Nat→Prog sig Unit
 | 0=>pure ()
 | pings+1=>do
  match←ask .wake with
  | .done=>pure ()
  | _=>if←ask (.ping session) then hold session pings else pure ()

/-- The deferred end of the lock: a session that cannot unlock is closed. -/
def letGo(session:Nat):Prog sig Unit:=do
 match←ask (.unlock session) with
 | some true=>pure ()
 | _=>
  let _←ask (.close session)
  pure ()

def acquireAndHold(inst pings:Nat):Prog sig Bool:=do
 match←ask .acquire with
 | none=>pure true
 | some session=>
  match←ask (.tryLock session) with
  | none=>pure true
  | some false=>pure false
  | some true=>
   let _←ask (.set inst true)
   hold session pings
   letGo session
   pure true

def clear(inst:Nat)(failed:Bool):Prog sig Unit:=do
 if failed then
  if←ask .stopped then
   let _←ask (.set inst false)
   pure ()
  else
   let _←ask (.set inst false)
   let _←ask (.set inst false)
   pure ()
 else
  let _←ask (.set inst false)
  pure ()

/-- `PgLeader.Run`, with the number of pings of each round. -/
def run(inst:Nat):List Nat→Prog sig Unit
 | []=>pure ()
 | pings::rest=>do
  if←ask .stopped then pure ()
  else
   let failed←acquireAndHold inst pings
   clear inst failed
   match←ask .wake with
   | .done=>pure ()
   | _=>run inst rest

abbrev Anchors:=String→Option Nat

def anchor(cfg:Config)(now:Nat):Anchors:=fun k=>cfg.nextFireFrom k now

/-- `applySpecs` with the specs unchanged: an entry with a next fire is carried over. -/
def rescan(cfg:Config)(now:Nat)(next:Anchors):Anchors:=
 fun k=>match next k with
  | some t=>some t
  | none=>cfg.nextFireFrom k now

def fireEach(cfg:Config)(inst now:Nat):List String→Anchors→Prog sig Anchors
 | [],next=>pure next
 | k::rest,next=>
  match next k with
  | none=>fireEach cfg inst now rest next
  | some t=>
   if t ≤ now then do
    let _←ask (.fireGraph ⟨inst,k,t⟩)
    fireEach cfg inst now rest (update next k (cfg.nextFireFrom k now))
   else fireEach cfg inst now rest next

def fireDue(cfg:Config)(inst:Nat)(next:Anchors):Prog sig Anchors:=do
 let now←ask .clock
 fireEach cfg inst now cfg.keys next

def reanchor(cfg:Config):Prog sig Anchors:=do
 let now←ask .clock
 pure (anchor cfg now)

def tick(cfg:Config)(inst:Nat)(wasLeader:Bool)(next:Anchors):Prog sig (Bool×Anchors):=do
 if←ask (.isLeader inst) then
  let next←if wasLeader then pure next else reanchor cfg
  let next←fireDue cfg inst next
  pure (true,next)
 else pure (false,next)

def schedulerLoop(cfg:Config)(inst:Nat):Nat→Bool→Anchors→Prog sig Unit
 | 0,_,_=>do
  let _←ask .wake
  pure ()
 | rounds+1,wasLeader,next=>do
  match←ask .wake with
  | .done=>pure ()
  | .tick=>
   let (wasLeader,next)←tick cfg inst wasLeader next
   schedulerLoop cfg inst rounds wasLeader next
  | .rescan=>
   let now←ask .clock
   schedulerLoop cfg inst rounds wasLeader (rescan cfg now next)

def schedulerRun(cfg:Config)(inst rounds:Nat):Prog sig Unit:=do
 let now←ask .clock
 let wasLeader←ask (.isLeader inst)
 schedulerLoop cfg inst rounds wasLeader (anchor cfg now)

inductive Entry
 | leader (inst:Nat)(pings:List Nat)
 | scheduler (inst rounds:Nat)
 | connectionLoss (session:Nat)

@[reducible] def machine(cfg:Config):Machine sig where
 State:=State
 Oracle:=Oracle
 step:=step
 Entry:=Entry
 entry
  | .leader inst pings=>run inst pings
  | .scheduler inst rounds=>schedulerRun cfg inst rounds
  | .connectionLoss session=>do
   let _←ask (.sessionEnds session)
   pure ()

inductive Stage
 | campaigning (inst:Nat)
 /-- from a granted lock to the cleared flag -/
 | elected (inst:Nat)
 /-- before the scheduler has first read the flag -/
 | unseeded (inst:Nat) (next:Anchors)
 | watching (inst:Nat) (wasLeader:Bool) (next:Anchors)
 /-- in a tick that has read the flag set, before it re-anchors -/
 | taking (inst:Nat)
 /-- in a tick that has read the flag set, before it fires -/
 | leading (inst:Nat) (next:Anchors)
 | firing (inst now:Nat) (next:Anchors)
 | other

namespace Stage

def engaged:Stage→Option Nat
 | .elected inst=>some inst
 | .taking inst=>some inst
 | .leading inst _=>some inst
 | .firing inst _ _=>some inst
 | _=>none

def first:Entry→Stage
 | .leader inst _=>.campaigning inst
 | .scheduler inst _=>.unseeded inst (fun _=>none)
 | .connectionLoss _=>.other

/-- The tick goes on while an entry is due. -/
def fired(cfg:Config)(inst now:Nat)(next:Anchors):Stage:=
 if ∀ k∈cfg.keys,∀ t∈next k,now<t then .watching inst true next else .firing inst now next

def next(cfg:Config):Stage→(c:Call)→Res c→Stage
 | .campaigning inst,.tryLock _,some true=>.elected inst
 | .elected inst,.set _ false,_=>.campaigning inst
 | .unseeded inst _,.clock,now=>.unseeded inst (anchor cfg now)
 | .unseeded inst next,.isLeader _,b=>.watching inst b next
 | .watching inst true next,.isLeader _,true=>.leading inst next
 | .watching inst false _,.isLeader _,true=>.taking inst
 | .watching inst _ next,.isLeader _,false=>.watching inst false next
 | .watching inst was next,.clock,now=>.watching inst was (rescan cfg now next)
 | .taking inst,.clock,now=>.leading inst (anchor cfg now)
 | .leading inst next,.clock,now=>fired cfg inst now next
 | .firing inst now next,.fireGraph f,_=>fired cfg inst now (update next f.key (cfg.nextFireFrom f.key now))
 | n,_,_=>n

def allows:Stage→Call→Prop
 | .campaigning _,.stopped=>True
 | .campaigning _,.acquire=>True
 | .campaigning _,.tryLock _=>True
 | .campaigning _,.wake=>True
 | .campaigning inst,.set j v=>j=inst∧v=false
 | .elected _,.stopped=>True
 | .elected inst,.set j _=>j=inst
 | .elected _,.wake=>True
 | .elected _,.ping _=>True
 | .elected _,.unlock _=>True
 | .elected _,.close _=>True
 | .unseeded _ _,.clock=>True
 | .unseeded inst _,.isLeader j=>j=inst
 | .watching _ _ _,.wake=>True
 | .watching _ _ _,.clock=>True
 | .watching inst _ _,.isLeader j=>j=inst
 | .taking _,.clock=>True
 | .leading _ _,.clock=>True
 | .firing inst now next,.fireGraph f=>f.inst=inst∧next f.key=some f.due∧f.due ≤ now
 | .other,.sessionEnds _=>True
 | _,_=>False

end Stage

@[reducible] def stages(cfg:Config):Protocol (machine cfg) where
 Stage:=Stage
 first:=Stage.first
 next:=Stage.next cfg
 allowed:=Stage.allows

variable {cfg:Config}

lemma obeys_hold(session inst pings):
 (stages cfg).Obeys (hold session pings) (.elected inst) (fun _ n=>n=.elected inst):=by
 induction pings with
 | zero=>exact obeys_done rfl
 | succ pings ih=>
  have hping:(stages cfg).Obeys (do if←ask (.ping session) then hold session pings else pure ()) (.elected inst)
   (fun _ n=>n=.elected inst):=by
   exact obeys_call trivial fun
    | true=>ih
    | false=>obeys_done rfl
  exact obeys_call trivial fun
   | .done=>obeys_done rfl
   | .tick=>hping
   | .rescan=>hping
lemma obeys_letGo(session inst):
 (stages cfg).Obeys (letGo session) (.elected inst) (fun _ n=>n=.elected inst):=by
 refine obeys_call trivial fun unlocked=>?_
 match unlocked with
 | some true=>exact obeys_done rfl
 | some false=>exact obeys_call trivial (fun _=>obeys_done rfl)
 | none=>exact obeys_call trivial (fun _=>obeys_done rfl)
lemma obeys_acquireAndHold(inst pings):
 (stages cfg).Obeys (acquireAndHold inst pings) (.campaigning inst)
  (fun _ n=>n=.campaigning inst∨n=.elected inst):=by
 refine obeys_bind (obeys_ask (Q:=fun _ (n:Stage)=>n=.campaigning inst) trivial fun _=>rfl) ?_
 rintro session _ rfl
 cases session with
 | none=>exact obeys_done (.inl rfl)
 | some session=>?_
 refine obeys_bind (obeys_ask (Q:=fun (got:Option Bool) (n:Stage)=>
  n=if got=some true then .elected inst else .campaigning inst) trivial fun got=>?_) ?_
 ·match got with
  | none=>rfl
  | some false=>rfl
  | some true=>rfl
 rintro got _ rfl
 match got with
 | none=>exact obeys_done (.inl rfl)
 | some false=>exact obeys_done (.inl rfl)
 | some true=>
  refine obeys_bind (obeys_ask (Q:=fun _ (n:Stage)=>n=.elected inst) rfl fun _=>rfl) ?_
  rintro _ _ rfl
  refine obeys_bind (obeys_hold session inst pings) ?_
  rintro _ _ rfl
  refine obeys_bind (obeys_letGo session inst) ?_
  rintro _ _ rfl
  exact obeys_done (.inr rfl)
lemma obeys_clear(inst failed){n}(hn:n=.campaigning inst∨n=.elected inst):
 (stages cfg).Obeys (clear inst failed) n (fun _ n=>n=.campaigning inst):=by
 have hset:∀ {n:Stage},n=.campaigning inst∨n=.elected inst→
  (stages cfg).Obeys (ask (.set inst false)) n (fun _ n=>n=.campaigning inst):=by
  rintro n (rfl | rfl)
  ·exact obeys_ask ⟨rfl,rfl⟩ fun _=>rfl
  ·exact obeys_ask rfl fun _=>rfl
 have hone:∀ {n:Stage},n=.campaigning inst∨n=.elected inst→
  (stages cfg).Obeys (do let _←ask (.set inst false); pure ()) n (fun _ n=>n=.campaigning inst):=
  fun hn=>obeys_bind (hset hn) (fun _ _ h=>obeys_done h)
 have hstop:(stages cfg).Obeys (ask .stopped) n (fun _ m=>m=n):=by
  rcases hn with rfl | rfl<;>exact obeys_ask trivial (fun _=>rfl)
 cases failed with
 | false=>exact hone hn
 | true=>
  refine obeys_bind hstop ?_
  rintro stopped _ rfl
  cases stopped with
  | true=>exact hone hn
  | false=>exact obeys_bind (hset hn) (fun _ _ h=>hone (.inl h))
lemma obeys_run(inst pings):
 (stages cfg).Obeys (run inst pings) (.campaigning inst) (fun _ _=>True):=by
 induction pings with
 | nil=>exact obeys_done trivial
 | cons k rest ih=>
  refine obeys_bind (obeys_ask (Q:=fun _ (n:Stage)=>n=.campaigning inst) trivial fun _=>rfl) ?_
  rintro stopped _ rfl
  cases stopped with
  | true=>exact obeys_done trivial
  | false=>?_
  refine obeys_bind (obeys_acquireAndHold inst k) fun failed n hn=>?_
  refine obeys_bind (obeys_clear inst failed hn) ?_
  rintro _ _ rfl
  exact obeys_call trivial fun
   | .done=>obeys_done trivial
   | .tick=>ih
   | .rescan=>ih
-- an entry that is due is one of those still to be visited
lemma obeys_fireEach(inst now keys next)(hin:∀ k∈keys,k∈cfg.keys)
 (hdue:∀ k∈cfg.keys,k∈keys∨∀ t∈next k,now<t):
 (stages cfg).Obeys (fireEach cfg inst now keys next) (Stage.fired cfg inst now next)
  (fun next' n=>n=.watching inst true next'):=by
 induction keys generalizing next with
 | nil=>exact obeys_done (if_pos fun k hk=>(hdue k hk).resolve_left not_mem_nil)
 | cons k rest ih=>
  have hrest:∀ j∈rest,j∈cfg.keys:=fun j hj=>hin j (mem_cons_of_mem k hj)
  have hlater:∀ {next':Anchors},(∀ j,j≠k→next' j=next j)→(∀ t∈next' k,now<t)→
   ∀ j∈cfg.keys,j∈rest∨∀ t∈next' j,now<t:=by
   intro next' hsame hk j hj
   by_cases hjk:j=k
   ·exact .inr (hjk ▸ hk)
   ·rw[hsame j hjk]
    exact (hdue j hj).imp_left fun h=>(mem_cons.1 h).resolve_left hjk
  unfold fireEach
  cases hk:next k with
  | none=>exact ih next hrest (hlater (fun _ _=>rfl) (by simp[hk]))
  | some t=>
   simp only
   split_ifs with ht
   ·have hnow:Stage.fired cfg inst now next=.firing inst now next:=
     if_neg fun h=>Nat.not_lt.2 ht (h k (hin k mem_cons_self) t hk)
    rw[hnow]
    refine obeys_call ⟨rfl,hk,ht⟩ fun _=>ih _ hrest (hlater (fun j hj=>update_of_ne hj _ _) ?_)
    rw[update_self]
    exact fun t=>cfg.later k now t
   ·exact ih next hrest (hlater (fun _ _=>rfl) (by simpa[hk] using ht))
lemma obeys_tick(inst was next):
 (stages cfg).Obeys (tick cfg inst was next) (.watching inst was next) (fun r n=>n=.watching inst r.1 r.2):=by
 have hfire:∀ next,(stages cfg).Obeys (do let next←fireDue cfg inst next; pure (true,next)) (.leading inst next)
  (fun (r:Bool×Anchors) n=>n=.watching inst r.1 r.2):=
  fun next=>obeys_bind (obeys_call trivial fun now=>obeys_fireEach inst now cfg.keys next (fun _ h=>h) fun _=>.inl)
   (fun _ _ h=>obeys_done h)
 refine obeys_call rfl fun leading=>?_
 cases leading with
 | false=>
  refine obeys_done ?_
  cases was<;>rfl
 | true=>
  cases was with
  | true=>exact hfire next
  | false=>exact obeys_call trivial (fun now=>hfire _)
lemma obeys_schedulerLoop(inst rounds was next):
 (stages cfg).Obeys (schedulerLoop cfg inst rounds was next) (.watching inst was next) (fun _ _=>True):=by
 have hwake:∀ {was next},
  (stages cfg).Obeys (ask .wake) (.watching inst was next) (fun _ m=>m=.watching inst was next):=
  fun {was _}=>obeys_ask trivial fun _=>by cases was<;>rfl
 induction rounds generalizing was next with
 | zero=>exact obeys_bind hwake (fun _ _ _=>obeys_done trivial)
 | succ rounds ih=>
  refine obeys_bind hwake ?_
  rintro wake _ rfl
  cases wake with
  | done=>exact obeys_done trivial
  | tick=>
   refine obeys_bind (obeys_tick inst was next) ?_
   rintro _ _ rfl
   exact ih _ _
  | rescan=>
   refine obeys_call trivial fun now=>?_
   cases was<;>exact ih _ _
lemma follows(cfg):(stages cfg).Follows (fun _=>True) where
 entries e:=by
  cases e with
  | leader inst pings=>exact obeys_run inst pings
  | scheduler inst rounds=>
   exact obeys_call trivial fun now=>obeys_call rfl (fun was=>obeys_schedulerLoop inst rounds was _)
  | connectionLoss session=>exact obeys_end trivial

def standing(P:Pool (machine cfg)):List Stage:=(stages cfg).stages P

/-- Each next fire lies after every instant of the entry that another instance has fired. -/
abbrev Ahead(s:State)(inst:Nat)(next:Anchors):Prop:=
 ∀ f∈s.fired,f.inst≠inst→∀ t∈next f.key,f.due<t

/-- An instance that believes to have led all along has its next fires ahead. -/
def Good(s:State)(inst:Nat):Stage→Prop
 | .watching i true next=>i=inst→Ahead s inst next
 | .leading i next=>i=inst→Ahead s inst next
 | .firing i _ next=>i=inst→Ahead s inst next
 | _=>True

/-- No other instance acts as leader any more, and the own scheduler would re-anchor or is
 ahead. -/
def ripe(s:State)(ns:List Stage):Stage→Prop
 | .campaigning inst=>∀ n∈ns,(∀ j∈n.engaged,j=inst)∧Good s inst n
 | _=>True

/-- A scheduler that finds itself leader at its start is ahead. -/
def seeded(s:State):Stage→Prop
 | .unseeded inst next=>s.isLeader inst→Ahead s inst next
 | _=>True

def calm(s:State)(ns:List Stage)(k:Nat)(c:Call)(o:Oracle):Prop:=
 match c with
 | .tryLock session=>s.grants session→∀ n∈ns[k]?,ripe s ns n
 | .isLeader _=>∀ n∈ns[k]?,seeded s n
 | .clock=>s.clock ≤ o.now
 | _=>True

abbrev clockRuns(cfg:Config):Rules (machine cfg):=
 Allowed (fun _ _=>True) (fun P _ c o=>c=.clock→P.state.clock ≤ o.now)

abbrev calmRuns(cfg:Config):Rules (machine cfg):=
 Allowed (fun _ _=>True) (fun P k c o=>calm P.state (standing P) k c o)

def noInstances(cfg:Config):Pool (machine cfg):={state:={} }

structure Exclusive(s:State)(ns:List Stage):Prop where
 one:∀ n∈ns,∀ m∈ns,∀ i∈n.engaged,∀ j∈m.engaged,i=j
 flag:∀ inst,s.isLeader inst → .elected inst∈ns
 good:∀ n∈ns,∀ inst∈n.engaged,∀ m∈ns,Good s inst m
 past:∀ f∈s.fired,f.due ≤ s.clock
 read:∀ inst now next,.firing inst now next∈ns → now ≤ s.clock
 unique:∀ f∈s.fired,∀ f'∈s.fired,f.key=f'.key→f.due=f'.due→f.inst=f'.inst

section Step

variable {s s':State}{ns:List Stage}{n m:Stage}{k:Nat}

variable {inst now:Nat}{next:Anchors}{o:Oracle}{c:Call}

lemma ahead_later(hpast:∀ f∈s.fired,f.due ≤ now)
 (hnext:∀ k t,next k=some t → now<t):Ahead s inst next:=
 fun f hf _ t ht=>(hpast f hf).trans_lt (hnext f.key t ht)
lemma Ahead.same(h:Ahead s inst next)(hf:s'.fired=s.fired):Ahead s' inst next:=by
 unfold Ahead
 rwa[hf]
lemma Good.same(h:Good s inst n)(hf:s'.fired=s.fired):Good s' inst n:=by
 unfold Good Ahead at *
 rwa[hf]
lemma engaged_fired{i}(hi:i∈(Stage.fired cfg inst now next).engaged):i=inst:=by
 unfold Stage.fired at hi
 split_ifs at hi
 ·cases hi
 ·exact (Option.some.inj hi).symm
lemma good_fired{i}:Good s i (Stage.fired cfg inst now next)↔(inst=i→Ahead s i next):=by
 unfold Stage.fired
 split_ifs<;>rfl
lemma fired_eq{i now' next'}(h:Stage.fired cfg inst now next=.firing i now' next'):now'=now:=by
 unfold Stage.fired at h
 split_ifs at h
 cases h
 rfl
section

variable (h:Exclusive s ns)

include h

lemma Exclusive.move(hfired:s'.fired=s.fired)(hclock:s.clock ≤ s'.clock)
 (hengaged:∀ i∈m.engaged,∃ x∈ns,x.engaged=some i)
 (hflag:∀ inst,s'.isLeader inst → .elected inst∈ns.set k m)
 (hgood:∀ inst,(∃ x∈ns,x.engaged=some inst)→Good s' inst m)
 (hread:∀ inst now next,m=.firing inst now next → now ≤ s'.clock):Exclusive s' (ns.set k m):=by
 have hwas:∀ x∈ns.set k m,∀ i∈x.engaged,∃ y∈ns,y.engaged=some i:=by
  intro x hx i hi
  rcases mem_or_eq_of_mem_set hx with hx | rfl
  ·exact ⟨x,hx,hi⟩
  ·exact hengaged i hi
 refine ⟨fun x hx y hy i hi j hj=>?_,hflag,fun x hx inst hi y hy=>?_,?_,fun inst now next hx=>?_,?_⟩
 ·obtain ⟨x',hx',hi'⟩:=hwas x hx i hi
  obtain ⟨y',hy',hj'⟩:=hwas y hy j hj
  exact h.one x' hx' y' hy' i hi' j hj'
 ·obtain ⟨x',hx',hi'⟩:=hwas x hx inst hi
  rcases mem_or_eq_of_mem_set hy with hy | rfl
  ·exact (h.good x' hx' inst hi' y hy).same hfired
  ·exact hgood inst ⟨x',hx',hi'⟩
 ·rw[hfired]
  exact fun f hf=>(h.past f hf).trans hclock
 ·rcases mem_or_eq_of_mem_set hx with hx | hx
  ·exact (h.read inst now next hx).trans hclock
  ·exact hread inst now next hx.symm
 ·rw[hfired]
  exact h.unique
lemma Exclusive.stay(hn:ns[k]? = some n)(hfired:s'.fired=s.fired)(hclock:s.clock ≤ s'.clock)
 (hleader:s'.isLeader=s.isLeader):Exclusive s' (ns.set k n):=by
 have hmem:n∈ns:=mem_of_getElem? hn
 have hset:ns.set k n=ns:=by
  obtain ⟨hk,rfl⟩:=List.getElem?_eq_some_iff.1 hn
  exact set_getElem_self hk
 refine h.move hfired hclock (fun i hi=>⟨n,hmem,hi⟩) (fun inst hi=>?_) (fun inst hx=>?_) fun inst now next hx=>?_
 ·rw[hset]
  exact h.flag inst (hleader▸hi)
 ·obtain ⟨x,hx,hi⟩:=hx
  exact (h.good x hx inst hi n hmem).same hfired
 ·exact (h.read inst now next (hx▸hmem)).trans hclock
lemma Exclusive.elect(hn:ns[k]? = some (.campaigning inst))(hfired:s'.fired=s.fired)
 (hclock:s'.clock=s.clock)(hleader:s'.isLeader=s.isLeader)
 (hc:∀ x∈ns,(∀ j∈x.engaged,j=inst)∧Good s inst x):Exclusive s' (ns.set k (.elected inst)):=by
 have honly:∀ x∈ns.set k (.elected inst),∀ j∈x.engaged,j=inst:=by
  intro x hx j hj
  rcases mem_or_eq_of_mem_set hx with hx | rfl
  ·exact (hc x hx).1 j hj
  ·exact (Option.some.inj hj).symm
 refine ⟨fun x hx y hy i hi j hj=>(honly x hx i hi).trans (honly y hy j hj).symm,fun i hi=>?_,fun x hx i hi y hy=>?_,?_,
  fun i now next hx=>?_,?_⟩
 ·exact mem_set_of_ne (h.flag i (hleader▸hi)) hn (by simp)
 ·rw[honly x hx i hi]
  rcases mem_or_eq_of_mem_set hy with hy | rfl
  ·exact (hc y hy).2.same hfired
  ·trivial
 ·rw[hfired,hclock]
  exact h.past
 ·rw[hclock]
  rcases mem_or_eq_of_mem_set hx with hx | hx
  ·exact h.read i now next hx
  ·cases hx
 ·rw[hfired]
  exact h.unique
lemma Exclusive.fire{f}(hn:ns[k]? = some (.firing f.inst now next))
 (hdue:next f.key=some f.due)(hnow:f.due ≤ now):
 Exclusive {s with fired:=f::s.fired}
  (ns.set k (Stage.fired cfg f.inst now (update next f.key (cfg.nextFireFrom f.key now)))):=by
 have hmem:=mem_of_getElem? hn
 have hahead:Ahead s f.inst next:=h.good _ hmem f.inst rfl _ hmem rfl
 have hwas:∀ x∈ns.set k (Stage.fired cfg f.inst now (update next f.key (cfg.nextFireFrom f.key now))),
  ∀ i∈x.engaged,i=f.inst:=by
  intro x hx i hi
  rcases mem_or_eq_of_mem_set hx with hx | rfl
  ·exact h.one x hx _ hmem i hi f.inst rfl
  ·exact engaged_fired hi
 have hold:∀ {a:Anchors},Ahead s f.inst a→Ahead {s with fired:=f::s.fired} f.inst a:=by
  intro a ha f' hf' hne
  rcases mem_cons.1 hf' with rfl | hf'
  ·exact absurd rfl hne
  ·exact ha f' hf' hne
 have hother:∀ f'∈s.fired,f'.key=f.key→f'.due=f.due→f'.inst=f.inst:=by
  intro f' hf' hk hd
  by_contra hne
  have hlt:=hahead f' hf' hne f.due (hk▸hdue)
  omega
 refine ⟨fun x hx y hy i hi j hj=>(hwas x hx i hi).trans (hwas y hy j hj).symm,fun i hi=>?_,fun x hx i hi y hy=>?_,
  fun f' hf'=>?_,fun i now' next' hx=>?_,fun f₁ h₁ f₂ h₂ hk hd=>?_⟩
 ·exact mem_set_of_ne (h.flag i hi) hn (by simp)
 ·rw[hwas x hx i hi]
  rcases mem_or_eq_of_mem_set hy with hy | rfl
  ·have hgood:=h.good _ hmem f.inst rfl y hy
   cases y with
   | watching i was next'=>
    cases was with
    | true=>exact fun e=>hold (hgood e)
    | false=>trivial
   | leading i next' | firing i now' next'=>exact fun e=>hold (hgood e)
   | _=>trivial
  ·refine good_fired.2 fun _ f' hf' hne t ht=>?_
   rcases mem_cons.1 hf' with rfl | hf'
   ·exact absurd rfl hne
   by_cases hk:f'.key=f.key
   ·rw[hk,update_self] at ht
    have hlt:=hahead f' hf' hne f.due (hk▸hdue)
    have hlater:=cfg.later _ _ _ ht
    omega
   ·rw[update_of_ne hk] at ht
    exact hahead f' hf' hne t ht
 ·rcases mem_cons.1 hf' with rfl | hf'
  ·exact hnow.trans (h.read _ _ _ hmem)
  ·exact h.past f' hf'
 ·rcases mem_or_eq_of_mem_set hx with hx | hx
  ·exact h.read i now' next' hx
  ·rw[fired_eq hx.symm]
   exact h.read _ _ _ hmem
 ·rcases mem_cons.1 h₁ with rfl | hold₁<;>rcases mem_cons.1 h₂ with rfl | hold₂
  ·rfl
  ·exact (hother f₂ hold₂ hk.symm hd.symm).symm
  ·exact hother f₁ hold₁ hk hd
  ·exact h.unique f₁ hold₁ f₂ hold₂ hk hd
lemma Exclusive.schedule(hn:ns[k]? = some n)(hne:∀ inst,n≠.elected inst)
 (hfired:s'.fired=s.fired)(hclock:s.clock ≤ s'.clock)(hleader:s'.isLeader=s.isLeader)
 (hengaged:∀ i∈m.engaged,∃ x∈ns,x.engaged=some i)
 (hgood:∀ inst,Good s inst n→(∃ x∈ns,x.engaged=some inst)→Good s' inst m)
 (hread:∀ inst now next,m=.firing inst now next → now ≤ s'.clock):Exclusive s' (ns.set k m):=by
 refine h.move hfired hclock hengaged (fun inst hi=>?_) (fun inst hx=>?_) hread
 ·exact mem_set_of_ne (h.flag inst (hleader▸hi)) hn fun e=>hne inst e.symm
 ·obtain ⟨x,hxm,hi⟩:=hx
  exact hgood inst (h.good x hxm inst hi n (mem_of_getElem? hn)) ⟨x,hxm,hi⟩
omit h in
lemma tryLock_keeps(session o s):
 (step (.tryLock session) o s).2.fired=s.fired∧(step (.tryLock session) o s).2.clock=s.clock∧
  (step (.tryLock session) o s).2.isLeader=s.isLeader∧
  ((step (.tryLock session) o s).1=some true → s.grants session):=by
 simp only[step]
 split_ifs with hg hf hd<;>simp[hg]
omit h in
lemma unlock_keeps(session o s):
 (step (.unlock session) o s).2.fired=s.fired∧(step (.unlock session) o s).2.clock=s.clock∧
  (step (.unlock session) o s).2.isLeader=s.isLeader:=by
 simp only[step,State.release]
 split_ifs<;>exact ⟨rfl,rfl,rfl⟩
omit h in
lemma endSession_keeps(s:State)(session:Nat):
 (s.endSession session).fired=s.fired∧(s.endSession session).clock=s.clock∧
  (s.endSession session).isLeader=s.isLeader:=by
 simp only[State.endSession,State.release]
 split_ifs<;>exact ⟨rfl,rfl,rfl⟩
lemma Exclusive.campaign(hn:ns[k]? = some (.campaigning inst))
 (hall:(Stage.campaigning inst).allows c)(hc:calm s ns k c o):
 Exclusive (step c o s).2 (ns.set k ((Stage.campaigning inst).next cfg c (step c o s).1)):=by
 cases c with
 | stopped | wake=>exact h.stay hn rfl le_rfl rfl
 | acquire=>
  simp only[step]
  split_ifs<;>exact h.stay hn rfl le_rfl rfl
 | tryLock session=>
  obtain ⟨hfired,hclock,hleader,hgrants⟩:=tryLock_keeps session o s
  cases hres:(step (.tryLock session) o s).1 with
  | none=>exact h.stay hn hfired hclock.symm.le hleader
  | some got=>
   cases got with
   | false=>exact h.stay hn hfired hclock.symm.le hleader
   | true=>exact h.elect hn hfired hclock hleader (hc (hgrants hres) _ hn)
 | set j v=>
  obtain ⟨rfl,rfl⟩:=hall
  refine h.move rfl le_rfl (fun i hi=>(by cases hi)) (fun i hi=>?_) (fun _ _=>trivial) nofun
  have hold:s.isLeader i:=by
   by_cases hij:i=j
   ·subst hij
    simp[step] at hi
   ·simpa[step,update_of_ne hij] using hi
  exact mem_set_of_ne (h.flag i hold) hn (by simp)
 | _=>cases hall
lemma Exclusive.lead(hn:ns[k]? = some (.elected inst))
 (hall:(Stage.elected inst).allows c):
 Exclusive (step c o s).2 (ns.set k ((Stage.elected inst).next cfg c (step c o s).1)):=by
 cases c with
 | stopped | wake | ping session=>exact h.stay hn rfl le_rfl rfl
 | unlock session=>
  obtain ⟨hfired,hclock,hleader⟩:=unlock_keeps session o s
  exact h.stay hn hfired hclock.symm.le hleader
 | close session=>
  obtain ⟨hfired,hclock,hleader⟩:=endSession_keeps s session
  simp only[step]
  split_ifs
  ·exact h.stay hn rfl le_rfl rfl
  ·exact h.stay hn hfired hclock.symm.le hleader
 | set j v=>
  obtain rfl:j=inst:=hall
  have hold:∀ i,i≠j→(step (.set j v) o s).2.isLeader i → .elected i∈ns:=by
   intro i hij hi
   exact h.flag i (by simpa[step,update_of_ne hij] using hi)
  have hk:=(List.getElem?_eq_some_iff.1 hn).1
  cases v with
  | false=>
   refine h.move rfl le_rfl (fun i hi=>(by cases hi)) (fun i hi=>?_) (fun _ _=>trivial) nofun
   have hij:i≠j:=by
    rintro rfl
    simp[step] at hi
   exact mem_set_of_ne (hold i hij hi) hn (by simpa using hij)
  | true=>
   refine h.move rfl le_rfl (fun i hi=>⟨_,mem_of_getElem? hn,hi⟩) (fun i hi=>?_) (fun _ _=>trivial)
    nofun
   by_cases hij:i=j
   ·subst hij
    exact mem_of_getElem? (getElem?_set_self hk)
   ·exact mem_set_of_ne (hold i hij hi) hn (by simpa using hij)
 | _=>cases hall
lemma Exclusive.past_now(hnow:s.clock ≤ now):∀ f∈s.fired,f.due ≤ now:=
 fun f hf=>(h.past f hf).trans hnow
omit h in
lemma ahead_anchor(hpast:∀ f∈s.fired,f.due ≤ now):Ahead s inst (anchor cfg now):=
 ahead_later hpast (fun k t ht=>cfg.later k now t ht)
omit h in
lemma Ahead.rescan(h:Ahead s inst next)(hpast:∀ f∈s.fired,f.due ≤ now):
 Ahead s inst (rescan cfg now next):=by
 intro f hf hne t ht
 unfold SchedulerLeader.rescan at ht
 cases hk:next f.key with
 | some u=>
  rw[hk] at ht
  cases ht
  exact h f hf hne _ hk
 | none=>
  rw[hk] at ht
  exact (hpast f hf).trans_lt (cfg.later _ _ _ ht)
lemma Exclusive.observe{was}
 (hn:ns[k]? = some (.watching inst was next)):
 Exclusive s (ns.set k ((Stage.watching inst was next).next cfg (.isLeader inst) (s.isLeader inst))):=by
 cases hf:s.isLeader inst with
 | false=>
  have hnext:(Stage.watching inst was next).next cfg (.isLeader inst) false=.watching inst false next:=by cases was<;>rfl
  rw[hnext]
  exact h.schedule hn (by simp) rfl le_rfl rfl nofun (fun _ _ _=>trivial) (by simp)
 | true=>
  have hengaged:∃ x∈ns,x.engaged=some inst:=⟨_,h.flag inst hf,rfl⟩
  cases was with
  | true=>
   refine h.schedule hn (by simp) rfl le_rfl rfl (fun i hi=>?_) (fun _ hg _=>hg) (by simp[Stage.next])
   cases hi
   exact hengaged
  | false=>
   refine h.schedule hn (by simp) rfl le_rfl rfl (fun i hi=>?_) (fun _ _ _=>trivial) (by simp[Stage.next])
   cases hi
   exact hengaged
lemma Exclusive.readClock(hn:ns[k]? = some n)(hall:n.allows .clock)
 (hc:s.clock ≤ o.now):Exclusive {s with clock:=o.now} (ns.set k (n.next cfg .clock o.now)):=by
 have hself:∀ i∈n.engaged,∃ x∈ns,x.engaged=some i:=fun i hi=>⟨n,mem_of_getElem? hn,hi⟩
 have hpast:=h.past_now hc
 cases n with
 | unseeded inst next=>
  exact h.schedule hn (by simp) rfl hc rfl nofun (fun _ _ _=>trivial) (by simp[Stage.next])
 | watching inst was next=>
  have hnext:(Stage.watching inst was next).next cfg .clock o.now=.watching inst was (rescan cfg o.now next):=by
   cases was<;>rfl
  rw[hnext]
  refine h.schedule hn (by simp) rfl hc rfl nofun (fun i hg _=>?_) (by simp)
  cases was with
  | true=>exact fun e=>((hg e).rescan hpast).same rfl
  | false=>trivial
 | taking inst=>
  refine h.schedule hn (by simp) rfl hc rfl hself (fun i _ _=>?_) (by simp[Stage.next])
  exact fun _=>(ahead_anchor hpast).same rfl
 | leading inst next=>
  exact h.schedule hn (by simp) rfl hc rfl (fun i hi=>⟨_,mem_of_getElem? hn,by rw[engaged_fired hi]; rfl⟩)
   (fun i hg _=>good_fired.2 fun e=>(hg e).same rfl) fun i now next hx=>(fired_eq hx).le
 | _=>cases hall
lemma Exclusive.call(hn:ns[k]? = some n)(hall:n.allows c)
 (hc:calm s ns k c o):Exclusive (step c o s).2 (ns.set k (n.next cfg c (step c o s).1)):=by
 cases n with
 | campaigning inst=>exact h.campaign hn hall hc
 | elected inst=>exact h.lead hn hall
 | unseeded inst next=>
  cases c with
  | clock=>exact h.readClock hn hall hc
  | isLeader j=>
   obtain rfl:j=inst:=hall
   refine h.schedule hn (by simp) rfl le_rfl rfl nofun (fun i _ _=>?_) (by simp[Stage.next])
   simp only[step,Stage.next]
   cases hf:s.isLeader j with
   | true=>exact fun e=>e▸hc _ hn hf
   | false=>trivial
  | _=>cases hall
 | watching inst was next=>
  cases c with
  | wake=>
   have hnext:∀ r,(Stage.watching inst was next).next cfg .wake r=.watching inst was next:=fun _=>by cases was<;>rfl
   rw[hnext]
   exact h.stay hn rfl le_rfl rfl
  | clock=>exact h.readClock hn hall hc
  | isLeader j=>
   obtain rfl:j=inst:=hall
   exact h.observe hn
  | _=>cases hall
 | taking inst | leading inst next=>
  cases c with
  | clock=>exact h.readClock hn hall hc
  | _=>cases hall
 | firing inst now next=>
  cases c with
  | fireGraph f=>
   obtain ⟨rfl,hdue,hnow⟩:=hall
   exact h.fire hn hdue hnow
  | _=>cases hall
 | other=>
  cases c with
  | sessionEnds session=>
   obtain ⟨hfired,hclock,hleader⟩:=endSession_keeps s session
   exact h.stay hn hfired hclock.symm.le hleader
  | _=>cases hall

end

end Step

lemma exclusive_of_reach{P}(hr:Reach (calmRuns cfg) (noInstances cfg) P):
 Exclusive P.state (standing P):=by
 refine (follows cfg).run_inv (A:=noInstances cfg) rfl (J:=Exclusive) ?_ ?_ ?_ hr
 ·exact ⟨nofun,nofun,nofun,nofun,nofun,
   nofun⟩
 ·intro P e _ _ h
  have hidle:(Stage.first e).engaged=none∧∀ inst,Good P.state inst (Stage.first e):=by
   cases e<;>exact ⟨rfl,fun _=>trivial⟩
  have hold:∀ x∈(stages cfg).stages P++[Stage.first e],∀ i∈x.engaged,x∈(stages cfg).stages P:=by
   intro x hx i hi
   rcases mem_append.1 hx with hx | hx
   ·exact hx
   ·rw[mem_singleton.1 hx,hidle.1] at hi
    cases hi
  refine ⟨fun x hx y hy i hi j hj=>h.one x (hold x hx i hi) y (hold y hy j hj) i hi j hj,
   fun i hi=>mem_append_left _ (h.flag i hi),fun x hx i hi y hy=>?_,h.past,fun i now next hx=>?_,h.unique⟩
  ·rcases mem_append.1 hy with hy | hy
   ·exact h.good x (hold x hx i hi) i hi y hy
   ·rw[mem_singleton.1 hy]
    exact hidle.2 i
  ·exact h.read i now next (hold _ hx i rfl)
 ·intro P k o c n _ ha hnext hn hall h
  exact h.call hn hall (ha c hnext)

/-- No two instances are leader at the same moment, and no instant of an entry is fired by
 two instances. -/
theorem one_scheduler_fires{P:Pool (machine cfg)}(hr:Reach (calmRuns cfg) (noInstances cfg) P):
 (∀ i j,P.state.isLeader i→P.state.isLeader j→i=j)∧
  ∀ f∈P.state.fired,∀ f'∈P.state.fired,f.key=f'.key→f.due=f'.due→f.inst=f'.inst:=by
 have h:=exclusive_of_reach hr
 exact ⟨fun i j hi hj=>h.one _ (h.flag i hi) _ (h.flag j hj) i rfl j rfl,h.unique⟩

instance (s:State)(inst:Nat)(n:Stage):Decidable (Good s inst n):=
 match n with
 | .watching i true _=>inferInstanceAs (Decidable (i=inst→_))
 | .leading i _=>inferInstanceAs (Decidable (i=inst→_))
 | .firing i _ _=>inferInstanceAs (Decidable (i=inst→_))
 | .watching _ false _ | .campaigning _ | .elected _ | .unseeded .. | .taking _ | .other=>inferInstanceAs (Decidable True)

instance (s:State)(ns:List Stage)(n:Stage):Decidable (ripe s ns n):=
 match n with
 | .campaigning inst=>inferInstanceAs (Decidable (∀ n∈ns,(∀ j∈n.engaged,j=inst)∧Good s inst n))
 | .watching .. | .elected _ | .unseeded .. | .taking _ | .leading .. | .firing .. | .other=>inferInstanceAs (Decidable True)

instance (s:State)(n:Stage):Decidable (seeded s n):=
 match n with
 | .unseeded _ _=>inferInstanceAs (Decidable (_→_))
 | .watching .. | .elected _ | .campaigning _ | .taking _ | .leading .. | .firing .. | .other=>inferInstanceAs (Decidable True)

instance (s:State)(ns:List Stage)(k:Nat)(c:Call)(o:Oracle):Decidable (calm s ns k c o):=
 match c with
 | .tryLock _=>inferInstanceAs (Decidable (_→∀ n∈ns[k]?,ripe s ns n))
 | .isLeader _=>inferInstanceAs (Decidable (∀ n∈ns[k]?,seeded s n))
 | .clock=>inferInstanceAs (Decidable (_≤_))
 | .stopped | .wake | .acquire | .ping _ | .unlock _ | .close _ | .sessionEnds _ | .set .. | .fireGraph _=>
  inferInstanceAs (Decidable True)

def everyTen:Config where
 keys:=["report"]
 nextFireFrom _ t:=some ((t / 10+1)*10)
 later _ t u h:=by
  cases h
  omega

abbrev Schedule:=List (Action (machine everyTen))

def times(i k:Nat)(o:Oracle):Schedule:=replicate k (.step i o)

/-- Programs 0 and 1 are the elections of the two instances, 2 and 3 their schedulers. -/
def bothStarted:Schedule:=
 [.start (.leader 0 [9]),.start (.leader 1 [9]),.start (.scheduler 0 9),.start (.scheduler 1 9)]++times 2 2 {}++times 3 2 {}

/-- Instance 0 takes the lock and sets its flag: the context is alive, acquire, lock, set. -/
def elects(i:Nat):Schedule:=times i 4 {}

def followed(l:Schedule):Pool (machine everyTen):=(noInstances everyTen).after (clockRuns everyTen) l

def takesOver(i now fires:Nat):Schedule:=times i (4+fires) {now:=now}

/-- Instance 0 leads, fires, unlocks and clears its flag; then instance 1 leads while the scheduler of 0 waits for
 its next tick. -/
def handedOver:Schedule:=
 bothStarted++elects 0++takesOver 2 1 0++times 2 4 {now:=12}++times 0 1 {wake:=.done} ++
  times 0 4 {}++elects 1++takesOver 3 13 0++times 3 4 {now:=22}

theorem handed_over_once:
 Reach (calmRuns everyTen) (noInstances everyTen) ((noInstances everyTen).after (calmRuns everyTen) handedOver)∧
 ∀ f∈((noInstances everyTen).after (calmRuns everyTen) handedOver).state.fired,
  ∀ f'∈((noInstances everyTen).after (calmRuns everyTen) handedOver).state.fired,
   f.key=f'.key→f.due=f'.due→f.inst=f'.inst:=
 have hr:Reach (calmRuns everyTen) (noInstances everyTen) ((noInstances everyTen).after (calmRuns everyTen) handedOver):=
  reach_after (by decide +kernel)
 ⟨hr,(one_scheduler_fires hr).2⟩

def unlockedFirst:Schedule:=bothStarted++elects 0++times 0 2 {wake:=.done}++elects 1

/-- The session of instance 0 is gone, and its next ping is still to come: both instances fire. -/
def connectionLost:Schedule:=
 bothStarted++elects 0++takesOver 2 1 0++[.start (.connectionLoss 0)]++times 4 1 {}++elects 1++takesOver 3 5 0 ++
  times 2 4 {now:=12}++times 3 4 {now:=12}

/-- The scheduler of instance 1 has its entries before instance 0 fires, and first reads its
 flag after it has taken over. -/
def seededAsLeader:Schedule:=
 [.start (.leader 0 [9]),.start (.leader 1 [9]),.start (.scheduler 0 9),.start (.scheduler 1 9)]++times 2 2 {}++times 3 1 {} ++
  elects 0++takesOver 2 1 0++times 2 4 {now:=12}++times 2 1 {wake:=.done}++times 0 1 {wake:=.done} ++
  times 0 4 {}++elects 1++times 3 5 {now:=13}

def firedTwice(P:Pool (machine everyTen)):Bool:=
 P.state.fired.any (fun f=>P.state.fired.any fun f'=>f.key=f'.key∧f.due=f'.due∧f.inst≠f'.inst)

theorem two_schedulers_fire:
 (Reach (clockRuns everyTen) (noInstances everyTen) (followed unlockedFirst)∧
  (followed unlockedFirst).state.isLeader 0∧(followed unlockedFirst).state.isLeader 1)∧
 (Reach (clockRuns everyTen) (noInstances everyTen) (followed connectionLost)∧firedTwice (followed connectionLost))∧
 Reach (clockRuns everyTen) (noInstances everyTen) (followed seededAsLeader)∧firedTwice (followed seededAsLeader)∧
  (followed seededAsLeader).state.isLeader 0=false:=
 ⟨⟨reach_after (by decide +kernel),by decide +kernel,by decide +kernel⟩,
  ⟨reach_after (by decide +kernel),by decide +kernel⟩,reach_after (by decide +kernel),by decide +kernel,by decide +kernel⟩

end Dazyflow.SchedulerLeader
