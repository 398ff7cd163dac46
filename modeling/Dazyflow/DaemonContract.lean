import Dazyflow.ReadSpecs

/-!
# The contract of the daemon's operations

What every operation of the daemon may count on while others run beside it, and what it owes them.
-/
namespace Dazyflow.DaemonContract
open JobRecords MemoryStore StoreOperations
open Daemon RunRecords ReadSpecs Interleaving Interleaving.Contract

def nodeRun(m:Memory)(id:String):List String:=((m.get id).map JobRecord.graphRunID).toList

/-- A step was to fail for a refused child, but had ended while its run went on. -/
def slips(m:Memory):Site→(op:StoreOp)→Except StoreError op.Val→Bool
 | .submitChildFailed,.complete id .failed _,.error _=>(nodeRun m id).any (fun run=>!runOver m run)
 | _,_,_=>false

structure Note where
 slipped:Bool:=false

def Note.store(n:Note)(m:Memory)(site:Site)(op:StoreOp)(res:Except StoreError op.Val):Note where
 slipped:=n.slipped||slips m site op res

variable (env:Env)

def Note.after(n:Note):Event (daemon env)→Note
 | ⟨w,.store site op,res,_⟩=>n.store w.store site op res
 | _=>n

/-- An operation does not forget that it slipped. -/
def Note.Le(n n':Note):Prop:=n.slipped → n'.slipped

lemma Note.Le.refl(n:Note):n.Le n:=fun h=>h
lemma Note.Le.trans{a b c:Note}(h:a.Le b)(k:b.Le c):a.Le c:=fun hs=>k (h hs)
lemma Note.le_store(n:Note)(m:Memory)(site:Site)(op:StoreOp)
 (res:Except StoreError op.Val):n.Le (n.store m site op res):=
 fun h=>by simp[Note.store,h]
lemma Note.le_after(n:Note)(e:Event (daemon env)):n.Le (n.after env e):=by
 obtain ⟨w,c,res,w'⟩:=e
 cases c with
 | store site op=>exact n.le_store w.store site op res
 | pause op | charge worker run bytes | ask q=>exact .refl n

variable {site:Site}{m:Memory}{n:Note}

lemma Note.after_quiet(n:Note)(e:Event (daemon env))(h:Quiet e.call):n.after env e=n:=by
 obtain ⟨w,c,res,w'⟩:=e
 cases c with
 | store site op=>
  have hs:slips w.store site op res=false:=by
   rcases h.2 with rfl | rfl<;>cases op<;>rfl
  simp[Note.after,Note.store,hs]
 | pause op | charge worker run bytes | ask q=>rfl

structure Sanctioned(n:Note)(m:Memory)(site:Site)(op:StoreOp):Prop where
 keeps:∀ tenant,op≠.deleteByTenant tenant
 adds:∀ rec∈op.additions,WellMade m rec
 starts:∀ rec∈op.additions,rec.kind=.graph → rec.status=.running∨rec.status=.queued
 requeues:∀ id worker availableAt,op.requeuing=some (id,worker,availableAt)→
  ∀ r,m.get id=some r → r.kind=.node
 succeeds:∀ id worker result,op.completion=some (id,worker,.succeeded,result)→
  ∀ g,RunOf m id g→AllDone m g id
 finalizes:site=.finalize→∀ id result,op=.complete id .failed result→∀ g,RunOf m id g→
  FailedStep m g id∨runOver m id∨n.slipped
 readies:site=.enqueueReady→∀ rec∈op.additions,Ready m rec

lemma Sanctioned.ready{op}(h:Sanctioned n m .plain op)(hr:∀ rec∈op.additions,Ready m rec):
 Sanctioned n m .enqueueReady op:=
 {h with finalizes:=nofun,readies:=fun _=>hr}

def freeSite:Site→Bool
 | .finalize | .enqueueReady=>false
 | _=>true

section

variable (hsite:freeSite site)

include hsite

lemma Sanctioned.of_free{op}
  (keeps:∀ tenant,op≠.deleteByTenant tenant)
  (adds:∀ rec∈op.additions,WellMade m rec∧
   (rec.kind=.graph → rec.status=.running∨rec.status=.queued))
  (requeues:∀ id worker availableAt,op.requeuing=some (id,worker,availableAt)→
   ∀ r,m.get id=some r → r.kind=.node)
  (succeeds:∀ id worker result,op.completion=some (id,worker,.succeeded,result)→
   ∀ g,RunOf m id g→AllDone m g id):Sanctioned n m site op where
 keeps:=keeps
 adds rec hr:=(adds rec hr).1
 starts rec hr:=(adds rec hr).2
 requeues:=requeues
 succeeds:=succeeds
 finalizes h:=by subst h; cases hsite
 readies h:=by subst h; cases hsite

/-- Reads, claims, renewals and moves of a run between its live statuses. -/
def idleOp:StoreOp→Bool
 | .claim .. | .renew .. | .setGraphRunParked .. | .markGraphRunning _ | .markGraphRunningCapped .. =>true
 | op=>reads op

lemma Sanctioned.of_idle{op}
 (hop:idleOp op):Sanctioned n m site op:=by
 refine .of_free hsite ?_ ?_ ?_ ?_
 ·rintro tenant rfl
  cases hop
 all_goals cases op<;>first | (intro _ h; cases h; done) | (intro _ _ _ h; cases h; done) | cases hop
lemma Sanctioned.of_complete{op id worker}
 {status result}
 (hop:op.completion=some (id,worker,status,result))(hadd:op.additions=[])
 (hs:status=.succeeded→∀ g,RunOf m id g→AllDone m g id):Sanctioned n m site op:=by
 refine .of_free hsite ?_ ?_ ?_ ?_
 ·rintro tenant rfl
  cases hop
 ·intro rec hr
  rw[hadd] at hr
  cases hr
 ·intro id' worker' availableAt hq
  cases op<;>first | cases hop; done | cases hq
 ·intro id' worker' result' hc
  rw[hop] at hc
  cases hc
  exact hs rfl
lemma Sanctioned.of_enqueue{rec}
 (hrec:WellMade m rec)
 (hg:rec.kind=.graph → rec.status=.running∨rec.status=.queued):Sanctioned n m site (.enqueue rec):=by
 refine .of_free hsite nofun ?_ nofun nofun
 intro rec' hr
 rw[List.mem_singleton.1 hr]
 exact ⟨hrec,hg⟩
lemma Sanctioned.of_requeue{id worker availableAt}
 (hk:∀ r,m.get id=some r → r.kind=.node):
 Sanctioned n m site (.requeueOwned id worker availableAt):=by
 refine .of_free hsite (fun _ h=>by cases h) (fun _ h=>by cases h) ?_ fun _ _ _ h=>by cases h
 intro id' worker' availableAt' hq
 cases hq
 exact hk

end

def Guarantee(n:Note):Call→World→Prop
 | .store site op,w=>Sanctioned n w.store site op
 | _,_=>True

def Lawful:Call→Oracle→Prop
 | .ask .newID,o=>SimpleID (o.answer .newID)∧o.answer .newID≠""
 | _,_=>True

lemma keep_guarantee(n c o w)
 (h:WellKept w.store∧Sound w.store)(hg:Guarantee n c w):
 Flows w.store (stepWorld env c o w).2.store∧
  (WellKept (stepWorld env c o w).2.store∧Sound (stepWorld env c o w).2.store):=by
 cases c with
 | store site op=>
  have hkind:∀ rec∈op.additions,rec.kind≠.unset:=by
   intro rec hr
   rcases hg.adds rec hr with ⟨hk,_⟩ | ⟨hk,_⟩<;>simp[hk]
  exact ⟨apply_flows o.now o.tie w.store op hg.keeps hg.requeues,
   h.1.apply o.now o.tie op hg.keeps hg.adds,
   h.2.apply o.now o.tie op hg.keeps hg.starts hkind hg.succeeds⟩
 | pause op | charge worker run bytes | ask q=>exact ⟨.refl _,h⟩

def Entered:Fn→Note→World→Prop
 | .dispatchReady g run _ _,_,w=>RunOf w.store run g
 | _,_,_=>True

@[reducible] def contract:Contract (daemon env) where
 inv w:=WellKept w.store∧Sound w.store
 rely w w':=Flows w.store w'.store
 rely_refl w:=.refl w.store
 rely_trans:=Flows.trans
 legal c o _:=Lawful c o
 Note:=Note
 blank _:={}
 note n e:=n.after env e
 guar n c w:=Guarantee n c w
 keep n c o w hi _ hg:=keep_guarantee env n c o w hi hg
 pre:=Entered
 post _ n _ _ n' _:=n.Le n'

lemma regular:Regular (contract env) where
 kept _ h:=h.1
 flows _ _ h:=h
 free n c w h:=by
  cases c with
  | store site op=>
   obtain ⟨hop,hsite⟩:=h
   refine Sanctioned.of_idle ?_ (by cases op<;>first | exact hop | rfl)
   rcases hsite with rfl | rfl<;>rfl
  | pause op | charge worker run bytes | ask q=>trivial
 still n e h:=n.after_quiet env e h

/-- Conditions that neither the others nor the operation's own calls can break. -/
def Growing(I:Note→World→Prop):Prop:=
 ∀ n n' s t,n.Le n'→Flows s.store t.store→WellKept t.store∧Sound t.store→I n s→I n' t

/-- What follows from the invariant and a condition. -/
abbrev Under(I P:Note→World→Prop):Prop:=∀ n w,(contract env).inv w→I n w→P n w

variable {env}{I J:Note→World→Prop}

lemma Growing.stable(h:Growing I):(contract env).Stable I:=
 fun n s t hr hi hIs=>h n n s t (.refl n) hr hi hIs
lemma Growing.and(hI:Growing I)(hJ:Growing J):
 Growing (fun n s=>I n s∧J n s):=
 fun n n' s t hle hf hi h=>⟨hI n n' s t hle hf hi h.1,hJ n n' s t hle hf hi h.2⟩
lemma Growing.of_store{φ:Memory→Prop}(h:∀ m m',Flows m m'→φ m→φ m'):
 Growing (fun _ s=>φ s.store):=
 fun _ _ s t _ hf _=>h s.store t.store hf
lemma growing_run(run g):Growing (fun _ s=>RunOf s.store run g):=
 .of_store (fun _ _ hf hr=>RunOf.later hr hf.toEvolves)
lemma growing_le(n₀:Note):Growing (fun n _=>n₀.Le n):=
 fun _ _ _ _ hle _ _ h=>h.trans hle
lemma triple_store(site:Site)(op:StoreOp){Q:Except StoreError op.Val→Note→World→Prop}
 (hI:Growing I)(hQ:∀ r,Growing (Q r))
 (hg:Under env I fun n w=>Sanctioned n w.store site op)
 (h:∀ n w now tie,(contract env).inv w→I n w→
  Q (apply now tie w.store op).1 (n.store w.store site op (apply now tie w.store op).1)
   {w with store:=(apply now tie w.store op).2}):
 (contract env).Triple I (storeAt site op) (fun r n w=>I n w∧Q r n w):=by
 refine triple_ask (S:=sig) hI.stable (fun r=>(hI.and (hQ r)).stable) hg ?_
 intro n w o hi hIw _ hr hinv
 exact ⟨hI n _ w _ (n.le_store w.store site op _) hr hinv hIw,h n w o.now o.tie hi hIw⟩
lemma triple_store_any{op}(hI:Growing I)
 (hg:Under env I fun n w=>Sanctioned n w.store site op):
 (contract env).Keeps I (storeAt site op):=
 triple_mono (triple_store site op (Q:=fun _ _ _=>True) hI (fun _ _ _ _ _ _ _ _ h=>h) hg
  (fun _ _ _ _ _ _=>trivial)) (fun _ _ _ h=>h) (fun _ _ _ _ h=>h.1)
lemma triple_open{c}(hI:Growing I)(hg:∀ n w,Guarantee n c w):
 (contract env).Keeps I (Interleaving.Prog.ask (S:=sig) c):=by
 refine triple_ask (S:=sig) hI.stable (fun _=>hI.stable) (fun n w _ _=>hg n w) ?_
 intro n w o _ hIw _ hr hinv
 exact hI n _ w _ (n.le_after env ⟨w,c,_,_⟩) hr hinv hIw
lemma triple_function{f}(hI:Growing I)
 (hpre:Under env I fun n w=>Entered f n w):
 (contract env).Keeps I (Interleaving.Prog.enter (S:=sig) f):=
 triple_enter hI.stable (fun _=>hI.stable) hpre
  fun n t _ n' u _ hIt hr hiu hle=>hI n n' t u hle hr hiu hIt
lemma triple_return{α:Type}{a:α}(hI:Growing I):
 (contract env).Keeps I (pure a):=
 triple_done hI.stable (fun _ _ _ h=>h)

end Dazyflow.DaemonContract
