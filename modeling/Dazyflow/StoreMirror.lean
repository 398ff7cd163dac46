import Dazyflow.PostgresJobs
import Dazyflow.StoreRuns
import Dazyflow.Submission

/-!
# The rows that mirror the records

The rows of the Postgres store mirror the records of the store in memory, and each operation keeps them so.
-/
namespace Dazyflow.StoresAgree
open JobRecords KeyedTable MemoryStore StoreOperations PostgresJobs List Function
open Postgres (batchSlot claimBefore completedRow completes enqueuedRow missOrConflict stepRow stepRows waits)
open Memory (batchClash claimed claimed_id completeLocked completed completed_id dependent enqueueAll enqueueDependents renewed renewed_id requeued requeued_id stamp startRunning)

def rowOf(r:JobRecord)(slot:Time):Row:=
 { id:=r.id,kind:=r.kind,graphRunID:=r.graphRunID,graphID:=r.graphID
   nodeID:=r.nodeID,tenant:=r.tenant,workspace:=r.workspace,status:=r.status
   graphPayload:=r.graphPayload,result:=r.result,enqueuedAt:=r.enqueuedAt
   availableAt:=r.availableAt,startedAt:=r.startedAt,finishedAt:=r.finishedAt
   attempt:=r.attempt,leaseUntil:=r.leaseUntil,workerID:=r.workerID
   parentNodeRecID:=r.parentNodeRecID,manual:=r.manual,slotAt:=slot}

lemma scanRecord_rowOf{r}(h:r.triggerDepth=0)(slot):
 scanRecord (rowOf r slot)=r:=by
 cases r
 subst h
 rfl

def slotAt(m:Memory)(k:String):Time:=(m.slots.lookup k).getD 0

def mirrored(m:Memory)(r:JobRecord):Row:=rowOf r (slotAt m r.id)

structure Mirrors(m:Memory)(p:Postgres):Prop where
 jobs:p.jobs.rows=m.records.rows.map (mirrored m)
 cap:p.maxConcurrent=m.maxConcurrent
 spacing:p.burstSpacing=m.burstSpacing

/-- What the records of such a run have in common at a clock reading. -/
structure Kept(now:Time)(m:Memory):Prop where
 slot:∀ k r,m.get k=some r→0<slotAt m k
 depth:∀ k r,m.get k=some r → r.triggerDepth=0
 run:∀ k r,m.get k=some r → r.graphRunID≠k
 available:∀ k r,m.get k=some r → r.kind=.node → r.status=.running→
  ∀ t,r.availableAt=some t→t ≤ now

lemma Kept.mono{t now m}(h:Kept t m)(hle:t ≤ now):Kept now m:=
 ⟨h.slot,h.depth,h.run,fun k r hr hk hs u hu=>(h.available k r hr hk hs u hu).trans hle⟩
lemma Mirrors.find?{m p}(h:Mirrors m p)(k):
 p.jobs.find? k=(m.get k).map (mirrored m):=by
 unfold Table.find?
 rw[h.jobs,find?_map]
 rfl
lemma Mirrors.get{m p now}(h:Mirrors m p)(hk:Kept now m)
 (k):p.get k=(apply now 0 m (.get k)).1:=by
 unfold Postgres.get
 simp only[apply]
 rw[h.find?]
 cases hr:m.get k with
 | none=>rfl
 | some r=>exact congrArg Except.ok (scanRecord_rowOf (hk.depth k r hr) _)
lemma countP_guard{m:Memory}{k:String}{r:JobRecord}(hr:m.get k=some r)
 (guard:JobRecord→Bool):
 m.records.rows.countP (fun b=>b.id==k&&guard b)=if guard r then 1 else 0:=by
 have hf:m.records.rows.filter (fun b=>b.id==k&&guard b)=[r].filter guard:=by
  rw[←filter_key hr,filter_filter]
  exact filter_congr fun b _=>Bool.and_comm _ _
 rw[countP_eq_length_filter,hf]
 by_cases hg:guard r=true<;>simp[hg]

section Update

variable {m:Memory}{p:Postgres}{k:String}{r:JobRecord}
 {cond:Row→Bool}{set:Row→Row}{keepRow:∀ r,(set r).id=r.id}
 (guard:JobRecord→Bool){f:JobRecord→JobRecord}(keep:∀ r,(f r).id=r.id)

lemma Mirrors.update(h:Mirrors m p)(hr:m.get k=some r)
 (hcond:∀ b slot,cond (rowOf b slot)=(b.id==k&&guard b))
 (hset:∀ b slot,set (rowOf b slot)=rowOf (f b) slot):
 (p.update cond set keepRow).1=(if guard r then 1 else 0)∧
  Mirrors (if guard r then m.update k f keep else m) (p.update cond set keepRow).2:=by
 have hrow:∀ b,cond (mirrored m b)=(b.id==k&&guard b):=fun b=>hcond b _
 constructor
 ·change p.jobs.rows.countP cond=_
  rw[h.jobs,countP_map,←countP_guard hr guard]
  exact congrArg (fun q=>m.records.rows.countP q) (funext hrow)
 ·have hmap:(p.update cond set keepRow).2.jobs.rows =
   m.records.rows.map (fun b=>if b.id=k∧guard r then mirrored m (f b) else mirrored m b):=by
   change p.jobs.rows.map (fun a=>if cond a then set a else a)=_
   rw[h.jobs,map_map]
   apply map_congr_left
   intro b hb
   simp only[comp_apply,hrow]
   by_cases hbk:b.id=k
   ·obtain rfl:b=r:=Option.some.inj ((mem_rows_get.1 hb).symm.trans (hbk▸hr))
    by_cases hg:guard b
    ·simp only[hbk,hg,beq_self_eq_true,Bool.and_self,if_true,and_self]
     rw[mirrored,hset,mirrored,keep]
    ·simp[hg]
   ·simp[hbk]
  refine ⟨?_,?_,?_⟩
  ·rw[hmap]
   by_cases hg:guard r
   ·simp only[hg,and_true,if_true]
    change _=(m.records.rows.map fun b=>if b.id=k then f b else b).map (mirrored m)
    rw[map_map]
    apply map_congr_left
    intro b _
    by_cases hbk:b.id=k<;>simp[hbk]
   ·simp only[hg,and_false,if_false,Bool.false_eq_true]
  ·rw[apply_ite Memory.maxConcurrent,show (m.update k f keep).maxConcurrent=m.maxConcurrent
    from rfl,ite_self]
   exact h.cap
  ·rw[apply_ite Memory.burstSpacing,show (m.update k f keep).burstSpacing=m.burstSpacing
    from rfl,ite_self]
   exact h.spacing
lemma Mirrors.guarded(h:Mirrors m p)(hr:m.get k=some r)
 (hcond:∀ b slot,cond (rowOf b slot)=(b.id==k&&guard b))
 (hset:∀ b slot,set (rowOf b slot)=rowOf (f b) slot):
 (p.guarded k cond set keepRow).1=(if guard r then .ok () else .error .conflict)∧
  Mirrors (if guard r then m.update k f keep else m) (p.guarded k cond set keepRow).2:=by
 obtain ⟨hn,hm⟩:(p.update cond set keepRow).1=(if guard r then 1 else 0)∧
  Mirrors (if guard r then m.update k f keep else m) (p.update cond set keepRow).2:=
  h.update guard keep hr hcond hset
 refine ⟨?_,hm⟩
 change (if (p.update cond set keepRow).1=0
  then .error ((p.update cond set keepRow).2.missOrConflict k) else Except.ok ())=_
 rw[hn]
 by_cases hg:guard r
 ·simp[hg]
 ·rw[if_neg hg] at hm
  rw[if_neg hg,if_pos rfl,if_neg hg,missOrConflict,hm.find?,hr]
  rfl

variable {keep}

lemma Kept.update{now}(h:Kept now m)(hr:m.get k=some r)(hj:SameJob r (f r))
 (ha:(f r).kind=.node→(f r).status=.running→∀ t,(f r).availableAt=some t→t ≤ now):
 Kept now (m.update k f keep):=by
 have hcases:∀ i x,(m.update k f keep).get i=some x→m.get i=some x∨i=k∧x=f r:=by
  intro i x hx
  rw[get_update] at hx
  split_ifs at hx with hi
  ·rw[hr] at hx
   exact .inr ⟨hi,(Option.some.inj hx).symm⟩
  ·exact .inl hx
 constructor
 ·intro i x hx
  rcases hcases i x hx with hx | ⟨rfl,_⟩
  ·exact h.slot i x hx
  ·exact h.slot i r hr
 ·intro i x hx
  rcases hcases i x hx with hx | ⟨rfl,rfl⟩
  ·exact h.depth i x hx
  ·exact hj.triggerDepth.trans (h.depth i r hr)
 ·intro i x hx
  rcases hcases i x hx with hx | ⟨rfl,rfl⟩
  ·exact h.run i x hx
  ·exact hj.graphRunID▸h.run i r hr
 ·intro i x hx
  rcases hcases i x hx with hx | ⟨rfl,rfl⟩
  ·exact h.available i x hx
  ·exact ha

end Update

section Branches

variable {m:Memory}{k:String}{r:JobRecord}

def owns(worker:String)(r:JobRecord):Bool:=worker== ""||r.workerID==worker

lemma owns_eq_false{worker}:owns worker r=false↔worker≠""∧r.workerID≠worker:=by
 simp[owns]

def mayRequeue(worker:String)(r:JobRecord):Bool:=!isTerminalStatus r.status&&owns worker r

section

variable (hr:m.get k=some r)

include hr

lemma requeue_eq(worker availableAt):
 m.requeue k worker availableAt =
  if mayRequeue worker r then
   (.ok (),m.update k (requeued availableAt) (requeued_id availableAt))
  else (.error .conflict,m):=by
 unfold Memory.requeue
 rw[hr]
 by_cases ht:isTerminalStatus r.status
 ·simp[mayRequeue,ht]
 by_cases ho:owns worker r
 ·have hw:¬ (worker≠""∧r.workerID≠worker):=by
   rw[←owns_eq_false,ho]
   decide
  simp[mayRequeue,ht,ho,hw]
 ·have hw:=owns_eq_false.1 (Bool.eq_false_iff.2 ho)
  simp[mayRequeue,ht,ho,hw]

def mayRenew(worker:String)(r:JobRecord):Bool:=r.workerID==worker&&r.status==.running

lemma renew_eq(now worker lease):
 m.renew now k worker lease =
  if mayRenew worker r then
   (.ok (),m.update k (renewed now lease) (renewed_id now lease))
  else (.error .conflict,m):=by
 unfold Memory.renew
 rw[hr]
 by_cases hw:r.workerID=worker
 ·by_cases hs:r.status=.running<;>simp[mayRenew,hw,hs]
 ·simp[mayRenew,hw]

def mayComplete(worker:String)(status:JobStatus)(r:JobRecord):Bool:=
 !isTerminalStatus r.status&&!(status==.awaiting&&r.status==.awaiting)&&owns worker r

lemma completeLocked_eq(now worker){status}
 (hs:¬ (isTerminalStatus status=false∧status≠.awaiting))(result):
 m.completeLocked now k worker status result =
  if mayComplete worker status r then
   (.ok (),m.update k (completed now status result) (completed_id now status result))
  else (.error .conflict,m):=by
 unfold completeLocked
 rw[hr]
 by_cases ho:owns worker r
 ·have hw:¬ (worker≠""∧r.workerID≠worker):=by
   rw[←owns_eq_false,ho]
   decide
  by_cases ht:isTerminalStatus r.status
  ·simp[hw,hs,ht,mayComplete]
  by_cases ha:status=.awaiting∧r.status=.awaiting
  ·simp only[if_neg hw,if_neg hs,if_neg ht,if_pos ha]
   simp[mayComplete,ha]
  ·simp only[if_neg hw,if_neg hs,if_neg ht,if_neg ha]
   have hma:mayComplete worker status r:=by
    simp only[mayComplete,ho,Bool.and_true,Bool.and_eq_true,Bool.not_eq_true',
     Bool.and_eq_false_imp,beq_iff_eq,beq_eq_false_iff_ne]
    exact ⟨Bool.eq_false_iff.2 ht,fun h h'=>ha ⟨h,h'⟩⟩
   rw[if_pos hma]
 ·have hw:=owns_eq_false.1 (Bool.eq_false_iff.2 ho)
  simp[hw,mayComplete,ho]

def runIn(status:JobStatus)(r:JobRecord):Bool:=r.kind==.graph&&r.status==status

lemma setGraphRunParked_eq(parked):
 m.setGraphRunParked k parked =
  if runIn (if parked then .running else .awaiting) r then
   (.ok true,m.update k (Memory.withStatus (if parked then .awaiting else .running))
    (Memory.withStatus_id _))
  else (.ok false,m):=by
 unfold Memory.setGraphRunParked
 rw[hr]
 by_cases hk:r.kind=.graph
 ·by_cases hs:r.status=if parked then .running else .awaiting<;>simp[runIn,hk,hs]
 ·simp[runIn,hk]
lemma markGraphRunning_eq(now):
 m.markGraphRunning now k =
  if runIn .queued r then
   (.ok true,m.update k (startRunning now) (Memory.startRunning_id now))
  else (.ok false,m):=by
 unfold Memory.markGraphRunning
 rw[hr]
 by_cases hk:r.kind=.graph
 ·by_cases hs:r.status=.queued<;>simp[runIn,hk,hs]
 ·simp[runIn,hk]

end

end Branches

def Agree{α:Type}(now:Time)(pg:Except StoreError α×Postgres)
 (mem:Except StoreError α×Memory):Prop:=
 pg.1=mem.1∧Mirrors mem.2 pg.2∧Kept now mem.2

section Transitions

variable {m:Memory}{p:Postgres}{now:Time}{k:String}{r:JobRecord}
 (h:Mirrors m p)(hk:Kept now m)(hr:m.get k=some r)

include h hk hr

lemma agree_requeue(worker availableAt):Agree now (p.requeue k worker availableAt) (m.requeue k worker availableAt):=by
 obtain ⟨ho,hm⟩:(p.requeue k worker availableAt).1=_∧
  Mirrors (if mayRequeue worker r then
   m.update k (requeued availableAt) (requeued_id availableAt) else m)
   (p.requeue k worker availableAt).2:=
  h.guarded (mayRequeue worker) (requeued_id availableAt) hr (fun _ _=>rfl) (fun _ _=>rfl)
 unfold Agree
 rw[requeue_eq hr]
 by_cases hg:mayRequeue worker r
 ·rw[if_pos hg] at ho hm ⊢
  exact ⟨ho,hm,hk.update hr (by constructor<;>rfl) nofun⟩
 ·rw[if_neg hg] at ho hm ⊢
  exact ⟨ho,hm,hk⟩
lemma agree_renew(worker lease):Agree now (p.renew now k worker lease) (m.renew now k worker lease):=by
 obtain ⟨ho,hm⟩:(p.update (fun b=>b.id==k&&(b.workerID==worker&&b.status==.running))
  (fun b=>{b with leaseUntil:=some (now+lease)}) fun _=>rfl).1=_∧
   Mirrors (if mayRenew worker r then
    m.update k (renewed now lease) (renewed_id now lease) else m)
    (p.renew now k worker lease).2:=
  h.update (mayRenew worker) (renewed_id now lease) hr (fun _ _=>rfl) (fun _ _=>rfl)
 unfold Agree Postgres.renew
 rw[renew_eq hr]
 by_cases hg:mayRenew worker r
 ·rw[if_pos hg] at ho hm ⊢
  refine ⟨?_,hm,hk.update hr (by constructor<;>rfl) ?_⟩
  ·simp only[ho]
   rfl
  ·exact fun hn hs=>hk.available k r hr hn hs
 ·rw[if_neg hg] at ho hm ⊢
  refine ⟨?_,hm,hk⟩
  simp only[ho]
  rfl
omit h in
lemma Kept.completed{status}
 (hs:¬ (isTerminalStatus status=false∧status≠.awaiting))(result):
 Kept now (m.update k (completed now status result) (completed_id now status result)):=by
 refine hk.update hr (by constructor<;>rfl) ?_
 intro _ hrun
 obtain rfl:status=.running:=hrun
 exact absurd ⟨rfl,nofun⟩ hs
omit h hk hr in
lemma rowOf_completed(status result b slot):
 completedRow now status result (rowOf b slot) =
  rowOf (completed now status result b) slot:=by
 by_cases hs:status=.awaiting <;>
  simp[completedRow,completed,rowOf,hs]
lemma agree_complete(worker status result):
 Agree now (p.complete now k worker status result) (m.completeLocked now k worker status result):=by
 unfold Agree Postgres.complete
 by_cases hs:isTerminalStatus status=false∧status≠.awaiting
 · -- both refuse the status, whatever they check first
  have hc:m.completeLocked now k worker status result=(.error .conflict,m):=by
   unfold completeLocked
   rw[hr]
   simp only[if_pos hs,ite_self]
  rw[if_pos hs,hc]
  exact ⟨rfl,h,hk⟩
 ·obtain ⟨ho,hm⟩:(p.guarded k (fun b=>b.id==k&&completes worker status b)
   (completedRow now status result) fun _=>rfl).1=_∧
    Mirrors (if mayComplete worker status r then
     m.update k (completed now status result) (completed_id now status result) else m) _:=
   h.guarded (mayComplete worker status) (completed_id now status result) hr
    (fun _ _=>rfl) (rowOf_completed status result)
  rw[if_neg hs,completeLocked_eq hr now worker hs]
  by_cases hg:mayComplete worker status r
  ·rw[if_pos hg] at ho hm ⊢
   exact ⟨ho,hm,hk.completed hr hs result⟩
  ·rw[if_neg hg] at ho hm ⊢
   exact ⟨ho,hm,hk⟩
lemma agree_flip{cond set keepRow source f keep mem}
 (hcond:∀ b slot,cond (rowOf b slot)=(b.id==k&&runIn source b))
 (hset:∀ b slot,set (rowOf b slot)=rowOf (f b) slot)(hj:SameJob r (f r))
 (hmem:mem=if runIn source r then (.ok true,m.update k f keep) else (.ok false,m)):
 Agree now (.ok ((p.update cond set keepRow).1==1),(p.update cond set keepRow).2) mem:=by
 obtain ⟨ho,hm⟩:(p.update cond set keepRow).1=(if runIn source r then 1 else 0)∧
  Mirrors (if runIn source r then m.update k f keep else m) (p.update cond set keepRow).2:=
  h.update (runIn source) keep hr hcond hset
 subst hmem
 unfold Agree
 by_cases hgr:runIn source r
 ·rw[if_pos hgr] at ho hm ⊢
  refine ⟨by simp[ho],hm,hk.update hr hj ?_⟩
  intro hn
  rw[hj.kind,eq_of_beq (Bool.and_eq_true_iff.1 hgr).1] at hn
  cases hn
 ·rw[if_neg hgr] at ho hm ⊢
  exact ⟨by simp[ho],hm,hk⟩
lemma agree_setGraphRunParked(parked):Agree now (p.setGraphRunParked k parked) (m.setGraphRunParked k parked):=
 agree_flip h hk hr (fun _ _=>rfl) (fun _ _=>rfl)
  (by constructor<;>rfl) (setGraphRunParked_eq hr parked)
lemma agree_markGraphRunning:
 Agree now (p.markGraphRunning now k) (m.markGraphRunning now k):=by
 refine agree_flip h hk hr (fun _ _=>rfl) (fun b slot=>?_)
  (by constructor<;>rfl) (markGraphRunning_eq hr now)
 cases hb:b.startedAt with
 | none | some t=>simp[rowOf,startRunning,hb]

end Transitions

section Claims

variable {m:Memory}{p:Postgres}{now:Time}

lemma slotOf_eq(hk:Kept now m){r}(hr:r∈m.records.rows):
 m.slotOf r=slotAt m r.id:=by
 have hpos:=hk.slot r.id r (mem_rows_get.1 hr)
 unfold Memory.slotOf
 unfold slotAt at hpos ⊢
 cases hl:m.slots.lookup r.id with
 | none=>simp[hl] at hpos
 | some t=>rfl
lemma Mirrors.runningFor(h:Mirrors m p)(tenant):
 p.runningFor now tenant=m.runningFor now tenant:=by
 unfold Postgres.runningFor Memory.runningFor
 rw[h.jobs,countP_map]
 refine congrArg (fun q=>m.records.rows.countP q) (funext fun r=>?_)
 change (r.tenant==tenant&&r.kind==.node&&r.status==.running &&
  r.leaseUntil.any fun t=>decide (now<t))=_
 rw[Bool.and_comm,Bool.and_assoc,Bool.and_assoc,Bool.and_left_comm,Bool.and_comm (r.tenant==tenant)]
 ac_rfl
lemma Mirrors.claimable(h:Mirrors m p)(hk:Kept now m){r}
 (hr:r∈m.records.rows):p.claimable now (mirrored m r)=m.claimable now r:=by
 have hcap:(decide (p.maxConcurrent≤0)||decide ((p.runningFor now r.tenant:Int)<p.maxConcurrent)) =
  !(decide (0 < m.maxConcurrent)&&decide (m.maxConcurrent≤(m.runningFor now r.tenant:Int))):=by
  rw[h.cap,h.runningFor,Bool.not_and,←decide_not,←decide_not]
  simp only[not_lt,not_le]
 unfold Postgres.claimable Memory.claimable
 change (r.kind==.node&&(r.status==.queued&&!r.availableAt.any (fun t=>decide (now<t)) &&
  (decide (p.maxConcurrent≤0)||decide ((p.runningFor now r.tenant:Int)<p.maxConcurrent)) ||
  r.status==.running&&r.leaseUntil.any fun t=>decide (t<now)))=_
 rw[hcap]
 by_cases hn:r.kind=.node
 ·by_cases hq:r.status=.queued
  ·have hne:(JobStatus.queued==JobStatus.running)=false:=by decide
   simp[hn,hq,hne]
  ·have hq':(r.status==.queued)=false:=beq_eq_false_iff_ne.2 hq
   by_cases hs:r.status=.running
   ·have hav:r.availableAt.any (fun t=>decide (now<t))=false:=by
     cases ha:r.availableAt with
     | none=>rfl
     | some t=>
      have:=hk.available r.id r (mem_rows_get.1 hr) hn hs t ha
      simpa using this
    simp[hq',hav]
   ·have hs':(r.status==.running)=false:=beq_eq_false_iff_ne.2 hs
    simp[hq',hs']
 ·have hn':(r.kind==.node)=false:=beq_eq_false_iff_ne.2 hn
  simp[hn']
lemma claimBefore_eq(hk:Kept now m){a b}(ha:a∈m.records.rows)
 (hb:b∈m.records.rows):
 claimBefore (mirrored m a) (mirrored m b)=m.claimBefore a b:=by
 unfold Memory.claimBefore
 rw[slotOf_eq hk ha,slotOf_eq hk hb]
 change (decide (slotAt m a.id<slotAt m b.id) ||
  (slotAt m a.id==slotAt m b.id&&decide (a.enqueuedAt<b.enqueuedAt)))=_
 by_cases he:slotAt m a.id=slotAt m b.id<;>simp[he]
lemma Mirrors.heads(h:Mirrors m p)(hk:Kept now m):
 p.heads now=(m.heads now).map (mirrored m):=by
 have hc:p.jobs.rows.filter (p.claimable now) =
  (m.records.rows.filter (m.claimable now)).map (mirrored m):=by
  rw[h.jobs,filter_map]
  exact congrArg _ (filter_congr fun r hr=>h.claimable hk hr)
 unfold Postgres.heads Memory.heads
 simp only[hc,filter_map,all_map]
 refine congrArg _ (filter_congr fun r hr=>?_)
 have hrow:∀ c∈m.records.rows.filter (m.claimable now),
  claimBefore (mirrored m c) (mirrored m r)=m.claimBefore c r:=fun c hc=>
  claimBefore_eq hk (mem_of_mem_filter hc) (mem_of_mem_filter hr)
 simp only[comp_apply]
 rw[Bool.eq_iff_iff,all_eq_true,all_eq_true]
 refine forall₂_congr fun c hc=>?_
 rw[comp_apply,hrow c hc]
lemma agree_claim(h:Mirrors m p)(hk:Kept now m)(tie worker lease):
 Agree now (p.claim now tie worker lease) (m.claim now tie worker lease):=by
 unfold Agree Postgres.claim Memory.claim
 rw[h.heads hk,length_map,getElem?_map]
 cases hh:(m.heads now)[tie % (m.heads now).length]? with
 | none=>exact ⟨rfl,h,hk⟩
 | some r=>?_
 have hmem:=mem_of_getElem? hh
 simp only[Memory.heads,mem_filter] at hmem
 have hr:m.get r.id=some r:=mem_rows_get.1 hmem.1.1
 have hav:=(claimable_status hmem.1.2).2.1
 refine ⟨?_,?_,?_⟩
 ·have hd:(claimed now worker lease r).triggerDepth=0:=hk.depth r.id r hr
  exact congrArg Except.ok (scanRecord_rowOf hd (slotAt m r.id))
 ·have hm:Mirrors (if true then
   m.update r.id (claimed now worker lease) (claimed_id now worker lease) else m)
   (p.update (fun b=>b.id==r.id) (Postgres.claimedRow now worker lease) fun _=>rfl).2:=
   (h.update (fun _=>true) (claimed_id now worker lease) hr
    (fun b _=>(Bool.and_true _).symm) fun _ _=>rfl).2
  rw[if_pos rfl] at hm
  exact hm
 ·refine hk.update hr (by constructor<;>rfl) ?_
  exact fun _ _ t ht=>hav t ht

end Claims

structure Built(rec:JobRecord):Prop where
 enqueuedAt:rec.enqueuedAt=0
 availableAt:rec.availableAt=none
 startedAt:rec.startedAt=none
 finishedAt:rec.finishedAt=none
 leaseUntil:rec.leaseUntil=none
 workerID:rec.workerID=""
 run:rec.graphRunID≠rec.id

section Inserts

variable {m:Memory}{p:Postgres}{now:Time}

def waiting(m:Memory)(tenant:String):List Time:=
 (m.records.rows.filter fun r=>r.kind==.node&&r.status==.queued&&r.tenant==tenant).map
  fun r=>slotAt m r.id

lemma Mirrors.tail(h:Mirrors m p)(tenant):p.tail tenant=(waiting m tenant).max?:=by
 unfold Postgres.tail waiting
 rw[h.jobs,filter_map,map_map]
 rfl
lemma waiting_pos(hk:Kept now m){tenant t}(ht:t∈waiting m tenant):0<t:=by
 obtain ⟨r,hr,rfl⟩:=mem_map.1 ht
 exact hk.slot r.id r (mem_rows_get.1 (mem_of_mem_filter hr))
lemma foldl_max_eq{l:List Time}(hl:∀ t∈l,0<t):l.foldl max 0=l.max?.getD 0:=by
 cases l with
 | nil=>rfl
 | cons t rest=>
  rw[foldl_cons,max_eq_right (hl t mem_cons_self).le]
  rfl
lemma tailSlot_eq(hk:Kept now m)(tenant):
 m.tailSlot tenant=(waiting m tenant).max?.getD 0:=by
 rw[←foldl_max_eq fun t ht=>waiting_pos hk ht]
 unfold Memory.tailSlot waiting
 rw[foldl_map,foldl_filter]
 simp only[Bool.and_eq_true,beq_iff_eq,and_assoc,slotAt]
lemma slotFor_eq(h:Mirrors m p)(hk:Kept now m)(rec):
 m.slotFor rec =
  if rec.kind=.node∧rec.status=.queued∧0<p.burstSpacing then
   greatest rec.enqueuedAt ((p.tail rec.tenant).map fun t=>t+p.burstSpacing)
  else rec.enqueuedAt:=by
 unfold Memory.slotFor
 rw[h.spacing,h.tail]
 refine if_congr Iff.rfl ?_ rfl
 simp only[tailSlot_eq hk]
 cases ht:(waiting m rec.tenant).max? with
 | none=>simp[greatest]
 | some t=>
  have hpos:0<t:=waiting_pos hk (max?_mem ht)
  simp only[Option.getD_some,Option.map_some,greatest,ne_eq,hpos.ne',not_false_eq_true,true_and]
  split_ifs with hlt
  ·exact (max_eq_right hlt.le).symm
  ·exact (max_eq_left (not_lt.1 hlt)).symm

variable {rec:JobRecord}

lemma slotFor_pos(h:Mirrors m p)(hk:Kept now m)(hpos:0<rec.enqueuedAt):
 0 < m.slotFor rec:=by
 rw[slotFor_eq h hk]
 split_ifs
 ·cases (p.tail rec.tenant).map (fun t=>t+p.burstSpacing) with
  | none=>exact hpos
  | some t=>exact hpos.trans_le (le_max_left _ _)
 ·exact hpos
lemma slotAt_cons{k i slot}(hki:k≠i)(records):
 slotAt {m with records:=records,slots:=(i,slot)::m.slots} k=slotAt m k:=by
 unfold slotAt
 rw[lookup_cons,beq_false_of_ne hki]
lemma enqueueLocked_fresh(hm:m.get rec.id=none):
 m.enqueueLocked now rec=(.ok (),{ m with
  records:=m.records.insert (stamp now rec) hm
  slots:=(rec.id,m.slotFor (stamp now rec))::m.slots}):=by
 unfold Memory.enqueueLocked
 split
 ·next r hr=>cases hm.symm.trans hr
 ·rfl
lemma Mirrors.insert(h:Mirrors m p){row}
 (hrow:row=rowOf (stamp now rec) (m.slotFor (stamp now rec)))
 (hm:m.get rec.id=none)(hp:p.jobs.find? row.id=none):
 Mirrors (m.enqueueLocked now rec).2 {p with jobs:=p.jobs.insert row hp}:=by
 rw[enqueueLocked_fresh hm]
 refine ⟨?_,h.cap,h.spacing⟩
 change p.jobs.rows++[row]=(m.records.rows++[stamp now rec]).map _
 rw[map_append,map_singleton,h.jobs,hrow]
 congr 1
 ·apply map_congr_left
  intro r hr
  have hne:r.id≠rec.id:=(find?_eq_none_iff m.records rec.id).1 hm r hr
  rw[mirrored,mirrored,slotAt_cons hne]
 ·have hs:slotAt { m with
   records:=m.records.insert (stamp now rec) hm
   slots:=(rec.id,m.slotFor (stamp now rec))::m.slots} rec.id =
   m.slotFor (stamp now rec):=by
   unfold slotAt
   rw[lookup_cons,beq_self_eq_true]
   rfl
  exact congrArg (fun s=>[rowOf (stamp now rec) s]) hs.symm
lemma Kept.insert(h:Mirrors m p)(hk:Kept now m)(hnow:0<now)
 (hb:Built rec)(hd:rec.triggerDepth=0):Kept now (m.enqueueLocked now rec).2:=by
 rcases enqueueLocked_cases now m rec with ⟨_,_,he⟩ | ⟨hn,_,hg⟩
 ·rw[he]
  exact hk
 have hcases:∀ i x,(m.enqueueLocked now rec).2.get i=some x→
  i≠rec.id∧m.get i=some x∨i=rec.id∧x=stamp now rec:=by
  intro i x hx
  rw[hg] at hx
  split_ifs at hx with hi
  ·exact .inr ⟨hi,(Option.some.inj hx).symm⟩
  ·exact .inl ⟨hi,hx⟩
 constructor
 ·intro i x hx
  have hpos:0 < m.slotFor (stamp now rec):=by
   refine slotFor_pos h hk ?_
   simp only[stamp,hb.enqueuedAt,if_true]
   exact hnow
  unfold slotAt
  rw[enqueueLocked_fresh hn]
  change 0<(List.lookup i ((rec.id,m.slotFor (stamp now rec))::m.slots)).getD 0
  rw[lookup_cons]
  rcases hcases i x hx with ⟨hi,hx⟩ | ⟨rfl,_⟩
  ·rw[beq_false_of_ne hi]
   exact hk.slot i x hx
  ·rw[beq_self_eq_true]
   exact hpos
 ·intro i x hx
  rcases hcases i x hx with ⟨_,hx⟩ | ⟨_,rfl⟩
  ·exact hk.depth i x hx
  ·exact hd
 ·intro i x hx
  rcases hcases i x hx with ⟨_,hx⟩ | ⟨rfl,rfl⟩
  ·exact hk.run i x hx
  ·exact hb.run
 ·intro i x hx
  rcases hcases i x hx with ⟨_,hx⟩ | ⟨_,rfl⟩
  ·exact hk.available i x hx
  ·intro _ _ t ht
   cases hb.availableAt.symm.trans ht
lemma enqueuedRow_eq(h:Mirrors m p)(hk:Kept now m)(hb:Built rec):
 enqueuedRow now p rec =
  rowOf (stamp now rec) (m.slotFor (stamp now rec)):=by
 rw[slotFor_eq h hk]
 unfold enqueuedRow stamp rowOf
 simp only[hb.enqueuedAt,hb.availableAt,hb.startedAt,hb.finishedAt,hb.leaseUntil,hb.workerID,
  Option.isNone_none,Bool.and_true,if_true]
lemma agree_enqueue(h:Mirrors m p)(hk:Kept now m)(hnow:0<now)
 (hb:Built rec)(hd:rec.triggerDepth=0):
 Agree now (p.enqueue now rec) (m.enqueueLocked now rec):=by
 have hk':=hk.insert h hnow hb hd
 cases hm:m.get rec.id with
 | some r=>
  have hp:p.jobs.find? rec.id=some (mirrored m r):=by
   rw[h.find?,hm]
   rfl
  have hpe:p.enqueue now rec=(.error .conflict,p):=by
   unfold Postgres.enqueue
   split
   ·rfl
   ·next hn=>cases hp.symm.trans hn
  rcases enqueueLocked_cases now m rec with ⟨_,_,he⟩ | ⟨hn,_⟩
  ·rw[Agree,hpe,he]
   exact ⟨rfl,h,hk⟩
  ·cases hm.symm.trans hn
 | none=>
  have hp:p.jobs.find? rec.id=none:=by
   rw[h.find?,hm]
   rfl
  have hpe:p.enqueue now rec =
   (.ok (),{p with jobs:=p.jobs.insert (enqueuedRow now p rec) hp}):=by
   unfold Postgres.enqueue
   split
   ·next r hr=>cases hp.symm.trans hr
   ·rfl
  rcases enqueueLocked_cases now m rec with ⟨_,hr,_⟩ | ⟨_,ho,_⟩
  ·cases hm.symm.trans hr
  ·rw[Agree,hpe,ho]
   exact ⟨rfl,h.insert (enqueuedRow_eq h hk hb) hm hp,hk'⟩

end Inserts

structure BuiltStep(d:JobRecord):Prop where
 batchable:Daemon.batchableNode d
 depth:d.triggerDepth=0
 run:d.graphRunID≠d.id

/-- No dependent is offered twice, and one that has a record comes after the new ones. -/
def NewFirst(m:Memory)(deps:List JobRecord):Prop:=
 deps.Pairwise (fun a b=>a.id≠b.id∧((m.get a.id).isSome→(m.get b.id).isSome))

section Batches

variable {m:Memory}{p:Postgres}{now:Time}

variable {d:JobRecord}{tenant:String}{deps recs:List JobRecord}{tail:Option Time}{ord:Nat}

lemma BuiltStep.built(h:BuiltStep d):Built (dependent d):=by
 have hb:=h.batchable
 simp only[Daemon.batchableNode,Bool.and_eq_true,beq_iff_eq,Option.isNone_iff_eq_none] at hb
 obtain ⟨⟨⟨⟨⟨⟨⟨-,he⟩,ha⟩,hst⟩,hf⟩,hl⟩,hw⟩,-⟩:=hb
 exact ⟨he,ha,hst,hf,hl,hw,h.run⟩
lemma BuiltStep.stamp(h:BuiltStep d):
 stamp now d=stamp now (dependent d):=by
 have hb:=h.batchable
 simp only[Daemon.batchableNode,Bool.and_eq_true,Bool.or_eq_true,beq_iff_eq] at hb
 obtain ⟨⟨⟨⟨⟨⟨⟨⟨⟨⟨⟨⟨hk,hs⟩,-⟩,-⟩,-⟩,-⟩,-⟩,-⟩,-⟩,-⟩,-⟩,-⟩,-⟩:=hb
 unfold Memory.stamp dependent
 rcases hs with hs | hs<;>simp[hk,hs]
lemma stepRow_eq(h:BuiltStep d)(slot):
 stepRow now slot d.tenant d=rowOf (stamp now (dependent d)) slot:=by
 have hb:=h.batchable
 simp only[Daemon.batchableNode,Bool.and_eq_true,Bool.not_eq_true',beq_iff_eq,
  Option.isNone_iff_eq_none] at hb
 obtain ⟨⟨⟨⟨⟨⟨⟨⟨⟨⟨⟨-,hres⟩,hgp⟩,hpar⟩,hman⟩,he⟩,ha⟩,hst⟩,hf⟩,hl⟩,hw⟩,-⟩:=hb
 unfold stepRow stamp dependent rowOf
 simp[hres,hgp,hpar,hman,he,ha,hst,hf,hl,hw,isTerminalStatus]
lemma tail_insert{row}(hp:p.jobs.find? row.id=none)
 (hw:waits tenant row)(hle:∀ t,p.tail tenant=some t→t ≤ row.slotAt):
 Postgres.tail {p with jobs:=p.jobs.insert row hp} tenant=some row.slotAt:=by
 unfold Postgres.tail
 change (((p.jobs.rows++[row]).filter _).map Row.slotAt).max? = _
 rw[filter_append,filter_singleton,hw]
 change ((_++[row]).map Row.slotAt).max? = _
 rw[map_append,max?_eq_some_iff]
 refine ⟨mem_append_right _ mem_cons_self,fun t ht=>?_⟩
 rcases mem_append.1 ht with ht | ht
 · -- every slot before the insert is at most the tail
  cases htail:p.tail tenant with
  | none=>
   rw[Postgres.tail,max?_eq_none_iff] at htail
   rw[htail] at ht
   cases ht
  | some top=>exact ((max?_eq_some_iff.1 htail).2 t ht).trans (hle top htail)
 ·exact (mem_singleton.1 ht).le

structure Lined(now:Time)(m:Memory)(p:Postgres)(tail:Option Time)(tenant:String)
 (ord:Nat)(deps:List JobRecord):Prop where
 newFirst:NewFirst m deps
 sameTenant:∀ d∈deps,d.tenant=tenant
 next:(∃ d∈deps,m.get d.id=none)→
  greatest now ((p.tail tenant).map fun t=>t+p.burstSpacing) =
   greatest now (tail.map fun t=>t+p.burstSpacing)+p.burstSpacing*ord

lemma slotFor_dependent(h:Mirrors m p)(hk:Kept now m)(hb:BuiltStep d):
 m.slotFor (stamp now (dependent d)) =
  if 0<p.burstSpacing then greatest now ((p.tail d.tenant).map fun t=>t+p.burstSpacing)
  else now:=by
 have he:(stamp now (dependent d)).enqueuedAt=now:=by
  unfold stamp
  simp only[hb.built.enqueuedAt,if_true]
 rw[slotFor_eq h hk,he]
 refine if_congr ?_ rfl rfl
 exact ⟨fun hc=>hc.2.2,fun hc=>⟨rfl,rfl,hc⟩⟩
lemma le_greatest(a b):a ≤ greatest a b:=by
 cases b with
 | none=>exact le_rfl
 | some b=>exact le_max_left a b
lemma Lined.insert
 {row}(hl:Lined now m p tail tenant ord (d::deps))(hsp:0<p.burstSpacing)
 (hm:m.get d.id=none)(hp:p.jobs.find? row.id=none)
 (hw:waits tenant row)
 (hslot:row.slotAt=greatest now ((p.tail tenant).map fun t=>t+p.burstSpacing))
 (hget:∀ k,(m.enqueueLocked now (dependent d)).2.get k =
  if k=d.id then some (stamp now (dependent d)) else m.get k):
 Lined now (m.enqueueLocked now (dependent d)).2 {p with jobs:=p.jobs.insert row hp} tail
  tenant (ord+1) deps:=by
 obtain ⟨hhead,hrest⟩:=pairwise_cons.1 hl.newFirst
 have hsame:∀ e∈deps,(m.enqueueLocked now (dependent d)).2.get e.id=m.get e.id:=by
  intro e he
  rw[hget,if_neg (Ne.symm (hhead e he).1)]
 refine ⟨?_,fun e he=>hl.sameTenant e (mem_cons_of_mem _ he),fun _=>?_⟩
 ·refine hrest.imp_of_mem ?_
  intro a b ha hb hab
  rw[hsame a ha,hsame b hb]
  exact hab
 ·have hle:∀ t,p.tail tenant=some t→t ≤ row.slotAt:=by
   intro t ht
   rw[hslot,ht]
   exact (Int.le_add_of_nonneg_right hsp.le).trans (le_max_right _ _)
  have hnow:now ≤ row.slotAt:=hslot▸le_greatest now _
  rw[tail_insert hp hw hle,Option.map_some,greatest,
   max_eq_right (hnow.trans (Int.le_add_of_nonneg_right hsp.le)),hslot,
   hl.next ⟨d,mem_cons_self,hm⟩]
  change _+p.burstSpacing=_+p.burstSpacing*((ord+1:Nat):Int)
  rw[Int.natCast_add,Int.natCast_one,Int.mul_add,Int.mul_one,Int.add_assoc]
lemma Lined.skip
 (hl:Lined now m p tail tenant ord (d::deps))(hm:(m.get d.id).isSome):
 Lined now m p tail tenant (ord+1) deps:=by
 obtain ⟨hhead,hrest⟩:=pairwise_cons.1 hl.newFirst
 refine ⟨hrest,fun e he=>hl.sameTenant e (mem_cons_of_mem _ he),?_⟩
 rintro ⟨e,he,hn⟩
 have:=(hhead e he).2 hm
 rw[hn] at this
 cases this
lemma batchSlot_eq(h:Mirrors m p)(hk:Kept now m)
 (hb:BuiltStep d)(hm:m.get d.id=none)
 (hl:p.burstSpacing≤0∨Lined now m p tail tenant ord (d::deps)):
 batchSlot now p.burstSpacing tail ord =
  m.slotFor (stamp now (dependent d)):=by
 rw[slotFor_dependent h hk hb,batchSlot]
 by_cases hsp:0<p.burstSpacing
 ·rcases hl with hle | hl
  ·exact absurd hsp (not_lt.2 hle)
  ·rw[if_pos hsp,if_pos hsp,hl.sameTenant d mem_cons_self,hl.next ⟨d,mem_cons_self,hm⟩]
 ·rw[if_neg hsp,if_neg hsp]
lemma agree_dependents(hnow:0<now)(deps tail)
 (tenant ord m p)(h:Mirrors m p)(hk:Kept now m)
 (hb:∀ d∈deps,BuiltStep d)
 (hl:p.burstSpacing≤0∨Lined now m p tail tenant ord deps):
 (p.jobs.insertNew (stepRows now p.burstSpacing tail JobRecord.tenant ord deps)).1 =
  (m.enqueueDependents now deps).1∧
  Mirrors (m.enqueueDependents now deps).2 { p with
   jobs:=(p.jobs.insertNew
    (stepRows now p.burstSpacing tail JobRecord.tenant ord deps)).2}∧
  Kept now (m.enqueueDependents now deps).2:=by
 induction deps generalizing m p ord with
 | nil=>exact ⟨rfl,h,hk⟩
 | cons d rest ih=>
  have hbd:=hb d mem_cons_self
  have hbr:∀ e∈rest,BuiltStep e:=fun e he=>hb e (mem_cons_of_mem _ he)
  have hfind:=h.find? d.id
  rcases enqueueLocked_cases now m (dependent d) with ⟨r,hr,he⟩ | ⟨hn,ho,hg⟩
  · -- the step has a record: neither store inserts, and the ordinal moves on
   have hr':m.get d.id=some r:=hr
   have hne:¬ p.jobs.find? d.id=none:=by
    rw[hfind,hr']
    exact nofun
   have hpg:p.jobs.insertNew
    (stepRows now p.burstSpacing tail JobRecord.tenant ord (d::rest)) =
    p.jobs.insertNew
     (stepRows now p.burstSpacing tail JobRecord.tenant (ord+1) rest):=by
    rw[stepRows,Table.insertNew]
    exact dif_neg hne
   have hmem:m.enqueueDependents now (d::rest)=m.enqueueDependents now rest:=by
    rw[enqueueDependents,he]
    rfl
   rw[hpg,hmem]
   exact ih (ord+1) m p h hk hbr (hl.imp_right fun hl=>hl.skip (by simp[hr']))
  ·have hn':m.get d.id=none:=hn
   have hp:p.jobs.find? d.id=none:=by
    rw[hfind,hn']
    rfl
   have hslot:=batchSlot_eq h hk hbd hn' hl
   have hrow:stepRow now (batchSlot now p.burstSpacing tail ord) d.tenant d =
    rowOf (stamp now (dependent d))
     (m.slotFor (stamp now (dependent d))):=by
    rw[stepRow_eq hbd,hslot]
   have hpg:p.jobs.insertNew
    (stepRows now p.burstSpacing tail JobRecord.tenant ord (d::rest)) =
    (((p.jobs.insert (stepRow now (batchSlot now p.burstSpacing tail ord)
      d.tenant d) hp).insertNew
     (stepRows now p.burstSpacing tail JobRecord.tenant (ord+1) rest)).1+1,
    ((p.jobs.insert (stepRow now (batchSlot now p.burstSpacing tail ord)
      d.tenant d) hp).insertNew
     (stepRows now p.burstSpacing tail JobRecord.tenant (ord+1) rest)).2):=by
    rw[stepRows,Table.insertNew]
    exact dif_pos hp
   have hmem:m.enqueueDependents now (d::rest) =
    (((m.enqueueLocked now (dependent d)).2.enqueueDependents now rest).1+1,
     ((m.enqueueLocked now (dependent d)).2.enqueueDependents now rest).2):=by
    rw[enqueueDependents,ho]
    rfl
   rw[hpg,hmem]
   have hi:Mirrors (m.enqueueLocked now (dependent d)).2 _:=h.insert hrow hn' hp
   have hki:=hk.insert h hnow hbd.built hbd.depth
   obtain ⟨h1,h2,h3⟩:=ih (ord+1) _ _ hi hki hbr (by
    rcases hl with hsp | hl
    ·exact .inl hsp
    by_cases hsp:0<p.burstSpacing
    ·refine .inr (hl.insert hsp hn' hp ?_ ?_ hg)
     ·simp[waits,stepRow,hl.sameTenant d mem_cons_self]
     ·change batchSlot now p.burstSpacing tail ord=_
      rw[hslot,slotFor_dependent h hk hbd,if_pos hsp,hl.sameTenant d mem_cons_self]
    ·exact .inl (not_lt.1 hsp))
   exact ⟨congrArg (fun n=>n+1) h1,h2,h3⟩
lemma stepRows_tenant{first:JobRecord}(now spacing)
 (tail)(hs:∀ r∈recs,r.tenant=first.tenant)(ord):
 stepRows now spacing tail (fun _=>first.tenant) ord recs =
  stepRows now spacing tail JobRecord.tenant ord recs:=by
 induction recs generalizing ord with
 | nil=>rfl
 | cons r rest ih=>
  rw[stepRows,stepRows,hs r mem_cons_self,
   ih fun r' hr'=>hs r' (mem_cons_of_mem _ hr')]
lemma stepRows_ids(now spacing tail)(tenant:JobRecord→String)(ord)
 (recs):
 (stepRows now spacing tail tenant ord recs).map Row.id=recs.map JobRecord.id:=by
 induction recs generalizing ord with
 | nil=>rfl
 | cons r rest ih=>exact congrArg (fun l=>r.id::l) (ih (ord+1))
lemma batchClash_eq_false_iff(recs seen):
 m.batchClash recs seen=false↔
  (∀ r∈recs,m.get r.id=none∧r.id∉seen)∧(recs.map JobRecord.id).Nodup:=by
 induction recs generalizing seen with
 | nil=>simp[batchClash]
 | cons r rest ih=>
  simp only[batchClash,Bool.or_eq_false_iff,ih,forall_mem_cons,map_cons,
   nodup_cons,Option.isSome_eq_false_iff,Option.isNone_iff_eq_none,contains_eq_mem,
   decide_eq_false_iff_not]
  constructor
  ·rintro ⟨⟨hr,hs⟩,hrest,hnd⟩
   refine ⟨⟨⟨hr,hs⟩,fun e he=>⟨(hrest e he).1,not_mem_of_not_mem_cons (hrest e he).2⟩⟩,?_,hnd⟩
   intro hmem
   obtain ⟨e,he,hid⟩:=mem_map.1 hmem
   exact ne_of_not_mem_cons (hrest e he).2 hid
  ·rintro ⟨⟨⟨hr,hs⟩,hrest⟩,hnm,hnd⟩
   refine ⟨⟨hr,hs⟩,fun e he=>⟨(hrest e he).1,?_⟩,hnd⟩
   refine not_mem_cons_of_ne_of_not_mem ?_ (hrest e he).2
   exact fun hid=>hnm (hid▸mem_map_of_mem he)
lemma BuiltStep.enqueueLocked{r}(hb:BuiltStep r):
 m.enqueueLocked now (dependent r)=m.enqueueLocked now r:=by
 cases hm:m.get r.id with
 | none=>
  have hm':m.get (dependent r).id=none:=hm
  rw[enqueueLocked_fresh hm,enqueueLocked_fresh hm']
  simp only[Table.insert,hb.stamp]
  rfl
 | some x=>
  rcases enqueueLocked_cases now m r with ⟨_,_,ha⟩ | ⟨hn,_⟩
  ·rcases enqueueLocked_cases now m (dependent r) with ⟨_,_,hd⟩ | ⟨hn,_⟩
   ·rw[ha,hd]
   ·cases hm.symm.trans hn
  ·cases hm.symm.trans hn
lemma enqueueAll_eq(recs:List JobRecord)(m:Memory)(hb:∀ r∈recs,BuiltStep r)
 (ho:(m.enqueueAll now recs).1=.ok ()):
 m.enqueueDependents now recs=(recs.length,(m.enqueueAll now recs).2):=by
 induction recs generalizing m with
 | nil=>rfl
 | cons r rest ih=>
  have hsame:m.enqueueLocked now (dependent r)=m.enqueueLocked now r:=
   (hb r mem_cons_self).enqueueLocked
  rcases enqueueLocked_cases now m r with ⟨_,_,he⟩ | ⟨_,hok,_⟩
  ·rw[enqueueAll,he] at ho
   cases ho
  ·rw[enqueueAll,hok] at ho
   have hrest:=ih _ (fun e he=>hb e (mem_cons_of_mem _ he)) ho
   rw[enqueueDependents,hsame,hrest,enqueueAll,hok]
   rfl
lemma newFirst_of_fresh(hfree:∀ r∈recs,m.get r.id=none)
 (hnd:(recs.map JobRecord.id).Nodup):NewFirst m recs:=by
 refine (pairwise_map.1 hnd).imp_of_mem ?_
 intro a b ha _ hne
 refine ⟨hne,fun hs=>?_⟩
 rw[hfree a ha] at hs
 cases hs
lemma agree_enqueueNodes(h:Mirrors m p)(hk:Kept now m)(hnow:0<now)
 (hb:∀ r∈recs,BuiltStep r)
 (hs:∀ r∈recs,∀ r'∈recs,r.tenant=r'.tenant):
 Agree now (p.enqueueNodes now recs) (m.enqueueNodes now recs):=by
 cases recs with
 | nil=>exact ⟨rfl,h,hk⟩
 | cons first rest=>?_
 have htenant:∀ r∈first::rest,r.tenant=first.tenant:=
  fun r hr=>hs r hr first mem_cons_self
 have hrows:=stepRows_tenant now p.burstSpacing (p.tail first.tenant) htenant 0
 have hids:=stepRows_ids now p.burstSpacing (p.tail first.tenant) JobRecord.tenant 0
  (first::rest)
 -- the insert and the first pass over the batch refuse the same batches
 have hiff:(p.jobs.insertAll (stepRows now p.burstSpacing (p.tail first.tenant)
  JobRecord.tenant 0 (first::rest))).isSome↔m.batchClash (first::rest) []=false:=by
  rw[insertAll_isSome_iff,batchClash_eq_false_iff,hids]
  refine and_congr_left fun _=>?_
  have hfind:∀ k,p.jobs.find? k=none↔m.get k=none:=by
   intro k
   rw[h.find?,Option.map_eq_none_iff]
  simp only[hfind,not_mem_nil,not_false_eq_true,and_true]
  rw[←forall_mem_map (f:=Row.id) (P:=fun k=>m.get k=none),hids,forall_mem_map]
 unfold Agree Postgres.enqueueNodes Memory.enqueueNodes
 simp only[reduceCtorEq,if_false]
 rw[hrows]
 cases hall:p.jobs.insertAll (stepRows now p.burstSpacing (p.tail first.tenant)
  JobRecord.tenant 0 (first::rest)) with
 | none=>
  have hclash:m.batchClash (first::rest) []:=by
   rw[←Bool.not_eq_false,←hiff,hall]
   exact fun h=>by cases h
  rw[hclash]
  exact ⟨rfl,h,hk⟩
 | some jobs=>
  have hclear:m.batchClash (first::rest) []=false:=by
   rw[←hiff,hall]
   rfl
  obtain ⟨hfree,hnd⟩:=(batchClash_eq_false_iff _ _).1 hclear
  have hok:=StoreRuns.enqueueAll_ok now m (first::rest) [] m hclear fun k hk=>.inl hk
  have hdep:=enqueueAll_eq (first::rest) m hb hok
  obtain ⟨-,h2,h3⟩:=agree_dependents hnow (first::rest) (p.tail first.tenant) first.tenant 0 m p h
   hk hb (.inr ⟨newFirst_of_fresh (fun r hr=>(hfree r hr).1) hnd,htenant,fun _=>by simp⟩)
  rw[insertAll_eq_insertNew hall,hdep] at h2
  rw[hdep] at h3
  have hpair:m.enqueueAll now (first::rest)=(.ok (),(m.enqueueAll now (first::rest)).2):=
   Prod.ext hok rfl
  rw[hclear,hpair]
  exact ⟨rfl,h2,h3⟩

end Batches

section Completions

variable {m:Memory}{p:Postgres}{now:Time}{k:String}{r:JobRecord}

/-- Whether a completion spaces its dependents alike in both stores. -/
def Spaced(m:Memory)(jobID:String)(deps:List JobRecord):Prop:=
 m.burstSpacing≤0∨(m.get jobID).all (fun r=>r.status != .queued)∧NewFirst m deps

lemma tail_completed(h:Mirrors m p)(hr:m.get k=some r)(hq:r.status≠.queued)
 {worker status}
 (hs:¬ (isTerminalStatus status=false∧status≠.awaiting))(result)
 (tenant):
 (p.update (fun b=>b.id==k&&completes worker status b)
  (completedRow now status result) fun _=>rfl).2.tail tenant=p.tail tenant:=by
 have hsq:status≠.queued:=by
  rintro rfl
  exact hs ⟨rfl,nofun⟩
 unfold Postgres.tail
 change (((p.jobs.rows.map fun b=>if (b.id==k&&completes worker status b)
  then completedRow now status result b else b).filter _).map Row.slotAt).max? = _
 rw[filter_map,map_map]
 congr 1
 have hwaits:∀ b∈p.jobs.rows,waits tenant
  (if (b.id==k&&completes worker status b)
   then completedRow now status result b else b)=waits tenant b:=by
  intro b hb
  split_ifs with hc
  ·have hbk:b.id=k:=eq_of_beq (Bool.and_eq_true_iff.1 hc).1
   have hbr:b=mirrored m r:=by
    have hb':=(mem_rows_iff p.jobs b).1 hb
    rw[hbk,h.find?,hr] at hb'
    exact (Option.some.inj hb').symm
   have hbq:(b.status==.queued)=false:=beq_eq_false_iff_ne.2 (hbr▸hq)
   have hcq:(status==.queued)=false:=beq_eq_false_iff_ne.2 hsq
   simp[waits,completedRow,hcq,hbq]
  ·rfl
 refine (congrArg (List.map _) (filter_congr hwaits)).trans ?_
 apply map_congr_left
 intro b _
 simp only[comp_apply]
 split_ifs<;>rfl
lemma runStatusOf_completed(hk:Kept now m)(hr:m.get k=some r)(status)
 (result):
 (m.update k (completed now status result) (completed_id now status result)).runStatusOf k =
  ((m.get r.graphRunID).map JobRecord.status).getD .unset:=by
 unfold Memory.runStatusOf
 rw[get_update_self hr]
 dsimp only[completed]
 rw[get_update,if_neg (hk.run k r hr)]
 cases m.get r.graphRunID<;>rfl
lemma agree_completeAndEnqueue(h:Mirrors m p)(hk:Kept now m)(hnow:0<now)
 (hr:m.get k=some r)(worker status result)
 {deps}(hb:∀ d∈deps,BuiltStep d)(ht:∀ d∈deps,d.tenant=r.tenant)
 (hsp:Spaced m k deps):
 Agree now (p.completeAndEnqueue now k worker status result deps)
  (m.completeAndEnqueue now k worker status result deps):=by
 unfold Agree Postgres.completeAndEnqueue Memory.completeAndEnqueue
 by_cases hs:isTerminalStatus status=false∧status≠.awaiting
 ·have hc:m.completeLocked now k worker status result=(.error .conflict,m):=by
   unfold completeLocked
   rw[hr]
   simp only[if_pos hs,ite_self]
  rw[if_pos hs,hc]
  exact ⟨rfl,h,hk⟩
 ·rw[if_neg hs,completeLocked_eq hr now worker hs]
  have hfind:p.jobs.rows.find? (fun b=>b.id==k&&completes worker status b) =
   if mayComplete worker status r then some (mirrored m r) else none:=by
   rw[h.jobs,find?_map,←head?_filter]
   have hf:m.records.rows.filter ((fun b=>b.id==k&&completes worker status b) ∘ mirrored m)
    =[r].filter (mayComplete worker status):=by
    rw[←filter_key hr,filter_filter]
    exact filter_congr fun b _=>Bool.and_comm _ _
   rw[hf]
   by_cases hg:mayComplete worker status r=true<;>simp[hg]
  rw[hfind]
  by_cases hg:mayComplete worker status r
  ·rw[if_pos hg,if_pos hg]
   obtain ⟨-,hm⟩:_∧Mirrors (if mayComplete worker status r then
    m.update k (completed now status result) (completed_id now status result) else m)
     (p.update (fun b=>b.id==k&&completes worker status b)
      (completedRow now status result) fun _=>rfl).2:=
    h.update (mayComplete worker status) (completed_id now status result) hr
     (fun _ _=>rfl) (rowOf_completed status result)
   rw[if_pos hg] at hm
   have hk':=hk.completed hr hs result
   have hrun:(p.jobs.find? (mirrored m r).graphRunID).map Row.status =
    (m.get r.graphRunID).map JobRecord.status:=by
    rw[h.find?,Option.map_map]
    rfl
   have hterm:((m.get r.graphRunID).map JobRecord.status).any isTerminalStatus =
    isTerminalStatus (((m.get r.graphRunID).map JobRecord.status).getD .unset):=by
    cases m.get r.graphRunID<;>rfl
   simp only[hrun,runStatusOf_completed hk hr,hterm]
   by_cases hover:isTerminalStatus (((m.get r.graphRunID).map JobRecord.status).getD .unset)
   ·simp only[hover,if_true]
    exact ⟨trivial,hm,hk'⟩
   ·simp only[hover,if_false,Bool.false_eq_true]
    obtain ⟨h1,h2,h3⟩:=agree_dependents hnow deps (p.tail r.tenant) r.tenant 0 _ _ hm hk' hb (by
     refine hsp.imp (fun hle=>hm.spacing.trans_le hle) ?_
     rintro ⟨hq,hnew⟩
     rw[hr] at hq
     have hq:r.status≠.queued:=by simpa using hq
     refine ⟨?_,ht,fun _=>?_⟩
     ·refine hnew.imp ?_
      intro a b hab
      have hsome:∀ i,((m.update k (completed now status result)
        (completed_id now status result)).get i).isSome=(m.get i).isSome:=by
       intro i
       rw[get_update]
       split_ifs with hi
       ·rw[Option.isSome_map,hi]
       ·rfl
      rw[hsome,hsome]
      exact hab
     ·rw[tail_completed h hr hq hs result]
      change greatest now ((p.tail r.tenant).map fun t=>t+p.burstSpacing) =
       greatest now ((p.tail r.tenant).map fun t=>t+p.burstSpacing) +
        p.burstSpacing*((0:Nat):Int)
      rw[Int.natCast_zero,Int.mul_zero,Int.add_zero])
    refine ⟨?_,h2,h3⟩
    exact congrArg (fun n=>Except.ok (Advance.mk _ n)) h1
  ·rw[if_neg hg,if_neg hg]
   refine ⟨?_,h,hk⟩
   have:p.missOrConflict k=.conflict:=by
    rw[missOrConflict,h.find?,hr]
    rfl
   exact congrArg Except.error this

end Completions

end Dazyflow.StoresAgree
