import Dazyflow.MemoryStore

/-!
# Operations of the job store

The store's interface as one type of operations, and for each operation what it can do to a single record.
-/
namespace Dazyflow.StoreOperations
open JobRecords KeyedTable MemoryStore List
open Memory (claimed completed completed_id dependent enqueueAll requeued stamp startRunning withStatus)

inductive StoreOp
 | enqueue (rec:JobRecord)
 | enqueueNodes (recs:List JobRecord)
 | claim (worker:String)(lease:Int)
 | renew (jobID worker:String)(lease:Int)
 | requeue (jobID:String)(availableAt:Time)
 | requeueOwned (jobID worker:String)(availableAt:Time)
 | complete (jobID:String)(status:JobStatus)(result:Option Result)
 | completeOwned (jobID worker:String)(status:JobStatus)(result:Option Result)
 | completeAndEnqueue (jobID worker:String)(status:JobStatus)(result:Option Result)
  (deps:List JobRecord)
 | setGraphRunParked (graphRunID:String)(parked:Bool)
 | markGraphRunning (jobID:String)
 | markGraphRunningCapped (jobID tenant:String)(limit:Int)
 | claimUnnotified (lookback maxAttempts limit:Int)
 | releaseNotifyClaim (jobID:String)
 | setBurstSpacing (d:Int)
 | setMaxConcurrentPerTenant (n:Int)
 | get (jobID:String)
 | outcomes (jobIDs:List String)
 | listGraphRuns (opts:ListGraphRunsOpts)
 | listGraphRunsOldest (opts:ListGraphRunsOpts)
 | listNodeRecords (opts:ListNodeRecordsOpts)
 | deleteByTenant (tenant:String)
 deriving DecidableEq

@[reducible] def StoreOp.Val:StoreOp→Type
 | .enqueue _ | .renew .. | .requeue .. | .requeueOwned .. | .complete .. | .completeOwned ..
 | .releaseNotifyClaim _ | .setBurstSpacing _ | .setMaxConcurrentPerTenant _=>Unit
 | .enqueueNodes _ | .deleteByTenant _=>Nat
 | .claim .. | .get _=>JobRecord
 | .completeAndEnqueue .. =>Advance
 | .setGraphRunParked .. | .markGraphRunning _=>Bool
 | .markGraphRunningCapped .. =>Bool×Bool
 | .outcomes _=>List (String×NodeOutcome)
 | .claimUnnotified .. | .listGraphRuns _ | .listGraphRunsOldest _ | .listNodeRecords _=>
  List JobRecord

def apply(now:Time)(tie:Nat)(m:Memory):(op:StoreOp)→Except StoreError op.Val×Memory
 | .enqueue rec=>m.enqueueLocked now rec
 | .enqueueNodes recs=>m.enqueueNodes now recs
 | .claim worker lease=>m.claim now tie worker lease
 | .renew jobID worker lease=>m.renew now jobID worker lease
 | .requeue jobID availableAt=>m.requeue jobID "" availableAt
 | .requeueOwned jobID worker availableAt=>m.requeue jobID worker availableAt
 | .complete jobID status result=>m.completeLocked now jobID "" status result
 | .completeOwned jobID worker status result=>m.completeLocked now jobID worker status result
 | .completeAndEnqueue jobID worker status result deps=>
  m.completeAndEnqueue now jobID worker status result deps
 | .setGraphRunParked graphRunID parked=>m.setGraphRunParked graphRunID parked
 | .markGraphRunning jobID=>m.markGraphRunning now jobID
 | .markGraphRunningCapped jobID tenant limit=>m.markGraphRunningCapped now jobID tenant limit
 | .claimUnnotified lookback maxAttempts limit=>
  let r:=m.claimUnnotified now lookback maxAttempts limit
  (.ok r.1,r.2)
 | .releaseNotifyClaim jobID=>(.ok (),m.releaseNotifyClaim jobID)
 | .setBurstSpacing d=>(.ok (),{m with burstSpacing:=d})
 | .setMaxConcurrentPerTenant n=>(.ok (),{m with maxConcurrent:=n})
 | .get jobID=>(match m.get jobID with
  | some r=>.ok r
  | none=>.error .notFound,m)
 | .outcomes jobIDs=>(.ok (m.outcomes jobIDs),m)
 | .listGraphRuns opts=>(.ok (m.listGraphRuns opts),m)
 | .listGraphRunsOldest opts=>(.ok (m.listGraphRunsOldest opts),m)
 | .listNodeRecords opts=>(.ok (m.listNodeRecords opts),m)
 | .deleteByTenant tenant=>
  let r:=m.deleteByTenant tenant
  (.ok r.1,r.2)

lemma get_update(m:Memory)(id:String)(f:JobRecord→JobRecord)
 (keep:∀ r,(f r).id=r.id)(k:String):
 (m.update id f keep).get k=if k=id then (m.get id).map f else m.get k:=
 find?_modify m.records id f keep k

variable {m:Memory}{now:Time}{r:JobRecord}{op:StoreOp}{jobID id worker:String}{f:JobRecord→JobRecord}

lemma get_update_self
 {keep}(h:m.get id=some r):
 (m.update id f keep).get id=some (f r):=by
 rw[get_update,if_pos rfl,h]
 rfl
lemma get_id{k}(h:m.get k=some r):r.id=k:=
 key_of_find? h
lemma mem_rows_get:r∈m.records.rows↔m.get r.id=some r:=
 mem_rows_iff m.records r
lemma enqueueLocked_cases(now:Time)(m:Memory)(rec:JobRecord):
 (∃ r,m.get rec.id=some r∧m.enqueueLocked now rec=(.error .conflict,m))∨
 (m.get rec.id=none∧(m.enqueueLocked now rec).1=.ok ()∧
  ∀ k,(m.enqueueLocked now rec).2.get k =
   if k=rec.id then some (stamp now rec) else m.get k):=by
 unfold Memory.enqueueLocked
 split
 case h_1 r h=>exact .inl ⟨r,h,rfl⟩
 case h_2 h=>
  refine .inr ⟨h,rfl,fun k=>?_⟩
  exact find?_insert m.records (stamp now rec) h k
lemma completeLocked_cases(now:Time)(m:Memory)(jobID worker:String)(status:JobStatus)
 (result:Option Result):
 (∃ e,m.completeLocked now jobID worker status result=(.error e,m))∨
 ∃ r,m.get jobID=some r∧(worker=""∨r.workerID=worker)∧
  (isTerminalStatus status∨status=.awaiting)∧r.terminal=false∧
  ¬(status=.awaiting∧r.status=.awaiting)∧
  m.completeLocked now jobID worker status result =
   (.ok (),m.update jobID (completed now status result)
    (completed_id now status result)):=by
 unfold Memory.completeLocked
 split
 ·exact .inl ⟨_,rfl⟩
 case h_2 r h=>
  split_ifs with hw hs ht ha
  ·exact .inl ⟨_,rfl⟩
  ·exact .inl ⟨_,rfl⟩
  ·exact .inl ⟨_,rfl⟩
  ·exact .inl ⟨_,rfl⟩
  refine .inr ⟨r,h,?_,?_,by simpa[JobRecord.terminal] using ht,ha,rfl⟩
  ·by_cases hne:worker=""
   ·exact .inl hne
   ·exact .inr (by_contra fun hw'=>hw ⟨hne,hw'⟩)
  ·by_cases hst:isTerminalStatus status
   ·exact .inl hst
   ·exact .inr (by_contra fun h'=>hs ⟨by simpa using hst,h'⟩)
lemma requeue_cases(m:Memory)(jobID worker:String)(availableAt:Time):
 (∃ e,m.requeue jobID worker availableAt=(.error e,m))∨
 ∃ r,m.get jobID=some r∧(worker=""∨r.workerID=worker)∧r.terminal=false∧
  m.requeue jobID worker availableAt =
   (.ok (),m.update jobID (requeued availableAt) (Memory.requeued_id availableAt)):=by
 unfold Memory.requeue
 split
 ·exact .inl ⟨_,rfl⟩
 case h_2 r h=>
  split_ifs with ht hw
  ·exact .inl ⟨_,rfl⟩
  ·exact .inl ⟨_,rfl⟩
  ·refine .inr ⟨r,h,?_,by simpa[JobRecord.terminal] using ht,rfl⟩
   by_cases hne:worker=""
   ·exact .inl hne
   ·exact .inr (by_contra fun hw'=>hw ⟨hne,hw'⟩)
lemma claim_cases(now:Time)(tie:Nat)(m:Memory)(worker:String)(lease:Int):
 m.claim now tie worker lease=(.error .noJobs,m)∨
 ∃ r,m.get r.id=some r∧m.claimable now r∧
  m.claim now tie worker lease=(.ok (claimed now worker lease r),
   m.update r.id (claimed now worker lease)
    (Memory.claimed_id now worker lease)):=by
 unfold Memory.claim
 split
 ·exact .inl rfl
 case h_2 r h=>
  have hmem:=mem_of_getElem? h
  simp only[Memory.heads,mem_filter] at hmem
  exact .inr ⟨r,mem_rows_get.1 hmem.1.1,hmem.1.2,rfl⟩
lemma enqueueAll_get(now:Time)(recs:List JobRecord)(m:Memory)(k:String):
 (m.enqueueAll now recs).2.get k=m.get k∨
 m.get k=none∧∃ rec∈recs,rec.id=k∧
  (m.enqueueAll now recs).2.get k=some (stamp now rec):=by
 induction recs generalizing m with
 | nil=>exact .inl rfl
 | cons rec rest ih=>
  rcases enqueueLocked_cases now m rec with ⟨r,_,he⟩ | ⟨hn,ho,hg⟩
  ·exact .inl (by simp[enqueueAll,he])
  rw[enqueueAll,ho]
  change (enqueueAll now _ rest).2.get k=_∨_∧∃ _∈_,_∧
   (enqueueAll now _ rest).2.get k=_
  rcases ih (m.enqueueLocked now rec).2 with h | ⟨h,rec',hm,hid,h'⟩
  ·rw[h,hg k]
   split_ifs with hk
   ·exact .inr ⟨hk▸hn,rec,mem_cons_self,hk.symm,rfl⟩
   ·exact .inl rfl
  ·have hk:m.get k=none:=by
    rw[hg k] at h
    split_ifs at h
    exact h
   exact .inr ⟨hk,rec',mem_cons_of_mem _ hm,hid,h'⟩
lemma enqueueDependents_get(now:Time)(deps:List JobRecord)(m:Memory)(k:String):
 (m.enqueueDependents now deps).2.get k=m.get k∨
 m.get k=none∧∃ d∈deps,d.id=k∧
  (m.enqueueDependents now deps).2.get k=some (stamp now (dependent d)):=by
 induction deps generalizing m with
 | nil=>exact .inl rfl
 | cons d rest ih=>
  change ((m.enqueueLocked now (dependent d)).2.enqueueDependents now rest).2.get k=_∨_∧
   ∃ _∈_,_∧((m.enqueueLocked now (dependent d)).2.enqueueDependents now rest).2.get k=_
  have hstep:(m.enqueueLocked now (dependent d)).2.get k=m.get k∨
   m.get k=none∧d.id=k∧
    (m.enqueueLocked now (dependent d)).2.get k=some (stamp now (dependent d)):=by
   rcases enqueueLocked_cases now m (dependent d) with ⟨_,_,he⟩ | ⟨hn,_,hg⟩
   ·exact .inl (by rw[he])
   ·rw[hg k]
    split_ifs with hk
    ·exact .inr ⟨hk▸hn,hk.symm,rfl⟩
    ·exact .inl rfl
  rcases ih (m.enqueueLocked now (dependent d)).2 with h | ⟨h,d',hm,hid,h'⟩
  ·rw[h]
   rcases hstep with hs | ⟨hn,hid,hs⟩
   ·exact .inl hs
   ·exact .inr ⟨hn,d,mem_cons_self,hid,hs⟩
  ·rcases hstep with hs | ⟨_,_,hs⟩
   ·exact .inr ⟨hs▸h,d',mem_cons_of_mem _ hm,hid,h'⟩
   ·rw[hs] at h
    cases h
lemma completeAndEnqueue_cases(now:Time)(m:Memory)(jobID worker:String)
 (status:JobStatus)(result:Option Result)(deps:List JobRecord):
 (∃ e,m.completeLocked now jobID worker status result=(.error e,m)∧
  m.completeAndEnqueue now jobID worker status result deps=(.error e,m))∨
 ∃ m',m.completeLocked now jobID worker status result=(.ok (),m')∧
  (∃ adv:Advance,adv.runStatus=m'.runStatusOf jobID∧
   (m.completeAndEnqueue now jobID worker status result deps).1=.ok adv)∧
  (m.completeAndEnqueue now jobID worker status result deps).2 =
   if isTerminalStatus (m'.runStatusOf jobID) then m' else (m'.enqueueDependents now deps).2:=by
 unfold Memory.completeAndEnqueue
 rcases completeLocked_cases now m jobID worker status result with ⟨e,he⟩ | ⟨r,_,_,_,_,_,ho⟩
 ·exact .inl ⟨e,he,by rw[he]⟩
 refine .inr ⟨_,ho,?_⟩
 rw[ho]
 by_cases hr:isTerminalStatus ((m.update jobID (completed now status result)
  (completed_id now status result)).runStatusOf jobID)
 ·simp only[hr,if_true]
  exact ⟨⟨_,rfl,rfl⟩,trivial⟩
 ·simp only[hr]
  exact ⟨⟨_,rfl,rfl⟩,rfl⟩

def StoreOp.completion:StoreOp→Option (String×String×JobStatus×Option Result)
 | .complete jobID status result=>some (jobID,"",status,result)
 | .completeOwned jobID worker status result=>some (jobID,worker,status,result)
 | .completeAndEnqueue jobID worker status result _=>some (jobID,worker,status,result)
 | _=>none

def StoreOp.requeuing:StoreOp→Option (String×String×Time)
 | .requeue jobID availableAt=>some (jobID,"",availableAt)
 | .requeueOwned jobID worker availableAt=>some (jobID,worker,availableAt)
 | _=>none

def StoreOp.additions:StoreOp→List JobRecord
 | .enqueue rec=>[rec]
 | .enqueueNodes recs=>recs
 | .completeAndEnqueue _ _ _ _ deps=>deps.map dependent
 | _=>[]

/-- Every way an operation rewrites a record that was there before. -/
inductive Touched(now:Time)(m:Memory)(op:StoreOp)(r:JobRecord):JobRecord→Prop
 | claim {worker lease} (hop:op=.claim worker lease)
  (hc:m.claimable now r):Touched now m op r (claimed now worker lease r)
 | renew {worker lease} (hop:op=.renew r.id worker lease)
  (hw:r.workerID=worker) (hs:r.status=.running):
  Touched now m op r (Memory.renewed now lease r)
 | requeue {worker availableAt}
  (hop:op.requeuing=some (r.id,worker,availableAt))
  (hw:worker=""∨r.workerID=worker) (ht:r.terminal=false):
  Touched now m op r (requeued availableAt r)
 | complete {worker status result}
  (hop:op.completion=some (r.id,worker,status,result))
  (hw:worker=""∨r.workerID=worker)
  (hs:isTerminalStatus status∨status=.awaiting) (ht:r.terminal=false)
  (ha:¬(status=.awaiting∧r.status=.awaiting)):
  Touched now m op r (completed now status result r)
 | park (hop:op=.setGraphRunParked r.id true) (hk:r.kind=.graph)
  (hs:r.status=.running):Touched now m op r (withStatus .awaiting r)
 | unpark (hop:op=.setGraphRunParked r.id false) (hk:r.kind=.graph)
  (hs:r.status=.awaiting):Touched now m op r (withStatus .running r)
 | start (hop:op=.markGraphRunning r.id∨
  ∃ tenant limit,op=.markGraphRunningCapped r.id tenant limit)
   (hk:r.kind=.graph) (hs:r.status=.queued):
   Touched now m op r (startRunning now r)

lemma claimable_status(h:m.claimable now r):
 r.kind=.node∧(∀ t,r.availableAt=some t→t ≤ now)∧
  (r.status=.queued∨r.status=.running∧∃ t,r.leaseUntil=some t∧t<now):=by
 simp only[Memory.claimable,Bool.and_eq_true,Bool.or_eq_true,Bool.not_eq_true',
  beq_iff_eq] at h
 obtain ⟨⟨hk,ha⟩,hs⟩:=h
 refine ⟨hk,?_,?_⟩
 ·intro t ht
  rw[ht] at ha
  simpa using ha
 ·rcases hs with ⟨hs,_⟩ | ⟨hs,hl⟩
  ·exact .inl hs
  ·refine .inr ⟨hs,?_⟩
   obtain ⟨t,ht,hlt⟩:=(Option.any_eq_true _ _).1 hl
   exact ⟨t,ht,by simpa using hlt⟩
lemma Touched.not_terminal{r'}
 (h:Touched now m op r r'):r.terminal=false:=by
 cases h with
 | claim _ hc=>
  rcases (claimable_status hc).2.2 with hs | ⟨hs,_⟩<;>simp[JobRecord.terminal,hs,isTerminalStatus]
 | renew _ _ hs | park _ _ hs | unpark _ _ hs | start _ _ hs=>simp[JobRecord.terminal,hs,isTerminalStatus]
 | requeue _ _ ht | complete _ _ _ ht _=>exact ht
lemma Touched.same_job{r'}
 (h:Touched now m op r r'):SameJob r r':=by
 cases h<;>constructor<;>rfl
lemma get_update_cases
 {keep}{P:JobRecord→JobRecord→Prop}
 (hr:m.get id=some r)(hP:P r (f r))(k:String):
 (m.update id f keep).get k=m.get k∨
 ∃ r r',m.get k=some r∧(m.update id f keep).get k=some r'∧P r r':=by
 rw[get_update]
 split_ifs with hk
 ·exact .inr ⟨r,f r,hk▸hr,by rw[hr,Option.map_some],hP⟩
 ·exact .inl rfl

/-- Shape of every operation: a record is kept, added under a fresh id, or touched. -/
def Shape(now:Time)(m:Memory)(op:StoreOp)(m':Memory)(k:String):Prop:=
 m'.get k=m.get k∨
 (m.get k=none∧∃ rec∈op.additions,rec.id=k∧m'.get k=some (stamp now rec))∨
 ∃ r r',m.get k=some r∧m'.get k=some r'∧Touched now m op r r'

lemma Shape.kept{m' k}
 (h:m'.get k=m.get k):Shape now m op m' k:=.inl h
lemma Shape.of_update
 {keep}
 (hr:m.get id=some r)(hP:Touched now m op r (f r))(k):
 Shape now m op (m.update id f keep) k:=
 (get_update_cases hr hP k).imp (fun h=>h) .inr
lemma Shape.of_requeue
 {availableAt}(hop:op.requeuing=some (jobID,worker,availableAt))(k:String):
 Shape now m op (m.requeue jobID worker availableAt).2 k:=by
 rcases requeue_cases m jobID worker availableAt with ⟨e,he⟩ | ⟨r,hr,hw,ht,ho⟩
 ·rw[he]
  exact .kept rfl
 ·rw[ho]
  obtain rfl:=get_id hr
  exact .of_update hr (.requeue hop hw ht) k
lemma Shape.of_complete
 {status result}
 (hop:op.completion=some (jobID,worker,status,result))(k:String):
 Shape now m op (m.completeLocked now jobID worker status result).2 k:=by
 rcases completeLocked_cases now m jobID worker status result with
  ⟨e,he⟩ | ⟨r,hr,hw,hs,ht,ha,ho⟩
 ·rw[he]
  exact .kept rfl
 ·rw[ho]
  obtain rfl:=get_id hr
  exact .of_update hr (.complete hop hw hs ht ha) k
lemma Shape.of_completeAndEnqueue
 {status result deps}(k:String):
 Shape now m (.completeAndEnqueue jobID worker status result deps)
  (m.completeAndEnqueue now jobID worker status result deps).2 k:=by
 have hc:Shape now m (.completeAndEnqueue jobID worker status result deps)
  (m.completeLocked now jobID worker status result).2 k:=.of_complete rfl k
 rcases completeAndEnqueue_cases now m jobID worker status result deps with
  ⟨e,_,he⟩ | ⟨m',ho,_,hm'⟩
 ·rw[he]
  exact .kept rfl
 ·rw[ho] at hc
  rw[hm']
  split_ifs
  ·exact hc
  rcases enqueueDependents_get now deps m' k with h | ⟨hn,d,hd,hid,h⟩
  ·simpa only[Shape,h] using hc
   -- a dependent is added only where the completed store has no record
  rcases hc with hc | ⟨_,rec,_,_,hc⟩ | ⟨_,r',_,hc,_⟩
  ·refine .inr (.inl ⟨hc▸hn,dependent d,?_,hid,h⟩)
   exact mem_map_of_mem hd
  ·simp[hc] at hn
  ·simp[hc] at hn
lemma Shape.of_start
 (hop:op=.markGraphRunning jobID∨
  ∃ tenant limit,op=.markGraphRunningCapped jobID tenant limit)
 (hr:m.get jobID=some r)(hs:¬(r.kind≠.graph∨r.status≠.queued))(k):
 Shape now m op (m.update jobID (startRunning now) (Memory.startRunning_id now)) k:=by
 obtain rfl:=get_id hr
 push Not at hs
 exact .of_update hr (.start hop hs.1 hs.2) k
lemma Shape.of_setGraphRunParked{parked}
 (k):
 Shape now m (.setGraphRunParked jobID parked) (m.setGraphRunParked jobID parked).2 k:=by
 unfold Memory.setGraphRunParked
 split
 ·exact .kept rfl
 case h_2 r hr=>
  obtain rfl:=get_id hr
  cases parked with
  | false=>
   by_cases h:r.kind≠.graph∨r.status≠.awaiting
   ·exact .kept (by simp[h])
   ·simp only[Bool.false_eq_true,if_false,if_neg h]
    push Not at h
    exact .of_update hr (.unpark rfl h.1 h.2) k
  | true=>
   by_cases h:r.kind≠.graph∨r.status≠.running
   ·exact .kept (by simp[h])
   ·simp only[if_true,if_neg h]
    push Not at h
    exact .of_update hr (.park rfl h.1 h.2) k
lemma apply_get_cases(now:Time)(tie:Nat)(m:Memory)(op:StoreOp)
 (hd:∀ tenant,op≠.deleteByTenant tenant)(k:String):
 Shape now m op (apply now tie m op).2 k:=by
 cases op with
 | enqueue rec=>
  change Shape now m _ (m.enqueueLocked now rec).2 k
  rcases enqueueLocked_cases now m rec with ⟨_,_,he⟩ | ⟨hn,_,hg⟩
  ·rw[he]
   exact .kept rfl
  ·by_cases hk:k=rec.id
   ·exact .inr (.inl ⟨hk▸hn,rec,mem_singleton_self _,hk.symm,by rw[hg,if_pos hk]⟩)
   ·exact .kept (by rw[hg,if_neg hk])
 | enqueueNodes recs=>
  have he:(m.enqueueNodes now recs).2=m∨
   (m.enqueueNodes now recs).2=(m.enqueueAll now recs).2:=by
   unfold Memory.enqueueNodes
   split_ifs
   ·exact .inl rfl
   ·exact .inl rfl
   ·refine .inr ?_
    split<;>simp_all
  change Shape now m _ (m.enqueueNodes now recs).2 k
  rcases he with he | he
  ·exact .kept (by rw[he])
  ·rw[he]
   exact (enqueueAll_get now recs m k).imp id .inl
 | claim worker lease=>
  change Shape now m _ (m.claim now tie worker lease).2 k
  rcases claim_cases now tie m worker lease with he | ⟨r,hr,hc,ho⟩
  ·rw[he]
   exact .kept rfl
  ·rw[ho]
   exact .of_update hr (.claim rfl hc) k
 | renew jobID worker lease=>
  change Shape now m _ (m.renew now jobID worker lease).2 k
  unfold Memory.renew
  split
  ·exact .kept rfl
  case h_2 r hr=>
   obtain rfl:=get_id hr
   split_ifs with h
   ·exact .kept rfl
   ·push Not at h
    exact .of_update hr (.renew rfl h.1 h.2) k
 | requeue jobID availableAt | requeueOwned jobID worker availableAt=>exact .of_requeue rfl k
 | complete jobID status result | completeOwned jobID worker status result=>exact .of_complete rfl k
 | completeAndEnqueue jobID worker status result deps=>exact .of_completeAndEnqueue k
 | setGraphRunParked graphRunID parked=>exact .of_setGraphRunParked k
 | markGraphRunning jobID=>
  change Shape now m _ (m.markGraphRunning now jobID).2 k
  unfold Memory.markGraphRunning
  split
  ·exact .kept rfl
  case h_2 r hr=>
   split_ifs with h
   ·exact .kept rfl
   ·exact .of_start (.inl rfl) hr h k
 | markGraphRunningCapped jobID tenant limit=>
  change Shape now m _ (m.markGraphRunningCapped now jobID tenant limit).2 k
  unfold Memory.markGraphRunningCapped
  split
  ·exact .kept rfl
  case h_2 r hr=>
   simp only
   split_ifs with h h'
   ·exact .kept rfl
   ·exact .kept rfl
   ·exact .of_start (.inr ⟨_,_,rfl⟩) hr h' k
 | deleteByTenant tenant=>exact absurd rfl (hd tenant)
 | _=>exact .kept rfl

end Dazyflow.StoreOperations
