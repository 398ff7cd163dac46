import Dazyflow.StoreOperations

/-!
# Runs of the job store

What holds along every sequence of store operations: finished records are frozen, a refused operation leaves
the store alone, and a worker that lost a record can no longer write to it.
-/
namespace Dazyflow.StoreRuns
open JobRecords MemoryStore StoreOperations List Prod

structure StoreCall where
 op:StoreOp
 now:Time
 tie:Nat:=0

def StoreCall.after(c:StoreCall)(m:Memory):Memory:=(apply c.now c.tie m c.op).2

def runCalls(m:Memory)(calls:List StoreCall):Memory:=calls.foldl (fun m c=>c.after m) m

def Keeps(calls:List StoreCall):Prop:=∀ c∈calls,∀ tenant,c.op≠.deleteByTenant tenant

variable {id w worker:String}{r:JobRecord}{calls:List StoreCall}{lease:Int}

lemma runCalls_induct{P:Memory→Prop}(hk:Keeps calls)
 (step:∀ m (c:StoreCall),(∀ tenant,c.op≠.deleteByTenant tenant)→P m→P (c.after m))
 {m}(h:P m):P (runCalls m calls):=by
 induction calls generalizing m with
 | nil=>exact h
 | cons c rest ih=>
  have hc:=hk c mem_cons_self
  exact ih (fun c' hc'=>hk c' (mem_cons_of_mem _ hc')) (step m c hc h)

/-- The store only grows: records stay, keep the columns that name their job, and
 are frozen once they are finished. -/
structure Evolves(m m':Memory):Prop where
 job:∀ k r,m.get k=some r→∃ r',m'.get k=some r'∧SameJob r r'
 frozen:∀ k r,m.get k=some r → r.terminal→m'.get k=some r

lemma Evolves.refl(m):Evolves m m:=
 ⟨fun _ r h=>⟨r,h,.refl r⟩,fun _ _ h _=>h⟩
lemma Evolves.trans{a b c}(h:Evolves a b)(k:Evolves b c):Evolves a c:=by
 constructor
 ·intro id r hr
  obtain ⟨r',hr',hj⟩:=h.job id r hr
  obtain ⟨r'',hr'',hj'⟩:=k.job id r' hr'
  exact ⟨r'',hr'',hj.trans hj'⟩
 ·intro id r hr ht
  exact k.frozen id r (h.frozen id r hr ht) ht
lemma apply_evolves(now tie m op)
 (hd:∀ tenant,op≠.deleteByTenant tenant):Evolves m (apply now tie m op).2:=by
 constructor
 ·intro k r hr
  rcases apply_get_cases now tie m op hd k with h | ⟨hn,_⟩ | ⟨r₀,r',h₀,h',ht⟩
  ·exact ⟨r,h.trans hr,.refl r⟩
  ·rw[hr] at hn
   cases hn
  ·obtain rfl:r=r₀:=Option.some.inj (hr.symm.trans h₀)
   exact ⟨r',h',ht.same_job⟩
 ·intro k r hr ht
  rcases apply_get_cases now tie m op hd k with h | ⟨hn,_⟩ | ⟨r₀,_,h₀,_,htt⟩
  ·exact h.trans hr
  ·rw[hr] at hn
   cases hn
  ·obtain rfl:r=r₀:=Option.some.inj (hr.symm.trans h₀)
   rw[htt.not_terminal] at ht
   cases ht
lemma runCalls_evolves(hk:Keeps calls)(m:Memory):
 Evolves m (runCalls m calls):=
 runCalls_induct (P:=fun m'=>Evolves m m') hk
  (fun m' c hc h=>h.trans (apply_evolves c.now c.tie m' c.op hc)) (.refl m)
lemma enqueueAll_ok(now:Time)(m₀:Memory)(recs:List JobRecord)(seen:List String)
 (m:Memory)(hb:m₀.batchClash recs seen=false)
 (hm:∀ k,m.get k≠none→m₀.get k≠none∨k∈seen):
 (m.enqueueAll now recs).1=.ok ():=by
 induction recs generalizing m seen with
 | nil=>rfl
 | cons rec rest ih=>
  simp only[Memory.batchClash,Bool.or_eq_false_iff] at hb
  obtain ⟨⟨hfree,hseen⟩,hrest⟩:=hb
  have hnone:m.get rec.id=none:=by
   by_contra hne
   rcases hm rec.id hne with h | h
   ·exact h (by simpa using hfree)
   ·simp[h] at hseen
  rcases enqueueLocked_cases now m rec with ⟨r,hr,_⟩ | ⟨_,ho,hg⟩
  ·rw[hr] at hnone
   cases hnone
  ·rw[Memory.enqueueAll,ho]
   refine ih (rec.id::seen) _ hrest ?_
   intro k hk
   rw[hg k] at hk
   by_cases hid:k=rec.id
   ·exact .inr (hid▸mem_cons_self)
   ·rw[if_neg hid] at hk
    exact (hm k hk).imp (fun h=>h) (mem_cons_of_mem _)
lemma apply_error_unchanged{now tie m op e}
 (h:(apply now tie m op).1=.error e):(apply now tie m op).2=m:=by
 cases op with
 | enqueue rec=>
  rcases enqueueLocked_cases now m rec with ⟨_,_,he⟩ | ⟨_,ho,_⟩
  ·exact congrArg snd he
  ·cases ho.symm.trans h
 | enqueueNodes recs=>
  change (m.enqueueNodes now recs).1=_ at h
  change (m.enqueueNodes now recs).2=m
  unfold Memory.enqueueNodes at h ⊢
  split_ifs at h ⊢ with hr hb
  ·rfl
  have hok:=enqueueAll_ok now m recs [] m (by simpa using hb) fun _ hk=>.inl hk
  generalize m.enqueueAll now recs=x at hok h
  obtain ⟨_,m'⟩:=x
  simp only at hok
  subst hok
  cases h
 | claim worker lease=>
  rcases claim_cases now tie m worker lease with he | ⟨_,_,_,ho⟩
  ·exact congrArg snd he
  ·cases (congrArg fst ho).symm.trans h
 | requeue jobID availableAt=>
  rcases requeue_cases m jobID "" availableAt with ⟨_,he⟩ | ⟨_,_,_,_,ho⟩
  ·exact congrArg snd he
  ·cases (congrArg fst ho).symm.trans h
 | requeueOwned jobID worker availableAt=>
  rcases requeue_cases m jobID worker availableAt with ⟨_,he⟩ | ⟨_,_,_,_,ho⟩
  ·exact congrArg snd he
  ·cases (congrArg fst ho).symm.trans h
 | complete jobID status result=>
  rcases completeLocked_cases now m jobID "" status result with ⟨_,he⟩ | ⟨_,_,_,_,_,_,ho⟩
  ·exact congrArg snd he
  ·cases (congrArg fst ho).symm.trans h
 | completeOwned jobID worker status result=>
  rcases completeLocked_cases now m jobID worker status result with ⟨_,he⟩ | ⟨_,_,_,_,_,_,ho⟩
  ·exact congrArg snd he
  ·cases (congrArg fst ho).symm.trans h
 | completeAndEnqueue jobID worker status result deps=>
  rcases completeAndEnqueue_cases now m jobID worker status result deps with
   ⟨_,_,he⟩ | ⟨_,_,⟨_,_,ho⟩,_⟩
  ·exact congrArg snd he
  ·cases ho.symm.trans h
 | renew jobID worker lease=>
  change (m.renew now jobID worker lease).1=_ at h
  change (m.renew now jobID worker lease).2=m
  unfold Memory.renew at h ⊢
  split at h<;>try rfl
  split_ifs at h ⊢
  rfl
 | setGraphRunParked graphRunID parked=>
  change (m.setGraphRunParked graphRunID parked).1=_ at h
  change (m.setGraphRunParked graphRunID parked).2=m
  unfold Memory.setGraphRunParked at h ⊢
  split at h
  ·rfl
  ·cases parked<;>simp only[Bool.false_eq_true,if_false,if_true] at h<;>split at h<;>cases h
 | markGraphRunning jobID=>
  change (m.markGraphRunning now jobID).1=_ at h
  change (m.markGraphRunning now jobID).2=m
  unfold Memory.markGraphRunning at h ⊢
  split at h
  ·rfl
  ·split at h<;>cases h
 | markGraphRunningCapped jobID tenant limit=>
  change (m.markGraphRunningCapped now jobID tenant limit).1=_ at h
  change (m.markGraphRunningCapped now jobID tenant limit).2=m
  unfold Memory.markGraphRunningCapped at h ⊢
  split at h
  ·rfl
  ·simp only at h
   split_ifs at h
 | get jobID=>rfl
 | _=>cases h
lemma enqueue_taken{now tie m rec}
 (h:m.get rec.id=some r):apply now tie m (.enqueue rec)=(.error .conflict,m):=by
 rcases enqueueLocked_cases now m rec with ⟨_,_,he⟩ | ⟨hn,_⟩
 ·exact he
 ·rw[h] at hn
  cases hn
lemma completion_ok{now tie m op}
 {status result v}
 (hop:op.completion=some (id,worker,status,result))(h:(apply now tie m op).1=.ok v):
 ∃ r,m.get id=some r∧(worker=""∨r.workerID=worker)∧r.terminal=false∧
  ¬(status=.awaiting∧r.status=.awaiting)∧
  (apply now tie m op).2.get id=some (Memory.completed now status result r):=by
 have hone:(m.completeLocked now id worker status result).1=.ok ()→∃ r,m.get id=some r∧
  (worker=""∨r.workerID=worker)∧r.terminal=false∧¬(status=.awaiting∧r.status=.awaiting)∧
  (m.completeLocked now id worker status result).2.get id=some (Memory.completed now status result r):=by
  intro h
  rcases completeLocked_cases now m id worker status result with ⟨e,he⟩ | ⟨r,hr,hw,_,ht,ha,ho⟩
  ·cases (congrArg fst he).symm.trans h
  ·rw[ho]
   exact ⟨r,hr,hw,ht,ha,get_update_self hr⟩
 cases op with
 | complete jobID status' result' | completeOwned jobID worker' status' result'=>
  cases hop
  exact hone h
 | completeAndEnqueue jobID worker' status' result' deps=>
  cases hop
  rcases completeAndEnqueue_cases now m id worker status result deps with ⟨e,_,he⟩ | ⟨m',hc,_,hm⟩
  ·cases (congrArg fst he).symm.trans h
  obtain ⟨r,hr,hw,ht,ha,hself⟩:=hone (congrArg fst hc)
  rw[hc] at hself
  refine ⟨r,hr,hw,ht,ha,?_⟩
  change (m.completeAndEnqueue now id worker status result deps).2.get id=_
  rw[hm]
  split_ifs
  ·exact hself
  ·rcases enqueueDependents_get now deps _ id with hk | ⟨hn,_⟩
   ·exact hk.trans hself
   ·cases hn.symm.trans hself
 | _=>cases hop
lemma completion_error{now tie m op}
 {status result e}
 (hop:op.completion=some (id,worker,status,result))(h:(apply now tie m op).1=.error e)
 (hr:m.get id=some r)(hs:isTerminalStatus status∨status=.awaiting):
 e=.conflict∧(worker≠""∧r.workerID≠worker∨r.terminal∨
  status=.awaiting∧r.status=.awaiting):=by
 have hlock:(m.completeLocked now id worker status result).1=.error e:=by
  cases op with
  | complete jobID status' result' | completeOwned jobID worker' status' result'=>
   cases hop
   exact h
  | completeAndEnqueue jobID worker' status' result' deps=>
   cases hop
   rcases completeAndEnqueue_cases now m id worker status result deps with
    ⟨e',hc,he⟩ | ⟨m',_,⟨adv,_,ho⟩,_⟩
   ·cases (congrArg fst he).symm.trans h
    rw[hc]
   ·cases ho.symm.trans h
  | _=>cases hop
 have hst:¬(isTerminalStatus status=false∧status≠.awaiting):=by
  rintro ⟨hf,hne⟩
  rcases hs with hs | hs
  ·rw[hf] at hs
   cases hs
  ·exact hne hs
 unfold Memory.completeLocked at hlock
 rw[hr] at hlock
 simp only[if_neg hst] at hlock
 split_ifs at hlock with hw ht ha
 ·cases hlock
  exact ⟨rfl,.inl hw⟩
 ·cases hlock
  exact ⟨rfl,.inr (.inl ht)⟩
 ·cases hlock
  exact ⟨rfl,.inr (.inr ha)⟩
lemma claim_ok{now tie m rec}
 (h:(apply now tie m (.claim worker lease)).1=.ok rec):
 ∃ r,m.get rec.id=some r∧m.claimable now r∧rec=Memory.claimed now worker lease r∧
  (apply now tie m (.claim worker lease)).2.get rec.id=some rec:=by
 rcases claim_cases now tie m worker lease with he | ⟨r,hr,hc,ho⟩
 ·cases (congrArg fst he).symm.trans h
 ·have hrec:rec=Memory.claimed now worker lease r:=
   (Except.ok.inj ((congrArg fst ho).symm.trans h)).symm
  subst hrec
  refine ⟨r,hr,hc,rfl,?_⟩
  exact (congrArg (fun x=>Memory.get x.2 r.id) ho).trans (get_update_self hr)

/-- Finished records are absorbing: no run of the store changes one, its id is
 refused to every later insert, and a refused operation changes no record. -/
theorem terminal_records_absorbing(m:Memory)(calls:List StoreCall)(hk:Keeps calls):
 (∀ id r,m.get id=some r→isTerminalStatus r.status→
  (runCalls m calls).get id=some r∧
  ∀ now tie rec,rec.id=id→apply now tie (runCalls m calls) (.enqueue rec) =
   (.error .conflict,runCalls m calls))∧
 ∀ now tie op,(apply now tie (runCalls m calls) op).1=.error .conflict→
  (apply now tie (runCalls m calls) op).2=runCalls m calls:=by
 constructor
 ·intro id r hr ht
  have hf:(runCalls m calls).get id=some r:=(runCalls_evolves hk m).frozen id r hr ht
  refine ⟨hf,?_⟩
  rintro now tie rec rfl
  exact enqueue_taken hf
 ·intro now tie op h
  exact apply_error_unchanged h

def failedStep:Memory:=
 runCalls {} [⟨.enqueue {id:="r",kind:=.graph,status:=.running},1,0⟩,
  ⟨.enqueue {id:="r:a",kind:=.node,graphRunID:="r",nodeID:="a" },2,0⟩,
  ⟨.claim "w" 60,3,0⟩,
  ⟨.completeAndEnqueue "r:a" "w" .failed none [{id:="r:b" }],4,0⟩]

theorem failed_step_absorbing:
 (failedStep.get "r:a").map JobRecord.status=some .failed∧
 (runCalls failedStep [⟨.requeue "r:a" 5,5,0⟩,⟨.claim "v" 60,6,0⟩]).get "r:a" =
  failedStep.get "r:a":=by
 obtain ⟨r,hr,hs⟩:∃ r,failedStep.get "r:a"=some r∧isTerminalStatus r.status:=
  ⟨_,rfl,rfl⟩
 refine ⟨by decide +kernel,?_⟩
 rw[hr]
 refine ((terminal_records_absorbing failedStep _ ?_).1 "r:a" r hr hs).1
 simp[Keeps]

def LostTo(w id:String)(m:Memory):Prop:=∃ r,m.get id=some r∧r.workerID≠w

def Hands(m:Memory)(c:StoreCall)(w id:String):Prop:=
 ∃ lease r,c.op=.claim w lease∧(m.claim c.now c.tie w lease).1=.ok r∧r.id=id

/-- No call of the run hands the record back to the worker. -/
def NotReclaimed(w id:String):Memory→List StoreCall→Prop
 | _,[]=>True
 | m,c::rest=>¬Hands m c w id∧NotReclaimed w id (c.after m) rest

/-- The call takes the record from the worker: another one claims it, or it is requeued. -/
def Loses(m:Memory)(c:StoreCall)(w id:String):Prop:=
 (∃ w',w'≠w∧Hands m c w' id)∨
 ∃ worker availableAt,c.op.requeuing=some (id,worker,availableAt)∧
  (m.requeue id worker availableAt).1=.ok ()

def byHolder:StoreOp→Option (String×String)
 | .renew jobID worker _=>some (jobID,worker)
 | .completeOwned jobID worker _ _=>some (jobID,worker)
 | .requeueOwned jobID worker _=>some (jobID,worker)
 | .completeAndEnqueue jobID worker _ _ _=>some (jobID,worker)
 | _=>none

variable {m:Memory}{now:Time}{tie:Nat}

lemma claimed_by(h:(m.claim now tie w lease).1=.ok r):
 ∃ r₀,m.get r.id=some r₀∧m.claimable now r₀∧r=Memory.claimed now w lease r₀∧
  (m.claim now tie w lease).2.get r.id=some r:=by
 rcases claim_cases now tie m w lease with he | ⟨r₀,hr,hc,ho⟩
 ·rw[he] at h
  cases h
 ·rw[ho] at h
  cases h
  refine ⟨r₀,hr,hc,rfl,?_⟩
  rw[ho]
  exact get_update_self hr
lemma Loses.lostTo{c:StoreCall}(hw:w≠"")
 (h:Loses m c w id):LostTo w id (c.after m):=by
 rcases h with ⟨w',hne,lease,r,hop,hr,rfl⟩ | ⟨worker,availableAt,hop,ho⟩
 ·obtain ⟨r₀,_,_,hr',hg⟩:=claimed_by hr
  refine ⟨r,?_,?_⟩
  ·rw[StoreCall.after,hop]
   exact hg
  ·rw[hr']
   exact hne
 ·have hafter:c.after m=(m.requeue id worker availableAt).2:=by
   obtain ⟨op,now,tie⟩:=c
   cases op<;>cases hop<;>rfl
  rcases requeue_cases m id worker availableAt with ⟨_,he⟩ | ⟨r,hr,_,_,ho'⟩
  ·rw[he] at ho
   cases ho
  ·refine ⟨Memory.requeued availableAt r,?_,Ne.symm hw⟩
   rw[hafter,ho']
   exact get_update_self hr
lemma claim_returns{r':JobRecord}(hr:m.get id=some r)
 (h:(m.claim now tie w lease).2.get id=some r')(hne:r'≠r):
 (m.claim now tie w lease).1=.ok r':=by
 rcases claim_cases now tie m w lease with he | ⟨r₁,hr₁,_,ho⟩
 ·rw[he,hr] at h
  exact absurd (Option.some.inj h).symm hne
 ·rw[ho,get_update] at h
  split_ifs at h with hid
  ·rw[hr₁,Option.map_some] at h
   rw[ho,Option.some.inj h]
  ·rw[hr] at h
   exact absurd (Option.some.inj h).symm hne
lemma LostTo.step{c:StoreCall}
 (hd:∀ tenant,c.op≠.deleteByTenant tenant)(hw:w≠"")(hc:¬Hands m c w id)
 (h:LostTo w id m):LostTo w id (c.after m):=by
 obtain ⟨r,hr,hne⟩:=h
 rcases apply_get_cases c.now c.tie m c.op hd id with hk | ⟨hn,_⟩ | ⟨r₀,r',h₀,h',ht⟩
 ·exact ⟨r,hk.trans hr,hne⟩
 ·rw[hr] at hn
  cases hn
 ·obtain rfl:r=r₀:=Option.some.inj (hr.symm.trans h₀)
  refine ⟨r',h',?_⟩
  cases ht with
  | @claim worker lease hop _=>
   intro heq
   change worker=w at heq
   subst heq
   rw[hop] at h'
   have hne':Memory.claimed c.now worker lease r≠r:=by
    intro h
    have:=congrArg JobRecord.attempt h
    simp[Memory.claimed] at this
   exact hc ⟨lease,_,hop,claim_returns hr h' hne',(Memory.claimed_id ..).trans (get_id hr)⟩
  | requeue _ _ _=>exact Ne.symm hw
  | renew _ _ _ | complete _ _ _ _ _ | park _ _ _ | unpark _ _ _ | start _ _ _=>exact hne
lemma LostTo.run(hw:w≠"")(hk:Keeps calls)
 {m}(hn:NotReclaimed w id m calls)(h:LostTo w id m):
 LostTo w id (runCalls m calls):=by
 induction calls generalizing m with
 | nil=>exact h
 | cons c rest ih=>
  exact ih (fun c' hc'=>hk c' (mem_cons_of_mem _ hc')) hn.2
   (h.step (hk c mem_cons_self) hw hn.1)
lemma LostTo.fenced{m}(hw:w≠"")(h:LostTo w id m)
 (now tie){op}(hop:byHolder op=some (id,w)):
 apply now tie m op=(.error .conflict,m):=by
 obtain ⟨r,hr,hne⟩:=h
 cases op with
 | renew jobID worker lease=>
  cases hop
  simp[apply,Memory.renew,hr,hne]
 | requeueOwned jobID worker availableAt=>
  cases hop
  simp[apply,Memory.requeue,hr,hne,hw]
 | completeOwned jobID worker status result=>
  cases hop
  simp[apply,Memory.completeLocked,hr,hne,hw]
 | completeAndEnqueue jobID worker status result deps=>
  cases hop
  simp[apply,Memory.completeAndEnqueue,Memory.completeLocked,hr,hne,hw]
 | _=>cases hop

/-- Mutual exclusion of the store: a claim hands out only what is free, and a
 worker that lost a record is refused until a claim of its own returns it. -/
theorem lease_fencing:
 (∀ m now tie worker lease r,(apply now tie m (.claim worker lease)).1=.ok r→
  ∃ r₀,m.get r.id=some r₀∧r=Memory.claimed now worker lease r₀∧
   (∀ t,r₀.availableAt=some t→t ≤ now)∧
   (r₀.status=.queued∨r₀.status=.running∧∃ t,r₀.leaseUntil=some t∧t<now))∧
 ∀ m c w id,w≠""→Loses m c w id→
  ∀ calls,Keeps calls→NotReclaimed w id (c.after m) calls→
  ∀ now tie op,byHolder op=some (id,w)→
   apply now tie (runCalls (c.after m) calls) op =
    (.error .conflict,runCalls (c.after m) calls):=by
 constructor
 ·intro m now tie worker lease r h
  obtain ⟨r₀,hg,hc,hr,_⟩:=claimed_by h
  obtain ⟨_,ha,hs⟩:=claimable_status hc
  exact ⟨r₀,hg,hr,ha,hs⟩
 ·intro m c w id hw hl calls hk hn now tie op hop
  exact ((hl.lostTo hw).run hw hk hn).fenced hw now tie hop

def leasedStep:Memory:=
 runCalls {} [⟨.enqueue {id:="r:a",kind:=.node,graphRunID:="r",nodeID:="a" },1,0⟩,
  ⟨.claim "w" 10,2,0⟩]

theorem leased_step_fenced:
 (leasedStep.get "r:a").map JobRecord.workerID=some "w"∧
 apply 14 0 (runCalls (StoreCall.after ⟨.claim "v" 10,13,0⟩ leasedStep) [])
   (.completeOwned "r:a" "w" .succeeded none) =
  (.error .conflict,runCalls (StoreCall.after ⟨.claim "v" 10,13,0⟩ leasedStep) []):=by
 refine ⟨by decide +kernel,?_⟩
 refine lease_fencing.2 leasedStep ⟨.claim "v" 10,13,0⟩ "w" "r:a" (by decide) ?_ [] ?_ trivial
  14 0 _ rfl
 ·exact .inl ⟨"v",by decide,10,_,rfl,rfl,rfl⟩
 ·simp[Keeps]

end Dazyflow.StoreRuns
