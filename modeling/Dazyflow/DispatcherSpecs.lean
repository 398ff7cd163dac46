import Dazyflow.DaemonContract

/-!
# The dispatcher under the contract

Each program of the dispatcher keeps every growing condition, provided that the condition knows the run it
works on.
-/
namespace Dazyflow.DaemonContract
open FlowGraph JobRecords MemoryStore StoreOperations StoreRuns EdgeClassification LoopBodies List
open Daemon RunRecords ReadSpecs Interleaving.Contract
open Interleaving.Prog (yields_bind yields_true)

variable {env:Env}{I:Note→World→Prop}{g:Graph}{run:String}

variable {m:Memory}{id:String}{status:JobStatus}

lemma runOf_unique{g g'}(h:RunOf m run g)(h':RunOf m run g'):g=g':=by
 obtain ⟨r,hr,_,hp⟩:=h
 obtain ⟨r',hr',_,hp'⟩:=h'
 rw[hr,Option.some.injEq] at hr'
 rw[←hr',hp,Option.some.injEq] at hp'
 exact hp'
lemma wellMade_dependent(h:WellKept m)(hr:RunOf m run g)
 (hid:id∈g.nodeIDs):WellMade m (dependentRecord g run id):=by
 obtain ⟨r,hget,hk,hp⟩:=hr
 obtain ⟨g',hp',_,ht,hw⟩:=(h.graph hget hk).payload
 rw[hp,Option.some.injEq] at hp'
 subst hp'
 exact .inr ⟨rfl,rfl,(h.simple_iff hget).2 hk,⟨r,g,hget,hk,hp,hid,ht,hw⟩,rfl,rfl⟩
lemma wellMade_step(h:WellKept m)(hr:RunOf m run g)(hid:id∈g.nodeIDs)
 {rec}(hj:SameJob (dependentRecord g run id) rec):WellMade m rec:=
 (wellMade_dependent h hr hid).later hj (.refl m)
lemma sameJob_skipped(g run id):
 SameJob (dependentRecord g run id) (skippedRecord g run id):=by
 constructor<;>rfl
lemma sameJob_dependent(g run id):
 SameJob (dependentRecord g run id) (Memory.dependent (dependentRecord g run id)):=by
 constructor<;>rfl
lemma sanctioned_step{n site}(hsite:freeSite site)(h:WellKept m)
 (hr:RunOf m run g)(hid:id∈g.nodeIDs){rec}
 (hj:SameJob (dependentRecord g run id) rec):Sanctioned n m site (.enqueue rec):=by
 refine .of_enqueue hsite (wellMade_step h hr hid hj) fun hk=>?_
 rw[hj.kind] at hk
 cases hk
lemma outgoing_mem(h:WellKept m)(hr:RunOf m run g){t}
 (ht:t∈g.outgoing id):t∈g.nodeIDs:=by
 obtain ⟨e,he,_,rfl⟩:=(g.mem_outgoing id t).1 ht
 exact (h.accepted hr).wellFormed.target e he

def Blame(g:Graph)(run:String)(n:Note)(w:World):Prop:=
 FailedStep w.store g run∨runOver w.store run∨n.slipped

lemma growing_blame(g run):Growing (Blame g run):=by
 intro n n' s t hle hf _ h
 rcases h with h | h | h
 ·exact .inl (h.later hf.toEvolves)
 ·exact .inr (.inl (runOver_later h hf.toEvolves))
 ·exact .inr (.inr (hle h))
lemma growing_allDone(g run):
 Growing (fun _ w=>AllDone w.store g run):=
 fun _ _ _ _ _ hf _ h=>AllDone.later h hf.toEvolves
lemma sanctioned_finalize{n result}
 (hs:status=.succeeded→∀ g,RunOf m run g→AllDone m g run)
 (hf:status=.failed→∀ g,RunOf m run g→
  FailedStep m g run∨runOver m run∨n.slipped):
 Sanctioned n m .finalize (.complete run status result) where
 keeps _ h:=by cases h
 adds _ h:=by cases h
 starts _ h:=by cases h
 requeues _ _ _ h:=by cases h
 succeeds _ _ _ h:=by
  cases h
  exact hs rfl
 finalizes _ _ _ h:=by
  cases h
  exact hf rfl
 readies h:=by cases h
lemma triple_finalizeGraph{result resumeFailed}
 {resumeErr}(hI:Growing I)
 (hrun:Under env I fun _ w=>RunOf w.store run g)
 (hs:Under env I fun _ w=>status=.succeeded→AllDone w.store g run)
 (hf:Under env I fun n w=>status=.failed→Blame g run n w):
 (contract env).Keeps I (finalizeGraph run status result resumeFailed resumeErr):=by
 refine triple_bind (triple_store_any hI ?_) ?_
 ·intro n w hi hIw
  have hr:=hrun n w hi hIw
  refine sanctioned_finalize (fun h g' hg'=>?_) fun h g' hg'=>?_
  ·exact runOf_unique hr hg' ▸ hs n w hi hIw h
  ·exact runOf_unique hr hg' ▸ hf n w hi hIw h
 ·intro r
  cases r with
  | error e=>exact triple_return hI
  | ok _=>exact triple_bind (triple_open hI fun _ _=>trivial) (fun _=>triple_function hI fun _ _ _ _=>trivial)
lemma triple_markGraphFailed{blameNode cause}(hI:Growing I)
 (hrun:Under env I fun _ w=>RunOf w.store run g)
 (hf:Under env I fun n w=>Blame g run n w):
 (contract env).Keeps I (markGraphFailed run blameNode cause):=
 triple_finalizeGraph hI hrun nofun (fun n w hi hIw _=>hf n w hi hIw)
lemma triple_maybeCompleteGraph{last err}
 (hI:Growing I)
 (hrun:Under env I fun _ w=>RunOf w.store run g)
 (hf:Under env I fun n w=>status=.failed→failurePropagates g last→
  Blame g run n w):
 (contract env).Keeps I (maybeCompleteGraph g run last status err):=by
 unfold maybeCompleteGraph
 split_ifs with hlast
 ·exact triple_markGraphFailed hI hrun fun n w hi hIw=>hf n w hi hIw hlast.1 hlast.2
  -- what the listing said stays true: finished steps are frozen
 have hdone:=growing_allDone g run
 have hblame:=growing_blame g run
 refine triple_bind (Q:=fun r n w=>I n w∧∀ recs,r=.ok recs→
  (runVerdict g recs g.nodes=.complete→AllDone (World.store w) g run)∧
  (∀ id cause,runVerdict g recs g.nodes=.failed id cause→Blame g run n w))
  (triple_read (regular env) rfl hI.stable ?_ ?_) ?_
 ·intro r n s t hr hi h
  refine ⟨hI.stable n s t hr hi h.1,fun recs hrecs=>?_⟩
  obtain ⟨hc,hb⟩:=h.2 recs hrecs
  exact ⟨fun hv=>hdone.stable n s t hr hi (hc hv),
   fun id cause hv=>hblame.stable n s t hr hi (hb id cause hv)⟩
 ·intro n s now tie hi hIs
  refine ⟨hIs,fun recs hrecs=>?_⟩
  cases hrecs
  obtain ⟨hc,hb,_⟩:=runVerdict_listing hi.1 (hrun n s hi hIs)
  exact ⟨hc,fun id cause hv=>.inl (hb id cause hv)⟩
 ·intro r
  cases r with
  | error e=>exact triple_mono (triple_return hI) (fun _ _ _ h=>h.1) (fun _ _ _ _ h=>h)
  | ok recs=>?_
  simp only
  cases hv:runVerdict g recs g.nodes with
  | unfinished=>exact triple_mono (triple_return hI) (fun _ _ _ h=>h.1) (fun _ _ _ _ h=>h)
  | failed id cause=>
   refine triple_mono (triple_markGraphFailed (I:=fun n w=>I n w∧Blame g run n w)
    (hI.and hblame) (fun n w hi h=>hrun n w hi h.1) fun _ _ _ h=>h.2) ?_
    fun _ _ _ _ h=>h.1
   exact fun n w _ h=>⟨h.1,(h.2 recs rfl).2 id cause hv⟩
  | complete=>
   refine triple_mono (triple_finalizeGraph (I:=fun n w=>I n w∧AllDone w.store g run)
    (hI.and hdone) (fun n w hi h=>hrun n w hi h.1) (fun _ _ _ h _=>h.2)
    nofun) ?_ (fun _ _ _ _ h=>h.1)
   exact fun n w _ h=>⟨h.1,(h.2 recs rfl).1 hv⟩

section Dispatch

variable (hI:Growing I)
 (hrun:Under env I fun _ w=>RunOf w.store run g)
include hI hrun

lemma triple_recordSkipped{id ix}(hid:id∈g.nodeIDs):
 (contract env).Keeps I (recordSkippedIndexed g run id ix):=by
 refine triple_bind (triple_store_any hI ?_) ?_
 ·exact fun n w hi hIw=>
   sanctioned_step rfl hi.1 (hrun n w hi hIw) hid (sameJob_skipped g run id)
 ·intro r
  cases r with
  | error e=>exact triple_return hI
  | ok _=>
   exact triple_bind (triple_function hI hrun) fun out=>
    triple_bind (triple_maybeCompleteGraph hI hrun nofun) fun _=>triple_return hI
lemma triple_dispatchLoop(ids)(hids:∀ id∈ids,id∈g.nodeIDs)(enqueued)
 (ix):(contract env).Keeps I (dispatchLoop g run ids enqueued ix):=by
 induction ids generalizing enqueued ix with
 | nil=>exact triple_return hI
 | cons id rest ih=>
  have hrest:=ih fun x hx=>hids x (mem_cons_of_mem _ hx)
  unfold dispatchLoop
  split_ifs
  ·exact hrest enqueued ix
  refine triple_then (regular env) (quiet_analyzeDependentIndexed g run id ix) hI.stable fun ⟨d,ix'⟩=>?_
  cases d with
  | waiting=>exact hrest enqueued ix'
  | enqueue=>
   refine triple_bind (triple_store_any hI ?_) fun r=>?_
   ·exact fun n w hi hIw=>sanctioned_step rfl hi.1 (hrun n w hi hIw)
     (hids id mem_cons_self) (.refl _)
   ·cases r with
    | ok _=>exact hrest (enqueued+1) ix'
    | error e=>exact hrest enqueued ix'
  | skipped=>
   exact triple_bind (triple_recordSkipped hI hrun (hids id mem_cons_self))
    fun ix''=>hrest enqueued ix''
lemma triple_dispatchReady{id}:
 (contract env).Keeps I (dispatchReady g run id):=
 triple_bind (triple_function hI hrun) fun _=>triple_return hI
lemma triple_advance{id status err}
 (hf:Under env I fun n w=>status=.failed→failurePropagates g id→
  Blame g run n w):
 (contract env).Keeps I (advanceAfterCompletion g run id status err):=by
 refine triple_then (regular env) (quiet_getRecord run) hI.stable fun grec=>?_
 split
 ·exact triple_return hI
 refine triple_then (regular env) (quiet_pausesAfter g run id status _) hI.stable fun
  | true=>triple_quiet (regular env) (quiet_publishPaused run id) hI.stable
  | false=>?_
 have hend:∀ enqueued:Nat,(contract env).Keeps I
  (if enqueued=0 then maybeCompleteGraph g run id status err else pure ()):=by
  intro enqueued
  split_ifs
  ·exact triple_maybeCompleteGraph hI hrun hf
  ·exact triple_return hI
 by_cases hadv:advances g id status
 ·simp only[Bool.false_eq_true,if_false,if_pos hadv]
  exact triple_bind (triple_dispatchReady hI hrun) hend
 ·simp only[Bool.false_eq_true,if_false,if_neg hadv]
  exact hend 0
lemma triple_finishAdvance{id status result}
 {plan adv}
 (hf:Under env I fun n w=>status=.failed→failurePropagates g id→
  Blame g run n w):
 (contract env).Keeps I (finishAdvance g run id status result plan adv):=by
 have hend:∀ more:Nat,(contract env).Keeps I (if adv.enqueued+more=0 then
  maybeCompleteGraph g run id status (result.bind Result.error) else pure ()):=by
  intro more
  split_ifs
  ·exact triple_maybeCompleteGraph hI hrun hf
  ·exact triple_return hI
 unfold finishAdvance
 by_cases hover:isTerminalStatus adv.runStatus
 ·rw[if_pos hover]
  exact triple_return hI
 by_cases hpause:plan.pause
 ·rw[if_neg hover,if_pos hpause]
  exact triple_quiet (regular env) (quiet_publishPaused run id) hI.stable
 by_cases hrevisit:plan.revisit
 ·simp only[if_neg hover,if_neg hpause,if_pos hrevisit]
  exact triple_bind (triple_function hI hrun) fun out=>hend out.1
 ·simp only[if_neg hover,if_neg hpause,if_neg hrevisit]
  exact hend 0
lemma triple_resumeFrom(ids):(contract env).Keeps I (resumeFrom g run ids):=by
 induction ids with
 | nil=>exact triple_return hI
 | cons id rest ih=>
  refine triple_bind (triple_dispatchReady hI hrun) fun _=>?_
  exact triple_bind (triple_maybeCompleteGraph hI hrun nofun) fun _=>ih

end Dispatch

lemma planLoop_yields(ids plan ix)(P:JobRecord→Prop)
 (hP:∀ id∈ids,bodyOwned g id=false→P (dependentRecord g run id))
 (hplan:∀ d∈plan.enqueue,P d):
 (planLoop g run ids plan ix).Yields (fun plan=>∀ d∈plan.enqueue,P d):=by
 induction ids generalizing plan ix with
 | nil=>exact hplan
 | cons id rest ih=>
  have hrest:=fun plan ix=>ih plan ix fun x hx=>hP x (mem_cons_of_mem _ hx)
  unfold planLoop
  split_ifs with hb
  ·exact hrest plan ix hplan
  refine yields_bind (yields_true _) ?_
  rintro ⟨d,ix'⟩-
  cases d with
  | waiting | skipped=>exact hrest _ ix' hplan
  | enqueue=>
   refine hrest _ ix' fun d hd=>?_
   rcases mem_append.1 hd with hd | hd
   ·exact hplan d hd
   ·rw[mem_singleton.1 hd]
    exact hP id mem_cons_self (by simpa using hb)

variable {rec:JobRecord}{m:Memory}{status:JobStatus}{result:Option Result}{g:Graph}{err:Option JobError}
 {op:StoreOp}{worker:String}

lemma planAdvance_yields{id watched}:
 (planAdvance g run id status result watched).Yields (fun plan=>∀ d∈plan.enqueue,
  ∃ t∈g.outgoing id,bodyOwned g t=false∧d=dependentRecord g run t):=by
 refine yields_bind (yields_true _) fun pause _=>?_
 cases pause with
 | true=>exact fun d hd=>by cases hd
 | false=>
  simp only[Bool.false_eq_true,if_false]
  split_ifs
  ·exact fun d hd=>by cases hd
  ·exact planLoop_yields _ _ _ _ (fun t ht hb=>⟨t,ht,hb,rfl⟩) fun d hd=>by cases hd

def Held(rec:JobRecord)(m:Memory):Prop:=
 ∃ r,m.get rec.id=some r∧SameJob rec r∧rec.kind=.node

lemma Held.later{m'}(h:Held rec m)(he:Evolves m m'):Held rec m':=by
 obtain ⟨r,hr,hj,hk⟩:=h
 obtain ⟨r',hr',hj'⟩:=he.job _ r hr
 exact ⟨r',hr',hj.trans hj',hk⟩
lemma growing_held(rec):Growing (fun _ w=>Held rec w.store):=
 fun _ _ _ _ _ hf _ h=>Held.later h hf.toEvolves
lemma Held.kept(h:Held rec m)(hm:WellKept m):
 rec.id=nodeJobID rec.graphRunID rec.nodeID∧SimpleID rec.graphRunID:=by
 obtain ⟨r,hr,hj,hk⟩:=h
 have hn:=hm.node hr (hj.kind.trans hk)
 refine ⟨?_,hj.graphRunID▸hn.simple⟩
 rw[←hj.id,hn.id,hj.graphRunID,hj.nodeID]
lemma Held.not_run(h:Held rec m):¬RunOf m rec.id g:=by
 rintro ⟨r',hr',hk',_⟩
 obtain ⟨r,hr,hj,hk⟩:=h
 rw[hr,Option.some.injEq] at hr'
 rw[←hr',hj.kind,hk] at hk'
 cases hk'
lemma Held.nodeRun(h:Held rec m):
 nodeRun m rec.id=[rec.graphRunID]:=by
 obtain ⟨r,hr,hj,_⟩:=h
 simp[DaemonContract.nodeRun,hr,hj.graphRunID]
lemma Held.node_mem(h:Held rec m)(hm:WellKept m)
 (hr:RunOf m rec.graphRunID g):rec.nodeID∈g.nodeIDs:=by
 obtain ⟨r,hget,hj,hk⟩:=h
 obtain ⟨run,g',hrun,hk',hp,hmem,_⟩:=(hm.node hget (hj.kind.trans hk)).run
 rw[hj.graphRunID] at hrun
 rw[hj.nodeID] at hmem
 rw[runOf_unique hr ⟨run,hrun,hk',hp⟩]
 exact hmem

def StepFailed(rec:JobRecord)(m:Memory):Prop:=
 ∃ r,m.get rec.id=some r∧r.status=.failed

lemma growing_stepFailed(rec):Growing (fun _ w=>StepFailed rec w.store):=by
 rintro _ _ _ _ _ hf _ ⟨r,hr,hs⟩
 exact ⟨r,hf.frozen _ r hr (by simp[JobRecord.terminal,hs,isTerminalStatus]),hs⟩

/-- What excuses an operation that goes on as after a failure of this step. -/
def Excused(rec:JobRecord)(n:Note)(w:World):Prop:=
 StepFailed rec w.store∨runOver w.store rec.graphRunID∨n.slipped

lemma growing_excused(rec):Growing (Excused rec):=by
 intro n n' s t hle hf hi h
 rcases h with h | h | h
 ·exact .inl (growing_stepFailed rec n n' s t hle hf hi h)
 ·exact .inr (.inl (runOver_later h hf.toEvolves))
 ·exact .inr (.inr (hle h))
lemma Excused.blame{n w}(h:Excused rec n w)
 (hheld:Held rec w.store)(hm:WellKept w.store)(hr:RunOf w.store rec.graphRunID g)
 (hp:failurePropagates g rec.nodeID):Blame g rec.graphRunID n w:=by
 rcases h with ⟨r,hget,hs⟩ | h
 ·refine .inl ⟨rec.nodeID,hheld.node_mem hm hr,r,?_,hs,hp⟩
  rw[←(hheld.kept hm).1]
  exact hget
 ·exact .inr h
lemma triple_advanceHeld
 (hI:Growing I)
 (hheld:Under env I fun _ w=>Held rec w.store)
 (hrun:Under env I fun _ w=>RunOf w.store rec.graphRunID g)
 (hf:Under env I fun n w=>status=.failed→Excused rec n w):
 (contract env).Keeps I (advanceAfterCompletion g rec.graphRunID rec.nodeID status err):=
 triple_advance hI hrun (fun n w hi hIw hs hp=>
  (hf n w hi hIw hs).blame (hheld n w hi hIw) hi.1 (hrun n w hi hIw) hp)
lemma triple_fetchAndAdvance
 (hI:Growing I)
 (hheld:Under env I fun _ w=>Held rec w.store)
 (hf:Under env I fun n w=>status=.failed→Excused rec n w):
 (contract env).Keeps I (do
  match←fetchGraph rec.graphRunID with
  | none=>pure ()
  | some g=>advanceAfterCompletion g rec.graphRunID rec.nodeID status err):=by
 refine triple_withGraph (regular env) hI.stable (triple_return hI) fun g=>?_
 exact triple_mono (triple_advanceHeld (I:=fun n w=>I n w∧RunOf w.store rec.graphRunID g)
  (hI.and (growing_run _ g)) (fun n w hi h=>hheld n w hi h.1) (fun _ _ _ h=>h.2)
  fun n w hi h=>hf n w hi h.1) (fun _ _ _ h=>h) fun _ _ _ _ h=>h.1
lemma stepFailed_of_completion{now tie v}
 (hop:op.completion=some (rec.id,worker,.failed,result))(h:(apply now tie m op).1=.ok v):
 StepFailed rec (apply now tie m op).2:=by
 obtain ⟨r,_,_,_,_,hget⟩:=completion_ok hop h
 exact ⟨_,hget,Memory.completed_status ..⟩
lemma triple_completion{α:Type}{site}(rec:JobRecord)
 {k}
 {R:α→Note→World→Prop}(hI:Growing I)
 (hop:op.completion=some (rec.id,worker,status,result))
 (hst:isTerminalStatus status∨status=.awaiting)
 (hheld:Under env I fun _ w=>Held rec w.store)
 (hg:Under env I fun n w=>Sanctioned n w.store site op)
 (herr:(contract env).Triple I (k (.error .conflict)) R)
 (hok:∀ v,(contract env).Triple (fun n w=>I n w∧(status=.failed→StepFailed rec w.store)) (k (.ok v)) R):
 (contract env).Triple I (storeAt site op>>=k) R:=by
 refine triple_bind (triple_store site op (Q:=fun r n w=>(∀ e,r=.error e→e=.conflict)∧
  ∀ v,r=.ok v → status=.failed→StepFailed rec w.store) hI ?_ hg ?_) fun r=>?_
 ·exact fun r n n' s t hle hf hi h=>⟨h.1,fun v hv hs=>growing_stepFailed rec n n' s t hle hf hi (h.2 v hv hs)⟩
 ·intro n w now tie hi hIw
  refine ⟨fun e he=>?_,fun v hv hs=>stepFailed_of_completion (hs▸hop) hv⟩
  obtain ⟨r,hr,_⟩:=hheld n w hi hIw
  exact (completion_error hop he hr hst).1
 ·cases r with
  | error e=>
   intro n w hi h
   obtain rfl:=h.2.1 e rfl
   exact herr n w hi h.1
  | ok v=>exact triple_mono (hok v) (fun _ _ _ h=>⟨h.1,h.2.2 v rfl⟩) (fun _ _ _ _ h=>h)
lemma sanctioned_complete_held{n site}
 (hsite:freeSite site)
 (hop:op.completion=some (rec.id,worker,status,result))(hadd:op.additions=[])
 (hheld:Held rec m):Sanctioned n m site op:=
 .of_complete hsite hop hadd (fun _ _ hr=>absurd hr hheld.not_run)
lemma parentOutcome_yields{parent child failed}:
 (parentOutcome env parent child failed err).Yields (fun out=>isTerminalStatus out.1):=by
 unfold parentOutcome
 split_ifs
 ·rfl
 ·refine yields_bind (yields_true _) fun r _=>?_
  cases r<;>rfl
lemma triple_resumeCheck{id}(hI:Growing I)(hid:¬SimpleID id):
 (contract env).Triple I (getRecordAt .resumeCheck id)
  (fun o n w=>I n w∧∀ p,o=some p→Held p w.store):=by
 have hQ:∀ r:Except StoreError JobRecord,
  Growing (fun _ w=>∀ p,r=.ok p→Held p w.store):=
  fun r _ _ _ _ _ hf _ h p hp=>(h p hp).later hf.toEvolves
 refine triple_bind (triple_store .resumeCheck (.get id) hI hQ (fun _ _ _ _=>.of_idle rfl rfl) ?_) fun r=>?_
 ·intro n w now tie hi _ p hp
  have hget:w.store.get id=some p:=by
   simp only[apply] at hp
   cases hw:w.store.get id with
   | none=>simp[hw] at hp
   | some r=>simpa[hw] using hp
  refine ⟨p,(get_id hget).symm▸hget,.refl p,?_⟩
  rcases hi.1 _ p hget with ⟨hg,_⟩ | ⟨hn,_⟩
  ·exact absurd ((hi.1.simple_iff hget).2 hg) hid
  ·exact hn
 ·cases r with
  | error e=>
   exact triple_done (hI.and (hQ _)).stable fun _ _ _ h=>⟨h.1,fun _ hp=>by cases hp⟩
  | ok p=>
   refine triple_done (hI.and (hQ _)).stable fun _ _ _ h=>⟨h.1,fun p' hp=>h.2 p' ?_⟩
   cases hp
   rfl
lemma triple_maybeResumeParent{child failed}
 (hI:Growing I):
 (contract env).Keeps I (maybeResumeParent env child failed err):=by
 -- a child's parent is a node record, since the ids of graph records hold no colon
 refine triple_lookup (regular env) (fun c _ _=>c.parentNodeRecID≠""→¬SimpleID c.parentNodeRecID)
  hI.stable (fun _ _ _ _ _ _ h=>h) ?_ (triple_return hI) (fun c=>?_)
 ·intro n w c hi _ hc hne
  rcases hi.1 _ c hc with ⟨_,hk⟩ | ⟨_,hk⟩
  ·exact hk.parent.resolve_left hne
  ·exact absurd hk.parent hne
 simp only
 split_ifs with hne
 ·exact triple_mono (triple_return hI) (fun _ _ _ h=>h.1) fun _ _ _ _ h=>h
 refine triple_mono (I:=fun n w=>¬SimpleID c.parentNodeRecID∧I n w) (Q:=fun _=>I)
  (triple_given fun hsimple=>?_) (fun _ _ _ h=>⟨h.2 hne,h.1⟩) (fun _ _ _ _ h=>h)
 refine triple_bind (triple_resumeCheck hI hsimple) fun
  | none=>triple_mono (triple_return hI) (fun _ _ _ h=>h.1) (fun _ _ _ _ h=>h)
  | some p=>?_
 have hJ:Growing (fun n w=>I n w∧Held p w.store):=hI.and (growing_held p)
 refine triple_mono (I:=fun (n:Note) (w:World)=>I n w∧Held p w.store) (Q:=fun _=>I) ?_
  (fun _ _ _ h=>⟨h.1,h.2 p rfl⟩) (fun _ _ _ _ h=>h)
 simp only
 split_ifs with hawait
 ·exact triple_mono (triple_return hI) (fun _ _ _ h=>h.1) fun _ _ _ _ h=>h
 refine triple_bind (triple_yields (triple_quiet (regular env)
  (quiet_parentOutcome env p child failed err) hJ.stable) parentOutcome_yields) (fun out=>?_)
 obtain ⟨status,result⟩:=out
 refine triple_given fun hterm=>?_
 refine triple_completion p hJ rfl (.inl hterm) (fun _ _ _ h=>h.2)
  (fun n w _ h=>sanctioned_complete_held rfl rfl rfl h.2) ?_ (fun v=>?_)
 ·exact triple_mono (triple_return hI) (fun _ _ _ h=>h.1) fun _ _ _ _ h=>h
 have hJ':Growing (fun n w=>(I n w∧Held p w.store)∧(status=.failed→Excused p n w)):=
  hJ.and (fun n n' s t hle hf hi h hs=>growing_excused p n n' s t hle hf hi (h hs))
 refine triple_mono (triple_fetchAndAdvance hJ' (fun _ _ _ h=>h.1.2) fun _ _ _ h=>h.2) ?_ (fun _ _ _ _ h=>h.1.1)
 exact fun n w _ h=>⟨h.1,fun hs=>.inl (h.2 hs)⟩

def Started(m:Memory)(run:String)(g:Graph):Prop:=
 ∃ r,m.get run=some r∧r.kind=.graph∧r.graphPayload=some g∧r.status≠.queued

lemma Started.runOf(h:Started m run g):RunOf m run g:=by
 obtain ⟨r,hr,hk,hp,_⟩:=h
 exact ⟨r,hr,hk,hp⟩
lemma Started.later{m'}(h:Started m run g)(hf:Flows m m'):Started m' run g:=by
 obtain ⟨r,hr,hk,hp,hs⟩:=h
 obtain ⟨r',hr',hj⟩:=hf.job _ r hr
 exact ⟨r',hr',hj.kind.trans hk,hj.graphPayload.trans hp,hf.started _ r r' hr hr' hk hs⟩

lemma triple_abandonIfStuck{rec}(hI:Growing I):
 (contract env).Keeps I (abandonIfStuck env g rec):=by
 unfold abandonIfStuck
 split
 ·exact triple_return hI
 refine triple_then (regular env) (quiet_query trivial) hI.stable fun now=>?_
 simp only
 split_ifs
 ·exact triple_return hI
 refine triple_bind (triple_store_any hI fun _ _ _ _=>.of_idle rfl rfl) fun
  | .error e=>triple_return hI
  | .ok recs=>?_
 simp only
 split_ifs
 ·exact triple_return hI
 refine triple_bind (triple_store_any hI fun _ _ _ _=>.of_complete rfl rfl rfl nofun) fun r=>?_
 cases r<;>exact triple_return hI
lemma mem_listGraphRunsOldest{opts r}
 (h:r∈m.listGraphRunsOldest opts):m.get r.id=some r∧Memory.matchesGraphRun opts r:=by
 have hmem:=mem_reverse.1 (mem_of_mem_drop (mem_of_mem_take h))
 have hrow:=(perm_insertionSort _ _).mem_iff.1 hmem
 obtain ⟨hrow,hmatch⟩:=mem_filter.1 hrow
 exact ⟨mem_rows_get.1 hrow,hmatch⟩

def AllRuns(runs:List JobRecord)(m:Memory):Prop:=
 ∀ r∈runs,∀ g,r.graphPayload=some g→RunOf m r.id g

lemma growing_allRuns(runs):
 Growing (fun _ w=>AllRuns runs w.store):=
 fun _ _ _ _ _ hf _ h r hr g hg=>(h r hr g hg).later hf.toEvolves
lemma triple_reapRuns(runs reaped)(hI:Growing I)
 (hruns:Under env I fun _ w=>AllRuns runs w.store):
 (contract env).Keeps I (reapRuns env runs reaped):=by
 induction runs generalizing reaped with
 | nil=>exact triple_return hI
 | cons r rest ih=>
  have hrest:∀ reaped,(contract env).Keeps I (reapRuns env rest reaped):=
   fun reaped=>ih reaped (fun n w hi hIw x hx=>hruns n w hi hIw x (mem_cons_of_mem _ hx))
  unfold reapRuns
  cases hp:r.graphPayload with
  | none=>exact hrest reaped
  | some g=>?_
  refine triple_bind (triple_maybeCompleteGraph (g:=g) hI
   (fun n w hi hIw=>hruns n w hi hIw r mem_cons_self g hp) nofun) (fun _=>?_)
  refine triple_then (regular env) (quiet_getRecord _) hI.stable fun
   | none=>hrest reaped
   | some last=>?_
  simp only
  split_ifs
  ·exact hrest (reaped+1)
  ·refine triple_bind (triple_abandonIfStuck hI) fun b=>?_
   cases b<;>exact hrest _
lemma triple_reapStuckGraphRuns(hI:Growing I):
 (contract env).Keeps I (reapStuckGraphRuns env):=by
 have hlist:∀ {J:Note→World→Prop} {status:JobStatus},Growing J→(contract env).Triple J
   (storeAt .plain (.listGraphRunsOldest {status:=status,limit:=reapBatchLimit}))
   (fun r n w=>J n w∧∀ recs,r=.ok recs→AllRuns recs (World.store w)):=by
  intro J status hJ
  refine triple_read (regular env) rfl hJ.stable ?_ ?_
  ·refine fun r=>stable_and hJ.stable fun n s t hr hi h recs hrecs=>?_
   exact (growing_allRuns recs).stable n s t hr hi (h recs hrecs)
  ·intro n w now tie hi hJw
   refine ⟨hJw,fun recs hrecs=>?_⟩
   cases hrecs
   exact fun r hr g hg=>hi.1.runOf (mem_listGraphRunsOldest hr).1 hg
 refine triple_bind (hlist hI) fun
  | .error e=>triple_mono (triple_return hI) (fun _ _ _ h=>h.1) (fun _ _ _ _ h=>h)
  | .ok running=>?_
 have hJ:Growing (fun n w=>I n w∧AllRuns running w.store):=
  hI.and (growing_allRuns running)
 refine triple_mono (Q:=fun _=>I) (triple_bind (hlist hJ) fun r=>?_)
  (fun _ _ _ h=>⟨h.1,h.2 running rfl⟩) (fun _ _ _ _ h=>h)
 cases r with
 | error e=>exact triple_mono (triple_return hI) (fun _ _ _ h=>h.1.1) (fun _ _ _ _ h=>h)
 | ok awaiting=>?_
 refine triple_mono (triple_reapRuns (running++awaiting) 0
  (hI.and (growing_allRuns (running++awaiting)))
  (fun _ _ _ h=>h.2)) ?_ fun _ _ _ _ h=>h.1
 intro n w _ h
 refine ⟨h.1.1,fun r hr=>?_⟩
 rcases mem_append.1 hr with hr | hr
 ·exact h.1.2 r hr
 ·exact h.2 awaiting rfl r hr

end Dazyflow.DaemonContract
