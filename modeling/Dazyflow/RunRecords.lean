import Dazyflow.Dispatcher
import Dazyflow.StoreRuns

/-!
# The records of a run

How the store looks while only the daemon writes to it: a graph record holds the accepted flow of its run, and
a node record belongs to a step of the flow of a run that has its own record.
-/
namespace Dazyflow.RunRecords
open FlowGraph JobRecords MemoryStore StoreOperations StoreRuns EdgeClassification LoopBodies List
open GraphValidation Daemon

/-- Run ids hold no colon, so that a colon marks the ids of node records. -/
def SimpleID(id:String):Prop:= ':' ∉ id.toList

def Accepted(g:Graph):Prop:=validate g=[]∧validateLoopBodies g=none

lemma Accepted.wellFormed{g}(h:Accepted g):WellFormed g:=validate_wellFormed h.1
lemma append_colon_inj{l l' m m'}(h:l++ ':'::m=l'++ ':'::m')
 (hl: ':' ∉ l)(hl': ':' ∉ l'):l=l'∧m=m':=by
 induction l generalizing l' with
 | nil=>
  cases l' with
  | nil=>exact ⟨rfl,(List.cons.inj h).2⟩
  | cons c l'=>
   have hc:=(List.cons.inj h).1
   exact absurd (hc▸mem_cons_self) hl'
 | cons c l ih=>
  cases l' with
  | nil=>
   have hc:=(List.cons.inj h).1
   exact absurd (hc▸mem_cons_self) hl
  | cons c' l'=>
   obtain ⟨hc,ht⟩:=List.cons.inj h
   obtain ⟨h₁,h₂⟩:=ih ht (fun hm=>hl (mem_cons_of_mem _ hm))
    fun hm=>hl' (mem_cons_of_mem _ hm)
   exact ⟨by rw[hc,h₁],h₂⟩
lemma nodeJobID_toList(run id):
 (nodeJobID run id).toList=run.toList++ ':'::id.toList:=by
 simp[nodeJobID]
lemma nodeJobID_eq_iff{run run' id id'}(h:SimpleID run)(h':SimpleID run'):
 nodeJobID run id=nodeJobID run' id'↔run=run'∧id=id':=by
 constructor
 ·intro he
  have hl:=congrArg String.toList he
  rw[nodeJobID_toList,nodeJobID_toList] at hl
  obtain ⟨h₁,h₂⟩:=append_colon_inj hl h h'
  exact ⟨String.toList_inj.1 h₁,String.toList_inj.1 h₂⟩
 ·rintro ⟨rfl,rfl⟩
  rfl
lemma nodeJobID_not_simple(run id):¬SimpleID (nodeJobID run id):=by
 intro h
 rw[SimpleID,nodeJobID_toList] at h
 exact h (by simp)

def RunOf(m:Memory)(run:String)(g:Graph):Prop:=
 ∃ r,m.get run=some r∧r.kind=.graph∧r.graphPayload=some g

structure GraphKept(r:JobRecord):Prop where
 simple:SimpleID r.id
 named:r.id≠""
 payload:∃ g,r.graphPayload=some g∧Accepted g∧g.tenant=r.tenant∧g.workspace=r.workspace
 parent:r.parentNodeRecID=""∨¬SimpleID r.parentNodeRecID
 solo:r.graphRunID=""

structure NodeKept(m:Memory)(r:JobRecord):Prop where
 id:r.id=nodeJobID r.graphRunID r.nodeID
 simple:SimpleID r.graphRunID
 run:∃ run g,m.get r.graphRunID=some run∧run.kind=.graph∧run.graphPayload=some g∧
  r.nodeID∈g.nodeIDs∧r.tenant=run.tenant∧r.workspace=run.workspace
 parent:r.parentNodeRecID=""
 bare:r.graphPayload=none

def WellMade(m:Memory)(r:JobRecord):Prop:=
 (r.kind=.graph∧GraphKept r)∨(r.kind=.node∧NodeKept m r)

def WellKept(m:Memory):Prop:=∀ k r,m.get k=some r→WellMade m r

lemma GraphKept.same{r r'}(h:GraphKept r)(hj:SameJob r r'):GraphKept r':=by
 obtain ⟨hs,hn,⟨g,hp,ha,ht,hw⟩,hpar,hsolo⟩:=h
 exact ⟨hj.id▸hs,hj.id▸hn,⟨g,hj.graphPayload.trans hp,ha,ht.trans hj.tenant.symm,
  hw.trans hj.workspace.symm⟩,by rw[hj.parentNodeRecID]; exact hpar,hj.graphRunID.trans hsolo⟩
lemma NodeKept.later{m m' r r'}(h:NodeKept m r)(hj:SameJob r r')
 (he:Evolves m m'):NodeKept m' r':=by
 obtain ⟨hid,hs,⟨run,g,hrun,hk,hp,hn,ht,hw⟩,hpar,hbare⟩:=h
 obtain ⟨run',hrun',hj'⟩:=he.job _ run hrun
 refine ⟨?_,hj.graphRunID▸hs,⟨run',g,?_,?_,?_,?_,?_,?_⟩,hj.parentNodeRecID.trans hpar,
  hj.graphPayload.trans hbare⟩
 ·rw[hj.id,hj.graphRunID,hj.nodeID,hid]
 ·rw[hj.graphRunID,hrun']
 ·rw[hj'.kind,hk]
 ·rw[hj'.graphPayload,hp]
 ·rw[hj.nodeID]
  exact hn
 ·rw[hj.tenant,hj'.tenant,ht]
 ·rw[hj.workspace,hj'.workspace,hw]
lemma WellMade.later{m m' r r'}(h:WellMade m r)(hj:SameJob r r')
 (he:Evolves m m'):WellMade m' r':=by
 rcases h with ⟨hk,h⟩ | ⟨hk,h⟩
 ·exact .inl ⟨hj.kind.trans hk,h.same hj⟩
 ·exact .inr ⟨hj.kind.trans hk,h.later hj he⟩
lemma WellMade.stamp{m rec}(h:WellMade m rec)(now):
 WellMade m (Memory.stamp now rec):=by
 have hk:(Memory.stamp now rec).kind=rec.kind:=by
  have hne:rec.kind≠.unset:=by
   rcases h with ⟨hk,_⟩ | ⟨hk,_⟩<;>simp[hk]
  simp[Memory.stamp,hne]
 rcases h with ⟨hg,h⟩ | ⟨hn,h⟩
 ·exact .inl ⟨hk.trans hg,⟨h.simple,h.named,h.payload,h.parent,h.solo⟩⟩
 ·exact .inr ⟨hk.trans hn,⟨h.id,h.simple,h.run,h.parent,h.bare⟩⟩
lemma WellKept.apply{m}(h:WellKept m)(now tie op)
 (hd:∀ tenant,op≠.deleteByTenant tenant)(hadd:∀ rec∈op.additions,WellMade m rec):
 WellKept (apply now tie m op).2:=by
 have he:=apply_evolves now tie m op hd
 intro k r hr
 rcases apply_get_cases now tie m op hd k with hk | ⟨_,rec,hrec,_,hk⟩ | ⟨r₀,r',h₀,hk,ht⟩
 ·exact (h k r (hk.symm.trans hr)).later (.refl r) he
 ·rw[hk,Option.some.injEq] at hr
  exact hr▸((hadd rec hrec).stamp now).later (.refl _) he
 ·rw[hk,Option.some.injEq] at hr
  exact hr▸(h k r₀ h₀).later ht.same_job he

section WellKept

variable {m:Memory}(h:WellKept m)
include h

variable {r:JobRecord}{run k:String}{g:Graph}

lemma WellKept.graph(hr:m.get k=some r)(hk:r.kind=.graph):
 GraphKept r:=by
 rcases h k r hr with ⟨_,hg⟩ | ⟨hn,_⟩
 ·exact hg
 ·rw[hk] at hn
  cases hn
lemma WellKept.node(hr:m.get k=some r)(hk:r.kind=.node):
 NodeKept m r:=by
 rcases h k r hr with ⟨hg,_⟩ | ⟨_,hn⟩
 ·rw[hk] at hg
  cases hg
 ·exact hn
lemma WellKept.simple_iff(hr:m.get k=some r):
 SimpleID k↔r.kind=.graph:=by
 have hid:=get_id hr
 rcases h k r hr with ⟨hg,hkept⟩ | ⟨hn,hkept⟩
 ·exact ⟨fun _=>hg,fun _=>hid▸hkept.simple⟩
 constructor
 ·intro hs
  rw[←hid,hkept.id] at hs
  exact absurd hs (nodeJobID_not_simple _ _)
 ·intro hg
  rw[hn] at hg
  cases hg
lemma WellKept.runOf(hr:m.get run=some r)
 (hp:r.graphPayload=some g):RunOf m run g:=by
 rcases h run r hr with ⟨hg,_⟩ | ⟨_,hn⟩
 ·exact ⟨r,hr,hg,hp⟩
 ·rw[hn.bare] at hp
  cases hp
lemma WellKept.accepted(hr:RunOf m run g):Accepted g:=by
 obtain ⟨r,hr,hk,hp⟩:=hr
 obtain ⟨g',hp',ha,_⟩:=(h.graph hr hk).payload
 rw[hp,Option.some.injEq] at hp'
 exact hp' ▸ ha
lemma WellKept.runOf_simple(hr:RunOf m run g):SimpleID run:=by
 obtain ⟨r,hr,hk,_⟩:=hr
 exact (h.simple_iff hr).2 hk
lemma WellKept.node_at{id}(hs:SimpleID run)
 (hr:m.get (nodeJobID run id)=some r):r.kind=.node∧r.graphRunID=run∧r.nodeID=id:=by
 have hk:r.kind=.node:=by
  rcases h _ r hr with ⟨hg,_⟩ | ⟨hn,_⟩
  ·exact absurd ((h.simple_iff hr).2 hg) (nodeJobID_not_simple run id)
  ·exact hn
 have hkept:=h.node hr hk
 have hid:=hkept.id
 rw[get_id hr,nodeJobID_eq_iff hs hkept.simple] at hid
 exact ⟨hk,hid.1.symm,hid.2.symm⟩

end WellKept

variable {m m':Memory}{run:String}{g:Graph}

lemma RunOf.later(h:RunOf m run g)(he:Evolves m m'):
 RunOf m' run g:=by
 obtain ⟨r,hr,hk,hp⟩:=h
 obtain ⟨r',hr',hj⟩:=he.job _ r hr
 exact ⟨r',hr',hj.kind.trans hk,hj.graphPayload.trans hp⟩

/-- Records stay, and beside what every operation keeps: a run that has started
 is not queued again, and a step that left an attempt does not come back to it. -/
structure Flows(m m':Memory):Prop extends Evolves m m' where
 started:∀ k r r',m.get k=some r→m'.get k=some r' → r.kind=.graph→
  r.status≠.queued → r'.status≠.queued
 aged:∀ k r r',m.get k=some r→m'.get k=some r' → r.kind=.node→
  r.attempt ≤ r'.attempt∧
   (r'.attempt=r.attempt → r'.status=.running → r.status=.running∧r'.workerID=r.workerID)

lemma Flows.refl(m):Flows m m where
 toEvolves:=.refl m
 started:=by
  intro k r r' hr hr' _ hs
  rw[hr,Option.some.injEq] at hr'
  exact hr' ▸ hs
 aged:=by
  intro k r r' hr hr' _
  rw[hr,Option.some.injEq] at hr'
  exact hr' ▸ ⟨le_rfl,fun _ hs=>⟨hs,rfl⟩⟩
lemma Flows.trans{a b c}(h:Flows a b)(k:Flows b c):Flows a c where
 toEvolves:=h.toEvolves.trans k.toEvolves
 started:=by
  intro id r r'' hr hr'' hk hs
  obtain ⟨r',hr',hj⟩:=h.job id r hr
  exact k.started id r' r'' hr' hr'' (hj.kind.trans hk) (h.started id r r' hr hr' hk hs)
 aged:=by
  intro id r r'' hr hr'' hk
  obtain ⟨r',hr',hj⟩:=h.job id r hr
  obtain ⟨hle,hrun⟩:=h.aged id r r' hr hr' hk
  obtain ⟨hle',hrun'⟩:=k.aged id r' r'' hr' hr'' (hj.kind.trans hk)
  refine ⟨hle.trans hle',fun hatt hs=>?_⟩
  obtain ⟨hs',hw'⟩:=hrun' (by omega) hs
  obtain ⟨hs,hw⟩:=hrun (by omega) hs'
  exact ⟨hs,hw'.trans hw⟩
lemma apply_flows(now tie m op)
 (hd:∀ tenant,op≠.deleteByTenant tenant)
 (hq:∀ id worker availableAt,op.requeuing=some (id,worker,availableAt)→
  ∀ r,m.get id=some r → r.kind=.node):Flows m (apply now tie m op).2 where
 toEvolves:=apply_evolves now tie m op hd
 started:=by
  intro k r r' hr hr' hk hs
  rcases apply_get_cases now tie m op hd k with h | ⟨hn,_⟩ | ⟨r₀,r₁,h₀,h₁,ht⟩
  ·rw[h,hr,Option.some.injEq] at hr'
   exact hr' ▸ hs
  ·rw[hr] at hn
   cases hn
  ·rw[hr,Option.some.injEq] at h₀
   rw[h₁,Option.some.injEq] at hr'
   subst h₀ hr'
   cases ht with
   | claim _ hc=>simp[(claimable_status hc).1] at hk
   | renew _ _ hrun=>exact hs
   | requeue hop _ _=>simp[hq _ _ _ hop r (get_id hr▸hr)] at hk
   | complete _ _ hst _ _=>
    rw[Memory.completed_status]
    rcases hst with hst | rfl
    ·rintro rfl
     cases hst
    ·simp
   | park _ _ _ | unpark _ _ _=>simp[Memory.withStatus]
   | start _ _ hq=>exact absurd hq hs
 aged:=by
  intro k r r' hr hr' hk
  rcases apply_get_cases now tie m op hd k with h | ⟨hn,_⟩ | ⟨r₀,r₁,h₀,h₁,ht⟩
  ·rw[h,hr,Option.some.injEq] at hr'
   exact hr' ▸ ⟨le_rfl,fun _ hs=>⟨hs,rfl⟩⟩
  ·rw[hr] at hn
   cases hn
  ·rw[hr,Option.some.injEq] at h₀
   rw[h₁,Option.some.injEq] at hr'
   subst h₀ hr'
   cases ht with
   | claim _ _=>
    refine ⟨Nat.le_succ _,fun hatt=>?_⟩
    simp[Memory.claimed] at hatt
   | renew _ _ hrun=>exact ⟨le_rfl,fun _ _=>⟨hrun,rfl⟩⟩
   | requeue _ _ _=>exact ⟨le_rfl,fun _ hs=>by simp[Memory.requeued] at hs⟩
   | complete _ _ hst _ _=>
    refine ⟨le_rfl,fun _ hs=>?_⟩
    rw[Memory.completed_status] at hs
    rcases hst with hst | hst<;>simp[hs,isTerminalStatus] at hst
   | park _ hg _ | unpark _ hg _ | start _ hg _=>simp[hk] at hg

def succeededIn(m:Memory)(run id:String):Bool:=
 (m.get (nodeJobID run id)).any (fun r=>r.status==.succeeded)

/-- Every predecessor of the step has succeeded. -/
def Ready(m:Memory)(rec:JobRecord):Prop:=
 ∃ g,RunOf m rec.graphRunID g∧∀ e∈g.incoming rec.nodeID,succeededIn m rec.graphRunID e.source

lemma succeededIn_later{m m' run id}(h:succeededIn m run id)(he:Evolves m m'):succeededIn m' run id:=by
 obtain ⟨r,hr,hs⟩:=(Option.any_eq_true _ _).1 h
 have hst:r.status=.succeeded:=by simpa using hs
 rw[succeededIn,he.frozen _ r hr (by simp[JobRecord.terminal,hst,isTerminalStatus])]
 exact hs
lemma Ready.later{m m' rec}(h:Ready m rec)(he:Evolves m m'):Ready m' rec:=by
 obtain ⟨g,hg,hall⟩:=h
 exact ⟨g,hg.later he,fun e hin=>succeededIn_later (hall e hin) he⟩

def StepDone(m:Memory)(g:Graph)(run id:String):Prop:=
 ∃ r,m.get (nodeJobID run id)=some r∧r.terminal∧
  ¬(r.status=.failed∧failurePropagates g id)

def AllDone(m:Memory)(g:Graph)(run:String):Prop:=
 ∀ id∈g.nodeIDs,bodyOwned g id=false→StepDone m g run id

/-- Some step failed, and its failure ends the run. -/
def FailedStep(m:Memory)(g:Graph)(run:String):Prop:=
 ∃ id∈g.nodeIDs,∃ r,m.get (nodeJobID run id)=some r∧r.status=.failed∧
  failurePropagates g id

def runOver(m:Memory)(run:String):Bool:=(m.get run).any JobRecord.terminal

/-- A run is recorded as succeeded only when all its steps are done. -/
def Sound(m:Memory):Prop:=
 ∀ run g r,m.get run=some r → r.kind=.graph → r.graphPayload=some g → r.status=.succeeded→
  AllDone m g run

lemma AllDone.later(h:AllDone m g run)(he:Evolves m m'):
 AllDone m' g run:=by
 intro id hid hb
 obtain ⟨r,hr,ht,hf⟩:=h id hid hb
 exact ⟨r,he.frozen _ r hr ht,ht,hf⟩
lemma FailedStep.later(h:FailedStep m g run)
 (he:Evolves m m'):FailedStep m' g run:=by
 obtain ⟨id,hid,r,hr,hs,hp⟩:=h
 exact ⟨id,hid,r,he.frozen _ r hr (by simp[JobRecord.terminal,hs,isTerminalStatus]),hs,hp⟩
lemma runOver_later(h:runOver m run)(he:Evolves m m'):
 runOver m' run:=by
 obtain ⟨r,hr,ht⟩:=(Option.any_eq_true _ _).1 h
 exact (Option.any_eq_true _ _).2 ⟨r,he.frozen _ r hr ht,ht⟩
lemma Sound.apply(h:Sound m)(now tie op)
 (hd:∀ tenant,op≠.deleteByTenant tenant)
 (hadd:∀ rec∈op.additions,rec.kind=.graph → rec.status=.running∨rec.status=.queued)
 (hkind:∀ rec∈op.additions,rec.kind≠.unset)
 (hc:∀ id worker result,op.completion=some (id,worker,.succeeded,result)→
  ∀ g,RunOf m id g→AllDone m g id):
 Sound (apply now tie m op).2:=by
 have he:=apply_evolves now tie m op hd
 intro run g r hr hk hp hs
 rcases apply_get_cases now tie m op hd run with h' | ⟨_,rec,hrec,_,h'⟩ | ⟨r₀,r₁,h₀,h₁,ht⟩
 ·exact (h run g r (h'.symm.trans hr) hk hp hs).later he
 ·rw[h',Option.some.injEq] at hr
  subst hr
  have hkr:rec.kind=.graph:=by simpa[Memory.stamp,hkind rec hrec] using hk
  rcases hadd rec hrec hkr with hst | hst<;>simp[Memory.stamp,hst] at hs
 ·rw[h₁,Option.some.injEq] at hr
  subst hr
  cases ht with
  | claim _ hcl=>simp[Memory.claimed] at hs
  | renew _ _ hrun=>simp[Memory.renewed,hrun] at hs
  | requeue _ _ _=>simp[Memory.requeued] at hs
  | complete hop _ _ _ _=>
   rw[Memory.completed_status] at hs
   subst hs
   have hid:=get_id h₀
   rw[hid] at hop
   exact (hc run _ _ hop g ⟨r₀,h₀,hk,hp⟩).later he
  | park _ _ _ | unpark _ _ _=>simp[Memory.withStatus] at hs
  | start _ _ _=>simp[Memory.startRunning] at hs
lemma mem_listNodeRecords_of_fits{opts r}
 (hoff:opts.offset=0)(hlim:((m.records.rows.filter (Memory.matchesNodeRecord opts)).length:Int)
  ≤ opts.limit)(hpos:0<opts.limit):
 r∈m.listNodeRecords opts↔m.get r.id=some r∧Memory.matchesNodeRecord opts r:=by
 have hlen:∀ l:List JobRecord,l.Perm (m.records.rows.filter (Memory.matchesNodeRecord opts))→
  Memory.page opts.offset opts.limit 100 l=l:=by
  intro l hl
  have hl':=hl.length_eq
  unfold Memory.page
  rw[hoff,if_neg (by omega),Int.toNat_zero,drop_zero]
  exact take_of_length_le (by omega)
 unfold Memory.listNodeRecords
 rw[hlen _ (perm_insertionSort _ _),(perm_insertionSort _ _).mem_iff,mem_filter,
  mem_rows_get]
section

variable (h:WellKept m)(hr:RunOf m run g)

include h hr

lemma run_rows_length{p}(hp:∀ r,p r → r.kind=.node∧r.graphRunID=run):
 (m.records.rows.filter p).length ≤ g.nodes.length:=by
 have hkept:∀ r∈m.records.rows.filter p,r.nodeID∈g.nodeIDs∧r.id=nodeJobID run r.nodeID:=by
  intro r hm
  obtain ⟨hrow,hpr⟩:=mem_filter.1 hm
  obtain ⟨hk,hrun⟩:=hp r hpr
  have hn:=h.node (mem_rows_get.1 hrow) hk
  obtain ⟨r₁,g₁,hr₁,hk₁,hp₁,hmem,_⟩:=hn.run
  obtain ⟨r₂,hr₂,_,hp₂⟩:=hr
  rw[hrun,hr₂,Option.some.injEq] at hr₁
  rw[←hr₁,hp₂,Option.some.injEq] at hp₁
  exact ⟨hp₁▸hmem,hrun▸hn.id⟩
 have hnodup:((m.records.rows.filter p).map JobRecord.nodeID).Nodup:=by
  have hids:((m.records.rows.filter p).map JobRecord.id).Nodup:=
   (filter_sublist.map JobRecord.id).nodup m.records.nodup
  have hmap:(m.records.rows.filter p).map JobRecord.id =
   ((m.records.rows.filter p).map JobRecord.nodeID).map (nodeJobID run):=by
   rw[map_map]
   exact map_congr_left fun r hm=>(hkept r hm).2
  rw[hmap] at hids
  exact hids.of_map
 have hsub:∀ x∈(m.records.rows.filter p).map JobRecord.nodeID,x∈g.nodeIDs:=by
  intro x hx
  obtain ⟨r,hm,rfl⟩:=mem_map.1 hx
  exact (hkept r hm).1
 have hle:=(subperm_of_subset hnodup hsub).length_le
 simpa[Graph.nodeIDs] using hle
lemma mem_run_listing{r}:
 r∈m.listNodeRecords (runListing g run)↔
  m.get r.id=some r∧r.kind=.node∧r.graphRunID=run:=by
 obtain ⟨rr,hrr,hk,hp⟩:=hr
 have hkept:=h.graph hrr hk
 have hname:run≠"":=get_id hrr▸hkept.named
 obtain ⟨g',hp',_,ht,hw⟩:=hkept.payload
 rw[hp,Option.some.injEq] at hp'
 subst hp'
 have hmatch:∀ r,Memory.matchesNodeRecord (runListing g run) r→
  r.kind=.node∧r.graphRunID=run:=by
  intro r hm
  simp only[Memory.matchesNodeRecord,runListing,Bool.and_eq_true,Bool.or_eq_true,beq_iff_eq] at hm
  exact ⟨hm.1.1.1.1.1.1,hm.1.1.2.resolve_left hname⟩
 have hlen:=run_rows_length h ⟨rr,hrr,hk,hp⟩ hmatch
 rw[mem_listNodeRecords_of_fits rfl (by simp only[runListing] at hlen ⊢; omega)
  (by simp only[runListing]; omega)]
 refine and_congr_right fun hrow=>⟨hmatch r,fun ⟨hkn,hrun⟩=>?_⟩
 obtain ⟨r₁,g₁,hr₁,_,_,_,htr,hwr⟩:=(h.node hrow hkn).run
 rw[hrun,hrr,Option.some.injEq] at hr₁
 subst hr₁
 simp[Memory.matchesNodeRecord,runListing,hkn,hrun,htr,hwr,ht,hw]
lemma byNode_run_listing(id):byNode (m.listNodeRecords (runListing g run)) id=m.get (nodeJobID run id):=by
 have hs:=h.runOf_simple hr
 unfold byNode
 cases hf:(m.listNodeRecords (runListing g run)).reverse.find? (fun r=>r.nodeID==id) with
 | some r=>
  have hid:r.nodeID=id:=by simpa using find?_some hf
  have hmem:=mem_reverse.1 (mem_of_find?_eq_some hf)
  obtain ⟨hget,hk,hrun⟩:=(mem_run_listing h hr).1 hmem
  have hrid:=(h.node hget hk).id
  rw[hrun,hid] at hrid
  rw[←hrid,hget]
 | none=>
  cases hg:m.get (nodeJobID run id) with
  | none=>rfl
  | some r=>
   obtain ⟨hk,hrun,hn⟩:=h.node_at hs hg
   have hmem:=(mem_run_listing h hr).2 ⟨(get_id hg).symm▸hg,hk,hrun⟩
   have:=find?_eq_none.1 hf r (mem_reverse.2 hmem)
   simp[hn] at this
lemma runVerdict_listing:
 (runVerdict g (m.listNodeRecords (runListing g run)) g.nodes=.complete→AllDone m g run)∧
 (∀ id cause,runVerdict g (m.listNodeRecords (runListing g run)) g.nodes=.failed id cause→
  FailedStep m g run)∧
 (runVerdict g (m.listNodeRecords (runListing g run)) g.nodes=.unfinished→
  ∃ id∈g.nodeIDs,bodyOwned g id=false∧
   ∀ r,m.get (nodeJobID run id)=some r → r.terminal=false):=by
 have hall:∀ nodes:List Node,(∀ n∈nodes,n∈g.nodes)→
  (runVerdict g (m.listNodeRecords (runListing g run)) nodes=.complete→
   ∀ n∈nodes,bodyOwned g n.id=false→StepDone m g run n.id)∧
  (∀ id cause,runVerdict g (m.listNodeRecords (runListing g run)) nodes=.failed id cause→
   FailedStep m g run)∧
  (runVerdict g (m.listNodeRecords (runListing g run)) nodes=.unfinished→
   ∃ id∈g.nodeIDs,bodyOwned g id=false∧
    ∀ r,m.get (nodeJobID run id)=some r → r.terminal=false):=by
  intro nodes
  induction nodes with
  | nil=>exact fun _=>⟨fun _ n hn=>(by cases hn),nofun,nofun⟩
  | cons n rest ih=>
   intro hsub
   obtain ⟨ihc,ihf,ihu⟩:=ih fun x hx=>hsub x (mem_cons_of_mem _ hx)
   have hnode:n.id∈g.nodeIDs:=mem_map_of_mem (hsub n mem_cons_self)
   rw[runVerdict]
   by_cases hb:bodyOwned g n.id
   ·rw[if_pos hb]
    refine ⟨fun hv x hx hbx=>?_,ihf,ihu⟩
    rcases mem_cons.1 hx with rfl | hx
    ·rw[hb] at hbx
     cases hbx
    ·exact ihc hv x hx hbx
   ·rw[if_neg hb,byNode_run_listing h hr]
    have hb':bodyOwned g n.id=false:=by simpa using hb
    cases hg:m.get (nodeJobID run n.id) with
    | none=>
     refine ⟨nofun,nofun,fun _=>⟨n.id,hnode,hb',?_⟩⟩
     exact fun r hr'=>by rw[hg] at hr'; cases hr'
    | some r=>
     by_cases ht:r.terminal=false
     ·simp only[ht,if_true]
      refine ⟨nofun,nofun,fun _=>⟨n.id,hnode,hb',?_⟩⟩
      intro r' hr'
      rw[hg,Option.some.injEq] at hr'
      exact hr' ▸ ht
     ·simp only[ht]
      by_cases hf:r.status=.failed∧failurePropagates g n.id
      ·simp only[hf,and_self,if_true]
       exact ⟨nofun,fun _ _ _=>⟨n.id,hnode,r,hg,hf.1,hf.2⟩,
        nofun⟩
      ·simp only[hf,if_false]
       refine ⟨fun hv x hx hbx=>?_,ihf,ihu⟩
       rcases mem_cons.1 hx with rfl | hx
       ·exact ⟨r,hg,by simpa using ht,hf⟩
       ·exact ihc hv x hx hbx
 obtain ⟨hc,hf,hu⟩:=hall g.nodes fun _ hn=>hn
 refine ⟨fun hv id hid hb=>?_,hf,hu⟩
 obtain ⟨n,hn,rfl⟩:=mem_map.1 hid
 exact hc hv n hn hb

end

end Dazyflow.RunRecords
