import Dazyflow.OperationSpecs
import Dazyflow.ProgramRuns
import Dazyflow.SeededRuns

/-!
# Retrying a failed run

`ResumeFailedRun` of `resume.go` submits the stored flow again, with the outputs of the steps that succeeded
as seeds.
-/
namespace Dazyflow.ResumedRuns
open Interleaving Daemon FlowGraph JobRecords MemoryStore StoreOperations RunRecords SeededRuns List
open Interleaving.Prog (only_bind only_ask only_pure within_mono yields_bind yields_true)

def outputsReusable:Option Result→Bool
 | none=>true
 | some res=>res.output.all (fun o=>o.2.ref== "")

def setSeed(seeds:Seeds)(nodeID:String)(result:Result):Seeds:=
 seeds.filter (fun s=>s.1 != nodeID)++[(nodeID,result)]

def collectSeeds:List JobRecord→Seeds→Seeds
 | [],seeds=>seeds
 | n::rest,seeds=>
  if n.status≠.succeeded then collectSeeds rest seeds
  else if outputsReusable n.result=false then collectSeeds rest seeds
  else collectSeeds rest (setSeed seeds n.nodeID (n.result.getD {status:=.ok}))

def oldSteps(rec:JobRecord)(runID:String):ListNodeRecordsOpts:=
 {tenant:=rec.tenant,workspace:=rec.workspace,graphRunID:=runID,limit:=5000}

def resumeFailedRun(p:Principal)(runID:String):Prog Submitted:=do
 match←getRecord runID with
 | none=>pure {error:=some "job not found" }
 | some rec=>
  if requireTenant p rec.tenant=false then pure {error:=some "unauthorized" }
  else if rec.kind≠.graph then
   pure {error:=some ("job not found: "++quoted runID++" is a node record, not a run")}
  else if rec.status≠.failed∧rec.status≠.cancelled then
   pure { error:=some ("job state conflict: run is "++statusText rec.status ++
    "; only failed or cancelled runs can be retried")}
  else match rec.graphPayload with
   | none=>pure {error:=some ("run "++quoted runID++" has no stored graph to retry")}
   | some g=>do
    match←storeAt .plain (.listNodeRecords (oldSteps rec runID)) with
    | .error _=>pure {error:=some ("list node records for run "++quoted runID)}
    | .ok nodes=>submitGraphOpts p g {seeds:=collectSeeds nodes [],manual:=true}

abbrev Reusable(nodes:List JobRecord)(id:String):Prop:=
 ∃ n∈nodes,n.nodeID=id∧n.status=.succeeded∧outputsReusable n.result

variable {seeds:Seeds}{w₁:World}

lemma mem_setSeed{nodeID id result}:
 id∈(setSeed seeds nodeID result).map Prod.fst↔id∈seeds.map Prod.fst∨id=nodeID:=by
 by_cases h:id=nodeID<;>simp[setSeed,h]
lemma nodup_setSeed(h:(seeds.map Prod.fst).Nodup)(nodeID result):
 ((setSeed seeds nodeID result).map Prod.fst).Nodup:=by
 rw[setSeed,map_append,nodup_append]
 refine ⟨h.sublist (filter_sublist.map _),nodup_singleton _,?_⟩
 intro a ha b hb
 obtain ⟨s,hs,rfl⟩:=mem_map.1 ha
 obtain rfl:b=nodeID:=by simpa using hb
 simpa using (mem_filter.1 hs).2
lemma mem_collectSeeds{nodes id}:
 id∈(collectSeeds nodes seeds).map Prod.fst↔id∈seeds.map Prod.fst∨Reusable nodes id:=by
 induction nodes generalizing seeds with
 | nil=>simp[collectSeeds,Reusable]
 | cons n rest ih=>
  have hcons:Reusable (n::rest) id↔
   (n.nodeID=id∧n.status=.succeeded∧outputsReusable n.result)∨Reusable rest id:=by
   simp[Reusable]
  rw[hcons]
  unfold collectSeeds
  split_ifs with hs hr
  ·rw[ih]
   tauto
  ·rw[ih]
   simp[hr]
  ·rw[ih,mem_setSeed]
   simp only[ne_eq,not_not] at hs
   simp only[Bool.not_eq_false] at hr
   simp only[hs,hr,and_self,and_true,or_assoc,eq_comm]
lemma nodup_collectSeeds(nodes)(h:(seeds.map Prod.fst).Nodup):
 ((collectSeeds nodes seeds).map Prod.fst).Nodup:=by
 induction nodes generalizing seeds with
 | nil=>exact h
 | cons n rest ih=>
  unfold collectSeeds
  split_ifs
  ·exact ih h
  ·exact ih h
  ·exact ih (nodup_setSeed h _ _)

variable {env:Env}{g:Graph}{run:String}{seeds:Seeds}{w:World}

def OwnEnd(run:String)(c:Call):Prop:=
 Quiet c∨∃ site status result,c=.store site (.complete run status result)

lemma seedsOnly_ownEnd{seeded c}(o)(hc:OwnEnd run c)
 (h:SeedsOnly run seeded w.store):SeedsOnly run seeded (stepWorld env c o w).2.store:=by
 rcases hc with hc | ⟨site,status,result,rfl⟩
 ·rw[quiet_store hc]
  exact h
 ·intro id
  change succeededIn (w.store.completeLocked o.now run "" status result).2 run id=_
  rw[←h id]
  rcases completeLocked_cases o.now w.store run "" status result with ⟨e,he⟩ | ⟨r,_,_,_,_,_,ho⟩
  ·rw[he]
  ·rw[ho]
   simp only[succeededIn,get_update,if_neg (nodeJobID_ne_run run id)]
lemma ends_ownEnd{α:Type}{seeded:List String}{p:Daemon.Prog α}(hp:p.Only (OwnEnd run))
 (h:SeedsOnly run seeded w.store):Ends (daemon env) p w (fun _ w'=>SeedsOnly run seeded w'.store):=
 Ends.only (M:=daemon env) (I:=fun w'=>SeedsOnly run seeded w'.store) (fun _ o _ hc hs=>seedsOnly_ownEnd o hc hs) hp h
lemma ownEnd_complete(status result):
 (storeAt .plain (.complete run status result)).Only (OwnEnd run):=only_ask (S:=sig) (.inr ⟨_,_,_,rfl⟩)
lemma ownEnd_succeedRun:(succeedRun run).Only (OwnEnd run):=only_bind (ownEnd_complete _ _) (fun _=>only_pure _)
lemma ownEnd_failRun(code message):(failRun run code message).Only (OwnEnd run):=
 only_bind (ownEnd_complete _ _) (fun _=>only_pure _)
lemma ends_quiet{α:Type}{p:Daemon.Prog α}(hp:p.Only Quiet)(w):
 Ends (daemon env) p w (fun _ w'=>w'.store=w.store):=
 Ends.only (M:=daemon env) (I:=fun w'=>w'.store=w.store) (fun _ o s hc hs=>(quiet_store hc o s).trans hs) hp rfl

def Unused(run:String)(m:Memory):Prop:=∀ id,m.get (nodeJobID run id)=none

lemma Unused.seedsOnly{m}(h:Unused run m):SeedsOnly run [] m:=by
 intro id
 simp[succeededIn,h id]
section

variable (hkeys:(seeds.map Prod.fst).Nodup)

include hkeys

lemma ends_persistSeeds(hw:Unused run w.store):
 Ends (daemon env) (persistSeedsOnly g run seeds) w (fun _ w'=>SeedsOnly run (seeds.map Prod.fst) w'.store):=
 (Ends.of_solo (solo_persistSeedsOnly seeds w)).mono (fun _ _ h=>seedsOnly_persisted hkeys hw h)
lemma ends_populate(hw:Unused run w.store):
 Ends (daemon env) (populateSeededRun g run seeds) w (fun _ w'=>SeedsOnly run (seeds.map Prod.fst) w'.store):=by
 refine (ends_persistSeeds hkeys hw).bind fun errs w₁ h=>?_
 refine (Ends.of_solo (solo_dispatchRoots w₁ h)).bind fun out w₂ h'=>Ends.done ?_
 exact h.adds h'
lemma ends_startSubmitted(hempty:g.nodes=[] → seeds=[])
 (hw:Unused run w.store):
 Ends (daemon env) (startSubmitted g run seeds) w (fun _ w'=>SeedsOnly run (seeds.map Prod.fst) w'.store):=by
 unfold startSubmitted
 split_ifs with hg
 ·rw[hempty hg]
  exact ends_ownEnd (only_bind ownEnd_succeedRun fun _=>only_pure _) hw.seedsOnly
 ·refine (ends_populate hkeys hw).bind fun out w₁ h=>ends_ownEnd ?_ h
  obtain ⟨queued,errs⟩:=out
  simp only
  split_ifs
  ·exact only_bind (ownEnd_failRun _ _) fun _=>only_pure _
  ·refine only_bind (within_mono (fun _=>.inl) (fun _ h=>h) (quiet_accountedFor g run g.nodes)) fun b=>?_
   split_ifs
   ·exact only_bind ownEnd_succeedRun fun _=>only_pure _
   ·exact only_pure _
  ·exact only_pure _

/-- Every step that the new run, if there is one, records as succeeded is a seed. -/
def Seeded(w:World)(seeds:Seeds)(out:Submitted)(w':World):Prop:=
 out.runID≠""→Unused out.runID w.store→SeedsOnly out.runID (seeds.map Prod.fst) w'.store

omit hkeys in
lemma seeded_of_refused{out w'}(h:out.runID=""):Seeded w seeds out w':=
 fun hne=>absurd h hne
omit hkeys in
lemma startSubmitted_runID(g run seeds):
 (startSubmitted g run seeds).Yields (fun out=>out.runID=run):=by
 unfold startSubmitted
 split_ifs
 ·exact yields_bind (yields_true _) fun _ _=>rfl
 refine yields_bind (yields_true _) fun ⟨queued,errs⟩ _=>?_
 simp only
 split_ifs
 ·exact yields_bind (yields_true _) fun _ _=>rfl
 ·refine yields_bind (yields_true _) fun b _=>?_
  split_ifs
  ·exact yields_bind (yields_true _) fun _ _=>rfl
  ·exact rfl
 ·exact rfl
lemma ends_parkSubmitted(hw:Unused run w.store):
 Ends (daemon env) (parkSubmitted g run seeds) w (fun _ w'=>SeedsOnly run (seeds.map Prod.fst) w'.store):=by
 refine (ends_persistSeeds hkeys hw).bind fun errs w₁ h=>ends_ownEnd ?_ h
 split_ifs
 ·exact only_bind (ownEnd_failRun _ _) fun _=>only_pure _
 ·exact only_pure _

end

lemma parkSubmitted_runID(g run seeds):
 (parkSubmitted g run seeds).Yields (fun out=>out.runID=run):=by
 refine yields_bind (yields_true _) fun errs _=>?_
 split_ifs
 ·exact yields_bind (yields_true _) fun _ _=>rfl
 ·exact rfl
lemma ends_insertRun(rec){m}(hw₁:w₁.store=m):
 Ends (daemon env) (storeAt .plain (.enqueue rec)) w₁ (fun _ w'=>Unused rec.id m→Unused rec.id w'.store):=by
 refine Ends.call fun o=>Ends.done (fun h id=>?_)
 subst hw₁
 change (w₁.store.enqueueLocked o.now rec).2.get (nodeJobID rec.id id)=none
 rcases enqueueLocked_cases o.now w₁.store rec with ⟨_,_,he⟩ | ⟨_,_,hget⟩
 ·rw[he]
  exact h id
 ·rw[hget,if_neg (nodeJobID_ne_run rec.id id)]
  exact h id
lemma ends_filled{p}(hid:p.Yields fun out=>out.runID=run)
 (hfill:Unused run w.store→Ends (daemon env) p w₁ fun _ w'=>SeedsOnly run (seeds.map Prod.fst) w'.store):
 Ends (daemon env) p w₁ (Seeded w seeds):=by
 have hout:Ends (daemon env) p w₁ (fun out _=>out.runID=run):=Ends.yields (M:=daemon env) hid w₁
 by_cases hu:Unused run w.store
 ·refine (hout.and (hfill hu)).mono ?_
  rintro out w' ⟨rfl,h⟩ _ _
  exact h
 ·refine hout.mono ?_
  rintro out w' rfl _ h
  exact absurd h hu
lemma ends_submitReserved(opts admitted)(hkeys:(opts.seeds.map Prod.fst).Nodup)
 (hempty:g.nodes=[] → opts.seeds=[])(hw₁:w₁.store=w.store):
 Ends (daemon env) (submitReserved g opts run admitted) w₁ (Seeded w opts.seeds):=by
 refine Ends.bind (ends_quiet (quiet_query (q:=.reserveRun g.tenant) trivial) w₁) fun reserved w₂ h₂=>?_
 cases reserved with
 | false=>exact Ends.done (seeded_of_refused rfl)
 | true=>?_
 refine Ends.bind (ends_insertRun (submittedRecord g run admitted opts) (h₂.trans hw₁)) fun r w₃ h₃=>?_
 cases r with
 | error e=>exact Ends.done (seeded_of_refused rfl)
 | ok u=>
  cases admitted with
  | true=>exact ends_filled (startSubmitted_runID g run _) (fun hu=>ends_startSubmitted hkeys hempty (h₃ hu))
  | false=>exact ends_filled (parkSubmitted_runID g run _) (fun hu=>ends_parkSubmitted hkeys (h₃ hu))
lemma ends_submitGraphOpts(p opts)(hkeys:(opts.seeds.map Prod.fst).Nodup):
 Ends (daemon env) (submitGraphOpts p g opts) w (Seeded w opts.seeds):=by
 have hquiet:Ends (daemon env) (refuseGraph p g opts.seeds) w (fun _ w'=>w'.store=w.store):=
  ends_quiet (quiet_refuseGraph p g opts.seeds) w
 refine (hquiet.and (Ends.yields (M:=daemon env) (DaemonContract.refuseGraph_yields p g opts.seeds) w)).bind ?_
 rintro r w₁ ⟨hw₁,hr⟩
 cases r with
 | some msg=>exact Ends.done (seeded_of_refused rfl)
 | none=>?_
 have hempty:g.nodes=[] → opts.seeds=[]:=by
  intro hg
  refine eq_nil_iff_forall_not_mem.2 fun s hs=>?_
  simpa[Graph.nodeIDs,hg] using (hr rfl).2 s hs
 by_cases hdepth:maxTriggerChainDepth ≤ opts.triggerDepth
 ·dsimp only
  rw[if_pos hdepth]
  exact Ends.done (seeded_of_refused rfl)
 ·dsimp only
  rw[if_neg hdepth]
  refine Ends.bind (ends_quiet (quiet_query (q:=.newID) trivial) w₁) fun run w₂ h₂=>?_
  split
  ·exact ends_submitReserved opts true hkeys hempty (h₂.trans hw₁)
  ·refine Ends.bind (ends_quiet (quiet_admitGraphRun g.tenant) w₂) fun admitted w₃ h₃=>?_
   exact ends_submitReserved opts admitted hkeys hempty ((h₃.trans h₂).trans hw₁)
lemma ends_resumeFailedRun(p runID){rec}(hrec:w.store.get runID=some rec)
 (hg:rec.graphPayload=some g):
 Ends (daemon env) (resumeFailedRun p runID) w
  (Seeded w (collectSeeds (w.store.listNodeRecords (oldSteps rec runID)) [])):=by
 have hread:Ends (daemon env) (getRecord runID) w (fun r w'=>r=some rec∧w'.store=w.store):=
  Ends.of_solo (solo_getRecord ⟨hrec,rfl⟩)
 refine hread.bind ?_
 rintro _ w₁ ⟨rfl,hw₁⟩
 simp only[hg]
 split_ifs
 ·exact Ends.done (seeded_of_refused rfl)
 ·exact Ends.done (seeded_of_refused rfl)
 ·exact Ends.done (seeded_of_refused rfl)
 refine Ends.call fun o=>?_
 change Ends (daemon env) (submitGraphOpts p g
  {seeds:=collectSeeds (w₁.store.listNodeRecords (oldSteps rec runID)) [],manual:=true}) w₁ _
 rw[←hw₁]
 have hkeys:(List.map Prod.fst ([]:Seeds)).Nodup:=nodup_nil
 refine (ends_submitGraphOpts p _ (nodup_collectSeeds _ hkeys)).mono fun out w' h hne hu=>h hne ?_
 rw[hw₁]
 exact hu

def Wire(g:Graph)(a b:String):Prop:=∃ e∈g.edges,e.source=a∧e.target=b

/-- Nothing downstream of a step that runs again is seeded. -/
def Recomputes(g:Graph)(seeded:String→Prop):Prop:=
 ∀ a b,¬seeded a→Relation.ReflTransGen (Wire g) a b→¬seeded b

lemma recomputes_iff{seeded:String→Prop}:
 Recomputes g seeded↔∀ e∈g.edges,seeded e.target → seeded e.source:=by
 constructor
 ·intro h e he ht
  by_contra hs
  exact h e.source e.target hs (.single ⟨e,he,rfl,rfl⟩) ht
 ·intro h a b ha hab
  -- along the path, no step after an unseeded one is seeded
  induction hab with
  | refl=>exact ha
  | tail _ hw ih=>
   obtain ⟨e,he,rfl,rfl⟩:=hw
   exact fun ht=>ih (h e he ht)

/-- The run that a retry creates recomputes everything downstream of what it recomputes,
 exactly when every wire into a step that can be reused comes from one that can be. -/
theorem resumed_run_recomputes_iff{p:Principal}{runID:String}{rec:JobRecord}{out:Submitted}{w':World}
 (hrun:Runs (daemon env) (resumeFailedRun p runID) w out w')(hnew:out.runID≠"")(hfresh:Unused out.runID w.store)
 (hrec:w.store.get runID=some rec)(hg:rec.graphPayload=some g):
 Recomputes g (fun id=>succeededIn w'.store out.runID id)↔
  ∀ e∈g.edges,Reusable (w.store.listNodeRecords (oldSteps rec runID)) e.target→
   Reusable (w.store.listNodeRecords (oldSteps rec runID)) e.source:=by
 have hseeds:=ends_resumeFailedRun p runID hrec hg out w' hrun hnew hfresh
 have hiff:∀ id,succeededIn w'.store out.runID id↔Reusable (w.store.listNodeRecords (oldSteps rec runID)) id:=by
  intro id
  rw[hseeds id,contains_iff_mem,mem_collectSeeds]
  simp
 simp only[recomputes_iff,hiff]

def chain:Graph:=
 { id:="g",tenant:="t",workspace:="w"
   nodes:=[{id:="a",module:="m" },{id:="b",module:="m" },{id:="c",module:="m" }]
   edges:=[{source:="a",fromPort:="out",target:="b",toPort:="in" },
    {source:="b",fromPort:="out",target:="c",toPort:="in" }]}

def oldStep(id:String)(status:JobStatus)(output:List (String×Ref)):JobRecord:=
 {dependentRecord chain "old" id with status:=status,result:=some {status:=.ok,output:=output} }

def failedChain(first:Ref):World where
 store:={ records:=⟨[graphRecord chain "old" .failed,oldStep "a" .succeeded [("out",first)],
  oldStep "b" .succeeded [("out",{inline:=.text "derived" })],oldStep "c" .failed []],
  (by decide:["old",nodeJobID "old" "a",nodeJobID "old" "b",nodeJobID "old" "c"].Nodup)⟩}

def owner:Principal:={subject:="ann",tenant:="t",runner:=true}

def retried(first:Ref):Submitted×World:=
 ((resumeFailedRun owner "old").execute (daemon bareEnv) bareOracle 20 (failedChain first)).getD ({},{})

lemma retried_runs{first}
 (h:((resumeFailedRun owner "old").execute (daemon bareEnv) bareOracle 20 (failedChain first)).isSome):
 Runs (daemon bareEnv) (resumeFailedRun owner "old") (failedChain first) (retried first).1 (retried first).2:=
 runs_executed h
lemma unused_run(first):Unused "run" (failedChain first).store:=by
 intro id
 refine (KeyedTable.find?_eq_none_iff _ _).2 fun r hr he=>?_
 have hsimple:RunRecords.SimpleID "run"∧RunRecords.SimpleID "old":=
  (by decide: ':' ∉ "run".toList∧ ':' ∉ "old".toList)
 have hnode:∀ step,nodeJobID "old" step≠nodeJobID "run" id:=by
  intro step h
  exact absurd ((RunRecords.nodeJobID_eq_iff hsimple.2 hsimple.1).1 h).1 (by decide)
 simp only[failedChain,mem_cons,not_mem_nil,or_false] at hr
 rcases hr with rfl | rfl | rfl | rfl
 ·exact RunRecords.nodeJobID_not_simple "run" id (he▸hsimple.2)
 ·exact hnode "a" he
 ·exact hnode "b" he
 ·exact hnode "c" he

def kept:Ref:={inline:=.text "value" }

def scratch:Ref:={ref:="scratch/old/a" }

theorem kept_chain_recomputes_iff:
 Recomputes chain (fun id=>succeededIn (retried kept).2.store (retried kept).1.runID id)↔
  ∀ e∈chain.edges,Reusable ((failedChain kept).store.listNodeRecords (oldSteps (graphRecord chain "old" .failed) "old")) e.target→
   Reusable ((failedChain kept).store.listNodeRecords (oldSteps (graphRecord chain "old" .failed) "old")) e.source:=by
 have hid:(retried kept).1.runID="run":=by decide +kernel
 exact resumed_run_recomputes_iff (retried_runs (by decide +kernel)) (by rw[hid]; decide) (hid▸unused_run kept)
  (by decide +kernel) rfl

/-- The first step runs again, the second is seeded with what was derived from the old output,
 and the third is queued at once to consume it. -/
theorem stale_seed_consumed:
 Runs (daemon bareEnv) (resumeFailedRun owner "old") (failedChain scratch) (retried scratch).1 (retried scratch).2∧
  (retried scratch).1={runID:="run" }∧
  (((retried scratch).2.store.get "run:a").map JobRecord.status=some .queued∧
   ((retried scratch).2.store.get "run:b").map JobRecord.status=some .succeeded∧
   ((retried scratch).2.store.get "run:c").map JobRecord.status=some .queued)∧
  ¬Recomputes chain (fun id=>succeededIn (retried scratch).2.store "run" id):=by
 refine ⟨retried_runs (by decide +kernel),by decide +kernel,by decide +kernel,fun h=>?_⟩
 exact h "a" "b" (by decide +kernel) (.single ⟨_,mem_cons_self,rfl,rfl⟩) (by decide +kernel)

end Dazyflow.ResumedRuns
