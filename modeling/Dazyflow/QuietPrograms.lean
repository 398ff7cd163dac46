import Dazyflow.Operations

/-!
# Programs that only look

The parts of the daemon's programs that read the store, ask a question or note a pause, and write no record.
-/
namespace Dazyflow.Daemon
open FlowGraph JobRecords StoreOperations EdgeClassification
open Interleaving.Prog (only_bind only_ask only_pure yields_bind yields_true)

def reads:StoreOp→Bool
 | .get _ | .outcomes _ | .listGraphRuns _ | .listGraphRunsOldest _ | .listNodeRecords _=>true
 | _=>false

/-- Calls that write no record and that no contract has to watch. -/
def Quiet:Call→Prop
 | .store site op=>reads op∧(site=.plain∨site=.childCheck)
 | .pause op=>match op with
  | .addPaused .. | .isStepping _ | .clear _=>True
  | _=>False
 | .charge .. =>False
 | .ask q=>match q with
  | .runNode .. =>False
  | _=>True

lemma apply_reads{now tie m op}(h:reads op):
 (apply now tie m op).2=m:=by
 cases op<;>first | rfl | cases h
lemma quiet_store{env c}(h:Quiet c)(o w):
 (stepWorld env c o w).2.store=w.store:=by
 cases c with
 | store site op=>exact apply_reads h.1
 | pause op | charge worker run bytes | ask q=>rfl
lemma quiet_storeAt{op}(h:reads op):(storeAt .plain op).Only Quiet:=
 only_ask (S:=sig) ⟨h,.inl rfl⟩
lemma quiet_getRecord(id):(getRecord id).Only Quiet:=
 only_bind (quiet_storeAt rfl) (fun r=>by cases r<;>exact only_pure _)
lemma quiet_childCheck(id):(getRecordAt .childCheck id).Only Quiet:=
 only_bind (only_ask (S:=sig) ⟨rfl,.inr rfl⟩) (fun r=>by cases r<;>exact only_pure _)
lemma quiet_query{q}(h:Quiet (.ask q)):(query q).Only Quiet:=only_ask (S:=sig) h
lemma quiet_pred(ix:DispatchIndex)(run id:String):(ix.pred run id).Only Quiet:=by
 unfold DispatchIndex.pred
 cases ix.records.lookup id with
 | some r=>exact only_pure _
 | none=>
  split_ifs
  ·exact only_pure _
  ·exact only_bind (quiet_getRecord _) fun r=>by cases r<;>exact only_pure _
lemma quiet_analyzeWires(run:String)(edges:List Edge)(t:Tally)(ix:DispatchIndex):
 (analyzeWires run edges t ix).Only Quiet:=by
 induction edges generalizing t ix with
 | nil=>exact only_pure _
 | cons e rest ih=>
  refine only_bind (quiet_pred ix run e.source) fun ⟨r,ix'⟩=>?_
  cases r with
  | none=>exact only_pure _
  | some r=>
   simp only
   cases t.add r e with
   | none=>exact only_pure _
   | some t'=>exact ih t' ix'
lemma quiet_analyzeDependentIndexed(g run id ix):
 (analyzeDependentIndexed g run id ix).Only Quiet:=
 quiet_analyzeWires run (g.incoming id) {} ix
lemma quiet_pausesAfter(g run id status watched):
 (pausesAfter g run id status watched).Only Quiet:=by
 unfold pausesAfter
 split_ifs
 ·exact only_pure _
 ·exact only_bind (only_ask (S:=sig) trivial) fun b=>by cases b<;>exact only_pure _
lemma quiet_publishPaused(run id):(publishPaused run id).Only Quiet:=
 only_ask (S:=sig) trivial
lemma quiet_planLoop(g run ids plan)
 (ix):(planLoop g run ids plan ix).Only Quiet:=by
 induction ids generalizing plan ix with
 | nil=>exact only_pure _
 | cons id rest ih=>
  unfold planLoop
  split_ifs
  ·exact ih plan ix
  ·refine only_bind (quiet_analyzeDependentIndexed g run id ix) fun ⟨d,ix'⟩=>?_
   cases d<;>exact ih _ _
lemma quiet_planAdvance(g run id status result)
 (watched):(planAdvance g run id status result watched).Only Quiet:=by
 refine only_bind (quiet_pausesAfter g run id status watched) fun
  | true=>only_pure _
  | false=>?_
 simp only[Bool.false_eq_true,if_false]
 split_ifs
 ·exact only_pure _
 ·exact quiet_planLoop _ _ _ _ _
lemma quiet_fetchGraph(run):(fetchGraph run).Only Quiet:=
 only_bind (quiet_getRecord run) (fun r=>by cases r<;>exact only_pure _)
lemma quiet_projectBindings(child)(bindings:List (String×String×String))
 (out:List (String×Ref)):(projectBindings child bindings out).Only Quiet:=by
 induction bindings generalizing out with
 | nil=>exact only_pure _
 | cons b rest ih=>
  obtain ⟨parentPort,node,port⟩:=b
  refine only_bind (quiet_getRecord _) fun
   | none=>only_pure _
   | some rec=>?_
  simp only
  cases rec.result with
  | none=>exact only_pure _
  | some res=>
   simp only
   cases res.port port with
   | none=>exact only_pure _
   | some ref=>exact ih _
lemma quiet_parentOutcome(env parent child failed)
 (err):(parentOutcome env parent child failed err).Only Quiet:=by
 unfold parentOutcome
 split_ifs
 ·exact only_pure _
 refine only_bind ?_ fun r=>by cases r<;>exact only_pure _
 unfold projectChildOutputs
 cases parent.result with
 | none=>exact only_pure _
 | some res=>?_
 simp only
 split_ifs
 ·exact only_pure _
 ·cases env.decodeOutputMap _ with
  | none=>exact only_pure _
  | some bindings=>exact quiet_projectBindings _ _ _
lemma only_allPredsSucceeded{C:Call→Prop}{run}(hread:∀ id,(getRecord (nodeJobID run id)).Only C)(edges):
 (allPredsSucceeded run edges).Only C:=by
 induction edges with
 | nil=>exact only_pure _
 | cons e rest ih=>
  refine only_bind (hread e.source) fun
   | none=>only_pure _
   | some pred=>?_
  simp only
  split_ifs
  ·exact ih
  ·exact only_pure _
lemma only_readyDependents{C:Call→Prop}{run}(hread:∀ id,(getRecord (nodeJobID run id)).Only C)(g ids ready):
 (readyDependents g run ids ready).Only C:=by
 induction ids generalizing ready with
 | nil=>exact only_pure _
 | cons id rest ih=>
  unfold readyDependents
  split_ifs
  ·exact ih ready
  ·exact only_bind (only_allPredsSucceeded hread _) fun b=>by cases b<;>exact ih _
lemma readyDependents_all{g run}{P:JobRecord→Prop}(ids ready)(hids:∀ id∈ids,P (dependentRecord g run id))
 (h:∀ rec∈ready,P rec):(readyDependents g run ids ready).Yields (fun ready=>∀ rec∈ready,P rec):=by
 induction ids generalizing ready with
 | nil=>exact h
 | cons id rest ih=>
  obtain ⟨hid,hrest⟩:=List.forall_mem_cons.1 hids
  unfold readyDependents
  split_ifs
  ·exact ih ready hrest h
  refine yields_bind (yields_true _) fun
   | false,_=>ih ready hrest h
   | true,_=>?_
  exact ih _ hrest (List.forall_mem_append.2 ⟨h,List.forall_mem_singleton.2 hid⟩)
lemma quiet_accountedFor(g run nodes):
 (accountedFor g run nodes).Only Quiet:=by
 induction nodes with
 | nil=>exact only_pure _
 | cons n rest ih=>
  unfold accountedFor
  split_ifs
  ·exact ih
  refine only_bind (quiet_getRecord _) fun
   | none=>only_pure _
   | some rec=>?_
  simp only
  split_ifs
  ·exact ih
  ·exact only_pure _
lemma quiet_authorizeGraphRun(p g):(authorizeGraphRun p g).Only Quiet:=by
 unfold authorizeGraphRun
 split_ifs
 ·exact only_pure _
 ·exact quiet_query trivial
 ·exact only_pure _
lemma quiet_refuseGraph(p g seeds):
 (refuseGraph p g seeds).Only Quiet:=by
 refine only_bind (quiet_authorizeGraphRun p g) fun
  | false=>only_pure _
  | true=>?_
 refine only_bind (quiet_query trivial) fun
  | some msg=>only_pure _
  | none=>?_
 simp only
 split_ifs
 ·exact only_pure _
 ·exact only_pure _
 ·cases seeds.find? _<;>exact only_pure _
lemma quiet_admitGraphRun(tenant):(admitGraphRun tenant).Only Quiet:=by
 refine only_bind (quiet_query trivial) fun limit=>?_
 split_ifs
 ·exact only_pure _
 ·exact only_bind (quiet_storeAt rfl) fun r=>by cases r<;>exact only_pure _
lemma quiet_lineage(fuel run depth root):
 (lineage fuel run depth root).Only Quiet:=by
 induction fuel generalizing run depth root with
 | zero=>exact only_pure _
 | succ fuel ih=>
  unfold lineage
  split_ifs
  ·exact only_pure _
  refine only_bind (quiet_getRecord _) fun
   | none=>only_pure _
   | some rec=>?_
  simp only
  split_ifs
  ·exact only_pure _
  ·exact only_bind (quiet_getRecord _) fun r=>by
    cases r with
    | none=>exact only_pure _
    | some parent=>exact ih _ _ _
lemma quiet_runTriggerDepth(run):(runTriggerDepth run).Only Quiet:=by
 unfold runTriggerDepth
 split_ifs
 ·exact only_pure _
 ·exact only_bind (quiet_getRecord _) fun r=>by cases r<;>exact only_pure _
lemma quiet_seededNodes(run size):(seededNodes run size).Only Quiet:=
 only_bind (quiet_storeAt rfl) (fun r=>by cases r<;>exact only_pure _)
lemma quiet_oldestPendingRun(tenant):(oldestPendingRun tenant).Only Quiet:=by
 refine only_bind (quiet_storeAt rfl) fun
  | .error e=>only_pure _
  | .ok runs=>?_
 cases runs<;>exact only_pure _
lemma quiet_otherTriggers(rec nodes delivered scheduled):
 (otherTriggers rec nodes delivered scheduled).Only Quiet:=by
 induction nodes generalizing delivered scheduled with
 | nil=>exact only_pure _
 | cons n rest ih=>
  unfold otherTriggers
  split_ifs
  ·exact ih _ _
  ·exact ih _ _
  ·exact only_bind (quiet_getRecord _) fun _=>ih _ _
lemma quiet_triggerDidNotFire(g rec):(triggerDidNotFire g rec).Only Quiet:=by
 unfold triggerDidNotFire
 cases g.node rec.nodeID with
 | none=>exact only_pure _
 | some node=>
  simp only
  split_ifs
  ·exact only_pure _
  ·exact only_bind (quiet_otherTriggers _ _ _ _) fun _=>only_pure _
  ·exact only_bind (quiet_otherTriggers _ _ _ _) fun _=>only_pure _
lemma quiet_skipCode(g rec):(skipCode g rec).Only Quiet:=by
 unfold skipCode
 cases g.node rec.nodeID with
 | none=>exact only_pure _
 | some node=>
  simp only
  split_ifs
  ·exact only_pure _
  ·exact only_bind (quiet_triggerDidNotFire g rec) fun b=>by cases b<;>exact only_pure _
lemma quiet_fetchPredecessors(g rec):(fetchPredecessors g rec).Only Quiet:=by
 unfold fetchPredecessors
 split_ifs
 ·exact only_pure _
 ·exact only_bind (quiet_storeAt rfl) fun r=>by cases r<;>exact only_pure _
lemma quiet_addTemplateResults(rec ids)(prior:List (String×Result)):
 (addTemplateResults rec ids prior).Only Quiet:=by
 induction ids generalizing prior with
 | nil=>exact only_pure _
 | cons id rest ih=>
  unfold addTemplateResults
  split_ifs
  ·exact ih _
  refine only_bind (quiet_getRecord _) fun
   | none=>ih _
   | some pred=>?_
  simp only
  cases pred.result with
  | none=>exact ih _
  | some res=>
   simp only
   split_ifs<;>exact ih _
lemma quiet_maybeScheduleRetry(env g rec):
 (maybeScheduleRetry env g rec).Only Quiet:=by
 unfold maybeScheduleRetry
 cases g.node rec.nodeID with
 | none=>exact only_pure _
 | some node=>?_
 simp only
 cases env.resolve g.tenant node.module with
 | none=>exact only_pure _
 | some manifest=>
  simp only
  split_ifs
  all_goals first
   | exact only_pure _
   | exact only_bind (quiet_query trivial) (fun _=>only_pure _)
lemma quiet_runHasParkedApproval(run exclude):(runHasParkedApproval run exclude).Only Quiet:=
 only_bind (quiet_storeAt rfl) (fun r=>by cases r<;>exact only_pure _)

end Dazyflow.Daemon
