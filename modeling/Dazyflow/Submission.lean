import Dazyflow.Dispatcher

/-!
# Starting runs

`seed.go`, `subgraph.go` and `promote.go`: submitting a flow with or without seeds, submitting a child run for
a parked sub-flow step, and starting a run that waited for a free slot.
-/
namespace Dazyflow.Daemon
open FlowGraph JobRecords LoopBodies GraphValidation

def batchableNode(rec:JobRecord):Bool:=
 rec.kind==.node&&(rec.status==.unset||rec.status==.queued)&&rec.result.isNone &&
  rec.graphPayload.isNone&&rec.parentNodeRecID== ""&&!rec.manual&&rec.enqueuedAt==0 &&
  rec.availableAt.isNone&&rec.startedAt.isNone&&rec.finishedAt.isNone &&
  rec.leaseUntil.isNone&&rec.workerID== ""&&rec.attempt==0

def tryEnqueueNodes(site:Site):List JobRecord→Prog (Option Nat)
 | r::r'::rest=>
  if (r::r'::rest).all (fun x=>batchableNode x&&x.tenant==r.tenant) then do
   match←storeAt site (.enqueueNodes (r::r'::rest)) with
   | .ok n=>pure (some n)
   | .error _=>pure none
  else pure none
 | _=>pure none

def enqueueEach(site:Site):List JobRecord→Nat→List String→Prog (Nat×List String)
 | [],queued,failed=>pure (queued,failed)
 | rec::rest,queued,failed=>do
  match←storeAt site (.enqueue rec) with
  | .ok _=>enqueueEach site rest (queued+1) failed
  | .error _=>enqueueEach site rest queued (failed++[rec.nodeID])

def allPredsSucceeded(graphRunID:String):List Edge→Prog Bool
 | []=>pure true
 | e::rest=>do
  match←getRecord (nodeJobID graphRunID e.source) with
  | none=>pure false
  | some pred=>if pred.status=.succeeded then allPredsSucceeded graphRunID rest else pure false

def readyDependents(g:Graph)(graphRunID:String):
 List String→List JobRecord→Prog (List JobRecord)
 | [],ready=>pure ready
 | nodeID::rest,ready=>
  if bodyOwned g nodeID then readyDependents g graphRunID rest ready
  else do
   if←allPredsSucceeded graphRunID (g.incoming nodeID) then
    readyDependents g graphRunID rest (ready++[dependentRecord g graphRunID nodeID])
   else readyDependents g graphRunID rest ready

def enqueueReadyDependents(g:Graph)(graphRunID sourceNodeID:String):Prog Nat:=do
 let ready←readyDependents g graphRunID (g.outgoing sourceNodeID) []
 match←tryEnqueueNodes .enqueueReady ready with
 | some n=>pure n
 | none=>do
  let (queued,_)←enqueueEach .enqueueReady ready 0 []
  pure queued

abbrev Seeds:=List (String×Result)

def seedRecord(g:Graph)(graphRunID nodeID:String)(result:Result):JobRecord:=
 { dependentRecord g graphRunID nodeID with
  status:=.succeeded
  result:=some { result with
   jobID:=nodeJobID graphRunID nodeID
   status:=if result.status=.unset then .ok else result.status} }

def persistSeedsOnly(g:Graph)(graphRunID:String):Seeds→Prog (List String)
 | []=>pure []
 | (nodeID,result)::rest=>do
  match←storeAt .plain (.enqueue (seedRecord g graphRunID nodeID result)) with
  | .ok _=>persistSeedsOnly g graphRunID rest
  | .error _=>do
   let errs←persistSeedsOnly g graphRunID rest
   pure (nodeID::errs)

def roots(g:Graph)(seeded:List String):List Node:=
 g.nodes.filter (fun n=>!g.edges.any (fun e=>e.target==n.id)&&!seeded.contains n.id)

def fanOutSeeds(g:Graph)(graphRunID:String):List String→Nat→Prog Nat
 | [],queued=>pure queued
 | seedID::rest,queued=>do
  let n←enqueueReadyDependents g graphRunID seedID
  fanOutSeeds g graphRunID rest (queued+n)

def dispatchRoots(g:Graph)(graphRunID:String)(seeded:List String):
 Prog (Nat×List String):=do
 let recs:=(roots g seeded).map (fun n=>dependentRecord g graphRunID n.id)
 match←tryEnqueueNodes .plain recs with
 | some n=>do
  let queued←fanOutSeeds g graphRunID seeded n
  pure (queued,[])
 | none=>do
  let (n,errs)←enqueueEach .plain recs 0 []
  let queued←fanOutSeeds g graphRunID seeded n
  pure (queued,errs)

def populateSeededRun(g:Graph)(graphRunID:String)(seeds:Seeds):
 Prog (Nat×List String):=do
 let errs←persistSeedsOnly g graphRunID seeds
 let (queued,dispatchErrs)←dispatchRoots g graphRunID (seeds.map Prod.fst)
 pure (queued,errs++dispatchErrs)

def accountedFor(g:Graph)(graphRunID:String):List Node→Prog Bool
 | []=>pure true
 | n::rest=>
  if bodyOwned g n.id then accountedFor g graphRunID rest
  else do
   match←getRecord (nodeJobID graphRunID n.id) with
   | none=>pure false
   | some rec=>if rec.status=.succeeded then accountedFor g graphRunID rest else pure false

def allNodesAccountedFor(g:Graph)(graphRunID:String):Prog Bool:=
 accountedFor g graphRunID g.nodes

structure SubmitOpts where
 seeds:Seeds:=[]
 manual:Bool:=false
 triggerDepth:Nat:=0
 deriving DecidableEq

structure Submitted where
 runID:String:=""
 error:Option String:=none
 deriving DecidableEq

def maxTriggerChainDepth:Nat:=8

def requireTenant(p:Principal)(tenant:String):Bool:=
 p.platformAdmin||(p.tenant != ""&&(tenant== ""||p.tenant==tenant))

def authorizeGraphRun(p:Principal)(g:Graph):Prog Bool:=
 if requireTenant p g.tenant then
  if p.runner then pure true else query (.permitted p.subject g)
 else pure false

/-- The checks of a submission that write nothing, in one answer. -/
def refuseGraph(p:Principal)(g:Graph)(seeds:Seeds):Prog (Option String):=do
 if←authorizeGraphRun p g then
  match←query (.refusal g) with
  | some msg=>pure (some msg)
  | none=>
   if validate g≠[] then pure (some "invalid graph")
   else if (validateLoopBodies g).isSome then
    pure (some "invalid graph: nested loops aren't supported yet")
   else match seeds.find? (fun s=>(g.node s.1).isNone) with
    | some s=>pure (some ("seed targets node "++quoted s.1++" which is not in graph"))
    | none=>pure none
 else pure (some "unauthorized")

def admitGraphRun(tenant:String):Prog Bool:=do
 let limit←query (.concurrencyLimit tenant)
 if limit≤0 then pure true
 else
  match←storeAt .plain (.listGraphRuns {tenant:=tenant,status:=.running,limit:=limit+1}) with
  | .error _=>pure true
  | .ok runs=>pure (decide ((runs.length:Int)<limit))

def graphRecord(g:Graph)(graphRunID:String)(status:JobStatus):JobRecord:=
 { id:=graphRunID,kind:=.graph,graphID:=g.id,nodeID:="*",tenant:=g.tenant
   workspace:=g.workspace,status:=status,graphPayload:=some g}

def submittedRecord(g:Graph)(graphRunID:String)(admitted:Bool)(opts:SubmitOpts):JobRecord:=
 { graphRecord g graphRunID (if admitted then .running else .queued) with
  manual:=opts.manual
  triggerDepth:=opts.triggerDepth}

def childRecord(g:Graph)(graphRunID parentNodeRecID:String)(triggerDepth:Nat):JobRecord:=
 { graphRecord g graphRunID .running with
  parentNodeRecID:=parentNodeRecID
  triggerDepth:=triggerDepth}

/-- `failSubmission` and the like: the run ends as failed with this code. -/
def failRun(graphRunID code message:String):Prog Unit:=do
 let _←storeAt .plain (.complete graphRunID .failed (some (errorResult "" code message)))
 pure ()

def succeedRun(graphRunID:String):Prog Unit:=do
 let _←storeAt .plain (.complete graphRunID .succeeded (some {status:=.ok}))
 pure ()

def joinErrors(errs:List String):String:=String.intercalate "\n" errs

def startSubmitted(g:Graph)(graphRunID:String)(seeds:Seeds):Prog Submitted:=
 if g.nodes=[] then do
  succeedRun graphRunID
  pure {runID:=graphRunID}
 else do
  let (queued,errs)←populateSeededRun g graphRunID seeds
  if errs≠[] then
   failRun graphRunID "enqueue_failed" (joinErrors errs)
   pure {runID:=graphRunID,error:=some "enqueue roots" }
  else if queued=0 then
   if←allNodesAccountedFor g graphRunID then
    succeedRun graphRunID
    pure {runID:=graphRunID}
   else pure {runID:=graphRunID}
  else pure {runID:=graphRunID}

def parkSubmitted(g:Graph)(run:String)(seeds:Seeds):Prog Submitted:=do
 let errs←persistSeedsOnly g run seeds
 if errs≠[] then
  failRun run "enqueue_failed" (joinErrors errs)
  pure {runID:=run,error:=some "persist seeds" }
 else pure {runID:=run}

/-- `submitGraphOpts` from the reservation of the run on, whether the run is admitted or parked. -/
def submitReserved(g:Graph)(opts:SubmitOpts)(run:String)(admitted:Bool):Prog Submitted:=do
 if←query (.reserveRun g.tenant) then
  match←storeAt .plain (.enqueue (submittedRecord g run admitted opts)) with
  | .error _=>pure {error:=some "enqueue graph" }
  | .ok _=>if admitted then startSubmitted g run opts.seeds else parkSubmitted g run opts.seeds
 else pure {error:=some "plan limit reached: monthly run limit reached — upgrade to keep your flows running" }

def submitGraphOpts(p:Principal)(g:Graph)(opts:SubmitOpts):Prog Submitted:=do
 match←refuseGraph p g opts.seeds with
 | some msg=>pure {error:=some msg}
 | none=>
  if maxTriggerChainDepth ≤ opts.triggerDepth then
   pure { error:=some ("trigger loop: "++toString opts.triggerDepth++" runs deep (max " ++
    toString maxTriggerChainDepth++") — a flow is triggering itself")}
  else
   let graphRunID←query .newID
   let admitted←if g.nodes=[] then pure true else admitGraphRun g.tenant
   submitReserved g opts graphRunID admitted

def maxSubgraphDepth:Nat:=8

def maxSubgraphRunsPerRoot:Nat:=1024

def systemPrincipal(subject tenant:String):Principal:=
 {subject:=subject,tenant:=tenant,runner:=true}

/-- The walk up the parents: how deep the child would sit, and the run at the root. -/
def lineage:Nat→String→Nat→String→Prog (Nat×String)
 | 0,_,depth,root=>pure (depth,root)
 | fuel+1,runID,depth,root=>
  if runID="" then pure (depth,root)
  else do
   match←getRecord runID with
   | none=>pure (depth,root)
   | some run=>
    if run.parentNodeRecID="" then pure (depth,run.id)
    else
     match←getRecord run.parentNodeRecID with
     | none=>pure (depth,run.id)
     | some parentNode=>lineage fuel parentNode.graphRunID (depth+1) run.id

def subgraphLineage(parentRec:JobRecord):Prog (Nat×String):=
 lineage (maxSubgraphDepth+2) parentRec.graphRunID 1 parentRec.graphRunID

def runTriggerDepth(graphRunID:String):Prog Nat:=
 if graphRunID="" then pure 0
 else do
  match←getRecord graphRunID with
  | none=>pure 0
  | some run=>pure run.triggerDepth

def submitGraphWithParent(p:Principal)(g:Graph)(seeds:Seeds)(parentNodeRecID:String)
 (triggerDepth:Nat):Prog Submitted:=do
 match←refuseGraph p g seeds with
 | some msg=>pure {error:=some msg}
 | none=>
  let graphRunID←query .newID
  match←storeAt .childInsert (.enqueue (childRecord g graphRunID parentNodeRecID triggerDepth)) with
  | .error _=>pure {error:=some "enqueue child graph" }
  | .ok _=>
   let (queued,errs)←populateSeededRun g graphRunID seeds
   if errs≠[] then pure {runID:=graphRunID,error:=some ("enqueue child roots: "++joinErrors errs)}
   else if queued=0 then
    if←allNodesAccountedFor g graphRunID then
     maybeCompleteGraph g graphRunID "" .succeeded none
     pure {runID:=graphRunID}
    else pure {runID:=graphRunID}
   else pure {runID:=graphRunID}

def adopt(parentRec:JobRecord)(g:Graph):Graph:=
 { g with
  tenant:=if g.tenant="" then parentRec.tenant else g.tenant
  workspace:=if g.workspace="" then parentRec.workspace else g.workspace}

def submitChild(parentRec:JobRecord)(graphID:String)(seeds:Seeds):Prog Submitted:=do
 let parentRun←getRecordAt .childCheck parentRec.graphRunID
 if parentRun.any JobRecord.terminal then
  pure { error:=some ("parent run "++parentRec.graphRunID++" is " ++
   statusText ((parentRun.map JobRecord.status).getD .unset)++": job state conflict")}
 else
  match←query (.childGraph parentRec.tenant parentRec.workspace graphID) with
  | .error msg=>pure {error:=some msg}
  | .ok loaded=>
   let (depth,root)←subgraphLineage parentRec
   if maxSubgraphDepth ≤ depth then
    pure { error:=some ("subgraph nesting too deep ("++toString depth++" levels; max " ++
     toString maxSubgraphDepth++") — a flow likely references itself")}
   else if←query (.chargeSubtree root) then
    let triggerDepth←runTriggerDepth parentRec.graphRunID
    submitGraphWithParent (systemPrincipal "dazyflow-subgraph" parentRec.tenant)
     (adopt parentRec loaded) seeds parentRec.id triggerDepth
   else pure { error:=some ("subgraph fan-out limit reached (max "++toString maxSubgraphRunsPerRoot ++
    " descendant runs from one trigger) — a flow is spawning too many sub-runs")}

def seededNodes(graphRunID:String)(graphSize:Nat):Prog (List String):=do
 match←storeAt .plain (.listNodeRecords
  {graphRunID:=graphRunID,status:=.succeeded,limit:=(graphSize:Int)+1}) with
 | .error _=>pure []
 | .ok recs=>pure (recs.map JobRecord.nodeID)

def startPendingRun(run:JobRecord):Prog Unit:=
 match run.graphPayload with
 | none=>failRun run.id "no_payload" "pending run had no graph payload"
 | some g=>
  if g.nodes=[] then succeedRun run.id
  else do
   let seeded←seededNodes run.id g.nodes.length
   let (queued,errs)←dispatchRoots g run.id seeded
   match errs with
   | err::_=>failRun run.id "enqueue_failed" err
   | []=>
    if queued=0 then
     if←allNodesAccountedFor g run.id then succeedRun run.id else pure ()
    else pure ()

def oldestPendingRun(tenant:String):Prog (Option String):=do
 match←storeAt .plain (.listGraphRunsOldest {tenant:=tenant,status:=.queued,limit:=1}) with
 | .ok (r::_)=>pure (some r.id)
 | _=>pure none

/-- Starts the run; `none` ends the sweep, and `false` means another promoter was faster. -/
def markRunning(limit:Int)(runID tenant:String):Prog (Option Bool):=
 if 0<limit then do
  match←storeAt .plain (.markGraphRunningCapped runID tenant limit) with
  | .ok (won,atCap)=>pure (if atCap then none else some won)
  | .error _=>pure none
 else do
  match←storeAt .plain (.markGraphRunning runID) with
  | .ok won=>pure (some won)
  | .error _=>pure none

def promoteLoop(limit:Int)(tenant:String):Nat→Prog Unit
 | 0=>pure ()
 | fuel+1=>do
  match←oldestPendingRun tenant with
  | none=>pure ()
  | some runID=>
   match←markRunning limit runID tenant with
   | none=>pure ()
   | some false=>promoteLoop limit tenant fuel
   | some true=>
    match←getRecord runID with
    | none=>failRun runID "promote_failed" "not found"
    | some run=>
     startPendingRun run
     promoteLoop limit tenant fuel

def maxPromotedPerCall:Nat:=50

def promotePendingRuns(tenant:String):Prog Unit:=do
 let limit←query (.concurrencyLimit tenant)
 promoteLoop limit tenant maxPromotedPerCall

end Dazyflow.Daemon
