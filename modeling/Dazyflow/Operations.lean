import Dazyflow.Worker

/-!
# The daemon as a machine

The operations of the service beside the workers (`approval.go`, `cancel.go`, `resume.go`), the bodies of the
named functions, and the machine of them all: a pool of it is a daemon with any number of operations in
progress.
-/
namespace Dazyflow.Daemon
open FlowGraph JobRecords
open Interleaving.Prog (enter)

def parkedApproval(excludeNodeID:String)(rec:JobRecord):Bool:=
 rec.nodeID != excludeNodeID&&rec.result.any isApprovalPause

def runHasParkedApproval(graphRunID excludeNodeID:String):Prog Bool:=do
 match←storeAt .plain (.listNodeRecords
  {graphRunID:=graphRunID,status:=.awaiting,limit:=200}) with
 | .error _=>pure true
 | .ok recs=>pure (recs.any (parkedApproval excludeNodeID))

def textRef(s:String):Ref:={mime:="text/plain",inline:=.text s}

def decidedOutput(decision:ApprovalDecision)(output:List (String×Ref)):List (String×Ref):=
 let decisionPort:=if decision.decision="reject" then "rejected" else "approved"
 [("comment",textRef decision.comment),("approver",textRef decision.approver),
  (decisionPort,(output.lookup "context").getD {})] ++
  output.filter (fun p=>p.1 != "context")

def resumeResult(decision:ApprovalDecision)(nodeRecID:String)(parked:Option Result):Result:=
 { jobID:=nodeRecID
   status:=.ok
   output:=decidedOutput decision ((parked.map Result.output).getD [])}

def approve(graphRunID nodeID:String)(decision:ApprovalDecision):Prog Unit:=
 if decision.decision≠"approve"∧decision.decision≠"reject" then pure ()
 else do
  match←getRecord (nodeJobID graphRunID nodeID) with
  | none=>pure ()
  | some rec=>
   if rec.status≠.awaiting then pure ()
   else
    let result:=resumeResult decision (nodeJobID graphRunID nodeID) rec.result
    match←storeAt .plain (.complete (nodeJobID graphRunID nodeID) .succeeded (some result)) with
    | .error _=>pure ()
    | .ok _=>
     match←fetchGraph graphRunID with
     | none=>pure ()
     | some g=>
      advanceAfterCompletion g graphRunID nodeID .succeeded none
      if←runHasParkedApproval graphRunID nodeID then pure ()
      else setRunParked graphRunID false

def zeroGraph:Graph:={id:="",tenant:="",workspace:="",nodes:=[],edges:=[]}

def cancelCodeParent:String:= "parent_cancelled"

def cancelledResult(cancelErr:JobError)(prev:Option Result):Result:=
 {status:=.error,error:=some cancelErr,output:=(prev.map Result.output).getD []}

def cancelListed(p:Principal)(parentNodeRecID reason:String):List JobRecord→Prog Unit
 | []=>pure ()
 | r::rest=>
  if r.parentNodeRecID≠parentNodeRecID then cancelListed p parentNodeRecID reason rest
  else do
   let _←enter (S:=sig)
    (Fn.cancelGraphRun p r.id cancelCodeParent ("parent run stopped: "++reason))
   cancelListed p parentNodeRecID reason rest

def childListing(tenant workspace childGraphID:String)(status:JobStatus):ListGraphRunsOpts:=
 {tenant:=tenant,workspace:=workspace,graphID:=childGraphID,status:=status,limit:=500}

def cancelChildRuns(tenant workspace childGraphID parentNodeRecID reason:String):
 List JobStatus→Prog Unit
 | []=>pure ()
 | st::rest=>do
  match←storeAt (.listChildren parentNodeRecID)
   (.listGraphRunsOldest (childListing tenant workspace childGraphID st)) with
  | .error _=>cancelChildRuns tenant workspace childGraphID parentNodeRecID reason rest
  | .ok runs=>
   cancelListed (systemPrincipal "dazyflow-cancel" tenant) parentNodeRecID reason runs
   cancelChildRuns tenant workspace childGraphID parentNodeRecID reason rest

def liveStatuses:List JobStatus:=[.running,.awaiting,.queued]

/-- The child graph a parked record waits for; empty when it waits for none. -/
def pendingChildGraph(nrec:JobRecord):String:=
 if nrec.status=.awaiting then (nrec.result.map fun r=>textPort r "pending_child_graph_id").getD ""
 else ""

def cancelSweep(rec:JobRecord)(cancelErr:JobError)(reason:String):List Node→Prog Unit
 | []=>pure ()
 | n::rest=>do
  match←getRecord (nodeJobID rec.id n.id) with
  | none=>cancelSweep rec cancelErr reason rest
  | some nrec=>
   if nrec.terminal then cancelSweep rec cancelErr reason rest
   else
    let _←storeAt .plain (.complete (nodeJobID rec.id n.id) .cancelled
     (some (cancelledResult cancelErr nrec.result)))
    if pendingChildGraph nrec≠"" then
     cancelChildRuns rec.tenant rec.workspace (pendingChildGraph nrec) (nodeJobID rec.id n.id)
      reason liveStatuses
    cancelSweep rec cancelErr reason rest

def cancelAuthorized(rec:JobRecord)(g:Graph)(code reason:String):
 Prog (Except CancelError Unit):=do
 let cancelErr:JobError:={code:=code,message:=reason}
 pauseCall (.clear rec.id)
 match←storeAt .cancelFlip (.complete rec.id .cancelled
  (some {status:=.error,error:=some cancelErr})) with
 | .error _=>pure (.error .finished)
 | .ok _=>
  cancelSweep rec cancelErr reason g.nodes
  if rec.parentNodeRecID≠"" then
   enter (S:=sig) (Fn.maybeResumeParent rec.id true (some cancelErr))
  pure (.ok ())

def cancelGraphRun(p:Principal)(graphRunID code reason:String):
 Prog (Except CancelError Unit):=do
 match←getRecord graphRunID with
 | none=>pure (.error .notFound)
 | some rec=>
  let g:=rec.graphPayload.getD zeroGraph
  if rec.kind≠.graph then pure (.error .notGraphRun)
  else if requireTenant p rec.tenant=false then pure (.error .unauthorized)
  else if rec.terminal then pure (.error .finished)
  else if←authorizeGraphRun p g then
   cancelAuthorized rec g code (if reason="" then "cancelled by "++p.subject else reason)
  else pure (.error .unauthorized)

def resumeGraphRun(p:Principal)(graphRunID:String)(step:Bool):Prog Unit:=do
 match←getRecord graphRunID with
 | none=>pure ()
 | some rec=>
  let g:=rec.graphPayload.getD zeroGraph
  if rec.kind≠.graph∨requireTenant p rec.tenant=false∨rec.terminal then pure ()
  else if←authorizeGraphRun p g then
   let paused←pauseCall (.takePaused graphRunID)
   if paused=[] then pure ()
   else
    pauseCall (.setStepping graphRunID step)
    resumeFrom g graphRunID paused
  else pure ()

inductive Entry
 | worker (id:String)
 | renew (id jobID:String)
 | submit (p:Principal) (g:Graph) (opts:SubmitOpts)
 | approve (graphRunID nodeID:String) (decision:ApprovalDecision)
 | cancel (p:Principal) (graphRunID code reason:String)
 | promote (tenant:String)
 | reap
 | resume (p:Principal) (graphRunID:String) (step:Bool)

def Entry.prog(env:Env):Entry→Prog Unit
 | .worker id=>workerTurn env id
 | .renew id jobID=>do
  let _←storeAt .plain (.renew jobID id env.leaseDuration)
  pure ()
 | .submit p g opts=>do
  let _←submitGraphOpts p g opts
  pure ()
 | .approve graphRunID nodeID decision=>Daemon.approve graphRunID nodeID decision
 | .cancel p graphRunID code reason=>do
  let _←enter (S:=sig) (Fn.cancelGraphRun p graphRunID code reason)
  pure ()
 | .promote tenant=>promotePendingRuns tenant
 | .reap=>do
  let _←reapStuckGraphRuns env
  pure ()
 | .resume p graphRunID step=>resumeGraphRun p graphRunID step

def Fn.body(env:Env):(f:Fn)→Prog f.Ret
 | .dispatchReady g graphRunID nodeID ix=>dispatchReadyIndexed g graphRunID nodeID ix
 | .maybeResumeParent childRunID childFailed childErr=>
  Daemon.maybeResumeParent env childRunID childFailed childErr
 | .cancelGraphRun p graphRunID code reason=>Daemon.cancelGraphRun p graphRunID code reason

@[reducible] def daemon(env:Env):Interleaving.Machine sig where
 State:=World
 Oracle:=Oracle
 step:=stepWorld env
 body:=Fn.body env
 Entry:=Entry
 entry:=Entry.prog env

def bareEnv:Env where
 resolve:=fun _ _=>none
 decodeSeeds:=fun _=>none
 decodeOutputMap:=fun _=>none
 parseTime:=fun _=>none
 durationText:=fun _=>""

def bareAnswer:(q:Query)→q.Answer
 | .runNode .. =>.returned {status:=.ok} false
 | .leaseLost .. =>false
 | .nextAttempt _=>0
 | .clock=>0
 | .newID=>"run"
 | .permitted .. =>true
 | .refusal _=>none
 | .concurrencyLimit _=>0
 | .reserveRun _=>true
 | .childGraph .. =>.error "not found"
 | .chargeSubtree _=>true
 | .lookupFails .. =>false

def bareOracle:Oracle:={answer:=bareAnswer}

instance (env:Env):Nonempty (daemon env).Oracle:=⟨bareOracle⟩

def router:Graph:=
 { id:="g",tenant:="t",workspace:="w"
   nodes:=[{id:="if",module:="if" },{id:="yes",module:="m" },{id:="no",module:="m" }]
   edges:=[{source:="if",fromPort:="true",target:="yes",toPort:="in" },
    {source:="if",fromPort:="false",target:="no",toPort:="in" }]}

end Dazyflow.Daemon
