import Dazyflow.DaemonCalls

/-!
# The dispatcher

`dispatch.go`: what happens after a step has reached its status.
-/
namespace Dazyflow.Daemon
open FlowGraph JobRecords EdgeClassification LoopBodies
open Interleaving.Prog (enter)

def skipCodeUpstream:String:= "upstream"

def DispatchIndex.put(ix:DispatchIndex)(rec:JobRecord):DispatchIndex:=
 if rec.nodeID="" then ix
 else { records:=(rec.nodeID,rec)::ix.records
        misses:=ix.misses.filter fun id=>id != rec.nodeID}

def DispatchIndex.pred(ix:DispatchIndex)(graphRunID nodeID:String):
 Prog (Option JobRecord×DispatchIndex):=
 match ix.records.lookup nodeID with
 | some rec=>pure (some rec,ix)
 | none=>
  if nodeID∈ix.misses then pure (none,ix)
  else do
   match←getRecord (nodeJobID graphRunID nodeID) with
   | none=>pure (none,{ix with misses:=nodeID::ix.misses})
   | some rec=>pure (some rec,{ix with records:=(nodeID,rec)::ix.records})

/-- The loop of `analyzeDependentIndexed` over the wires into the dependent. -/
def analyzeWires(graphRunID:String):
 List Edge→Tally→DispatchIndex→Prog (DependentDecision×DispatchIndex)
 | [],t,ix=>pure (t.decision,ix)
 | e::rest,t,ix=>do
  match←ix.pred graphRunID e.source with
  | (none,ix)=>pure (.waiting,ix)
  | (some predRec,ix)=>
   match t.add predRec e with
   | none=>pure (.waiting,ix)
   | some t=>analyzeWires graphRunID rest t ix

def analyzeDependentIndexed(g:Graph)(graphRunID depID:String)(ix:DispatchIndex):
 Prog (DependentDecision×DispatchIndex):=
 analyzeWires graphRunID (g.incoming depID) {} ix

def completedRecord(graphRunID nodeID:String)(status:JobStatus)(result:Option Result):
 JobRecord:=
 { id:=nodeJobID graphRunID nodeID,kind:=.node,graphRunID:=graphRunID,nodeID:=nodeID
   status:=status,result:=result}

def dependentRecord(g:Graph)(graphRunID nodeID:String):JobRecord:=
 { id:=nodeJobID graphRunID nodeID,kind:=.node,graphRunID:=graphRunID,graphID:=g.id
   nodeID:=nodeID,tenant:=g.tenant,workspace:=g.workspace}

def skippedRecord(g:Graph)(graphRunID nodeID:String):JobRecord:=
 { dependentRecord g graphRunID nodeID with
  status:=.skipped
  result:=some {skipCode:=skipCodeUpstream,jobID:=nodeJobID graphRunID nodeID} }

def finalizeGraph(graphRunID:String)(status:JobStatus)(result:Result)(resumeFailed:Bool)
 (resumeErr:Option JobError):Prog Unit:=do
 match←storeAt .finalize (.complete graphRunID status (some result)) with
 | .error _=>pure ()
 | .ok _=>
  pauseCall (.clear graphRunID)
  enter (S:=sig) (Fn.maybeResumeParent graphRunID resumeFailed resumeErr)

def errorResult(jobID code message:String):Result:=
 {jobID:=jobID,status:=.error,error:=some {code:=code,message:=message} }

def nodeFailed(nodeID:String):JobError:=
 {code:="node_failed",message:="node "++quoted nodeID++" failed" }

def markGraphFailed(graphRunID blameNode:String)(cause:Option JobError):Prog Unit:=
 let errPayload:=cause.getD (nodeFailed blameNode)
 finalizeGraph graphRunID .failed {status:=.error,error:=some errPayload} true (some errPayload)

inductive RunVerdict
 | unfinished
 | failed (nodeID:String)(cause:Option JobError)
 | complete

/-- The record of a step in a listing; the last one wins, as in a map. -/
def byNode(recs:List JobRecord)(nodeID:String):Option JobRecord:=
 recs.reverse.find? (fun r=>r.nodeID==nodeID)

/-- The loop of `maybeCompleteGraph` over the steps that are no loop body. -/
def runVerdict(g:Graph)(recs:List JobRecord):List Node→RunVerdict
 | []=>.complete
 | n::rest=>
  if bodyOwned g n.id then runVerdict g recs rest
  else match byNode recs n.id with
   | none=>.unfinished
   | some rec=>
    if rec.terminal=false then .unfinished
    else if rec.status=.failed∧failurePropagates g n.id then
     .failed n.id (rec.result.bind Result.error)
    else runVerdict g recs rest

def runListing(g:Graph)(graphRunID:String):ListNodeRecordsOpts:=
 { tenant:=g.tenant,workspace:=g.workspace,graphRunID:=graphRunID
   limit:=(g.nodes.length:Int)+1}

def maybeCompleteGraph(g:Graph)(graphRunID lastNodeID:String)(lastStatus:JobStatus)
 (lastErr:Option JobError):Prog Unit:=
 if lastStatus=.failed∧failurePropagates g lastNodeID then
  markGraphFailed graphRunID lastNodeID lastErr
 else do
  match←storeAt .plain (.listNodeRecords (runListing g graphRunID)) with
  | .error _=>pure ()
  | .ok recs=>
   match runVerdict g recs g.nodes with
   | .unfinished=>pure ()
   | .failed nodeID cause=>markGraphFailed graphRunID nodeID cause
   | .complete=>finalizeGraph graphRunID .succeeded {status:=.ok} false none

def recordSkippedIndexed(g:Graph)(graphRunID nodeID:String)(ix:DispatchIndex):
 Prog DispatchIndex:=do
 match←storeAt (.recordSkip ix) (.enqueue (skippedRecord g graphRunID nodeID)) with
 | .error _=>pure ix
 | .ok _=>
  let (_,ix)←enter (S:=sig)
   (Fn.dispatchReady g graphRunID nodeID (ix.put (skippedRecord g graphRunID nodeID)))
  maybeCompleteGraph g graphRunID nodeID .skipped none
  pure ix

/-- The loop of `dispatchReadyIndexed` over the dependents, with its count. -/
def dispatchLoop(g:Graph)(graphRunID:String):
 List String→Nat→DispatchIndex→Prog (Nat×DispatchIndex)
 | [],enqueued,ix=>pure (enqueued,ix)
 | nodeID::rest,enqueued,ix=>
  if bodyOwned g nodeID then dispatchLoop g graphRunID rest enqueued ix
  else do
   match←analyzeDependentIndexed g graphRunID nodeID ix with
   | (.enqueue,ix)=>
    match←storeAt .plain (.enqueue (dependentRecord g graphRunID nodeID)) with
    | .ok _=>dispatchLoop g graphRunID rest (enqueued+1) ix
    | .error _=>dispatchLoop g graphRunID rest enqueued ix
   | (.skipped,ix)=>
    let ix←recordSkippedIndexed g graphRunID nodeID ix
    dispatchLoop g graphRunID rest enqueued ix
   | (.waiting,ix)=>dispatchLoop g graphRunID rest enqueued ix

def dispatchReadyIndexed(g:Graph)(graphRunID completedNodeID:String)(ix:DispatchIndex):
 Prog (Nat×DispatchIndex):=
 dispatchLoop g graphRunID (g.outgoing completedNodeID) 0 ix

def dispatchReady(g:Graph)(graphRunID completedNodeID:String):Prog Nat:=do
 let (enqueued,_)←enter (S:=sig) (Fn.dispatchReady g graphRunID completedNodeID {})
 pure enqueued

def pausesAfter(g:Graph)(graphRunID nodeID:String)(status:JobStatus)(watched:Bool):
 Prog Bool:=
 if status≠.succeeded then pure false
 else do
  if←pauseCall (.isStepping graphRunID) then pure true
  else pure (watched&&(g.node nodeID).any fun n=>n.breakpoint)

def publishPaused(graphRunID nodeID:String):Prog Unit:=pauseCall (.addPaused graphRunID nodeID)

def advanceAfterCompletion(g:Graph)(graphRunID nodeID:String)(status:JobStatus)
 (resultErr:Option JobError):Prog Unit:=do
 let grec←getRecord graphRunID
 if grec.any JobRecord.terminal then pure ()
 else if←pausesAfter g graphRunID nodeID status (grec.any JobRecord.manual) then
  publishPaused graphRunID nodeID
 else
  let enqueued←if advances g nodeID status then dispatchReady g graphRunID nodeID else pure 0
  if enqueued=0 then maybeCompleteGraph g graphRunID nodeID status resultErr else pure ()

structure AdvancePlan where
 pause:Bool:=false
 enqueue:List JobRecord:=[]
 revisit:Bool:=false

def planLoop(g:Graph)(graphRunID:String):
 List String→AdvancePlan→DispatchIndex→Prog AdvancePlan
 | [],plan,_=>pure plan
 | depID::rest,plan,ix=>
  if bodyOwned g depID then planLoop g graphRunID rest plan ix
  else do
   match←analyzeDependentIndexed g graphRunID depID ix with
   | (.enqueue,ix)=>
    planLoop g graphRunID rest
     {plan with enqueue:=plan.enqueue++[dependentRecord g graphRunID depID]} ix
   | (_,ix)=>planLoop g graphRunID rest {plan with revisit:=true} ix

def planAdvance(g:Graph)(graphRunID nodeID:String)(status:JobStatus)(result:Option Result)
 (watched:Bool):Prog AdvancePlan:=do
 let ix:=DispatchIndex.put {} (completedRecord graphRunID nodeID status result)
 if←pausesAfter g graphRunID nodeID status watched then pure {pause:=true}
 else if advances g nodeID status=false then pure {}
 else planLoop g graphRunID (g.outgoing nodeID) {} ix

def finishAdvance(g:Graph)(graphRunID nodeID:String)(status:JobStatus)
 (result:Option Result)(plan:AdvancePlan)(adv:Advance):Prog Unit:=
 if isTerminalStatus adv.runStatus then pure ()
 else if plan.pause then publishPaused graphRunID nodeID
 else do
  let more←if plan.revisit then do
   let (n,_)←enter (S:=sig) (Fn.dispatchReady g graphRunID nodeID
    (DispatchIndex.put {} (completedRecord graphRunID nodeID status result)))
   pure n
   else pure 0
  if adv.enqueued+more=0 then
   maybeCompleteGraph g graphRunID nodeID status (result.bind Result.error)
  else pure ()

def resumeFrom(g:Graph)(graphRunID:String):List String→Prog Unit
 | []=>pure ()
 | nodeID::rest=>do
  let _←dispatchReady g graphRunID nodeID
  maybeCompleteGraph g graphRunID nodeID .succeeded none
  resumeFrom g graphRunID rest

/-- `fetchGraph`: the run's pinned flow; `none` stands for the load errors. -/
def fetchGraph(graphRunID:String):Prog (Option Graph):=do
 match←getRecord graphRunID with
 | none=>pure none
 | some rec=>pure rec.graphPayload

def childErrMessage:Option JobError→String
 | none=>"no error message"
 | some e=>e.text

/-- The loop of `projectChildOutputs` over the bindings. -/
def projectBindings(childRunID:String):
 List (String×String×String)→List (String×Ref)→Prog (Except String (List (String×Ref)))
 | [],out=>pure (.ok out)
 | (parentPort,node,port)::rest,out=>do
  match←getRecord (nodeJobID childRunID node) with
  | none=>pure (.error ("child node "++quoted node++": not found"))
  | some rec=>
   match rec.result with
   | none=>pure (.error ("child node "++quoted node++" has no result"))
   | some res=>
    match res.port port with
    | none=>pure (.error ("child node "++quoted node++" has no output port "++quoted port))
    | some ref=>projectBindings childRunID rest (out++[(parentPort,ref)])

def projectChildOutputs(env:Env)(parentRec:JobRecord)(childRunID:String):
 Prog (Except String (List (String×Ref))):=
 match parentRec.result with
 | none=>pure (.error "parent has no pending result")
 | some res=>
  let raw:=((res.port "pending_output_map").map fun r=>r.inline.asString).getD ""
  if raw="" then pure (.ok [])
  else match env.decodeOutputMap raw with
   | none=>pure (.error "parse output_map")
   | some bindings=>projectBindings childRunID bindings []

def parentOutcome(env:Env)(parentRec:JobRecord)(childRunID:String)(childFailed:Bool)
 (childErr:Option JobError):Prog (JobStatus×Result):=
 if childFailed then
  pure (.failed,errorResult parentRec.id "child_failed"
   ("child graph "++childRunID++" failed: "++childErrMessage childErr))
 else do
  match←projectChildOutputs env parentRec childRunID with
  | .error msg=>pure (.failed,errorResult parentRec.id "child_output_map" msg)
  | .ok out=>pure (.succeeded,{jobID:=parentRec.id,status:=.ok,output:=out})

def maybeResumeParent(env:Env)(childRunID:String)(childFailed:Bool)
 (childErr:Option JobError):Prog Unit:=do
 match←getRecord childRunID with
 | none=>pure ()
 | some child=>
  if child.parentNodeRecID="" then pure ()
  else
   match←getRecordAt .resumeCheck child.parentNodeRecID with
   | none=>pure ()
   | some parentRec=>
    if parentRec.status≠.awaiting then pure ()
    else
     let (status,result)←parentOutcome env parentRec childRunID childFailed childErr
     match←storeAt .plain (.complete parentRec.id status (some result)) with
     | .error _=>pure ()
     | .ok _=>
      match←fetchGraph parentRec.graphRunID with
      | none=>pure ()
      | some g=>
       advanceAfterCompletion g parentRec.graphRunID parentRec.nodeID status result.error

def reapBatchLimit:Int:=500

def abandonMessage(env:Env)(age:Int):String:=
 "This run was abandoned: it has been "++env.durationText age++" since it started and it has no step " ++
  "left that could finish it, so it can never complete. Its steps' records are gone or its " ++
  "work was never queued. Retry it if the work still needs doing."

def abandonIfStuck(env:Env)(g:Graph)(run:JobRecord):Prog Bool:=
 if env.abandonRunsAfter≤0 then pure false
 else do
  let now←query .clock
  let age:=now-run.enqueuedAt
  if age<env.abandonRunsAfter then pure false
  else
   match←storeAt .plain (.listNodeRecords
    { tenant:=run.tenant,workspace:=run.workspace,graphRunID:=run.id
      limit:=(g.nodes.length:Int)+1}) with
   | .error _=>pure false
   | .ok recs=>
    if recs.any (fun r=>!r.terminal) then pure false
    else
     match←storeAt .plain (.complete run.id .failed
      (some (errorResult run.id "run_abandoned" (abandonMessage env age)))) with
     | .error _=>pure false
     | .ok _=>pure true

def reapRuns(env:Env):List JobRecord→Nat→Prog Nat
 | [],reaped=>pure reaped
 | run::rest,reaped=>
  match run.graphPayload with
  | none=>reapRuns env rest reaped
  | some g=>do
   maybeCompleteGraph g run.id "" .succeeded none
   match←getRecord run.id with
   | none=>reapRuns env rest reaped
   | some rec=>
    if rec.terminal then reapRuns env rest (reaped+1)
    else if←abandonIfStuck env g rec then reapRuns env rest (reaped+1)
    else reapRuns env rest reaped

def reapStuckGraphRuns(env:Env):Prog Nat:=do
 match←storeAt .plain (.listGraphRunsOldest {status:=.running,limit:=reapBatchLimit}) with
 | .error _=>pure 0
 | .ok running=>
  match←storeAt .plain (.listGraphRunsOldest {status:=.awaiting,limit:=reapBatchLimit}) with
  | .error _=>pure 0
  | .ok awaiting=>reapRuns env (running++awaiting) 0

end Dazyflow.Daemon
