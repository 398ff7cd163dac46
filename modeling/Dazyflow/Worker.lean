import Dazyflow.Submission

/-!
# The worker

`worker.go`: a claimed step from the claim to the end of its dispatch.
-/
namespace Dazyflow.Daemon
open FlowGraph JobRecords

def cancelCodeByPerson:String:= "cancelled"
def skipCodeStepOff:String:= "step_off"
def skipCodeTriggerNotFired:String:= "trigger_not_fired"

def eventTriggerModules:List String:=
 ["slack_on_mention","github_on_push","github_on_new_pr","stripe_on_payment",
  "stripe_on_payment_failed","stripe_on_subscription_canceled","homeassistant_state_changed"]

def pollTriggerModules:List String:=
 ["poll_trigger","google_form_trigger","ticketmaster_on_new_event","gcal_on_event_change",
  "gcal_on_event_start","gmail_on_new_message","imap_on_new_message","sftp_on_new_file"]

def isTriggerModule(module:String):Bool:=
 ["webhook_input","form_input","request_input","cron_trigger"].contains module ||
  pollTriggerModules.contains module||eventTriggerModules.contains module

def isScheduledTriggerModule(module:String):Bool:=
 module== "cron_trigger"||pollTriggerModules.contains module

def otherTriggers(rec:JobRecord):List Node→Bool→Bool→Prog (Bool×Bool)
 | [],delivered,scheduled=>pure (delivered,scheduled)
 | n::rest,delivered,scheduled=>
  if n.id=rec.nodeID∨isTriggerModule n.module=false then
   otherTriggers rec rest delivered scheduled
  else if isScheduledTriggerModule n.module then otherTriggers rec rest delivered true
  else do
   let other←getRecord (nodeJobID rec.graphRunID n.id)
   otherTriggers rec rest (delivered||other.any fun r=>r.status==.succeeded) scheduled

def triggerDidNotFire(g:Graph)(rec:JobRecord):Prog Bool:=
 match g.node rec.nodeID with
 | none=>pure false
 | some node=>
  if isTriggerModule node.module=false then pure false
  else do
   let (delivered,scheduled)←otherTriggers rec g.nodes false false
   if isScheduledTriggerModule node.module then pure delivered
   else pure (delivered||scheduled)

/-- Why the step must not execute; empty to run it. -/
def skipCode(g:Graph)(rec:JobRecord):Prog String:=
 match g.node rec.nodeID with
 | none=>pure ""
 | some node=>
  if node.disabled then pure skipCodeStepOff
  else do
   if←triggerDidNotFire g rec then pure skipCodeTriggerNotFired else pure ""

structure CachedRun where
 graph:Graph
 manual:Bool

def fetchRun(graphRunID:String):Prog (Except String CachedRun):=do
 match←getRecord graphRunID with
 | none=>pure (.error ("get graph-record "++graphRunID++": not found"))
 | some rec=>
  match rec.graphPayload with
  | none=>pure (.error ("graph-record "++graphRunID++" has no payload"))
  | some g=>pure (.ok {graph:=g,manual:=rec.manual})

def terminalRunStatus(graphRunID:String):Prog (Option JobStatus):=do
 match←getRecordAt .runCheck graphRunID with
 | none=>pure none
 | some run=>pure (if run.terminal then some run.status else none)

def predecessorIDs(g:Graph)(nodeID:String):List String:=
 ((g.incoming nodeID).map Edge.source).eraseDups

def priorResults(graphRunID:String)(outcomes:List (String×NodeOutcome)):
 List String→Except String (List (String×Result))
 | []=>.ok []
 | nodeID::rest=>
  match outcomes.lookup (nodeJobID graphRunID nodeID) with
  | none=>.error ("predecessor "++quoted nodeID++": not found")
  | some oc=>
   if oc.status=.failed∨oc.status=.skipped then priorResults graphRunID outcomes rest
   else match oc.result with
    | none=>.error ("predecessor "++quoted nodeID++" has no result yet")
    | some res=>(priorResults graphRunID outcomes rest).map (fun prior=>(nodeID,res)::prior)

def fetchPredecessors(g:Graph)(rec:JobRecord):Prog (Except String (List (String×Result))):=
 if predecessorIDs g rec.nodeID=[] then pure (.ok [])
 else do
  match←storeAt .plain (.outcomes ((predecessorIDs g rec.nodeID).map (nodeJobID rec.graphRunID))) with
  | .error _=>pure (.error "outcomes")
  | .ok outcomes=>pure (priorResults rec.graphRunID outcomes (predecessorIDs g rec.nodeID))

def templateRefs(g:Graph)(nodeID:String):List String:=
 match g.node nodeID with
 | none=>[]
 | some n=>
  n.upstreamRefs++if n.triggerRef then
   (g.nodes.filter fun m=>isTriggerModule m.module).map Node.id
  else []

def addTemplateResults(rec:JobRecord):
 List String→List (String×Result)→Prog (List (String×Result))
 | [],prior=>pure prior
 | id::rest,prior=>
  if id=rec.nodeID∨(prior.lookup id).isSome then addTemplateResults rec rest prior
  else do
   match←getRecord (nodeJobID rec.graphRunID id) with
   | none=>addTemplateResults rec rest prior
   | some pred=>
    match pred.result with
    | none=>addTemplateResults rec rest prior
    | some res=>
     if pred.status≠.succeeded∧pred.status≠.awaiting then addTemplateResults rec rest prior
     else addTemplateResults rec rest (prior++[(id,res)])

def completeNode(worker jobID:String)(status:JobStatus)(result:Result):
 Prog (Except StoreError Unit):=
 storeAt .plain (.completeOwned jobID worker status (some result))

def requeueNode(worker jobID:String)(availableAt:Time):Prog (Except StoreError Unit):=
 storeAt .plain (.requeueOwned jobID worker availableAt)

def unlessLeaseLost(worker:String)(rec:JobRecord)(rest:Prog Unit):Prog Unit:=do
 if←query (.leaseLost rec worker) then pure () else rest

def failNode(worker:String)(rec:JobRecord)(code message:String)(g:Option Graph):
 Prog Unit:=do
 match←completeNode worker rec.id .failed (errorResult "" code message) with
 | .error _=>pure ()
 | .ok _=>
  match g with
  | some g=>
   advanceAfterCompletion g rec.graphRunID rec.nodeID .failed (some {code:=code,message:=message})
  | none=>failRun rec.graphRunID code message

def recoverPanic(worker:String)(rec:JobRecord):Prog Unit:=do
 let message:="internal error processing this step"
 match←completeNode worker rec.id .failed (errorResult "" "panic" message) with
 | .error _=>pure ()
 | .ok _=>
  match←fetchGraph rec.graphRunID with
  | none=>pure ()
  | some g=>
   advanceAfterCompletion g rec.graphRunID rec.nodeID .failed (some {code:="panic",message:=message})

def resumeAt(env:Env)(result:Result):Option Time:=
 if result.status≠.deferred then none
 else match result.port "resume_at" with
  | some {inline:=.text s,.. }=>env.parseTime s
  | _=>none

def isApprovalPause(result:Result):Bool:=(result.port "pending_url").isSome

def setRunParked(graphRunID:String)(parked:Bool):Prog Unit:=do
 let _←storeAt .plain (.setGraphRunParked graphRunID parked)
 pure ()

def approxValueSize:Inline→Nat
 | .null=>0
 | .text s=>s.utf8ByteSize
 | .data size=>size

def resultStateBytes(result:Result):Nat:=
 (result.output.map fun p=>approxValueSize p.2.inline).sum

def runStateTooLarge(env:Env)(jobID:String)(total:Int):Result:=
 errorResult jobID "run_state_too_large"
  ("this run has stored about "++toString (total / 1048576)++" MiB of step results, over the " ++
   toString (env.maxRunStateBytes / 1048576)++" MiB limit — " ++
   "pass a reference or a single field between steps instead of a large value, " ++
   "or raise DAZYFLOW_MAX_RUN_STATE_BYTES")

def maybeScheduleRetry(env:Env)(g:Graph)(rec:JobRecord):Prog (Option Time):=
 match g.node rec.nodeID with
 | none=>pure none
 | some node=>
  match env.resolve g.tenant node.module with
  | none=>pure none
  | some manifest=>
   let out:=g.edges.filter (fun e=>e.source==rec.nodeID)
   let hasRetryEdge:=out.any (fun e=>e.onError==.retry)
   let attemptCap:=if 0 < manifest.maxRetries then manifest.maxRetries else env.maxRetries
   if manifest.retryBackoff=false then pure none
   else if out≠[]∧hasRetryEdge=false then pure none
   else if manifest.idempotent=false∧hasRetryEdge=false then pure none
   else if attemptCap ≤ rec.attempt then pure none
   else do
    let when_←query (.nextAttempt rec.attempt)
    pure (some when_)

def textPort(result:Result)(port:String):String:=
 ((result.port port).map fun r=>r.inline.asString).getD ""

def childRefused(rec:JobRecord)(message:String):Prog Unit:=do
 let _←storeAt .submitChildFailed
  (.complete rec.id .failed (some (errorResult "" "subgraph_submit" message)))
 let err:JobError:={code:="subgraph_submit",message:=message}
 match←fetchGraph rec.graphRunID with
 | none=>pure ()
 | some g=>advanceAfterCompletion g rec.graphRunID rec.nodeID .failed (some err)

def pendingChild(env:Env)(result:Result):Option (String×Seeds):=
 let childGraphID:=textPort result "pending_child_graph_id"
 let seedsJSON:=textPort result "pending_input_seeds"
 if childGraphID="" then none
 else if seedsJSON="" then some (childGraphID,[])
 else (env.decodeSeeds seedsJSON).map (fun seeds=>(childGraphID,seeds))

def launchChild(env:Env)(rec:JobRecord)(result:Result)(manifest:Manifest):Prog Unit:=
 if manifest.submitsChildGraph=false∨env.subGraphRunner=false then pure ()
 else match pendingChild env result with
  | none=>pure ()
  | some (childGraphID,seeds)=>do
   let submitted←submitChild rec childGraphID seeds
   match submitted.error with
   | none=>pure ()
   | some message=>childRefused rec message

def maybeSubmitChild(env:Env)(rec:JobRecord)(result:Result):Prog Unit:=do
 match←fetchGraph rec.graphRunID with
 | none=>pure ()
 | some g=>
  match g.node rec.nodeID with
  | none=>pure ()
  | some node=>
   if←query (.lookupFails rec.tenant node.module) then pure ()
   else match env.resolve rec.tenant node.module with
    | none=>pure ()
    | some manifest=>launchChild env rec result manifest

def completeStep(worker:String)(run:CachedRun)(rec:JobRecord)(status:JobStatus)
 (result:Result):Prog Unit:=do
 let plan←planAdvance run.graph rec.graphRunID rec.nodeID status (some result) run.manual
 match←storeAt .plain (.completeAndEnqueue rec.id worker status (some result) plan.enqueue) with
 | .error .conflict=>pure ()
 | .error _=>finishAdvance run.graph rec.graphRunID rec.nodeID status (some result) plan {}
 | .ok adv=>finishAdvance run.graph rec.graphRunID rec.nodeID status (some result) plan adv

/-- A failed attempt is requeued while its retries last, and completed otherwise. -/
def retryOrComplete(env:Env)(worker:String)(run:CachedRun)(rec:JobRecord)
 (status:JobStatus)(result:Result):Prog Unit:=do
 if status=.failed∧result.error.map JobError.code≠some "timeout" then
  match←maybeScheduleRetry env run.graph rec with
  | none=>completeStep worker run rec status result
  | some availableAt=>
   match←requeueNode worker rec.id availableAt with
   | .ok _=>pure ()
   | .error .conflict=>pure ()
   | .error _=>completeStep worker run rec status result
 else completeStep worker run rec status result

/-- The step parks: published, then announced, then its early dependents and its child. -/
def parkStep(env:Env)(worker:String)(run:CachedRun)(rec:JobRecord)(result:Result):
 Prog Unit:=do
 match←completeNode worker rec.id .awaiting result with
 | .error _=>pure ()
 | .ok _=>
  if isApprovalPause result then setRunParked rec.graphRunID true
  advanceAfterCompletion run.graph rec.graphRunID rec.nodeID .awaiting none
  maybeSubmitChild env rec result

/-- What the module came to, once the lease is known to be held. -/
def settleStep(env:Env)(worker:String)(run:CachedRun)(rec:JobRecord)(result:Result)
 (err:Bool):Prog Unit:=do
 match if err then none else resumeAt env result with
 | some at_=>
  let _←requeueNode worker rec.id at_
  pure ()
 | none=>
  if err=false∧result.status=.awaiting then parkStep env worker run rec result
  else if err∨result.status=.error then
   retryOrComplete env worker run rec .failed result
  else
   let (total,fits)←chargeMeter worker rec.graphRunID (resultStateBytes result)
   if fits then retryOrComplete env worker run rec .succeeded result
   else retryOrComplete env worker run rec .failed (runStateTooLarge env rec.id total)

def executeStep(env:Env)(worker:String)(run:CachedRun)(rec:JobRecord)
 (prior:List (String×Result)):Prog Unit:=do
 match←query (.runNode run.graph rec prior) with
 | .panicked=>recoverPanic worker rec
 | .returned result err=>unlessLeaseLost worker rec (settleStep env worker run rec result err)

/-- A step of a run that is over is cancelled instead of executed. -/
def refuseStep(worker:String)(rec:JobRecord)(runStatus:JobStatus):Prog Unit:=
 unlessLeaseLost worker rec do
  let _←completeNode worker rec.id .cancelled
   (errorResult "" cancelCodeByPerson ("run is "++statusText runStatus))
  pure ()

def skipStep(worker:String)(run:CachedRun)(rec:JobRecord)(skip:String):Prog Unit:=
 unlessLeaseLost worker rec do
  match←completeNode worker rec.id .skipped {jobID:=rec.id,skipCode:=skip} with
  | .error _=>pure ()
  | .ok _=>
   let _←dispatchReady run.graph rec.graphRunID rec.nodeID
   maybeCompleteGraph run.graph rec.graphRunID rec.nodeID .skipped none

def prepareStep(env:Env)(worker:String)(run:CachedRun)(rec:JobRecord):Prog Unit:=do
 match←fetchPredecessors run.graph rec with
 | .error message=>
  unlessLeaseLost worker rec (failNode worker rec "load_predecessors" message (some run.graph))
 | .ok wired=>
  let prior←addTemplateResults rec (templateRefs run.graph rec.nodeID) wired
  executeStep env worker run rec prior

def processNodeJob(env:Env)(worker:String)(rec:JobRecord):Prog Unit:=do
 match←fetchRun rec.graphRunID with
 | .error message=>unlessLeaseLost worker rec (failNode worker rec "load_graph" message none)
 | .ok run=>
  match←terminalRunStatus rec.graphRunID with
  | some runStatus=>refuseStep worker rec runStatus
  | none=>
   let skip←skipCode run.graph rec
   if skip≠"" then skipStep worker run rec skip else prepareStep env worker run rec

def workerTurn(env:Env)(worker:String):Prog Unit:=do
 match←storeAt .plain (.claim worker env.leaseDuration) with
 | .error _=>pure ()
 | .ok rec=>processNodeJob env worker rec

end Dazyflow.Daemon
