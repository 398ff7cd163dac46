import Dazyflow.StoreOperations
import Dazyflow.EdgeClassification
import Dazyflow.GraphValidation
import Dazyflow.InterleavedPrograms
import Dazyflow.LoopBodies

/-!
# The calls of the daemon

What the daemon's programs can do in one atomic step: a call on the job store, on the pause registry or on a
worker's run-state meter, or a question to something outside this model (the module that a step runs, the
clock, the workspace store, the billing limits).
-/
namespace Dazyflow.Daemon
open FlowGraph JobRecords MemoryStore StoreOperations

structure Manifest where
 retryBackoff:Bool:=false
 idempotent:Bool:=false
 maxRetries:Nat:=0
 submitsChildGraph:Bool:=false

/-- Configuration of a daemon, and the decoders of what results carry as text. -/
structure Env where
 resolve:String→String→Option Manifest
 maxRetries:Nat:=3
 leaseDuration:Int:=30000000000
 abandonRunsAfter:Int:=21600000000000
 maxRunStateBytes:Int:=1073741824
 subGraphRunner:Bool:=true
 decodeSeeds:String→Option (List (String×Result))
 decodeOutputMap:String→Option (List (String×String×String))
 parseTime:String→Option Time
 durationText:Int→String

structure Principal where
 (subject tenant:String)
 platformAdmin:Bool:=false
 /-- Holds `graph:run` and `graph:admin`, as every system principal does. -/
 runner:Bool:=false
 deriving DecidableEq

/-- `dispatchIndex`: the predecessor records one dispatch pass has read. -/
structure DispatchIndex where
 records:List (String×JobRecord):=[]
 misses:List String:=[]
 deriving DecidableEq

/-- The places in the source whose store calls are told apart. -/
inductive Site
 | plain
 | runCheck
 /-- the insert of `recordSkippedIndexed`, with the index of the pass -/
 | recordSkip (ix:DispatchIndex)
 | finalize
 /-- the inserts of `enqueueReadyDependents` -/
 | enqueueReady
 /-- the `Complete` of `maybeSubmitChild`, whose error is dropped -/
 | submitChildFailed
 | cancelFlip
 /-- the parent's status read and the insert of a child's graph record -/
 | childCheck
 | childInsert
 | resumeCheck
 /-- a listing of `cancelChildRuns` for this parent node record -/
 | listChildren (parentNodeRecID:String)
 deriving DecidableEq

inductive RunOutcome
 | returned (result:Result)(err:Bool)
 | panicked

/-- Questions whose answers this model leaves open. -/
inductive Query
 | runNode (g:Graph)(rec:JobRecord)(prior:List (String×Result))
 | leaseLost (rec:JobRecord) (worker:String)
 | nextAttempt (attempt:Nat)
 | clock
 | newID
 /-- visibility of a private flow and the `graph:run` permission -/
 | permitted (subject:String) (g:Graph)
 /-- size ceilings, manifests, quota and suspension; an answer refuses the run -/
 | refusal (g:Graph)
 | concurrencyLimit (tenant:String)
 | reserveRun (tenant:String)
 | childGraph (tenant workspace graphID:String)
 | chargeSubtree (root:String)
 | lookupFails (tenant module:String)
 deriving DecidableEq

@[reducible] def Query.Answer:Query→Type
 | .runNode .. =>RunOutcome
 | .leaseLost .. | .permitted .. | .reserveRun _ | .chargeSubtree _ | .lookupFails .. =>Bool
 | .nextAttempt _ | .clock=>Time
 | .newID=>String
 | .refusal _=>Option String
 | .concurrencyLimit _=>Int
 | .childGraph .. =>Except String Graph

inductive PauseOp
 | addPaused (runID nodeID:String)
 | takePaused (runID:String)
 | setStepping (runID:String)(on:Bool)
 | isStepping (runID:String)
 | clear (runID:String)
 deriving DecidableEq

@[reducible] def PauseOp.Val:PauseOp→Type
 | .addPaused .. | .setStepping .. | .clear _=>Unit
 | .takePaused _=>List String
 | .isStepping _=>Bool

inductive Call
 | store (site:Site)(op:StoreOp)
 | pause (op:PauseOp)
 | charge (worker runID:String) (bytes:Nat)
 | ask (q:Query)
 deriving DecidableEq

@[reducible] def Call.Res:Call→Type
 | .store _ op=>Except StoreError op.Val
 | .pause op=>op.Val
 | .charge .. =>Int×Bool
 | .ask q=>q.Answer

structure PauseRegistry where
 paused:List (String×String):=[]
 stepping:List String:=[]

namespace PauseRegistry

def pausedNodes(r:PauseRegistry)(runID:String):List String:=
 (r.paused.filter fun p=>p.1==runID).map Prod.snd

def apply(r:PauseRegistry):(op:PauseOp) → op.Val×PauseRegistry
 | .addPaused runID nodeID=>
  ((),if (runID,nodeID)∈r.paused then r else {r with paused:=r.paused++[(runID,nodeID)]})
 | .takePaused runID=>
  (r.pausedNodes runID,{r with paused:=r.paused.filter fun p=>p.1 != runID})
 | .setStepping runID on=>
  ((),if on then {r with stepping:=runID::r.stepping}
   else {r with stepping:=r.stepping.filter fun id=>id != runID})
 | .isStepping runID=>(r.stepping.contains runID,r)
 | .clear runID=>
  ((),{ paused:=r.paused.filter (fun p=>p.1 != runID)
        stepping:=r.stepping.filter fun id=>id != runID})

end PauseRegistry

/-- `runStateMeter`: bytes stored by each of the runs still in the window, oldest first. -/
structure Meter where
 bytes:List (String×Int):=[]

def maxMeteredRuns:Nat:=512

namespace Meter

def charge(env:Env)(m:Meter)(runID:String)(n:Nat):(Int×Bool)×Meter:=
 if runID=""∨env.maxRunStateBytes≤0 then ((0,true),m)
 else
  let window:=if m.bytes.any (fun p=>p.1==runID) then m.bytes
   else
    let grown:=m.bytes++[(runID,(0:Int))]
    if maxMeteredRuns<grown.length then grown.tail else grown
  let total:=(window.lookup runID).getD 0+n
  ((total,decide (total ≤ env.maxRunStateBytes)),
   {bytes:=window.map fun p=>if p.1=runID then (runID,total) else p})

end Meter

structure World where
 store:Memory:={}
 breakpoints:PauseRegistry:={}
 meters:List (String×Meter):=[]

def World.meter(w:World)(worker:String):Meter:=(w.meters.lookup worker).getD {}

/-- What one step leaves open: the clock, the tie of a claim, and the answers. -/
structure Oracle where
 now:Time:=0
 tie:Nat:=0
 answer:(q:Query)→q.Answer

def stepWorld(env:Env):(c:Call)→Oracle→World→c.Res×World
 | .store _ op,o,w=>
  let r:=apply o.now o.tie w.store op
  (r.1,{w with store:=r.2})
 | .pause op,_,w=>
  let r:=w.breakpoints.apply op
  (r.1,{w with breakpoints:=r.2})
 | .charge worker runID bytes,_,w=>
  let r:=(w.meter worker).charge env runID bytes
  (r.1,{w with meters:=(worker,r.2)::w.meters})
 | .ask q,o,w=>(o.answer q,w)

structure ApprovalDecision where
 decision:String
 approver:String:=""
 comment:String:=""
 deriving DecidableEq

inductive CancelError
 | notFound | notGraphRun | unauthorized | finished

/-- The functions that call themselves, directly or through others. -/
inductive Fn
 | dispatchReady (g:Graph)(graphRunID nodeID:String)(ix:DispatchIndex)
 | maybeResumeParent (childRunID:String)(childFailed:Bool)(childErr:Option JobError)
 | cancelGraphRun (p:Principal)(graphRunID code reason:String)

@[reducible] def Fn.Ret:Fn→Type
 | .dispatchReady .. =>Nat×DispatchIndex
 | .maybeResumeParent .. =>Unit
 | .cancelGraphRun .. =>Except CancelError Unit

@[reducible] def sig:Interleaving.Sig where
 Call:=Call
 Res:=Call.Res
 Fn:=Fn
 Ret:=Fn.Ret

abbrev Prog:=Interleaving.Prog sig

def storeAt(site:Site)(op:StoreOp):Prog (Except StoreError op.Val):=
 Interleaving.Prog.ask (S:=sig) (Call.store site op)

def query(q:Query):Prog q.Answer:=Interleaving.Prog.ask (S:=sig) (Call.ask q)

def pauseCall(op:PauseOp):Prog op.Val:=Interleaving.Prog.ask (S:=sig) (Call.pause op)

def chargeMeter(worker runID:String)(bytes:Nat):Prog (Int×Bool):=
 Interleaving.Prog.ask (S:=sig) (Call.charge worker runID bytes)

/-- `Get`, whose only error here is `ErrNotFound`. -/
def getRecordAt(site:Site)(id:String):Prog (Option JobRecord):=do
 match←storeAt site (.get id) with
 | .ok r=>pure (some r)
 | .error _=>pure none

def getRecord(id:String):Prog (Option JobRecord):=getRecordAt .plain id

def statusText:JobStatus→String
 | .unset=>""
 | .queued=>"queued"
 | .running=>"running"
 | .succeeded=>"succeeded"
 | .failed=>"failed"
 | .cancelled=>"cancelled"
 | .skipped=>"skipped"
 | .awaiting=>"awaiting"

def quoted(s:String):String:= "\""++s++"\""

end Dazyflow.Daemon
