import Dazyflow.FlowGraph

/-!
# Job records

The rows of the job store: one graph record for each run and one node record for each step of it that was
queued, skipped or seeded.
-/
namespace Dazyflow.JobRecords
open FlowGraph

/-- Nanoseconds of the store's clock; `0` is Go's zero time. -/
abbrev Time:=Int

inductive JobStatus
 | unset | queued | running | succeeded | failed | cancelled | skipped | awaiting
 deriving DecidableEq

def isTerminalStatus:JobStatus→Bool
 | .succeeded | .failed | .cancelled | .skipped=>true
 | _=>false

inductive JobKind
 | unset | graph | node
 deriving DecidableEq

inductive ResultStatus
 | unset | ok | error | awaiting | deferred
 deriving DecidableEq

structure JobError where
 (code message:String)
 deriving DecidableEq

def JobError.text(e:JobError):String:=
 if e.code="" then e.message else e.code++": "++e.message

/-- An inline value: text, or any other JSON value by the size `ApproxValueSize`
 gives it. -/
inductive Inline
 | null
 | text (s:String)
 | data (size:Nat)
 deriving DecidableEq

/-- The Go assertion `.Inline.(string)`, whose failure leaves the empty string. -/
def Inline.asString:Inline→String
 | .text s=>s
 | _=>""

structure Ref where
 mime:String:=""
 ref:String:=""
 inline:Inline:=.null
 deriving DecidableEq

/-- What a step published. A nil and an empty output map answer every lookup
 alike, so both are the empty list. -/
structure Result where
 jobID:String:=""
 status:ResultStatus:=.unset
 output:List (String×Ref):=[]
 error:Option JobError:=none
 skipCode:String:=""
 deriving DecidableEq

def Result.port(r:Result)(p:String):Option Ref:=r.output.lookup p

structure JobRecord where
 id:String
 kind:JobKind:=.unset
 graphRunID:String:=""
 graphID:String:=""
 nodeID:String:=""
 tenant:String:=""
 workspace:String:=""
 status:JobStatus:=.unset
 /-- The decoded payload; `none` where the record has no payload. -/
 graphPayload:Option Graph:=none
 result:Option Result:=none
 enqueuedAt:Time:=0
 availableAt:Option Time:=none
 startedAt:Option Time:=none
 finishedAt:Option Time:=none
 attempt:Nat:=0
 leaseUntil:Option Time:=none
 workerID:String:=""
 manual:Bool:=false
 triggerDepth:Nat:=0
 parentNodeRecID:String:=""
 deriving DecidableEq

def JobRecord.terminal(r:JobRecord):Bool:=isTerminalStatus r.status

structure SameJob(r r':JobRecord):Prop where
 id:r'.id=r.id
 kind:r'.kind=r.kind
 graphRunID:r'.graphRunID=r.graphRunID
 graphID:r'.graphID=r.graphID
 nodeID:r'.nodeID=r.nodeID
 tenant:r'.tenant=r.tenant
 workspace:r'.workspace=r.workspace
 graphPayload:r'.graphPayload=r.graphPayload
 enqueuedAt:r'.enqueuedAt=r.enqueuedAt
 manual:r'.manual=r.manual
 triggerDepth:r'.triggerDepth=r.triggerDepth
 parentNodeRecID:r'.parentNodeRecID=r.parentNodeRecID

lemma SameJob.refl(r):SameJob r r:=
 ⟨rfl,rfl,rfl,rfl,rfl,rfl,rfl,rfl,rfl,rfl,rfl,rfl⟩
lemma SameJob.trans{a b c}(h:SameJob a b)(k:SameJob b c):SameJob a c:=
 ⟨k.id.trans h.id,k.kind.trans h.kind,k.graphRunID.trans h.graphRunID,
  k.graphID.trans h.graphID,k.nodeID.trans h.nodeID,k.tenant.trans h.tenant,
  k.workspace.trans h.workspace,k.graphPayload.trans h.graphPayload,
  k.enqueuedAt.trans h.enqueuedAt,k.manual.trans h.manual,
  k.triggerDepth.trans h.triggerDepth,k.parentNodeRecID.trans h.parentNodeRecID⟩

def nodeJobID(graphRunID nodeID:String):String:=graphRunID++":"++nodeID

lemma nodeJobID_inj(run a b)(h:nodeJobID run a=nodeJobID run b):a=b:=
 (String.append_right_inj (run++":")).mp h
lemma nodeJobID_ne_run(run a):nodeJobID run a≠run:=by
 intro h
 have hl:=congrArg String.length h
 simp only[nodeJobID,String.length_append] at hl
 have: ":".length=1:=rfl
 omega

structure NodeOutcome where
 status:JobStatus
 result:Option Result

structure Advance where
 runStatus:JobStatus:=.unset
 enqueued:Nat:=0

inductive StoreError
 | noJobs | notFound | conflict

structure ListNodeRecordsOpts where
 tenant:String:=""
 workspace:String:=""
 status:JobStatus:=.unset
 graphRunID:String:=""
 limit:Int:=0
 offset:Int:=0
 graphID:String:=""
 hasOutputPort:String:=""
 newestByFinished:Bool:=false
 deriving DecidableEq

structure ListGraphRunsOpts where
 tenant:String:=""
 workspace:String:=""
 graphID:String:=""
 status:JobStatus:=.unset
 since:Time:=0
 before:Time:=0
 limit:Int:=0
 offset:Int:=0
 deriving DecidableEq

end Dazyflow.JobRecords
