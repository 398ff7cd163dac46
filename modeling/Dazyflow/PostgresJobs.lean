import Dazyflow.StoreOperations

/-!
# The Postgres job store

The statements of `jobstore.Postgres` on the rows of its table `jobs`, each run alone against the clock
reading `now`.
-/
namespace Dazyflow.PostgresJobs
open FlowGraph JobRecords KeyedTable StoreOperations

/-- A row of `jobs`; the schema has no column for the trigger depth. -/
structure Row where
 id:String
 kind:JobKind
 (graphRunID graphID nodeID tenant workspace:String)
 status:JobStatus
 graphPayload:Option Graph:=none
 result:Option Result:=none
 enqueuedAt:Time
 availableAt:Option Time:=none
 startedAt:Option Time:=none
 finishedAt:Option Time:=none
 attempt:Nat:=0
 leaseUntil:Option Time:=none
 workerID:String:=""
 parentNodeRecID:String:=""
 manual:Bool:=false
 slotAt:Time

def scanRecord(r:Row):JobRecord:=
 { id:=r.id,kind:=r.kind,graphRunID:=r.graphRunID,graphID:=r.graphID
   nodeID:=r.nodeID,tenant:=r.tenant,workspace:=r.workspace,status:=r.status
   graphPayload:=r.graphPayload,result:=r.result,enqueuedAt:=r.enqueuedAt
   availableAt:=r.availableAt,startedAt:=r.startedAt,finishedAt:=r.finishedAt
   attempt:=r.attempt,leaseUntil:=r.leaseUntil,workerID:=r.workerID
   manual:=r.manual,parentNodeRecID:=r.parentNodeRecID}

structure Postgres where
 jobs:Table String Row Row.id:=empty
 maxConcurrent:Int:=0
 burstSpacing:Int:=100000000

def greatest(a:Time):Option Time→Time
 | none=>a
 | some b=>max a b

namespace Postgres

def get(p:Postgres)(jobID:String):Except StoreError JobRecord:=
 match p.jobs.find? jobID with
 | none=>.error .notFound
 | some r=>.ok (scanRecord r)

def update(p:Postgres)(cond:Row→Bool)(set:Row→Row)(keep:∀ r,(set r).id=r.id):
 Nat×Postgres:=
 (p.jobs.rows.countP cond,{p with jobs:=p.jobs.updateWhere cond set keep})

def missOrConflict(p:Postgres)(jobID:String):StoreError:=
 if (p.jobs.find? jobID).isSome then .conflict else .notFound

def guarded(p:Postgres)(jobID:String)(cond:Row→Bool)(set:Row→Row)
 (keep:∀ r,(set r).id=r.id):Except StoreError Unit×Postgres:=
 let u:=p.update cond set keep
 (if u.1=0 then .error (u.2.missOrConflict jobID) else .ok (),u.2)

def waits(tenant:String)(b:Row):Bool:=
 b.kind==.node&&b.status==.queued&&b.tenant==tenant

/-- `SELECT max(b.slot_at)` over the steps a tenant has waiting. -/
def tail(p:Postgres)(tenant:String):Option Time:=
 ((p.jobs.rows.filter (waits tenant)).map Row.slotAt).max?

def enqueuedRow(now:Time)(p:Postgres)(rec:JobRecord):Row:=
 let kind:=if rec.kind=.unset then .graph else rec.kind
 let status:=if rec.status=.unset then .queued else rec.status
 let enqueued:=if rec.enqueuedAt=0 then now else rec.enqueuedAt
 { id:=rec.id,kind:=kind,graphRunID:=rec.graphRunID,graphID:=rec.graphID
   nodeID:=rec.nodeID,tenant:=rec.tenant,workspace:=rec.workspace,status:=status
   graphPayload:=rec.graphPayload,result:=rec.result,enqueuedAt:=enqueued
   startedAt:=if isTerminalStatus status||status==.running then some now else none
   finishedAt:=if isTerminalStatus status then some now else none
   parentNodeRecID:=rec.parentNodeRecID,manual:=rec.manual
   slotAt:=if kind=.node∧status=.queued∧0<p.burstSpacing then
     greatest enqueued ((p.tail rec.tenant).map fun t=>t+p.burstSpacing)
    else enqueued}

def enqueue(now:Time)(p:Postgres)(rec:JobRecord):Except StoreError Unit×Postgres:=
 match h:p.jobs.find? rec.id with
 | some _=>(.error .conflict,p)
 | none=>(.ok (),{p with jobs:=p.jobs.insert (enqueuedRow now p rec) h})

/-- A step's row in the two batch inserts, which write no other columns. -/
def stepRow(now slot:Time)(tenant:String)(d:JobRecord):Row:=
 { id:=d.id,kind:=.node,graphRunID:=d.graphRunID,graphID:=d.graphID,nodeID:=d.nodeID
   tenant:=tenant,workspace:=d.workspace,status:=.queued,enqueuedAt:=now,slotAt:=slot}

/-- The slot of the step with this ordinal, counted from zero, behind a tail. -/
def batchSlot(now spacing:Time)(tail:Option Time)(ord:Nat):Time:=
 if 0<spacing then greatest now (tail.map fun t=>t+spacing)+spacing*ord else now

def stepRows(now spacing:Time)(tail:Option Time)(tenant:JobRecord→String):
 Nat→List JobRecord→List Row
 | _,[]=>[]
 | ord,d::rest=>
  stepRow now (batchSlot now spacing tail ord) (tenant d) d ::
   stepRows now spacing tail tenant (ord+1) rest

def enqueueNodes(now:Time)(p:Postgres)(recs:List JobRecord):
 Except StoreError Nat×Postgres:=
 match recs with
 | []=>(.ok 0,p)
 | first::_=>
  match p.jobs.insertAll
   (stepRows now p.burstSpacing (p.tail first.tenant) (fun _=>first.tenant) 0 recs) with
  | some jobs=>(.ok recs.length,{p with jobs:=jobs})
  | none=>(.error .conflict,p)

def runningFor(now:Time)(p:Postgres)(tenant:String):Nat:=
 p.jobs.rows.countP (fun r=>r.tenant==tenant&&r.kind==.node&&r.status==.running &&
  r.leaseUntil.any fun t=>now<t)

def claimable(now:Time)(p:Postgres)(r:Row):Bool:=
 r.kind==.node &&
  (r.status==.queued&&!r.availableAt.any (fun t=>now<t) &&
   (decide (p.maxConcurrent≤0)||decide ((p.runningFor now r.tenant:Int)<p.maxConcurrent))
   || r.status==.running&&r.leaseUntil.any fun t=>t<now)

def claimBefore(a b:Row):Bool:=
 decide (a.slotAt<b.slotAt)||(a.slotAt==b.slotAt&&decide (a.enqueuedAt<b.enqueuedAt))

def heads(now:Time)(p:Postgres):List Row:=
 let candidates:=p.jobs.rows.filter (p.claimable now)
 candidates.filter (fun r=>candidates.all fun c=>!claimBefore c r)

def claimedRow(now:Time)(worker:String)(lease:Int)(r:Row):Row:=
 { r with
  status:=.running,workerID:=worker,attempt:=r.attempt+1,startedAt:=some now
  leaseUntil:=some (now+lease)}

def claim(now:Time)(tie:Nat)(p:Postgres)(worker:String)(lease:Int):
 Except StoreError JobRecord×Postgres:=
 match (p.heads now)[tie % (p.heads now).length]? with
 | none=>(.error .noJobs,p)
 | some r=>(.ok (scanRecord (claimedRow now worker lease r)),
  (p.update (fun b=>b.id==r.id) (claimedRow now worker lease) fun _=>rfl).2)

def fenced(worker:String)(r:Row):Bool:=worker== ""||r.workerID==worker

def requeuedRow(availableAt:Time)(r:Row):Row:=
 { r with
  status:=.queued,availableAt:=some availableAt,leaseUntil:=none,workerID:=""
  result:=none}

def requeue(p:Postgres)(jobID worker:String)(availableAt:Time):
 Except StoreError Unit×Postgres:=
 p.guarded jobID (fun r=>r.id==jobID&&(!isTerminalStatus r.status&&fenced worker r))
  (requeuedRow availableAt) (fun _=>rfl)

def renew(now:Time)(p:Postgres)(jobID worker:String)(lease:Int):
 Except StoreError Unit×Postgres:=
 let u:=p.update (fun r=>r.id==jobID&&(r.workerID==worker&&r.status==.running))
  (fun r=>{r with leaseUntil:=some (now+lease)}) (fun _=>rfl)
 (if u.1=0 then .error .conflict else .ok (),u.2)

/-- `status NOT IN (…)`, where parking is fenced against a parked row too. -/
def completes(worker:String)(status:JobStatus)(r:Row):Bool:=
 !isTerminalStatus r.status&&!(status==.awaiting&&r.status==.awaiting)&&fenced worker r

def completedRow(now:Time)(status:JobStatus)(result:Option Result)(r:Row):Row:=
 { r with
  status:=status,result:=result,leaseUntil:=none
  finishedAt:=if status=.awaiting then r.finishedAt else some now}

def complete(now:Time)(p:Postgres)(jobID worker:String)(status:JobStatus)
 (result:Option Result):Except StoreError Unit×Postgres:=
 if isTerminalStatus status=false∧status≠.awaiting then (.error .conflict,p)
 else
  p.guarded jobID (fun r=>r.id==jobID&&completes worker status r)
   (completedRow now status result) (fun _=>rfl)

/-- One statement. The run's status and the tail are read off the rows before it. -/
def completeAndEnqueue(now:Time)(p:Postgres)(jobID worker:String)(status:JobStatus)
 (result:Option Result)(deps:List JobRecord):Except StoreError Advance×Postgres:=
 if isTerminalStatus status=false∧status≠.awaiting then (.error .conflict,p)
 else
  match p.jobs.rows.find? (fun r=>r.id==jobID&&completes worker status r) with
  | none=>(.error (p.missOrConflict jobID),p)
  | some done=>
   let p':=(p.update (fun r=>r.id==jobID&&completes worker status r)
    (completedRow now status result) fun _=>rfl).2
   let run:=(p.jobs.find? done.graphRunID).map Row.status
   let ins:=if run.any isTerminalStatus then (0,p'.jobs)
    else p'.jobs.insertNew
     (stepRows now p.burstSpacing (p.tail done.tenant) JobRecord.tenant 0 deps)
   (.ok {runStatus:=run.getD .unset,enqueued:=ins.1},{p' with jobs:=ins.2})

def setGraphRunParked(p:Postgres)(graphRunID:String)(parked:Bool):
 Except StoreError Bool×Postgres:=
 let source:JobStatus:=if parked then .running else .awaiting
 let target:JobStatus:=if parked then .awaiting else .running
 let u:=p.update (fun r=>r.id==graphRunID&&(r.kind==.graph&&r.status==source))
  (fun r=>{r with status:=target}) (fun _=>rfl)
 (.ok (u.1==1),u.2)

def markGraphRunning(now:Time)(p:Postgres)(jobID:String):Except StoreError Bool×Postgres:=
 let u:=p.update (fun r=>r.id==jobID&&(r.kind==.graph&&r.status==.queued))
  (fun r=>{r with status:=.running,startedAt:=some (r.startedAt.getD now)}) (fun _=>rfl)
 (.ok (u.1==1),u.2)

end Postgres

inductive Statement
 | enqueue (rec:JobRecord)
 | enqueueNodes (recs:List JobRecord)
 | claim (worker:String)(lease:Int)
 | renew (jobID worker:String)(lease:Int)
 | requeue (jobID:String)(availableAt:Time)
 | requeueOwned (jobID worker:String)(availableAt:Time)
 | complete (jobID:String)(status:JobStatus)(result:Option Result)
 | completeOwned (jobID worker:String)(status:JobStatus)(result:Option Result)
 | completeAndEnqueue (jobID worker:String)(status:JobStatus)(result:Option Result)
  (deps:List JobRecord)
 | setGraphRunParked (graphRunID:String)(parked:Bool)
 | markGraphRunning (jobID:String)

@[reducible] def Statement.op:Statement→StoreOp
 | .enqueue rec=>.enqueue rec
 | .enqueueNodes recs=>.enqueueNodes recs
 | .claim worker lease=>.claim worker lease
 | .renew jobID worker lease=>.renew jobID worker lease
 | .requeue jobID availableAt=>.requeue jobID availableAt
 | .requeueOwned jobID worker availableAt=>.requeueOwned jobID worker availableAt
 | .complete jobID status result=>.complete jobID status result
 | .completeOwned jobID worker status result=>.completeOwned jobID worker status result
 | .completeAndEnqueue jobID worker status result deps=>
  .completeAndEnqueue jobID worker status result deps
 | .setGraphRunParked graphRunID parked=>.setGraphRunParked graphRunID parked
 | .markGraphRunning jobID=>.markGraphRunning jobID

def Postgres.exec(now:Time)(tie:Nat)(p:Postgres):
 (s:Statement)→Except StoreError s.op.Val×Postgres
 | .enqueue rec=>p.enqueue now rec
 | .enqueueNodes recs=>p.enqueueNodes now recs
 | .claim worker lease=>p.claim now tie worker lease
 | .renew jobID worker lease=>p.renew now jobID worker lease
 | .requeue jobID availableAt=>p.requeue jobID "" availableAt
 | .requeueOwned jobID worker availableAt=>p.requeue jobID worker availableAt
 | .complete jobID status result=>p.complete now jobID "" status result
 | .completeOwned jobID worker status result=>p.complete now jobID worker status result
 | .completeAndEnqueue jobID worker status result deps=>
  p.completeAndEnqueue now jobID worker status result deps
 | .setGraphRunParked graphRunID parked=>p.setGraphRunParked graphRunID parked
 | .markGraphRunning jobID=>p.markGraphRunning now jobID

end Dazyflow.PostgresJobs
