import Dazyflow.JobRecords
import Dazyflow.KeyedTable

/-!
# The in-memory job store

Each operation of `jobstore.Memory` under its lock, as a function of the clock reading `now` and of the store
before the call.
-/
namespace Dazyflow.MemoryStore
open JobRecords KeyedTable

structure Memory where
 records:Table String JobRecord JobRecord.id:=empty
 slots:List (String×Time):=[]
 maxConcurrent:Int:=0
 burstSpacing:Int:=100000000
 notified:List String:=[]
 notifyAttempts:List (String×Nat):=[]

namespace Memory

def get(m:Memory)(id:String):Option JobRecord:=m.records.find? id

/-- Writes through the pointer the record map holds. -/
def update(m:Memory)(id:String)(f:JobRecord→JobRecord)(keep:∀ r,(f r).id=r.id):
 Memory:=
 {m with records:=m.records.modify id f keep}

def stamp(now:Time)(rec:JobRecord):JobRecord:=
 let enqueuedAt:=if rec.enqueuedAt=0 then now else rec.enqueuedAt
 let kind:=if rec.kind=.unset then .graph else rec.kind
 let status:=if rec.status=.unset then .queued else rec.status
 let starts:=isTerminalStatus status||status==.running
 { rec with
  enqueuedAt:=enqueuedAt
  kind:=kind
  status:=status
  startedAt:=if starts&&rec.startedAt.isNone then some now else rec.startedAt
  finishedAt:=if isTerminalStatus status&&rec.finishedAt.isNone then some now
   else rec.finishedAt
  attempt:=0}

def tailSlot(m:Memory)(tenant:String):Time:=
 m.records.rows.foldl
  (fun tail r=>
   if r.kind=.node∧r.status=.queued∧r.tenant=tenant then
    max tail ((m.slots.lookup r.id).getD 0)
   else tail) 0

/-- A burst of one tenant's steps is spread over later slots. -/
def slotFor(m:Memory)(rec:JobRecord):Time:=
 if rec.kind=.node∧rec.status=.queued∧0 < m.burstSpacing then
  let tail:=m.tailSlot rec.tenant
  if tail≠0∧rec.enqueuedAt<tail+m.burstSpacing then tail+m.burstSpacing
  else rec.enqueuedAt
 else rec.enqueuedAt

def enqueueLocked(now:Time)(m:Memory)(rec:JobRecord):Except StoreError Unit×Memory:=
 match h:m.records.find? rec.id with
 | some _=>(.error .conflict,m)
 | none=>
  (.ok (),{ m with
   records:=m.records.insert (stamp now rec) h
   slots:=(rec.id,m.slotFor (stamp now rec))::m.slots})

/-- The first pass of `EnqueueNodes`: some id is taken, or occurs twice. -/
def batchClash(m:Memory):List JobRecord→List String→Bool
 | [],_=>false
 | r::rest,seen=>(m.get r.id).isSome||seen.contains r.id||batchClash m rest (r.id::seen)

def enqueueAll(now:Time)(m:Memory):List JobRecord→Except StoreError Unit×Memory
 | []=>(.ok (),m)
 | r::rest=>
  match (enqueueLocked now m r).1 with
  | .ok ()=>enqueueAll now (enqueueLocked now m r).2 rest
  | .error e=>(.error e,(enqueueLocked now m r).2)

def enqueueNodes(now:Time)(m:Memory)(recs:List JobRecord):Except StoreError Nat×Memory:=
 if recs=[] then (.ok 0,m)
 else if m.batchClash recs [] then (.error .conflict,m)
 else match enqueueAll now m recs with
  | (.ok (),m')=>(.ok recs.length,m')
  | (.error e,m')=>(.error e,m')

def runningFor(now:Time)(m:Memory)(tenant:String):Nat:=
 m.records.rows.countP (fun r=>r.kind==.node&&r.status==.running &&
  r.leaseUntil.any (fun t=>now<t)&&r.tenant==tenant)

def claimable(now:Time)(m:Memory)(r:JobRecord):Bool:=
 r.kind==.node&&!r.availableAt.any (fun t=>now<t) &&
  (r.status==.queued &&
   !(decide (0 < m.maxConcurrent)&&decide (m.maxConcurrent≤(m.runningFor now r.tenant:Int)))
   || r.status==.running&&r.leaseUntil.any fun t=>t<now)

def slotOf(m:Memory)(r:JobRecord):Time:=(m.slots.lookup r.id).getD r.enqueuedAt

def claimBefore(m:Memory)(a b:JobRecord):Bool:=
 if m.slotOf a≠m.slotOf b then m.slotOf a < m.slotOf b else a.enqueuedAt<b.enqueuedAt

/-- The candidates that may come first after the sort. -/
def heads(now:Time)(m:Memory):List JobRecord:=
 let candidates:=m.records.rows.filter (m.claimable now)
 candidates.filter (fun r=>candidates.all fun c=>!m.claimBefore c r)

def claimed(now:Time)(worker:String)(lease:Int)(r:JobRecord):JobRecord:=
 { r with
  status:=.running
  workerID:=worker
  attempt:=r.attempt+1
  startedAt:=some now
  leaseUntil:=some (now+lease)}

lemma claimed_id(now worker lease r):
 (claimed now worker lease r).id=r.id:=rfl

def claim(now:Time)(tie:Nat)(m:Memory)(worker:String)(lease:Int):
 Except StoreError JobRecord×Memory:=
 match (m.heads now)[tie % (m.heads now).length]? with
 | none=>(.error .noJobs,m)
 | some r=>(.ok (claimed now worker lease r),m.update r.id (claimed now worker lease) (claimed_id now worker lease))

def requeued(availableAt:Time)(r:JobRecord):JobRecord:=
 { r with
  status:=.queued
  availableAt:=some availableAt
  leaseUntil:=none
  workerID:=""
  result:=none}

lemma requeued_id(availableAt r):(requeued availableAt r).id=r.id:=rfl

/-- `Requeue` passes the empty worker and is not fenced; `RequeueOwned` is. -/
def requeue(m:Memory)(jobID worker:String)(availableAt:Time):
 Except StoreError Unit×Memory:=
 match m.get jobID with
 | none=>(.error .notFound,m)
 | some r=>
  if isTerminalStatus r.status then (.error .conflict,m)
  else if worker≠""∧r.workerID≠worker then (.error .conflict,m)
  else (.ok (),m.update jobID (requeued availableAt) (requeued_id availableAt))

def renewed(now:Time)(lease:Int)(r:JobRecord):JobRecord:=
 {r with leaseUntil:=some (now+lease)}

lemma renewed_id(now lease r):(renewed now lease r).id=r.id:=rfl

def renew(now:Time)(m:Memory)(jobID worker:String)(lease:Int):
 Except StoreError Unit×Memory:=
 match m.get jobID with
 | none=>(.error .notFound,m)
 | some r=>
  if r.workerID≠worker∨r.status≠.running then (.error .conflict,m)
  else (.ok (),m.update jobID (renewed now lease) (renewed_id now lease))

def completed(now:Time)(status:JobStatus)(result:Option Result)(r:JobRecord):JobRecord:=
 { r with
  status:=status
  result:=result
  leaseUntil:=none
  finishedAt:=if status≠.awaiting then some now else r.finishedAt}

lemma completed_id(now status result r):
 (completed now status result r).id=r.id:=rfl

@[simp] lemma completed_status(now status result)
 (r):(completed now status result r).status=status:=rfl

/-- `Complete` passes the empty worker and is not fenced; `CompleteOwned` is. -/
def completeLocked(now:Time)(m:Memory)(jobID worker:String)(status:JobStatus)
 (result:Option Result):Except StoreError Unit×Memory:=
 match m.get jobID with
 | none=>(.error .notFound,m)
 | some r=>
  if worker≠""∧r.workerID≠worker then (.error .conflict,m)
  else if isTerminalStatus status=false∧status≠.awaiting then (.error .conflict,m)
  else if isTerminalStatus r.status then (.error .conflict,m)
  else if status=.awaiting∧r.status=.awaiting then (.error .conflict,m)
  else (.ok (),m.update jobID (completed now status result) (completed_id now status result))

def dependent(d:JobRecord):JobRecord:={d with kind:=.node,status:=.queued}

def enqueueDependents(now:Time)(m:Memory):List JobRecord→Nat×Memory
 | []=>(0,m)
 | d::rest=>
  let tried:=enqueueLocked now m (dependent d)
  let others:=enqueueDependents now tried.2 rest
  (if tried.1.isOk then others.1+1 else others.1,others.2)

def runStatusOf(m:Memory)(jobID:String):JobStatus:=
 match m.get jobID with
 | none=>.unset
 | some r=>match m.get r.graphRunID with
  | none=>.unset
  | some run=>run.status

def completeAndEnqueue(now:Time)(m:Memory)(jobID worker:String)(status:JobStatus)
 (result:Option Result)(deps:List JobRecord):Except StoreError Advance×Memory:=
 match completeLocked now m jobID worker status result with
 | (.error e,m')=>(.error e,m')
 | (.ok (),m')=>
  if isTerminalStatus (m'.runStatusOf jobID) then (.ok {runStatus:=m'.runStatusOf jobID},m')
  else (.ok {runStatus:=m'.runStatusOf jobID,enqueued:=(enqueueDependents now m' deps).1},
   (enqueueDependents now m' deps).2)

def withStatus(status:JobStatus)(r:JobRecord):JobRecord:={r with status:=status}

lemma withStatus_id(status r):(withStatus status r).id=r.id:=rfl

def setGraphRunParked(m:Memory)(graphRunID:String)(parked:Bool):
 Except StoreError Bool×Memory:=
 match m.get graphRunID with
 | none=>(.error .notFound,m)
 | some r=>
  let source:JobStatus:=if parked then .running else .awaiting
  let target:JobStatus:=if parked then .awaiting else .running
  if r.kind≠.graph∨r.status≠source then (.ok false,m)
  else (.ok true,m.update graphRunID (withStatus target) (withStatus_id target))

def startRunning(now:Time)(r:JobRecord):JobRecord:=
 { r with
  status:=.running
  startedAt:=if r.startedAt.isNone then some now else r.startedAt}

lemma startRunning_id(now r):(startRunning now r).id=r.id:=rfl

def markGraphRunning(now:Time)(m:Memory)(jobID:String):Except StoreError Bool×Memory:=
 match m.get jobID with
 | none=>(.error .notFound,m)
 | some r=>
  if r.kind≠.graph∨r.status≠.queued then (.ok false,m)
  else (.ok true,m.update jobID (startRunning now) (startRunning_id now))

/-- Answers whether it started the run, and whether the tenant is at its cap. -/
def markGraphRunningCapped(now:Time)(m:Memory)(jobID tenant:String)(limit:Int):
 Except StoreError (Bool×Bool)×Memory:=
 match m.get jobID with
 | none=>(.error .notFound,m)
 | some r=>
  let running:=m.records.rows.countP
   fun o=>o.kind==.graph&&o.tenant==tenant&&o.status==.running
  if limit≤(running:Int) then (.ok (false,true),m)
  else if r.kind≠.graph∨r.status≠.queued then (.ok (false,false),m)
  else (.ok (true,false),m.update jobID (startRunning now) (startRunning_id now))

def outcomes(m:Memory)(jobIDs:List String):List (String×NodeOutcome):=
 jobIDs.filterMap (fun id=>(m.get id).map fun r=>(id,⟨r.status,r.result⟩))

def matchesNodeRecord(opts:ListNodeRecordsOpts)(r:JobRecord):Bool:=
 r.kind==.node&&(opts.tenant== ""||r.tenant==opts.tenant) &&
  (opts.workspace== ""||r.workspace==opts.workspace) &&
  (opts.status==.unset||r.status==opts.status) &&
  (opts.graphRunID== ""||r.graphRunID==opts.graphRunID) &&
  (opts.graphID== ""||r.graphID==opts.graphID) &&
  (opts.hasOutputPort== ""||r.result.any fun res=>(res.port opts.hasOutputPort).isSome)

def newerEnqueued(a b:JobRecord):Bool:=
 if a.enqueuedAt=b.enqueuedAt then b.id<a.id else b.enqueuedAt<a.enqueuedAt

def newerFinished(a b:JobRecord):Bool:=
 match a.finishedAt,b.finishedAt with
 | none,none=>b.id<a.id
 | none,some _=>false
 | some _,none=>true
 | some s,some t=>if s=t then b.id<a.id else t<s

/-- A page of a listing; a limit that is not positive means the default. -/
def page{α:Type}(offset limit preset:Int)(l:List α):List α:=
 (l.drop offset.toNat).take (if limit≤0 then preset else limit).toNat

def listNodeRecords(m:Memory)(opts:ListNodeRecordsOpts):List JobRecord:=
 let newer:=if opts.newestByFinished then newerFinished else newerEnqueued
 page opts.offset opts.limit 100
  ((m.records.rows.filter (matchesNodeRecord opts)).insertionSort fun a b=>newer b a=false)

def matchesGraphRun(opts:ListGraphRunsOpts)(r:JobRecord):Bool:=
 r.kind==.graph&&(opts.tenant== ""||r.tenant==opts.tenant) &&
  (opts.workspace== ""||r.workspace==opts.workspace) &&
  (opts.graphID== ""||r.graphID==opts.graphID) &&
  (opts.status==.unset||r.status==opts.status) &&
  (opts.since==0||decide (opts.since ≤ r.enqueuedAt)) &&
  (opts.before==0||decide (r.enqueuedAt<opts.before))

def graphRuns(m:Memory)(opts:ListGraphRunsOpts):List JobRecord:=
 (m.records.rows.filter (matchesGraphRun opts)).insertionSort (fun a b=>newerEnqueued b a=false)

def listGraphRuns(m:Memory)(opts:ListGraphRunsOpts):List JobRecord:=
 page opts.offset opts.limit 50 (m.graphRuns opts)

def listGraphRunsOldest(m:Memory)(opts:ListGraphRunsOpts):List JobRecord:=
 page opts.offset opts.limit 50 (m.graphRuns opts).reverse

/-- The finished, failed or cancelled runs nobody was told about, oldest finish first. -/
def unnotified(now:Time)(m:Memory)(lookback:Int)(maxAttempts limit:Int):List JobRecord:=
 let attempts:=if maxAttempts≤0 then 3 else maxAttempts
 let due:=m.records.rows.filter (fun r=>r.kind==.graph&&r.finishedAt.isSome &&
  (r.status==.failed||r.status==.cancelled)&&!m.notified.contains r.id &&
  decide ((((m.notifyAttempts.lookup r.id).getD 0:Nat):Int)<attempts) &&
  !r.finishedAt.any fun t=>t<now-lookback)
 (due.insertionSort fun a b=>a.finishedAt.getD 0 ≤ b.finishedAt.getD 0).take
  (if limit≤0 then 50 else limit).toNat

def claimUnnotified(now:Time)(m:Memory)(lookback maxAttempts limit:Int):
 List JobRecord×Memory:=
 let due:=m.unnotified now lookback maxAttempts limit
 (due,{ m with
  notified:=due.map JobRecord.id++m.notified
  notifyAttempts:=
   due.map (fun r=>(r.id,(m.notifyAttempts.lookup r.id).getD 0+1))++m.notifyAttempts})

def releaseNotifyClaim(m:Memory)(jobID:String):Memory:=
 {m with notified:=m.notified.filter fun id=>id != jobID}

def deleteByTenant(m:Memory)(tenant:String):Nat×Memory:=
 let gone:=m.records.rows.filter (fun r=>r.tenant==tenant)
 (gone.length,{ m with
  records:=⟨m.records.rows.filter fun r=>r.tenant != tenant,
   (List.filter_sublist.map JobRecord.id).nodup m.records.nodup⟩
  slots:=m.slots.filter fun s=>!(gone.map JobRecord.id).contains s.1})

end Memory
end Dazyflow.MemoryStore
