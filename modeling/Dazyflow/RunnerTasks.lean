import Dazyflow.GoStrings
import Dazyflow.KeyedTable
import Dazyflow.ProgramStages

/-!
# Runner tasks

A step that runs on a machine of the organisation's own queues a task, an agent there claims it and reports,
and the step polls for the outcome.
-/
namespace Dazyflow.RunnerTasks
open Interleaving Protocol KeyedTable GoStrings

abbrev Time:=Int

def second:Int:=1000000000

def runnerPickupGrace:Int:=30*second

def runnerDispatchGrace:Int:=30*second

def runnerOnlineCheckEvery:Int:=5*second

def runnerOnlineWindow:Int:=90*second

/-- The dispatcher's fields, where a grace of 0 stands for the default, and two functions of
 Go's library that only shape texts. -/
structure Config where
 runners:Bool:=true
 pickupGrace:Int:=0
 dispatchGrace:Int:=0
 toLower:String→String
 showDuration:Int→String

def Config.pickup(cfg:Config):Int:=if 0<cfg.pickupGrace then cfg.pickupGrace else runnerPickupGrace

def Config.dispatch(cfg:Config):Int:=if 0<cfg.dispatchGrace then cfg.dispatchGrace else runnerDispatchGrace

structure Runner where
 (tenant name:String)
 labels:List String:=[]
 lastSeen:Option Time:=none

def normalizeLabels(cfg:Config)(labels:List String):List String:=
 (((labels.map fun l=>cfg.toLower (trimSpace l)).filter (·≠"")).dedup).insertionSort (·≤·)

def Runner.tags(cfg:Config)(r:Runner):List String:=normalizeLabels cfg (r.labels++[r.name])

def Runner.online(r:Runner)(now:Time):Bool:=r.lastSeen.any (fun t=>now-t ≤ runnerOnlineWindow)

/-- Every tag, and no machine at all when there are none. -/
def Runner.hasTags(cfg:Config)(r:Runner)(want:List String):Bool:=
 want≠[]&&want.all (fun w=>w∈r.tags cfg)

inductive TaskState
 | queued
 | running
 | done
 | failed
 deriving DecidableEq

structure TaskResult where
 exitCode:Int:=0
 stdout:String:=""
 stderr:String:=""
 error:String:=""
 deriving DecidableEq

structure RunnerTask where
 (id tenant:String)
 tags:List String
 (script shell:String)
 env:List (String×String)
 stdin:String
 timeout:Int
 state:TaskState:=.queued
 claimedBy:String:=""
 progress:String:=""
 leaseUntil:Option Time:=none
 result:Option TaskResult:=none
 createdAt:Time
 finishedAt:Option Time:=none

def eligible(cfg:Config)(t:RunnerTask)(r:Runner):Bool:=t.tenant=r.tenant&&r.hasTags cfg t.tags

def heldBy(t:RunnerTask)(r:Runner):Bool:=
 t.tenant=r.tenant&&t.claimedBy=r.name&&t.state=.running

def abandoned(t:RunnerTask)(now:Time):Bool:=t.state=.running&&t.leaseUntil.any (fun u=>u<now)

def abandonedResult(runner:String):TaskResult:=
 {error:="the runner "++runner++" stopped responding while this step was running, so it was not finished" }

def cancelledResult(reason:String):TaskResult:=
 {error:="this step gave up before any runner ran it: "++reason}

abbrev Tasks:=Table String RunnerTask RunnerTask.id

inductive TaskError
 | notClaimable
 | notFound (id:String)
 deriving DecidableEq

def enqueue(s:Tasks)(t:RunnerTask):Tasks:=s.upsert t

/-- The tasks that may come first among those the runner may take; the order of equal
 creation times is the map's. -/
def heads(cfg:Config)(s:Tasks)(r:Runner):List RunnerTask:=
 let candidates:=s.rows.filter (fun t=>eligible cfg t r&&t.state=.queued)
 candidates.filter (fun t=>candidates.all fun c=>!decide (c.createdAt<t.createdAt))

def claimed(r:Runner)(now:Time)(lease:Int)(t:RunnerTask):RunnerTask:=
 {t with state:=.running,claimedBy:=r.name,leaseUntil:=some (now+lease)}

def claim(cfg:Config)(tie:Nat)(s:Tasks)(r:Runner)(now:Time)(lease:Int):Option RunnerTask×Tasks:=
 match (heads cfg s r)[tie % (heads cfg s r).length]? with
 | none=>(none,s)
 | some t=>(some (claimed r now lease t),s.modify t.id (claimed r now lease) fun _=>rfl)

def extended(untilTime:Option Time)(message:String)(t:RunnerTask):RunnerTask:=
 {t with leaseUntil:=untilTime,progress:=if message≠"" then message else t.progress}

/-- `Extend` and `Complete`: a change that only the holder may make. -/
def byHolder(s:Tasks)(r:Runner)(id:String)(f:RunnerTask→RunnerTask)(keep:∀ t,(f t).id=t.id):
 Except TaskError Unit×Tasks:=
 match s.find? id with
 | none=>(.error .notClaimable,s)
 | some t=>if heldBy t r then (.ok (),s.modify id f keep) else (.error .notClaimable,s)

def extend(s:Tasks)(r:Runner)(id:String)(untilTime:Option Time)(message:String):
 Except TaskError Unit×Tasks:=
 byHolder s r id (extended untilTime message) (fun _=>rfl)

def completed(res:TaskResult)(now:Time)(t:RunnerTask):RunnerTask:=
 { t with result:=some res,finishedAt:=some now,
          state:=if res.error≠""∨res.exitCode≠0 then .failed else .done}

def complete(s:Tasks)(r:Runner)(id:String)(res:TaskResult)(now:Time):Except TaskError Unit×Tasks:=
 byHolder s r id (completed res now) (fun _=>rfl)

def failed(res:RunnerTask→TaskResult)(now:Time)(t:RunnerTask):RunnerTask:=
 {t with result:=some (res t),state:=.failed,finishedAt:=some now}

/-- `FailAbandoned` and `CancelQueued`: a task of the tenant fails if it meets the condition. -/
def failIf(s:Tasks)(tenant id:String)(cond:RunnerTask→Bool)(res:RunnerTask→TaskResult)(now:Time):
 Except TaskError Bool×Tasks:=
 match s.find? id with
 | none=>(.error (.notFound id),s)
 | some t=>
  if t.tenant≠tenant then (.error (.notFound id),s)
  else if cond t then (.ok true,s.modify id (failed res now) fun _=>rfl)
  else (.ok false,s)

def failAbandoned(s:Tasks)(tenant id:String)(now:Time):Except TaskError Bool×Tasks:=
 failIf s tenant id (fun t=>abandoned t now) (fun t=>abandonedResult t.claimedBy) now

def cancelQueued(s:Tasks)(tenant id:String)(res:TaskResult)(now:Time):Except TaskError Bool×Tasks:=
 failIf s tenant id (fun t=>t.state=.queued) (fun _=>res) now

def get(s:Tasks)(tenant id:String):Except TaskError RunnerTask:=
 match s.find? id with
 | none=>.error (.notFound id)
 | some t=>if t.tenant≠tenant then .error (.notFound id) else .ok t

structure DispatchRequest where
 tenant:String
 tags:List String
 script:String:=""
 shell:String:=""
 env:List (String×String):=[]
 stdin:String:=""
 timeout:Int:=0

/-- How a dispatch fails. The last component of `offline` and `notPickedUp` is the error of
 a task that could not be closed. -/
inductive DispatchError
 | noTags
 | noTarget (message:String)
 | context (message:String)
 | unreadable (e:TaskError)
 | silent
 | unfailed (e:TaskError)
 | stoppedResponding (runner:String)
 | offline (reason:String)(unclosed:Option TaskError)
 | notPickedUp (reason:String)(unclosed:Option TaskError)
 | unfinished (runner:String)(timeout:Int)
 deriving DecidableEq

abbrev Outcome:=Except DispatchError TaskResult

def tagList(tags:List String):String:=if tags=[] then "(none)" else " + ".intercalate tags

def runnerNames(rs:List Runner):String:=if rs=[] then "none" else ", ".intercalate (rs.map Runner.name)

structure Wait where
 req:DispatchRequest
 id:String
 deadline:Option Time
 queuedSince:Time
 lastOnlineCheck:Option Time:=none

/-- `done` is the error of a context that has ended; `reply` is a dispatch returning. -/
inductive Call
 | now
 | newID
 | done
 | listRunners (tenant:String)
 | enqueue (t:RunnerTask)
 | claim (r:Runner)(now:Time)(lease:Int)
 | extend (r:Runner)(id:String)(untilTime:Option Time)(message:String)
 | complete (r:Runner)(id:String)(res:TaskResult)(now:Time)
 | failAbandoned (tenant id:String)(now:Time)
 | cancelQueued (tenant id:String)(res:TaskResult)(now:Time)
 | get (tenant id:String)
 | reply (o:Outcome)

@[reducible] def Res:Call→Type
 | .now=>Time
 | .newID=>String
 | .done=>Option String
 | .listRunners _=>Except String (List Runner)
 | .enqueue _=>Unit
 | .claim _ _ _=>Option RunnerTask
 | .extend _ _ _ _=>Except TaskError Unit
 | .complete _ _ _ _=>Except TaskError Unit
 | .failAbandoned _ _ _=>Except TaskError Bool
 | .cancelQueued _ _ _ _=>Except TaskError Bool
 | .get _ _=>Except TaskError RunnerTask
 | .reply _=>Unit

@[reducible] def sig:Sig where
 Call:=Call
 Res:=Res
 Fn:=Wait
 Ret _:=Outcome

abbrev Program:=Prog sig

def ask(c:Call):Program (Res c):=Prog.ask (S:=sig) c

def again(w:Wait):Program Outcome:=Prog.enter (S:=sig) w

structure Oracle where
 time:Time:=0
 id:String:=""
 done:Option String:=none
 runners:Except String (List Runner):=.ok []
 tie:Nat:=0

def step(cfg:Config):(c:Call)→Oracle→Tasks→Res c×Tasks
 | .now,o,s=>(o.time,s)
 | .newID,o,s=>(o.id,s)
 | .done,o,s=>(o.done,s)
 | .listRunners _,o,s=>(o.runners,s)
 | .enqueue t,_,s=>((),RunnerTasks.enqueue s t)
 | .claim r now lease,o,s=>RunnerTasks.claim cfg o.tie s r now lease
 | .extend r id untilTime message,_,s=>RunnerTasks.extend s r id untilTime message
 | .complete r id res now,_,s=>RunnerTasks.complete s r id res now
 | .failAbandoned tenant id now,_,s=>RunnerTasks.failAbandoned s tenant id now
 | .cancelQueued tenant id res now,_,s=>RunnerTasks.cancelQueued s tenant id res now
 | .get tenant id,_,s=>(RunnerTasks.get s tenant id,s)
 | .reply _,_,s=>((),s)

def eligibleRunners(cfg:Config)(req:DispatchRequest):Program (Except String (List Runner)):=do
 match←ask (.listRunners req.tenant) with
 | .error e=>return .error e
 | .ok rs=>return .ok (rs.filter fun r=>r.hasTags cfg req.tags)

def unmatchedTags(cfg:Config)(req:DispatchRequest):Program (Except String (List String)):=do
 match←ask (.listRunners req.tenant) with
 | .error e=>return .error e
 | .ok rs=>return .ok (req.tags.filter fun t=>t∉rs.flatMap (Runner.tags cfg))

def checkTargetExists(cfg:Config)(req:DispatchRequest):Program (Option String):=do
 if cfg.runners then
  match←eligibleRunners cfg req with
  | .error e=>return some ("look up your runners: "++e)
  | .ok (_::_)=>return none
  | .ok []=>
   let split:="no single machine carries all of "++tagList req.tags ++
    " — each tag exists, but no machine has the whole set"
   match←unmatchedTags cfg req with
   | .ok (t::missing)=>return some ("no machine carries the tag "++tagList (t::missing))
   | _=>return some split
 else return none

def checkTargetOnline(cfg:Config)(req:DispatchRequest)(now:Time):Program (Option String):=do
 if cfg.runners then
  match←eligibleRunners cfg req with
  | .error _=>return none
  | .ok rs=>
   if rs.any (fun r=>r.online now) then return none
   else return some ("no machine tagged "++tagList req.tags++" has checked in recently ("++runnerNames rs ++
    ") — the agent is not running there")
 else return none

def pastDeadline(cfg:Config)(w:Wait)(cur:RunnerTask)(now:Time):Program Outcome:=do
 if w.deadline.any (fun d=>d<now) then
  if cur.state=.queued then
   let reason:="no machine tagged "++tagList w.req.tags++" picked this step up within " ++
    cfg.showDuration w.req.timeout
   match←ask (.cancelQueued w.req.tenant w.id (cancelledResult reason) now) with
   | .error e=>return .error (.notPickedUp reason (some e))
   | .ok false=>again w
   | .ok true=>return .error (.notPickedUp reason none)
  else return .error (.unfinished cur.claimedBy w.req.timeout)
 else again w

def Wait.checkDue(cfg:Config)(w:Wait)(now:Time):Bool:=
 cfg.pickup<now-w.queuedSince &&
  w.lastOnlineCheck.all (fun last=>min runnerOnlineCheckEvery cfg.pickup ≤ now-last)

def inspect(cfg:Config)(w:Wait)(cur:RunnerTask)(now:Time):Program Outcome:=
 match cur.state with
 | .done | .failed=>
  match cur.result with
  | none=>return .error .silent
  | some res=>return .ok res
 | .running=>do
  if abandoned cur now then
   match←ask (.failAbandoned w.req.tenant w.id now) with
   | .error e=>return .error (.unfailed e)
   | .ok false=>again w
   | .ok true=>return .error (.stoppedResponding cur.claimedBy)
  else pastDeadline cfg w cur now
 | .queued=>do
  if w.checkDue cfg now then
   match←checkTargetOnline cfg w.req now with
   | none=>pastDeadline cfg {w with lastOnlineCheck:=some now} cur now
   | some reason=>
    match←ask (.cancelQueued w.req.tenant w.id (cancelledResult reason) now) with
    | .error e=>return .error (.offline reason (some e))
    | .ok false=>again {w with lastOnlineCheck:=some now}
    | .ok true=>return .error (.offline reason none)
  else pastDeadline cfg w cur now

def poll(cfg:Config)(w:Wait):Program Outcome:=do
 match←ask .done with
 | some err=>
  let now←ask .now
  let _←ask (.cancelQueued w.req.tenant w.id (cancelledResult "the run was cancelled") now)
  return .error (.context err)
 | none=>
  let now←ask .now
  match←ask (.get w.req.tenant w.id) with
  | .error e=>return .error (.unreadable e)
  | .ok cur=>inspect cfg w cur now

def deadlineOf(cfg:Config)(req:DispatchRequest):Program (Option Time):=do
 if 0<req.timeout then
  let now←ask .now
  return some (now+(req.timeout+cfg.dispatch))
 else return none

def newTask(req:DispatchRequest)(id:String)(createdAt:Time):RunnerTask:=
 { id:=id,tenant:=req.tenant,tags:=req.tags,script:=req.script,shell:=req.shell,env:=req.env,
   stdin:=req.stdin,timeout:=req.timeout,createdAt:=createdAt}

def dispatch(cfg:Config)(req:DispatchRequest):Program Outcome:=do
 if req.tags=[] then return .error .noTags
 else
  match←checkTargetExists cfg req with
  | some message=>return .error (.noTarget message)
  | none=>
   let id←ask .newID
   let createdAt←ask .now
   ask (.enqueue (newTask req id createdAt))
   let deadline←deadlineOf cfg req
   let queuedSince←ask .now
   again {req:=req,id:=id,deadline:=deadline,queuedSince:=queuedSince}

inductive Entry
 | dispatch (req:DispatchRequest)
 | claim (r:Runner)(now:Time)(lease:Int)
 | extend (r:Runner)(id:String)(untilTime:Option Time)(message:String)
 | complete (r:Runner)(id:String)(res:TaskResult)(now:Time)
 | failAbandoned (tenant id:String)(now:Time)
 | cancelQueued (tenant id:String)(res:TaskResult)(now:Time)

def entry(cfg:Config):Entry→Program Unit
 | .dispatch req=>do
  let o←dispatch cfg req
  ask (.reply o)
 | .claim r now lease=>do
  let _←ask (.claim r now lease)
 | .extend r id untilTime message=>do
  let _←ask (.extend r id untilTime message)
 | .complete r id res now=>do
  let _←ask (.complete r id res now)
 | .failAbandoned tenant id now=>do
  let _←ask (.failAbandoned tenant id now)
 | .cancelQueued tenant id res now=>do
  let _←ask (.cancelQueued tenant id res now)

@[reducible] def machine(cfg:Config):Machine sig where
 State:=Tasks
 Oracle:=Oracle
 step:=step cfg
 body:=poll cfg
 Entry:=Entry
 entry:=entry cfg

def DispatchError.unpicked:DispatchError→Bool
 | .offline _ _=>true
 | .notPickedUp _ _=>true
 | _=>false

def TaskState.terminal:TaskState→Bool
 | .done=>true
 | .failed=>true
 | _=>false

/-- What a dispatch has done so far: the id it chose, whether the task is queued, the task it
 last read, the answer of its last attempt to close the task, and what it returned. -/
structure Waiting where
 req:DispatchRequest
 id:Option String:=none
 queued:Bool:=false
 seen:Option RunnerTask:=none
 closing:Option (Except TaskError Bool):=none
 outcome:Option Outcome:=none

/-- What the dispatch must have seen to return this. -/
def Waiting.Justifies(w:Waiting):Outcome→Prop
 | .ok res=>∃ t,w.seen=some t∧t.state.terminal∧t.result=some res
 | .error e=>e.unpicked→∃ r,w.closing=some r∧r≠.ok false

structure Waiting.On(w:Waiting)(tenant id:String):Prop where
 tenant:w.req.tenant=tenant
 id:w.id=some id
 queued:w.queued
 waiting:w.outcome=none

inductive Stage
 | dispatching (w:Waiting)
 | claiming (r:Runner)
 | received (r:Runner)(t:RunnerTask)
 | other

def Stage.first:Entry→Stage
 | .dispatch req=>.dispatching {req:=req}
 | .claim r _ _=>.claiming r
 | _=>.other

def Stage.next:Stage→(c:Call)→Res c→Stage
 | .dispatching w,.newID,id=>.dispatching {w with id:=some id}
 | .dispatching w,.enqueue _,_=>.dispatching {w with queued:=true}
 | .dispatching w,.get _ _,.ok t=>.dispatching {w with seen:=some t}
 | .dispatching w,.cancelQueued _ _ _ _,r=>.dispatching {w with closing:=some r}
 | .dispatching w,.reply o,_=>.dispatching {w with outcome:=some o}
 | .claiming r,.claim _ _ _,some t=>.received r t
 | n,_,_=>n

def Stage.allows:Stage→Call→Prop
 | .dispatching _,.now=>True
 | .dispatching _,.done=>True
 | .dispatching _,.listRunners _=>True
 | .dispatching w,.newID=>w.id=none
 | .dispatching w,.enqueue t=>
  w.id=some t.id∧w.queued=false∧t.tenant=w.req.tenant∧t.state=.queued∧t.result=none
 | .dispatching w,.failAbandoned tenant id _=>w.On tenant id
 | .dispatching w,.cancelQueued tenant id _ _=>w.On tenant id
 | .dispatching w,.get tenant id=>w.On tenant id
 | .dispatching w,.reply o=>w.Justifies o
 | .claiming r,.claim r' _ _=>r'=r
 | .other,.extend _ _ _ _=>True
 | .other,.complete _ _ _ _=>True
 | .other,.failAbandoned _ _ _=>True
 | .other,.cancelQueued _ _ _ _=>True
 | _,_=>False

@[reducible] def stages(cfg:Config):Protocol (machine cfg) where
 Stage:=Stage
 first:=Stage.first
 next:=Stage.next
 allowed:=Stage.allows
 pre f n:=∃ w,n=.dispatching w∧w.On f.req.tenant f.id
 post _ _ o n':=∃ w,n'=.dispatching w∧w.Justifies o

section Follows

variable {cfg:Config}{w:Waiting}

abbrev Returns(o:Outcome)(n:Stage):Prop:=∃ w,n=.dispatching w∧w.Justifies o

lemma obeys_return{o}(h:w.Justifies o):
 (stages cfg).Obeys (Prog.done o) (.dispatching w) Returns:=
 obeys_done ⟨w,rfl,h⟩
lemma obeys_fail{e}(he:e.unpicked=false):
 (stages cfg).Obeys (Prog.done (.error e)) (.dispatching w) Returns:=
 obeys_return fun h=>absurd h (by simp[he])

variable {f:Wait}{now:Time}

lemma obeys_again(h:w.On f.req.tenant f.id):
 (stages cfg).Obeys (again f) (.dispatching w) Returns:=
 obeys_enter ⟨w,rfl,h⟩ (fun _ _ hp=>hp)
lemma obeys_runners(req):
 (stages cfg).Obeys (eligibleRunners cfg req) (.dispatching w) (fun _ n=>n=.dispatching w)∧
  (stages cfg).Obeys (unmatchedTags cfg req) (.dispatching w) (fun _ n=>n=.dispatching w):=by
 constructor<;>exact obeys_call trivial fun
  | .error e=>obeys_done rfl
  | .ok rs=>obeys_done rfl
lemma obeys_checkTargetExists(req):
 (stages cfg).Obeys (checkTargetExists cfg req) (.dispatching w) (fun _ n=>n=.dispatching w):=by
 unfold checkTargetExists
 split
 ·refine obeys_then (obeys_runners req).1 fun
   | .error e=>obeys_done rfl
   | .ok (_::_)=>obeys_done rfl
   | .ok []=>?_
  exact obeys_then (obeys_runners req).2 fun
   | .error e=>obeys_done rfl
   | .ok []=>obeys_done rfl
   | .ok (_::_)=>obeys_done rfl
 ·exact obeys_done rfl
lemma obeys_checkTargetOnline(req now):
 (stages cfg).Obeys (checkTargetOnline cfg req now) (.dispatching w) (fun _ n=>n=.dispatching w):=by
 unfold checkTargetOnline
 split
 ·exact obeys_then (obeys_runners req).1 fun
   | .error e=>obeys_done rfl
   | .ok rs=>obeys_if (fun _=>obeys_done rfl) fun _=>obeys_done rfl
 ·exact obeys_done rfl
lemma obeys_close(f'){res:TaskResult}{e:Option TaskError→DispatchError}
 {k:Except TaskError Bool→Program Outcome}(h:w.On f.req.tenant f.id)(h':w.On f'.req.tenant f'.id)
 (herr:∀ x,k (.error x)=.done (.error (e (some x))))(hno:k (.ok false)=again f')
 (hyes:k (.ok true)=.done (.error (e none))):
 (stages cfg).Obeys (ask (.cancelQueued f.req.tenant f.id res now)>>=k) (.dispatching w) Returns:=by
 refine obeys_call h fun r=>?_
 change (stages cfg).Obeys (k r) (.dispatching {w with closing:=some r}) Returns
 cases r with
 | error x=>
  rw[herr]
  exact obeys_return fun _=>⟨_,rfl,by simp⟩
 | ok b=>
  cases b with
  | false=>
   rw[hno]
   exact obeys_again ⟨h'.tenant,h'.id,h'.queued,h'.waiting⟩
  | true=>
   rw[hyes]
   exact obeys_return fun _=>⟨_,rfl,by simp⟩
lemma obeys_pastDeadline{cur:RunnerTask}(h:w.On f.req.tenant f.id):
 (stages cfg).Obeys (pastDeadline cfg f cur now) (.dispatching w) Returns:=by
 unfold pastDeadline
 split_ifs
 ·exact obeys_close _ (e:=.notPickedUp _) h h (fun _=>rfl) rfl rfl
 ·exact obeys_fail rfl
 ·exact obeys_again h
lemma obeys_inspect{cur:RunnerTask}(h:w.On f.req.tenant f.id)
 (hseen:w.seen=some cur):(stages cfg).Obeys (inspect cfg f cur now) (.dispatching w) Returns:=by
 have hsettled:cur.state.terminal→(stages cfg).Obeys (match cur.result with
  | none=>return .error .silent
  | some res=>return .ok res:Program Outcome) (.dispatching w) Returns:=by
  intro hterm
  cases hres:cur.result with
  | none=>exact obeys_fail rfl
  | some res=>exact obeys_return ⟨cur,hseen,hterm,hres⟩
 unfold inspect
 cases hst:cur.state with
 | done | failed=>exact hsettled (by rw[hst]; rfl)
 | running=>
  refine obeys_if (fun _=>?_) fun _=>obeys_pastDeadline h
  exact obeys_call h fun
   | .error e=>obeys_fail rfl
   | .ok false=>obeys_again h
   | .ok true=>obeys_fail rfl
 | queued=>
  refine obeys_if (fun _=>?_) fun _=>obeys_pastDeadline h
  exact obeys_then (obeys_checkTargetOnline f.req now) fun
   | none=>obeys_pastDeadline h
   | some reason=>
    obeys_close {f with lastOnlineCheck:=some now} (e:=.offline reason) h h (fun _=>rfl) rfl rfl
lemma obeys_poll(h:w.On f.req.tenant f.id):
 (stages cfg).Obeys (poll cfg f) (.dispatching w) Returns:=by
 refine obeys_call trivial fun r=>?_
 cases r with
 | some err=>
  refine obeys_call trivial fun now=>?_
  refine obeys_call h fun r=>?_
  exact obeys_fail rfl
 | none=>
  refine obeys_call trivial fun now=>?_
  exact obeys_call h fun
   | .error e=>obeys_fail rfl
   | .ok cur=>obeys_inspect ⟨h.tenant,h.id,h.queued,h.waiting⟩ rfl
lemma obeys_dispatch(req):
 (stages cfg).Obeys (dispatch cfg req) (.dispatching {req:=req}) Returns:=by
 refine obeys_if (fun _=>obeys_fail rfl) fun _=>obeys_then (obeys_checkTargetExists req) fun
  | some message=>obeys_fail rfl
  | none=>?_
 refine obeys_call rfl fun id=>?_
 refine obeys_call trivial fun createdAt=>?_
 refine obeys_call ⟨rfl,rfl,rfl,rfl,rfl⟩ fun _=>?_
 have hrest:∀ deadline,(stages cfg).Obeys (do
  let queuedSince←ask .now
  again {req:=req,id:=id,deadline:=deadline,queuedSince:=queuedSince})
  (.dispatching {req:=req,id:=some id,queued:=true}) Returns:=by
  intro deadline
  exact obeys_call trivial fun queuedSince=>obeys_again ⟨rfl,rfl,rfl,rfl⟩
 refine obeys_then (p:=deadlineOf cfg req) ?_ hrest
 exact obeys_if (fun _=>obeys_call trivial fun now=>obeys_done rfl) fun _=>obeys_done rfl
lemma follows(cfg):(stages cfg).Follows (fun _=>True) where
 entries e:=by
  cases e with
  | dispatch req=>
   refine obeys_bind (obeys_dispatch req) fun o n hn=>?_
   obtain ⟨w,rfl,hj⟩:=hn
   exact obeys_end hj
  | claim r now lease=>exact obeys_end rfl
  | extend | complete | failAbandoned | cancelQueued=>exact obeys_end trivial
 bodies f n hn:=by
  obtain ⟨w,rfl,h⟩:=hn
  exact obeys_poll h

end Follows

end Dazyflow.RunnerTasks
