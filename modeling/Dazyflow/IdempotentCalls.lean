import Dazyflow.KeyedTable
import Dazyflow.ProgramStages

/-!
# Calls that carry an Idempotency-Key

`handleCall` and the in-memory `idempotencyStore`: the first request under a key reserves it, submits a run
and attaches it; a later one replays the stored answer, joins the run, or is refused.
-/
namespace Dazyflow.IdempotentCalls
open Interleaving KeyedTable

def idempotencyTTL:Nat:=24*60*60

def idempotencyKeyMax:Nat:=128

def idempotencyMaxCache:Nat:=10000

def callNodeRecordLimit:Nat:=1000

abbrev RunID:=Nat

/-- A call on a flow; `key` is the trimmed header, `wait` 0 for a caller that does not wait. -/
structure Request where
 (path secret key body:String)
 wait:Nat
 deriving DecidableEq

/-- What the handler reads of the published flow: its input steps are given by whether they
 are turned off, its reply steps by their status codes. -/
structure Flow where
 (tenant workspace id:String)
 secrets:List String
 (isPublic disabled:Bool)
 inputs:List Bool
 replies:List (String×Nat)
 deriving DecidableEq

inductive Body
 | pending (run:RunID)
 | settled (run:RunID)(succeeded:Bool)
 | reply (content:String)
 | error (message:String)
 deriving DecidableEq

/-- `replay` is the Idempotency-Replay header. -/
structure Response where
 status:Nat
 body:Body
 replay:Option Bool:=none
 deriving DecidableEq

def Body.runID:Body→Option RunID
 | .pending run=>some run
 | .settled run _=>some run
 | _=>none

/-- The hashed text stands for its digest; only POST gets this far. -/
def callRequestHash(q:Request):String:= "POST"++"\n"++q.path++"\n"++q.body

def cacheKey(g:Flow)(key:String):String:=
 "call|"++g.tenant++"/"++g.workspace++"/"++g.id++"|"++key

lemma callRequestHash_ne(q):callRequestHash q≠"":=by
 intro h
 have:=congrArg String.length h
 simp[callRequestHash] at this
lemma body_eq_of_hash{q q'}(hpath:q.path=q'.path)(h:callRequestHash q=callRequestHash q'):
 q.body=q'.body:=by
 simp only[callRequestHash,hpath] at h
 exact String.append_right_inj _ |>.1 h

/-- `idempotentResponse`; the zero value of `response` is a reservation's. -/
structure Entry where
 response:Option Response:=none
 storedAt:Nat
 reqHash:String:=""
 done:Bool:=false
 runID:Option RunID:=none

structure Cell where
 key:String
 entry:Entry

inductive Value
 | text (s:String)
 /-- What the encoder makes of it. -/
 | json (encoded:Option String)
 deriving DecidableEq

def Value.encode:Value→Option String
 | .text s=>some s
 | .json encoded=>encoded

structure NodeRecord where
 nodeID:String
 succeeded:Bool
 output:Option Value
 deriving DecidableEq

structure Run where
 claim:Option String
 request:Request
 records:List NodeRecord:=[]
 finished:Option Bool:=none
 deriving DecidableEq

abbrev Entries:=Table String (String×Nat) Prod.fst

structure State where
 entries:Entries:=empty
 order:List String:=[]
 cells:List Cell:=[]
 runs:List Run:=[]

def State.find(s:State)(key:String):Option Nat:=(s.entries.find? key).map Prod.snd

def State.entry(s:State)(object:Nat):Entry:=((s.cells[object]?).map Cell.entry).getD {storedAt:=0}

def evict:List String→Entries→List String×Entries
 | [],entries=>([],entries)
 | key::order,entries=>
  if entries.rows.length > idempotencyMaxCache then evict order (entries.erase fun e=>e.1=key)
  else (key::order,entries)

def State.evictLocked(s:State):State:=
 {s with order:=(evict s.order s.entries).1,entries:=(evict s.order s.entries).2}

def State.drop(s:State)(key:String):State:=
 {s with entries:=s.entries.erase (fun e=>e.1=key),order:=s.order.erase key}

def State.put(s:State)(key:String)(entry:Entry):State:=
 {s with cells:=s.cells++[⟨key,entry⟩],entries:=s.entries.upsert (key,s.cells.length)}

def State.reserve(s:State)(key reqHash:String)(now:Nat):State:=
 ({s with order:=s.order++[key]}.put key {storedAt:=now,reqHash:=reqHash}).evictLocked

/-- The store's `begin`: the entry that is there, or nothing and a reservation. -/
def State.start(s:State)(key reqHash:String)(now:Nat):Option Nat×State:=
 match s.find key with
 | some object=>
  if now-(s.entry object).storedAt ≤ idempotencyTTL then (some object,s)
  else (none,(s.drop key).reserve key reqHash now)
 | none=>(none,s.reserve key reqHash now)

def State.commit(s:State)(key:String)(response:Response)(now:Nat):State:=
 match s.find key with
 | some object=>
  (s.put key { response:=some response,storedAt:=now,reqHash:=(s.entry object).reqHash,done:=true
               runID:=(s.entry object).runID}).evictLocked
 | none=>
  ({s with order:=s.order++[key]}.put key {response:=some response,storedAt:=now,done:=true}).evictLocked

def State.attach(s:State)(key:String)(run:RunID):State:=
 match s.find key with
 | some object=>
  if (s.entry object).done then s
  else {s with cells:=s.cells.modify object fun c=>{c with entry:={c.entry with runID:=some run} }}
 | none=>s

def State.abort(s:State)(key:String):State:=
 match s.find key with
 | some object=>if (s.entry object).done then s else s.drop key
 | none=>s

def State.submit(s:State)(claim:Option String)(q:Request):State:=
 {s with runs:=s.runs++[{claim:=claim,request:=q}]}

def State.records(s:State)(run:RunID):List NodeRecord:=((s.runs[run]?).map Run.records).getD []

def State.report(s:State)(run:RunID)(rec:NodeRecord):State:=
 {s with runs:=s.runs.modify run fun r=>{r with records:=r.records++[rec]}}

def State.finish(s:State)(run:RunID)(succeeded:Bool):State:=
 {s with runs:=s.runs.modify run fun r=>{r with finished:=some succeeded}}

inductive Submitted
 | ok (run:RunID)
 | triggerLoop
 | failed (message:String)

inductive Wake
 | look
 | deadline
 | hungUp

inductive Call
 | loadPublished (path:String)
 | start (key reqHash:String)
 | look (object:Nat)
 | submit (claim:Option String) (q:Request)
 | attach (key:String) (run:RunID)
 | commit (key:String) (response:Response)
 | abort (key:String)
 | listNodeRecords (run:RunID)
 | getRun (run:RunID)
 | wake
 | respond (response:Option Response)
 | serve
 | report (run:RunID) (rec:NodeRecord)
 | finish (run:RunID) (succeeded:Bool)

@[reducible] def Res:Call→Type
 | .loadPublished _=>Option Flow
 | .start _ _=>Option Nat
 | .look _=>Entry
 | .submit _ _=>Submitted
 | .listNodeRecords _=>Option (List NodeRecord)
 | .getRun _=>Option (Option Bool)
 | .wake=>Wake
 | .attach _ _=>Unit
 | .commit _ _=>Unit
 | .abort _=>Unit
 | .respond _=>Unit
 | .serve=>Response
 | .report _ _=>Unit
 | .finish _ _=>Unit

inductive Fn
 | awaitReply (replies:List (String×Nat))(run:RunID)

@[reducible] def sig:Sig where
 Call:=Call
 Res:=Res
 Fn:=Fn
 Ret _:=Option Response

abbrev ask(c:Call):Prog sig (Res c):=Prog.ask (S:=sig) c

/-- What the calls leave open: the flow that is loaded, the clock, whether and how a
 submission is refused and whether a refused one created a run all the same, failing
 reads, what ends a wait, and what the gateway's handlers answer. -/
structure Oracle where
 flow:Option Flow:=none
 now:Nat:=0
 refusal:Option Submitted:=none
 applied:Bool:=false
 fails:Bool:=false
 wake:Wake:=.look
 served:Response:=⟨200,.reply "",none⟩

def step:(c:Call)→Oracle→State→Res c×State
 | .loadPublished _,o,s=>(o.flow,s)
 | .start key reqHash,o,s=>s.start key reqHash o.now
 | .look object,_,s=>(s.entry object,s)
 | .submit claim q,o,s=>
  match o.refusal with
  | some .triggerLoop=>(.triggerLoop,if o.applied then s.submit claim q else s)
  | some (.failed message)=>(.failed message,if o.applied then s.submit claim q else s)
  | _=>(.ok s.runs.length,s.submit claim q)
 | .attach key run,_,s=>((),s.attach key run)
 | .commit key response,o,s=>((),s.commit key response o.now)
 | .abort key,_,s=>((),s.abort key)
 | .listNodeRecords run,o,s=>(if o.fails then none else some ((s.records run).take callNodeRecordLimit),s)
 | .getRun run,o,s=>(if o.fails then none else (s.runs[run]?).map Run.finished,s)
 | .wake,o,s=>(o.wake,s)
 | .respond _,_,s=>((),s)
 | .serve,o,s=>(o.served,s)
 | .report run rec,_,s=>((),s.report run rec)
 | .finish run succeeded,_,s=>((),s.finish run succeeded)

def unauthorized:Response:=⟨401,.error "unknown endpoint or invalid secret",none⟩

def flowDisabled:Response:=
 ⟨403,.error "\x7b\"error\":\x7b\"code\":\"flow_disabled\",\"message\":\"flow is currently disabled — re-enable via enable_flow\"\x7d\x7d",none⟩

def keyTooLong:Response:=⟨400,.error "Idempotency-Key must be <= 128 chars",none⟩

def keyReused:Response:=
 ⟨422,.error "this Idempotency-Key was already used with a different request body",some false⟩

def keyInProgress:Response:=
 ⟨409,.error "a call with this Idempotency-Key is already being processed; retry shortly",some false⟩

def triggerDisabled:Response:=
 ⟨403,.error "\x7b\"error\":\x7b\"code\":\"trigger_disabled\",\"message\":\"this flow's Request step is turned off — re-enable the step to accept calls\"\x7d\x7d",none⟩

def triggerLoop:Response:=
 ⟨429,.error "\x7b\"error\":\x7b\"code\":\"trigger_loop\",\"message\":\"this call came from a run this flow started — the chain is too deep, so a flow is calling itself\"\x7d\x7d",none⟩

def submitFailed(message:String):Response:=⟨500,.error ("submit: "++message),none⟩

def unencodable:Response:=⟨500,.error "reply value could not be encoded",none⟩

def writeCallPending(run:RunID):Response:=⟨202,.pending run,none⟩

def writeReply(status:Nat)(v:Value):Response:=
 match v.encode with
 | some content=>⟨status,.reply content,none⟩
 | none=>unencodable

def Response.replayed(r:Response):Response:={r with replay:=some true}

def admitted(g:Flow)(q:Request):Bool:=
 if g.secrets≠[] then g.secrets.contains q.secret else g.isPublic

def triggersOff(g:Flow):Bool:=g.inputs≠[]&&g.inputs.all id

def replyIn(replies:List (String×Nat))(recs:List NodeRecord):Option Response:=
 recs.findSome? (fun rec=>
  match replies.lookup rec.nodeID with
  | some status=>if rec.succeeded then rec.output.map (writeReply status) else none
  | none=>none)

def settled(run:RunID):Option (Option Bool)→Option Response
 | some (some true)=>some ⟨200,.settled run true,none⟩
 | some (some false)=>some ⟨502,.settled run false,none⟩
 | _=>none

def checkRun(run:RunID):Prog sig (Option Response):=do
 let status←ask (.getRun run)
 pure (settled run status)

def settleCall(replies:List (String×Nat))(run:RunID):Prog sig (Option Response):=
 if replies=[] then checkRun run
 else do
  match←ask (.listNodeRecords run) with
  | none=>checkRun run
  | some recs=>
   match replyIn replies recs with
   | some response=>pure (some response)
   | none=>checkRun run

/-- An event that settles nothing only goes back to waiting. -/
def awaitReply(replies:List (String×Nat))(run:RunID):Prog sig (Option Response):=do
 match←settleCall replies run with
 | some response=>pure (some response)
 | none=>
  match←ask .wake with
  | .look=>Prog.enter (S:=sig) (.awaitReply replies run)
  | .deadline=>pure (some (writeCallPending run))
  | .hungUp=>pure none

structure Claim where
 key:String
 attached:Bool:=false
 resolved:Bool:=false

def attachClaim(run:RunID):Option Claim→Prog sig (Option Claim)
 | none=>pure none
 | some claim=>do
  let _←ask (.attach claim.key run)
  pure (some {claim with attached:=true})

def storable(response:Response):Bool:=response.status≠0&&response.status≠202

def commitClaim(response:Option Response):Option Claim→Prog sig (Option Claim)
 | none=>pure none
 | some claim=>
  match response with
  | none=>pure (some claim)
  | some r=>
   if storable r then do
    let _←ask (.commit claim.key r)
    pure (some {claim with resolved:=true})
   else pure (some claim)

def release:Option Claim→Prog sig Unit
 | none=>pure ()
 | some claim=>
  if claim.attached||claim.resolved then pure ()
  else do
   let _←ask (.abort claim.key)
   pure ()

def respond(response:Option Response):Prog sig Unit:=do
 let _←ask (.respond response)
 pure ()

inductive Claimed
 | handled
 | go (claim:Option Claim)

def replayCall(q:Request)(g:Flow)(existing:Entry):Prog sig Unit:=
 if existing.reqHash≠""∧existing.reqHash≠callRequestHash q then respond (some keyReused)
 else if existing.done then respond (existing.response.map Response.replayed)
 else
  match existing.runID with
  | none=>respond (some keyInProgress)
  | some run=>
   if q.wait=0 then respond (some (writeCallPending run).replayed)
   else do
    let response←Prog.enter (S:=sig) (.awaitReply g.replies run)
    respond (response.map Response.replayed)

def claimCall(q:Request)(g:Flow):Prog sig Claimed:=
 if q.key="" then pure (.go none)
 else if q.key.utf8ByteSize > idempotencyKeyMax then do
  respond (some keyTooLong)
  pure .handled
 else do
  match←ask (.start (cacheKey g q.key) (callRequestHash q)) with
  | none=>pure (.go (some {key:=cacheKey g q.key}))
  | some object=>
   let existing←ask (.look object)
   replayCall q g existing
   pure .handled

def answerCall(q:Request)(g:Flow)(run:RunID)(claim:Option Claim):Prog sig Unit:=
 if q.wait=0 then do
  respond (some (writeCallPending run))
  release claim
 else do
  let response←Prog.enter (S:=sig) (.awaitReply g.replies run)
  respond response
  let claim←commitClaim response claim
  release claim

def submitCall(q:Request)(g:Flow)(claim:Option Claim):Prog sig Unit:=
 if triggersOff g then do
  respond (some triggerDisabled)
  release claim
 else do
  match←ask (.submit (claim.map Claim.key) q) with
  | .triggerLoop=>
   respond (some triggerLoop)
   release claim
  | .failed message=>
   respond (some (submitFailed message))
   release claim
  | .ok run=>
   let claim←attachClaim run claim
   answerCall q g run claim

def handleCall(q:Request):Prog sig Unit:=do
 match←ask (.loadPublished q.path) with
 | none=>respond (some unauthorized)
 | some g=>
  if admitted g q=false then respond (some unauthorized)
  else if g.disabled then respond (some flowDisabled)
  else
   match←claimCall q g with
   | .handled=>pure ()
   | .go claim=>submitCall q g claim

def inFlight:Response:=
 ⟨409,.error "a request with this Idempotency-Key is already being processed; retry shortly",some false⟩

def replayRequest(reqHash:String)(existing:Entry):Option Response:=
 if existing.reqHash≠""∧existing.reqHash≠reqHash then some keyReused
 else if existing.done=false then some inFlight
 else existing.response.map Response.replayed

def succeeded(response:Response):Bool:=200 ≤ response.status&&response.status<300

/-- `idempotencyMiddleware`, which keeps the keys of the gateway's other requests in the
 same store. -/
def idempotencyMiddleware(key reqHash:String):Prog sig Unit:=do
 match←ask (.start key reqHash) with
 | some object=>
  let existing←ask (.look object)
  respond (replayRequest reqHash existing)
 | none=>
  let response←ask .serve
  if succeeded response then
   let _←ask (.commit key response)
   pure ()
  else
   let _←ask (.abort key)
   pure ()

inductive Launch
 | call (q:Request)
 | gateway (key reqHash:String)
 | report (run:RunID)(rec:NodeRecord)
 | finish (run:RunID)(succeeded:Bool)

def Launch.gatewayKey:Launch→Option String
 | .gateway key _=>some key
 | _=>none

@[reducible] def machine:Machine sig where
 State:=State
 Oracle:=Oracle
 step:=step
 body
  | .awaitReply replies run=>awaitReply replies run
 Entry:=Launch
 entry
  | .call q=>handleCall q
  | .gateway key reqHash=>idempotencyMiddleware key reqHash
  | .report run rec=>do
   let _←ask (.report run rec)
   pure ()
  | .finish run succeeded=>do
   let _←ask (.finish run succeeded)
   pure ()

/-- A request, its key in the store if it carries one, and whether it reserved it. -/
structure Ticket where
 q:Request
 key:Option String:=none
 holder:Bool:=false
 deriving DecidableEq

def Ticket.claim(t:Ticket):Option String:=if t.holder then t.key else none

def Ticket.relay(t:Ticket)(response:Response):Response:=
 if t.key.isSome&&!t.holder then response.replayed else response

inductive Stage
 | arriving (q:Request)
 | claiming (t:Ticket)(g:Flow)
 | meeting (t:Ticket)(g:Flow)(object:Nat)
 | submitting (t:Ticket)(g:Flow)
 | attaching (t:Ticket)(g:Flow)(run:RunID)
 | listing (t:Ticket)(g:Flow)(run:RunID)
 | checking (t:Ticket)(g:Flow)(run:RunID)
 | waiting (t:Ticket)(g:Flow)(run:RunID)
 | answering (t:Ticket) (ran:Bool) (response:Option Response)
 | releasing (t:Ticket) (response:Option Response)
 | committing (t:Ticket) (response:Response)
 | closed (t:Ticket) (response:Option Response)
 | gate (key reqHash:String)
 | gateMeets (key reqHash:String) (object:Nat)
 | gateAnswers (key:String) (response:Option Response)
 | gateServes (key:String)
 | gateCommits (key:String) (response:Response)
 | gateAborts (key:String)
 | reporting (run:RunID) (rec:NodeRecord)
 | finishing (run:RunID) (succeeded:Bool)
 | ended
 deriving DecidableEq

def Stage.first:Launch→Stage
 | .call q=>.arriving q
 | .gateway key reqHash=>.gate key reqHash
 | .report run rec=>.reporting run rec
 | .finish run succeeded=>.finishing run succeeded

def Stage.ready(t:Ticket)(g:Flow):Stage:=
 if triggersOff g then .answering t false (some triggerDisabled) else .submitting t g

def Stage.loaded(q:Request):Option Flow→Stage
 | none=>.answering {q:=q} false (some unauthorized)
 | some g=>
  if admitted g q=false then .answering {q:=q} false (some unauthorized)
  else if g.disabled then .answering {q:=q} false (some flowDisabled)
  else if q.key="" then .ready {q:=q} g
  else if q.key.utf8ByteSize > idempotencyKeyMax then .answering {q:=q} false (some keyTooLong)
  else .claiming {q:=q,key:=some (cacheKey g q.key)} g

def Stage.settle(t:Ticket)(g:Flow)(run:RunID):Stage:=
 if g.replies=[] then .checking t g run else .listing t g run

def Stage.joined(t:Ticket)(g:Flow)(run:RunID):Stage:=
 if t.q.wait=0 then .answering t true (some (t.relay (writeCallPending run))) else .settle t g run

def Stage.met(t:Ticket)(g:Flow)(existing:Entry):Stage:=
 if existing.reqHash≠""∧existing.reqHash≠callRequestHash t.q then .answering t false (some keyReused)
 else if existing.done then .answering t true (existing.response.map Response.replayed)
 else
  match existing.runID with
  | none=>.answering t false (some keyInProgress)
  | some run=>.joined t g run

def Stage.answered(t:Ticket)(ran:Bool)(response:Option Response):Stage:=
 if t.holder then
  if ran then
   match response with
   | some r=>if storable r then .committing t r else .closed t response
   | none=>.closed t none
  else .releasing t response
 else .closed t response

def Stage.next:Stage→(c:Call)→Res c→Stage
 | .arriving q,.loadPublished _,g=>.loaded q g
 | .claiming t g,.start _ _,none=>.ready {t with holder:=true} g
 | .claiming t g,.start _ _,some object=>.meeting t g object
 | .meeting t g _,.look _,existing=>.met t g existing
 | .submitting t _,.submit _ _,.triggerLoop=>.answering t false (some triggerLoop)
 | .submitting t _,.submit _ _,.failed message=>.answering t false (some (submitFailed message))
 | .submitting t g,.submit _ _,.ok run=>if t.holder then .attaching t g run else .joined t g run
 | .attaching t g run,.attach _ _,_=>.joined t g run
 | .listing t g run,.listNodeRecords _,recs=>
  match recs.bind (replyIn g.replies) with
  | some response=>.answering t true (some (t.relay response))
  | none=>.checking t g run
 | .checking t g run,.getRun _,status=>
  match settled run status with
  | some response=>.answering t true (some (t.relay response))
  | none=>.waiting t g run
 | .waiting t g run,.wake,.look=>.settle t g run
 | .waiting t _ run,.wake,.deadline=>.answering t true (some (t.relay (writeCallPending run)))
 | .waiting t _ _,.wake,.hungUp=>.answering t true none
 | .answering t ran response,.respond _,_=>.answered t ran response
 | .releasing t response,.abort _,_=>.closed t response
 | .committing t response,.commit _ _,_=>.closed t (some response)
 | .gate key _,.start _ _,none=>.gateServes key
 | .gate key reqHash,.start _ _,some object=>.gateMeets key reqHash object
 | .gateMeets key reqHash _,.look _,existing=>.gateAnswers key (replayRequest reqHash existing)
 | .gateServes key,.serve,response=>
  if succeeded response then .gateCommits key response else .gateAborts key
 | _,_,_=>.ended

def Stage.allows:Stage→Call→Prop
 | .arriving q,.loadPublished path=>path=q.path
 | .claiming t _,.start key reqHash=>t.key=some key∧t.holder=false∧reqHash=callRequestHash t.q
 | .meeting _ _ object,.look object'=>object'=object
 | .submitting t _,.submit claim q=>claim=t.claim∧q=t.q
 | .attaching t _ run,.attach key run'=>t.claim=some key∧run'=run
 | .listing _ _ run,.listNodeRecords run'=>run'=run
 | .checking _ _ run,.getRun run'=>run'=run
 | .waiting _ _ _,.wake=>True
 | .answering _ _ response,.respond response'=>response'=response
 | .releasing t _,.abort key=>t.claim=some key
 | .committing t response,.commit key response'=>t.claim=some key∧response'=response
 | .gate key reqHash,.start key' reqHash'=>key'=key∧reqHash'=reqHash
 | .gateMeets _ _ object,.look object'=>object'=object
 | .gateAnswers _ response,.respond response'=>response'=response
 | .gateServes _,.serve=>True
 | .gateCommits key response,.commit key' response'=>key'=key∧response'=response
 | .gateAborts key,.abort key'=>key'=key
 | .reporting run rec,.report run' rec'=>run'=run∧rec'=rec
 | .finishing run succeeded,.finish run' succeeded'=>run'=run∧succeeded'=succeeded
 | _,_=>False

def Stage.gateKey:Stage→Option String
 | .gate key _=>some key
 | .gateMeets key _ _=>some key
 | .gateAnswers key _=>some key
 | .gateServes key=>some key
 | .gateCommits key _=>some key
 | .gateAborts key=>some key
 | _=>none

@[reducible] def stages:Protocol machine where
 Stage:=Stage
 first:=Stage.first
 next:=Stage.next
 allowed:=Stage.allows
 pre
  | .awaitReply replies run,n=>∃ t g,n=.settle t g run∧g.replies=replies
 post
  | .awaitReply replies run,n,response,n'=>∀ t g,n=.settle t g run → g.replies=replies→
   n'=.answering t true (response.map t.relay)

section Follows

open Protocol

lemma obeys_respond{t ran response}:
 stages.Obeys (respond response) (.answering t ran response) (fun _ n=>n=.answered t ran response):=
 obeys_call rfl (fun _=>obeys_done rfl)
lemma settle_inj{t t' g g' run run'}(h:Stage.settle t g run=.settle t' g' run'):
 t=t'∧g=g'∧run=run':=by
 unfold Stage.settle at h
 split_ifs at h<;>cases h<;>exact ⟨rfl,rfl,rfl⟩
lemma obeys_checkRun(t g run):
 stages.Obeys (checkRun run) (.checking t g run) (fun r n=>match r with
  | some response=>n=.answering t true (some (t.relay response))
  | none=>n=.waiting t g run):=by
 refine obeys_call rfl fun status=>obeys_done ?_
 simp only[stages,Stage.next]
 cases settled run status<;>rfl
lemma obeys_settleCall(t g run):
 stages.Obeys (settleCall g.replies run) (.settle t g run) (fun r n=>match r with
  | some response=>n=.answering t true (some (t.relay response))
  | none=>n=.waiting t g run):=by
 unfold settleCall Stage.settle
 split_ifs with hreplies
 ·exact obeys_checkRun t g run
 refine obeys_call rfl fun
  | none=>obeys_checkRun t g run
  | some recs=>?_
 change stages.Obeys (match replyIn g.replies recs with
  | some response=>pure (some response)
  | none=>checkRun run)
  (match replyIn g.replies recs with
  | some response=>Stage.answering t true (some (t.relay response))
  | none=>.checking t g run) _
 cases replyIn g.replies recs with
 | none=>exact obeys_checkRun t g run
 | some response=>exact obeys_done rfl
lemma obeys_awaitReply(t g run):
 stages.Obeys (awaitReply g.replies run) (.settle t g run)
  (fun response n=>n=.answering t true (response.map t.relay)):=by
 refine obeys_bind (obeys_settleCall t g run) fun r n hn=>?_
 cases r with
 | some response=>
  obtain rfl:=hn
  exact obeys_done rfl
 | none=>
  obtain rfl:=hn
  exact obeys_call trivial fun
   | .look=>obeys_enter ⟨t,g,rfl,rfl⟩ (fun _ _ hpost=>hpost t g rfl rfl)
   | .deadline=>obeys_done rfl
   | .hungUp=>obeys_done rfl
lemma obeys_await{α:Type}{t g run k}{Q:α→Stage→Prop}
 (hk:∀ response,stages.Obeys (k response) (.answering t true (response.map t.relay)) Q):
 stages.Obeys (Prog.enter (S:=sig) (.awaitReply g.replies run)>>=k) (.settle t g run) Q:=
 obeys_bind (Q:=fun response n=>n=Stage.answering t true (response.map t.relay))
  (obeys_enter ⟨t,g,rfl,rfl⟩ fun _ _ hpost=>hpost t g rfl rfl) (fun response _ hn=>hn▸hk response)
lemma obeys_middleware(key reqHash):
 stages.Obeys (idempotencyMiddleware key reqHash) (.gate key reqHash) (fun _ _=>True):=by
 refine obeys_call ⟨rfl,rfl⟩ fun found=>?_
 cases found with
 | some object=>
  exact obeys_call rfl fun existing=>obeys_end rfl
 | none=>
  exact obeys_call trivial fun response=>obeys_ite (fun _=>obeys_end ⟨rfl,rfl⟩) fun _=>obeys_end rfl

def holding(q:Request)(key:String):Ticket:=⟨q,some key,true⟩

def ticketOf(q:Request):Option Claim→Ticket
 | none=>⟨q,none,false⟩
 | some claim=>holding q claim.key

lemma relay_ticketOf(q claim response):
 (ticketOf q claim).relay response=response:=by
 cases claim<;>rfl
lemma map_relay_ticketOf(q:Request)(claim:Option Claim)(response:Option Response):
 response.map (ticketOf q claim).relay=response:=by
 cases response with
 | none=>rfl
 | some r=>simp[relay_ticketOf]
lemma obeys_refuse(q claim response)
 (hc:∀ c∈claim,c.attached=false∧c.resolved=false):
 stages.Obeys (do
  respond (some response)
  release claim) (.answering (ticketOf q claim) false (some response)) (fun _ _=>True):=by
 refine obeys_bind obeys_respond fun _ n hn=>?_
 subst hn
 cases claim with
 | none=>exact obeys_done trivial
 | some c=>
  obtain ⟨key,attached,resolved⟩:=c
  obtain ⟨rfl,rfl⟩:=hc _ rfl
  exact obeys_end rfl
lemma obeys_answerCall(q:Request)(g:Flow)(run:RunID)(claim:Option Claim)
 (hc:∀ c∈claim,c.attached):
 stages.Obeys (answerCall q g run claim) (.joined (ticketOf q claim) g run) (fun _ _=>True):=by
 -- an attached claim is never released
 have hkept:∀ (claim':Option Claim) (n:Stage),(∀ c∈claim',c.attached)→
  stages.Obeys (release claim') n (fun _ _=>True):=by
  intro claim' n h
  cases claim' with
  | none=>exact obeys_done trivial
  | some c=>
   simp only[release,h c rfl,Bool.true_or,if_true]
   exact obeys_done trivial
 have hq:(ticketOf q claim).q=q:=by cases claim<;>rfl
 unfold answerCall Stage.joined
 rw[hq]
 by_cases hwait:q.wait=0
 ·rw[if_pos hwait,if_pos hwait,relay_ticketOf]
  exact obeys_bind obeys_respond fun _ n _=>hkept claim n hc
 ·rw[if_neg hwait,if_neg hwait]
  refine obeys_await fun response=>?_
  rw[map_relay_ticketOf]
  refine obeys_bind obeys_respond fun _ n hn=>?_
  subst hn
  cases claim with
  | none=>exact obeys_done trivial
  | some c=>?_
  cases response with
  | none=>exact hkept _ _ hc
  | some r=>?_
  change stages.Obeys ((if storable r then _ else _)>>=_)
   (if storable r then Stage.committing (holding q c.key) r else .closed (holding q c.key) (some r)) _
  cases storable r with
  | false=>exact hkept _ _ hc
  | true=>
   refine obeys_call ⟨rfl,rfl⟩ fun _=>?_
   exact hkept (some {c with resolved:=true}) _ fun c' h'=>by cases h'; exact hc c rfl
lemma obeys_submitCall(q g claim)
 (hc:∀ c∈claim,c.attached=false∧c.resolved=false):
 stages.Obeys (submitCall q g claim) (.ready (ticketOf q claim) g) (fun _ _=>True):=by
 unfold submitCall Stage.ready
 cases triggersOff g with
 | true=>exact obeys_refuse q claim _ hc
 | false=>?_
 refine obeys_call (by cases claim<;>exact ⟨rfl,rfl⟩) fun
  | .triggerLoop=>obeys_refuse q claim _ hc
  | .failed message=>obeys_refuse q claim _ hc
  | .ok run=>?_
 cases claim with
 | none=>exact obeys_answerCall q g run none (by simp)
 | some c=>
  refine obeys_call ⟨rfl,rfl⟩ fun _=>?_
  exact obeys_answerCall q g run (some {c with attached:=true}) fun c' h'=>by cases h'; rfl
lemma obeys_replayCall(q g key existing):
 stages.Obeys (replayCall q g existing) (.met ⟨q,some key,false⟩ g existing) (fun _ _=>True):=by
 refine obeys_ite (fun _=>obeys_end rfl) fun _=>?_
 cases existing.done with
 | true=>exact obeys_end rfl
 | false=>?_
 cases existing.runID with
 | none=>exact obeys_end rfl
 | some run=>
  change stages.Obeys (if q.wait=0 then _ else _) (if q.wait=0 then _ else _) _
  exact obeys_ite (fun _=>obeys_end rfl) fun _=>obeys_await fun _=>obeys_end rfl
lemma obeys_handleCall(q):stages.Obeys (handleCall q) (.arriving q) (fun _ _=>True):=by
 refine obeys_call rfl fun flow=>?_
 change stages.Obeys _ (Stage.loaded q flow) _
 cases flow with
 | none=>exact obeys_end rfl
 | some g=>?_
 refine obeys_ite (fun _=>obeys_end rfl) fun _=>?_
 cases g.disabled with
 | true=>exact obeys_end rfl
 | false=>?_
 change stages.Obeys (claimCall q g>>=_) (if q.key="" then _ else _) _
 unfold claimCall
 by_cases hkey:q.key=""
 ·rw[if_pos hkey,if_pos hkey]
  exact obeys_submitCall q g none (by simp)
 rw[if_neg hkey,if_neg hkey]
 by_cases hlong:q.key.utf8ByteSize > idempotencyKeyMax
 ·rw[if_pos hlong,if_pos hlong]
  exact obeys_end rfl
 rw[if_neg hlong,if_neg hlong]
 refine obeys_call ⟨rfl,rfl,rfl⟩ fun
  | none=>obeys_submitCall q g (some {key:=cacheKey g q.key}) (fun c hc=>by cases hc; exact ⟨rfl,rfl⟩)
  | some object=>?_
 refine obeys_call rfl fun existing=>?_
 have hreplay:stages.Obeys (do
  replayCall q g existing
  pure Claimed.handled) (.met ⟨q,some (cacheKey g q.key),false⟩ g existing) (fun r _=>r=.handled):=
  obeys_bind (obeys_replayCall q g _ existing) (fun _ _ _=>obeys_done rfl)
 exact obeys_bind hreplay fun r _ hr=>by subst hr; exact obeys_done trivial
lemma follows:stages.Follows (fun _=>True) where
 bodies f n hpre:=by
  cases f with
  | awaitReply replies run=>
   obtain ⟨t,g,rfl,rfl⟩:=hpre
   refine obeys_mono (obeys_awaitReply t g run) fun response n' hn t' g' hsettle _=>?_
   obtain ⟨rfl,rfl,_⟩:=settle_inj hsettle
   exact hn
 entries e:=by
  cases e with
  | call q=>exact obeys_handleCall q
  | gateway key reqHash=>exact obeys_middleware key reqHash
  | report run rec | finish run succeeded=>exact obeys_end ⟨rfl,rfl⟩

end Follows

end Dazyflow.IdempotentCalls
