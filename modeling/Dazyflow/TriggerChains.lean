import Dazyflow.PostgresJobs
import Dazyflow.StoreRuns
import Dazyflow.Submission
import Dazyflow.GoStrings

/-!
# Chains of triggered runs

A run may call one of the instance's own trigger URLs, and the run that starts may do so again.
-/
namespace Dazyflow.TriggerChains
open FlowGraph JobRecords PostgresJobs List
open Daemon (maxTriggerChainDepth submittedRecord childRecord)
open GoStrings (atoi itoa)

def readRun(p:Postgres)(id:String):Option JobRecord:=(p.jobs.find? id).map scanRecord

structure Submission where
 run:String
 /-- the run whose step made the call; a call from outside has none -/
 caller:Option String
 /-- the depth presented to `SubmitGraphOpts` -/
 depth:Nat
 /-- whether the run was recorded -/
 started:Bool
 deriving DecidableEq

/-- The processes of an instance, on one Postgres store. -/
structure Instance where
 store:Postgres
 /-- `RunCache` of each process: the depth it has read for a run -/
 runs:List ((Nat×String)×Nat):=[]
 submissions:List Submission:=[]
 /-- child runs with the run whose step started them -/
 children:List (String×String):=[]

namespace Instance

def storedDepth(i:Instance)(run:String):Nat:=
 ((readRun i.store run).map JobRecord.triggerDepth).getD 0

def workerDepth(i:Instance)(process:Nat)(run:String):Nat:=
 (i.runs.lookup (process,run)).getD (i.storedDepth run)

def runFor(i:Instance)(process:Nat)(run:String):Instance:=
 match i.runs.lookup (process,run),readRun i.store run with
 | none,some rec=>{i with runs:=((process,run),rec.triggerDepth)::i.runs}
 | _,_=>i

end Instance

/-- The header of a call to the instance's own address. -/
def outboundHeader(depth:Nat):String:=itoa (depth+1)

def inboundTriggerDepth(header:String):Nat:=
 match atoi header with
 | some n=>n.toNat
 | none=>0

lemma inbound_outbound{depth}(h:depth < maxTriggerChainDepth):
 inboundTriggerDepth (outboundHeader depth)=depth+1:=by
 have hb:depth+1<2 ^ 63:=by
  have:maxTriggerChainDepth=8:=rfl
  omega
 unfold inboundTriggerDepth outboundHeader
 rw[GoStrings.atoi_itoa hb]
 rfl

/-- `SubmitGraphOpts` as far as the chain goes: the limit, then the run's record. -/
def Instance.submit(now:Time)(i:Instance)(id:String)(g:Graph)(admitted:Bool)
 (caller:Option String)(depth:Nat):Instance:=
 if maxTriggerChainDepth ≤ depth then
  {i with submissions:=i.submissions++[⟨id,caller,depth,false⟩]}
 else
  let r:=i.store.exec now 0 (.enqueue (submittedRecord g id admitted {triggerDepth:=depth}))
  {i with store:=r.2,submissions:=i.submissions++[⟨id,caller,depth,r.1.isOk⟩]}

/-- `submitGraphWithParent`: the child's record has the depth of its parent run. -/
def Instance.submitChild(now:Time)(i:Instance)(id parent parentNodeRecID:String)(g:Graph):
 Instance:=
 let r:=i.store.exec now 0 (.enqueue (childRecord g id parentNodeRecID (i.storedDepth parent)))
 {i with store:=r.2,children:=if r.1.isOk then (id,parent)::i.children else i.children}

inductive Event
 /-- a request from outside, with whatever header it has -/
 | outside (id:String) (g:Graph) (admitted:Bool) (header:String)
 /-- a step of a run, executed by a process, calls a trigger URL -/
 | call (process:Nat) (caller id:String) (g:Graph) (admitted:Bool)
 /-- a step of a run starts a child run -/
 | child (id parent parentNodeRecID:String) (g:Graph)
 | read (process:Nat) (run:String)
 | evict (process:Nat) (run:String)
 /-- any other call on the job store -/
 | store (tie:Nat) (s:Statement)

def step(i:Instance)(now:Time):Event→Instance
 | .outside id g admitted header=>i.submit now id g admitted none (inboundTriggerDepth header)
 | .call process caller id g admitted=>
  if (readRun i.store caller).isSome then
   i.submit now id g admitted (some caller)
    (inboundTriggerDepth (outboundHeader (i.workerDepth process caller)))
  else i
 | .child id parent parentNodeRecID g=>
  if (readRun i.store parent).isSome then i.submitChild now id parent parentNodeRecID g else i
 | .read process run=>i.runFor process run
 | .evict process run=>{i with runs:=i.runs.filter fun e=>e.1 != (process,run)}
 | .store tie s=>{i with store:=(i.store.exec now tie s).2}

def runEvents(i:Instance)(events:List (Time×Event)):Instance:=
 events.foldl (fun i e=>step i e.1 e.2) i

lemma runEvents_induct{P:Instance→Prop}(hstep:∀ i now e,P i→P (step i now e))
 {i}(h:P i)(events:List (Time×Event)):P (runEvents i events):=by
 induction events generalizing i with
 | nil=>exact h
 | cons e rest ih=>exact ih (hstep i e.1 e.2 h)

inductive Below(children:List (String×String))(run:String):String→Prop
 | self:Below children run run
 | child {parent id} (h:Below children run parent) (hc:(id,parent)∈children):
  Below children run id

/-- A step of the first run, or of a child of it, made the second submission. -/
def Calls(i:Instance)(a b:Submission):Prop:=
 a.started∧∃ x,b.caller=some x∧Below i.children a.run x

structure Chain(i:Instance)(chain:List Submission):Prop where
 made:∀ s∈chain,s∈i.submissions
 calls:chain.IsChain (Calls i)

def Increasing(chain:List Submission):Prop:=chain.IsChain (fun a b=>a.depth<b.depth)

def Bounded(chain:List Submission):Prop:=
 chain.countP (fun s=>s.started) ≤ maxTriggerChainDepth

lemma lookup_mem{α β:Type} [BEq α] [LawfulBEq α] {l:List (α×β)}{k:α}{v:β}
 (h:l.lookup k=some v):(k,v)∈l:=by
 induction l with
 | nil=>cases h
 | cons e rest ih=>
  obtain ⟨k',v'⟩:=e
  rw[lookup_cons] at h
  cases hk:k==k' with
  | true=>
   obtain rfl:=eq_of_beq hk
   rw[hk] at h
   cases h
   exact mem_cons_self
  | false=>
   rw[hk] at h
   exact mem_cons_of_mem _ (ih h)
lemma postgres_depth{p k r}
 (h:readRun p k=some r):r.triggerDepth=0:=by
 obtain ⟨row,_,rfl⟩:=Option.map_eq_some_iff.1 h
 rfl

/-- What is left of the depth: nothing in the caches, and the first hop in every call. -/
structure Forgotten(i:Instance):Prop where
 cached:∀ e∈i.runs,e.2=0
 called:∀ s∈i.submissions,∀ x,s.caller=some x → s.depth=1

variable {i:Instance}

lemma Forgotten.workerDepth(h:Forgotten i)(process)
 (run):i.workerDepth process run=0:=by
 have hstored:i.storedDepth run=0:=by
  unfold Instance.storedDepth
  cases hr:readRun i.store run with
  | none=>rfl
  | some r=>exact postgres_depth hr
 unfold Instance.workerDepth
 cases hl:i.runs.lookup (process,run) with
 | none=>exact hstored
 | some d=>exact h.cached _ (lookup_mem hl)
lemma Forgotten.submit(h:Forgotten i)(now id)
 (g admitted){caller depth}
 (hd:∀ x,caller=some x→depth=1):Forgotten (i.submit now id g admitted caller depth):=by
 have hadd:∀ started,∀ s∈i.submissions++[⟨id,caller,depth,started⟩],
  ∀ x,s.caller=some x → s.depth=1:=by
  intro started s hs x hx
  rcases mem_append.1 hs with hs | hs
  ·exact h.called s hs x hx
  ·obtain rfl:=mem_singleton.1 hs
   exact hd x hx
 unfold Instance.submit
 split_ifs
 ·exact ⟨h.cached,hadd false⟩
 ·exact ⟨h.cached,hadd _⟩
lemma Forgotten.step(h:Forgotten i)(now e):
 Forgotten (step i now e):=by
 cases e with
 | outside id g admitted header=>exact h.submit now id g admitted nofun
 | call process caller id g admitted=>
  dsimp only[TriggerChains.step]
  split_ifs
  ·refine h.submit now id g admitted fun _ _=>?_
   rw[h.workerDepth,inbound_outbound (by decide)]
  ·exact h
 | child id parent parentNodeRecID g=>
  dsimp only[TriggerChains.step]
  split_ifs
  ·exact ⟨h.cached,h.called⟩
  ·exact h
 | read process run=>
  dsimp only[TriggerChains.step]
  unfold Instance.runFor
  split
  ·next rec _ hr=>
   refine ⟨fun e he=>?_,h.called⟩
   rcases mem_cons.1 he with rfl | he
   ·exact postgres_depth hr
   ·exact h.cached e he
  ·exact h
 | evict process run=>exact ⟨fun e he=>h.cached e (mem_of_mem_filter he),h.called⟩
 | store tie s=>exact ⟨h.cached,h.called⟩

def Short:List Submission→Prop
 | [] | [_]=>True
 | [a,_]=>a.depth=0
 | _=>False

/-- On the Postgres store the depths of a chain are the first one and then one for
 every hop, so only the shortest chains increase. -/
theorem postgres_chain_increases_iff(p:Postgres)(events:List (Time×Event))
 {chain:List Submission}(hc:Chain (runEvents {store:=p} events) chain):
 Increasing chain∧Bounded chain↔Short chain:=by
 have h:Forgotten (runEvents {store:=p} events):=
  runEvents_induct (fun i now e hi=>hi.step now e) ⟨nofun,nofun⟩ events
 have hhop:∀ a b,b∈chain→Calls (runEvents {store:=p} events) a b→
   b.depth=1:=by
  rintro a b hb ⟨-,x,hx,-⟩
  exact h.called b (hc.made b hb) x hx
 have hbounded:chain.length≤2→Bounded chain:=fun hl=>
  (countP_le_length.trans hl).trans (by decide)
 match chain,hc.calls,hhop,hbounded with
 | [],_,_,hbounded=>exact ⟨fun _=>trivial,fun _=>⟨isChain_nil,hbounded (by simp)⟩⟩
 | [a],_,_,hbounded=>
  exact ⟨fun _=>trivial,fun _=>⟨isChain_singleton a,hbounded (by simp)⟩⟩
 | [a,b],hcalls,hhop,hbounded=>
  have hb:b.depth=1:=hhop a b (by simp) (isChain_cons_cons.1 hcalls).1
  constructor
  ·rintro ⟨hinc,-⟩
   have hlt:a.depth<b.depth:=(isChain_cons_cons.1 hinc).1
   change a.depth=0
   omega
  ·intro hshort
   have ha:a.depth=0:=hshort
   refine ⟨isChain_cons_cons.2 ⟨?_,isChain_singleton b⟩,hbounded (by simp)⟩
   omega
 | a::b::c::rest,hcalls,hhop,_=>
  obtain ⟨hab,hbc⟩:=isChain_cons_cons.1 hcalls
  have hb:b.depth=1:=hhop a b (by simp) hab
  have hc:c.depth=1:=hhop b c (by simp) (isChain_cons_cons.1 hbc).1
  refine ⟨fun hinc=>?_,False.elim⟩
  have hlt:b.depth<c.depth:=
   (isChain_cons_cons.1 (isChain_cons_cons.1 hinc.1).2).1
  omega

def poster:Graph:=
 {id:="g",tenant:="t",workspace:="w",nodes:=[{id:="post",module:="http_request" }],edges:=[]}

def selfCalls(hops:Nat):List (Time×Event):=
 (1,.outside (itoa 0) poster true "") ::
  (range hops).map (fun n=>
   (1,.call 0 (itoa n) (itoa (n+1)) poster true))

def selfCallChain(hops:Nat):List Submission:=
 ⟨itoa 0,none,0,true⟩ ::
  (range hops).map (fun n=>⟨itoa (n+1),some (itoa n),1,true⟩)

lemma chain_of_calls{i:Instance}{chain:List Submission}(hmade:i.submissions=chain)
 (hcalls:chain.IsChain fun a b=>a.started∧b.caller=some a.run):Chain i chain:=
 ⟨fun _ hs=>hmade▸hs,hcalls.imp fun a _ h=>⟨h.1,a.run,h.2,.self⟩⟩

theorem one_self_call_increases:
 Increasing (selfCallChain 1)∧Bounded (selfCallChain 1):=
 (postgres_chain_increases_iff {} (selfCalls 1)
  (chain_of_calls (by decide +kernel) (by decide +kernel))).2 rfl

/-- Ten runs of a flow that calls itself all start. -/
theorem self_calls_unbounded:
 Chain (runEvents {store:={} } (selfCalls 9)) (selfCallChain 9)∧
  ¬ Increasing (selfCallChain 9)∧¬ Bounded (selfCallChain 9):=
 ⟨chain_of_calls (by decide +kernel) (by decide +kernel),by
  unfold Increasing
  decide +kernel,by
  unfold Bounded
  decide +kernel⟩

end Dazyflow.TriggerChains
