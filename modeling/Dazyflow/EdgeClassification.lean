import Dazyflow.JobRecords

/-!
# What a finished step means for the steps behind it

`classifyEdge` reads one wire; `Tally` is the loop of `analyzeDependentIndexed` over the wires into a step,
apart from how the predecessors' records are read.
-/
namespace Dazyflow.EdgeClassification
open FlowGraph JobRecords

inductive EdgeOutcome
 | active | dormant | notRouted | blocking

inductive DependentDecision
 | waiting | enqueue | skipped
 deriving DecidableEq

def emits(pred:JobRecord)(port:String):Bool:=
 pred.result.any (fun res=>(res.port port).isSome)

def classifyEdge(predRec:JobRecord)(edge:Edge):EdgeOutcome:=
 match predRec.status with
 | .succeeded=>
  if edge.onError=.fallback then .dormant
  else if edge.fromPort=passPort then .active
  else if emits predRec edge.fromPort then .active
  else .notRouted
 | .failed=>
  match edge.onError with
  | .skip | .fallback=>.active
  | _=>.blocking
 | .skipped=>
  match edge.onError with
  | .skip=>.active
  | .fallback=>.dormant
  | _=>.blocking
 | .awaiting=>
  if edge.fromPort=passPort then .blocking
  else if emits predRec edge.fromPort then .active
  else .blocking
 | _=>.blocking

structure Tally where
 anyActive:Bool:=false
 anyBlocked:Bool:=false
 anyNotRouted:Bool:=false

def Tally.decision(t:Tally):DependentDecision:=
 if t.anyBlocked||t.anyNotRouted then .skipped
 else if !t.anyActive then .skipped
 else .enqueue

/-- One turn of the loop; `none` is its early return with `depWaiting`. -/
def Tally.add(t:Tally)(predRec:JobRecord)(edge:Edge):Option Tally:=
 let parked:=predRec.status==.awaiting
 if !isTerminalStatus predRec.status&&!parked then none
 else match classifyEdge predRec edge with
  | .active=>some {t with anyActive:=true}
  | .dormant=>some t
  | .notRouted=>some {t with anyNotRouted:=true}
  | .blocking=>if parked then none else some {t with anyBlocked:=true}

/-- The loop over the wires when `look` answers for the predecessors' records. -/
def analyzeEdges(look:String→Option JobRecord):List Edge→Tally→DependentDecision
 | [],t=>t.decision
 | e::rest,t=>
  match look e.source with
  | none=>.waiting
  | some predRec=>
   match t.add predRec e with
   | none=>.waiting
   | some t'=>analyzeEdges look rest t'

def analyzeDependent(look:String→Option JobRecord)(g:Graph)(depID:String):
  DependentDecision:=
 analyzeEdges look (g.incoming depID) {}

def failurePropagates(g:Graph)(nodeID:String):Bool:=
 if (g.node nodeID).any (fun n=>n.continueOnError) then false
 else
  let out:=g.edges.filter (fun e=>e.source==nodeID)
  if out.isEmpty then true
  else if out.any (fun e=>e.onError==.fallback) then false
  else out.any (fun e=>e.onError != .fallback&&e.onError != .skip)

def advances(g:Graph)(nodeID:String)(status:JobStatus):Bool:=
 status==.succeeded||status==.awaiting ||
  (status==.failed&&!failurePropagates g nodeID)

lemma analyzeEdges_congr{look look' edges}
 (h:∀ e∈edges,look e.source=look' e.source)(t):
 analyzeEdges look edges t=analyzeEdges look' edges t:=by
 induction edges generalizing t with
 | nil=>rfl
 | cons e rest ih=>
  simp only[analyzeEdges,h e List.mem_cons_self]
  cases look' e.source with
  | none=>rfl
  | some r=>
   cases ha:t.add r e with
   | none=>simp only[ha]
   | some t'=>
    simp only[ha]
    exact ih (fun e' he'=>h e' (List.mem_cons_of_mem _ he')) t'

/-- What a wire says about its target; nothing while the step it comes from has still to decide. -/
def readWire(r:JobRecord)(e:Edge):Option EdgeOutcome:=
 match classifyEdge r e with
 | .blocking=>if isTerminalStatus r.status then some .blocking else none
 | o=>if isTerminalStatus r.status∨r.status=.awaiting then some o else none

def reading(look:String→Option JobRecord)(e:Edge):Option EdgeOutcome:=(look e.source).bind fun r=>readWire r e

lemma analyzeEdges_reading{look edges}(t:Tally):
 (analyzeEdges look edges t=.waiting↔∃ e∈edges,reading look e=none)∧
 (analyzeEdges look edges t=.enqueue↔(t.anyActive∨∃ e∈edges,reading look e=some .active)∧
  t.anyBlocked=false∧t.anyNotRouted=false∧∀ e∈edges,reading look e=some .active∨reading look e=some .dormant):=by
 induction edges generalizing t with
 | nil=>
  simp only[analyzeEdges,Tally.decision]
  grind
 | cons e rest ih=>
  cases hr:look e.source with
  | none=>simp[analyzeEdges,reading,hr]
  | some r=>
   have hread:reading look e=readWire r e:=by simp[reading,hr]
   cases hc:classifyEdge r e<;>cases hs:r.status<;>
    simp[analyzeEdges,hr,Tally.add,hread,readWire,hc,hs,isTerminalStatus,ih]

/-- A step waits exactly while a wire into it is undecided and runs exactly when all that are decided let it and
one is active, in whatever order the wires are stored. -/
theorem decision_by_wires(look:String→Option JobRecord)(g:Graph)(id:String):
 (analyzeDependent look g id=.waiting↔∃ e∈g.incoming id,reading look e=none)∧
 (analyzeDependent look g id=.enqueue↔(∃ e∈g.incoming id,reading look e=some .active)∧
  ∀ e∈g.incoming id,reading look e=some .active∨reading look e=some .dormant)∧
 ∀ g':Graph,g'.edges.Perm g.edges→analyzeDependent look g' id=analyzeDependent look g id:=by
 have hspec(g:Graph):=@analyzeEdges_reading look (g.incoming id) {}
 refine ⟨(hspec g).1,(hspec g).2.trans (by simp),fun g' hp=>?_⟩
 have hmem(e):e∈g'.incoming id↔e∈g.incoming id:=by rw[Graph.mem_incoming,Graph.mem_incoming,hp.mem_iff]
 have hwait:=(hspec g').1.trans ((hspec g).1.trans (by simp only[hmem])).symm
 have hrun:=(hspec g').2.trans ((hspec g).2.trans (by simp only[hmem])).symm
 unfold analyzeDependent
 cases h:analyzeEdges look (g'.incoming id) {}<;>cases h':analyzeEdges look (g.incoming id) {}<;>simp_all

end Dazyflow.EdgeClassification
