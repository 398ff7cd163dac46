import Dazyflow.DagEvaluation
import Dazyflow.Worker

/-!
# The run as the wires define it

What a run comes to when each step is looked at once, in topological order, with its predecessors' records in
front of it.
-/
namespace Dazyflow.ReferenceRun
open FlowGraph JobRecords EdgeClassification LoopBodies GraphValidation Daemon DagEvaluation List

/-- What each step's module does on the results wired into it: its result and the
 text of its error. -/
abbrev Modules:=String→List (String×Result)→Result×Option String

/-- The status `processNodeJob` gives a step that returned this. -/
def ranStatus(env:Env)(out:Result×Option String):JobStatus:=
 if out.2.isNone∧(resumeAt env out.1).isSome then .queued
 else if out.2.isNone∧out.1.status=.awaiting then .awaiting
 else if out.2.isSome∨out.1.status=.error then .failed
 else .succeeded

def stepRecord(id:String)(status:JobStatus)(result:Result):JobRecord:=
 {id:=id,kind:=.node,nodeID:=id,status:=status,result:=some result}

def decision(g:Graph)(look:String→Option JobRecord)(id:String):DependentDecision:=
 if g.incoming id=[] then .enqueue else analyzeDependent look g id

/-- `fetchPredecessors` on the records in `look`. -/
def wiredResults(look:String→Option JobRecord):List String→Option (List (String×Result))
 | []=>some []
 | u::rest=>
  match look u with
  | none=>none
  | some r=>
   if r.status=.failed∨r.status=.skipped then wiredResults look rest
   else match r.result with
    | none=>none
    | some res=>(wiredResults look rest).map (fun prior=>(u,res)::prior)

def isDisabled(g:Graph)(id:String):Bool:=(g.node id).any (fun n=>n.disabled)

def evalStep(env:Env)(g:Graph)(mods:Modules)(look:String→Option JobRecord)(id:String):
  Option JobRecord:=
 if bodyOwned g id then none
 else match decision g look id with
  | .waiting=>none
  | .skipped=>some (stepRecord id .skipped {skipCode:=skipCodeUpstream})
  | .enqueue=>
   if isDisabled g id then some (stepRecord id .skipped {skipCode:=skipCodeStepOff})
   else match wiredResults look (predecessorIDs g id) with
    | none=>some (stepRecord id .failed (errorResult "" "load_predecessors" ""))
    | some prior=>some (stepRecord id (ranStatus env (mods id prior)) (mods id prior).1)

def executes(g:Graph)(look:String→Option JobRecord)(id:String):Bool:=
 !bodyOwned g id&&decision g look id==.enqueue&&!isDisabled g id &&
  (wiredResults look (predecessorIDs g id)).isSome

def reference(env:Env)(g:Graph)(mods:Modules):String→Option JobRecord:=
 evalAlong (evalStep env g mods) ((topologicalOrder g).getD []) (fun _=>none)

def dispatched(env:Env)(g:Graph)(mods:Modules):List String:=
 g.nodeIDs.filter (executes g (reference env g mods))

variable {g:Graph}{id:String}{look look':String→Option JobRecord}

lemma mem_predecessorIDs{u}:
 u∈predecessorIDs g id↔∃ e∈g.edges,e.source=u∧e.target=id:=by
 simp only[predecessorIDs,mem_eraseDups,mem_map,Graph.mem_incoming]
 constructor
 ·rintro ⟨e,⟨he,ht⟩,hs⟩
  exact ⟨e,he,hs,ht⟩
 ·rintro ⟨e,he,hs,ht⟩
  exact ⟨e,⟨he,ht⟩,hs⟩
lemma wiredResults_congr{ids}
 (h:∀ u∈ids,look u=look' u):wiredResults look ids=wiredResults look' ids:=by
 induction ids with
 | nil=>rfl
 | cons u rest ih=>
  simp only[wiredResults,h u mem_cons_self,ih fun v hv=>h v (mem_cons_of_mem _ hv)]
lemma decision_congr(h:∀ u∈predecessorIDs g id,look u=look' u):decision g look id=decision g look' id:=by
 unfold decision analyzeDependent
 rw[analyzeEdges_congr]
 intro e he
 obtain ⟨he,ht⟩:=(Graph.mem_incoming g id e).1 he
 exact h e.source (mem_predecessorIDs.2 ⟨e,he,rfl,ht⟩)
lemma executes_congr(h:∀ u∈predecessorIDs g id,look u=look' u):executes g look id=executes g look' id:=by
 unfold executes
 rw[decision_congr h,wiredResults_congr h]
lemma evalStep_reads(env g mods):
 ReadsPreds (predecessorIDs g) (evalStep env g mods):=by
 intro look look' id h
 unfold evalStep
 rw[decision_congr h,wiredResults_congr h]
lemma evalStep_of_executes(env mods)
 (h:executes g look id):
 ∃ prior,wiredResults look (predecessorIDs g id)=some prior∧
  evalStep env g mods look id =
   some (stepRecord id (ranStatus env (mods id prior)) (mods id prior).1):=by
 simp only[executes,Bool.and_eq_true,Bool.not_eq_true',beq_iff_eq] at h
 obtain ⟨⟨⟨hb,hd⟩,hoff⟩,hw⟩:=h
 obtain ⟨prior,hprior⟩:=Option.isSome_iff_exists.1 hw
 refine ⟨prior,hprior,?_⟩
 simp[evalStep,hb,hd,hoff,hprior]

section Accepted

variable {g:Graph}(hg:WellFormed g)
include hg

lemma order_predsFirst{order}(ho:topologicalOrder g=some order):
 PredsFirst (predecessorIDs g) order:=by
 obtain ⟨_,_,hback⟩:=topologicalOrder_spec ho
 intro l₁ v l₂ hsplit u hu
 obtain ⟨e,he,rfl,ht⟩:=mem_predecessorIDs.1 hu
 exact hback l₁ v l₂ hsplit e he (hg.source e he) ht

variable {R:Type}{eval:(String→Option R)→String→Option R}{id:String}

lemma evalOrder_solves(hr:ReadsPreds (predecessorIDs g) eval)(hid:id∈g.nodeIDs):
 evalAlong eval ((topologicalOrder g).getD []) (fun _=>none) id =
  eval (evalAlong eval ((topologicalOrder g).getD []) fun _=>none) id:=by
 obtain ⟨order,ho⟩:=hg.sorted
 obtain ⟨hn,hmem,_⟩:=topologicalOrder_spec ho
 rw[ho,Option.getD_some]
 exact evalAlong_solves hr hn (order_predsFirst hg ho) _ ((hmem id).2 hid)
lemma evalOrder_unique(hr:ReadsPreds (predecessorIDs g) eval){f:String→Option R}
 (hf:∀ id∈g.nodeIDs,f id=eval f id)(hid:id∈g.nodeIDs):
 f id=evalAlong eval ((topologicalOrder g).getD []) (fun _=>none) id:=by
 obtain ⟨order,ho⟩:=hg.sorted
 obtain ⟨hn,hmem,_⟩:=topologicalOrder_spec ho
 rw[ho,Option.getD_some]
 exact evalAlong_unique hr hn (order_predsFirst hg ho) _ (fun v hv=>hf v ((hmem v).1 hv))
  ((hmem id).2 hid)
lemma pred_mem{id u}(hu:u∈predecessorIDs g id):u∈g.nodeIDs:=by
 obtain ⟨e,he,rfl,_⟩:=mem_predecessorIDs.1 hu
 exact hg.source e he

end Accepted
end Dazyflow.ReferenceRun
