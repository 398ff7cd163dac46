import Dazyflow.Operations
import Dazyflow.ReferenceRun

/-!
# The in-process engine

`Engine.Run` executes a graph layer by layer, as it does for the body of a loop.
-/
namespace Dazyflow.EngineRun
open FlowGraph JobRecords EdgeClassification LoopBodies GraphValidation Daemon DagEvaluation ReferenceRun List Prod

structure GraphResult where
 graphID:String
 status:ResultStatus
 nodes:List (String×Result):=[]
 error:Option JobError:=none

/-- What `AssembleInput` finds in the results so far. -/
def engineInputs(g:Graph)(results:List (String×Result))(id:String):List (String×Result):=
 (predecessorIDs g id).filterMap (fun u=>(results.lookup u).map fun r=>(u,r))

def slotError(id:String)(out:Result×Option String):Option String:=
 match out.2 with
 | some err=>some ("node "++quoted id++": "++err)
 | none=>
  if out.1.status=.error then
   some ("node "++quoted id++": "++((out.1.error.map JobError.message).getD "unknown"))
  else none

def runLayer(g:Graph)(mods:Modules)(layer:List String)(results:List (String×Result)):
 List (String×Result)×Option String:=
 (results++layer.map (fun id=>(id,(mods id (engineInputs g results id)).1)),
  layer.findSome? fun id=>slotError id (mods id (engineInputs g results id)))

def runLayers(g:Graph)(mods:Modules):
 List (List String)→List (String×Result)→List (String×Result)×Option String
 | [],results=>(results,none)
 | layer::rest,results=>
  match runLayer g mods layer results with
  | (results',some err)=>(results',some err)
  | (results',none)=>runLayers g mods rest results'

/-- `Engine.Run`; `manifestProblem` is what the manifests add to `Validate`. -/
def engineRun(manifestProblem:Graph→Option String)(g:Graph)(mods:Modules):GraphResult:=
 if validate g≠[] then
  {graphID:=g.id,status:=.error,error:=some {code:="invalid_graph",message:="" } }
 else match manifestProblem g with
  | some msg=>{graphID:=g.id,status:=.error,error:=some {code:="invalid_graph",message:=msg} }
  | none=>
   match executionLayers g with
   | none=>
    {graphID:=g.id,status:=.error,error:=some {code:="invalid_graph",message:="cycle" } }
   | some ls=>
    match runLayers g mods ls [] with
    | (results,some err)=>
     { graphID:=g.id,status:=.error,nodes:=results
       error:=some {code:="node_failed",message:=err} }
    | (results,none)=>{graphID:=g.id,status:=.ok,nodes:=results}

section Outcomes

variable (g:Graph)(mods:Modules)

/-- What the modules return when every step is executed, each on the results of its predecessors. -/
def outcomes:String→Option (Result×Option String):=
 evalAlong (fun look id=>
   some (mods id ((predecessorIDs g id).filterMap fun u=>(look u).map fun out=>(u,out.1))))
  ((topologicalOrder g).getD []) (fun _=>none)

def fails(id:String):Bool:=(outcomes g mods id).any fun out=>(slotError id out).isSome

/-- A step of an earlier layer fails. -/
def behind(id:String):Bool:=
 (((executionLayers g).getD []).takeWhile fun layer=>id∉layer).flatten.any (fails g mods)

variable {g mods}{id:String}{results:List (String×Result)}

lemma outcomes_eq(hg:WellFormed g)(hid:id∈g.nodeIDs):outcomes g mods id =
 some (mods id ((predecessorIDs g id).filterMap fun u=>(outcomes g mods u).map fun out=>(u,out.1))):=by
 refine evalOrder_solves hg (fun look look' v h=>?_) hid
 rw[filterMap_congr fun u hu=>by rw[h u hu]]
lemma outcomes_of_results(hg:WellFormed g)(hid:id∈g.nodeIDs)
 (h:∀ u∈predecessorIDs g id,results.lookup u=(outcomes g mods u).map fst):
 outcomes g mods id=some (mods id (engineInputs g results id)):=by
 rw[outcomes_eq hg hid,engineInputs]
 refine congrArg (fun prior=>some (mods id prior)) (filterMap_congr fun u hu=>?_)
 rw[h u hu,Option.map_map]
 rfl
lemma lookup_isSome:(results.lookup id).isSome↔id∈results.map fst:=by
 induction results with
 | nil=>simp
 | cons p rest ih=>
  rw[lookup_cons,map_cons,mem_cons]
  by_cases h:id=p.1
  ·simp[h]
  ·simp[beq_eq_false_iff_ne.2 h,ih,h]
lemma lookup_layer{layer:List String}{f:String→Result}(h:id∈layer):
 (layer.map fun id=>(id,f id)).lookup id=some (f id):=by
 induction layer with
 | nil=>cases h
 | cons a rest ih=>
  rw[map_cons,lookup_cons]
  by_cases he:id=a
  ·simp[he]
  ·rw[beq_eq_false_iff_ne.2 he]
   exact ih ((mem_cons.1 h).resolve_left he)
lemma executionLayers_pred{done layer rest}(hg:WellFormed g)(hls:executionLayers g=some (done++layer::rest))
 {u}(hid:id∈layer)(hu:u∈predecessorIDs g id):u∈done.flatten:=by
 obtain ⟨e,he,rfl,ht⟩:=mem_predecessorIDs.1 hu
 exact (executionLayers_spec hls).2.2 done layer rest rfl id hid e he (hg.source e he) ht

/-- The steps of the first layers have the results of their outcomes, and no other step has one. -/
structure Ran(g:Graph)(mods:Modules)(done:List (List String))(results:List (String×Result)):Prop where
 outcome:∀ id∈done.flatten,results.lookup id=(outcomes g mods id).map fst
 keys:∀ id,id∈results.map fst↔id∈done.flatten

lemma Ran.layer{done layer rest}(hg:WellFormed g)(hls:executionLayers g=some (done++layer::rest))
 (h:Ran g mods done results):
 Ran g mods (done++[layer]) (runLayer g mods layer results).1∧
  ((runLayer g mods layer results).2=none↔∀ id∈layer,fails g mods id=false):=by
 have hnode:∀ id∈layer,id∈g.nodeIDs:=fun id hid=>((executionLayers_spec hls).2.1 id).1 (by simp[hid])
 have hout:∀ id∈layer,outcomes g mods id=some (mods id (engineInputs g results id)):=fun id hid=>
  outcomes_of_results hg (hnode id hid) fun u hu=>h.outcome u (executionLayers_pred hg hls hid hu)
 refine ⟨⟨fun id hid=>?_,fun id=>?_⟩,?_⟩
 ·rw[runLayer,lookup_append]
  by_cases hd:id∈done.flatten
  ·obtain ⟨r,hr⟩:=Option.isSome_iff_exists.1 (lookup_isSome.2 ((h.keys id).2 hd))
   rw[←h.outcome id hd,hr,Option.some_or]
  ·have hl:id∈layer:=by simpa[hd] using hid
   have hnone:results.lookup id=none:=by
    rw[←Option.not_isSome_iff_eq_none,lookup_isSome,h.keys]
    exact hd
   rw[hnone,Option.none_or,lookup_layer hl,hout id hl]
   rfl
 ·simp[runLayer,Function.comp_def,←h.keys]
 ·simp only[runLayer,findSome?_eq_none_iff]
  refine forall₂_congr fun id hid=>?_
  simp[fails,hout id hid]
lemma runLayers_keys{done ls}(hg:WellFormed g)(hls:executionLayers g=some (done++ls))
 (h:Ran g mods done results)(id):id∈(runLayers g mods ls results).1.map fst↔id∈done.flatten∨
  id∈ls.flatten∧(ls.takeWhile fun layer=>id∉layer).flatten.any (fails g mods)=false:=by
 induction ls generalizing done results with
 | nil=>simpa[runLayers] using h.keys id
 | cons layer rest ih=>
  obtain ⟨hran,herr⟩:=h.layer hg hls
  have hih:=ih (by simpa using hls) hran
  have hkeys:=hran.keys id
  rw[runLayers]
  generalize runLayer g mods layer results=ran at hih hkeys herr
  obtain ⟨results',err⟩:=ran
  cases err with
  | none=>
   have hquiet:layer.any (fails g mods)=false:=by simpa using herr.1 rfl
   by_cases hl:id∈layer<;>simp_all
  | some e=>
   have hloud:layer.any (fails g mods)=true:=by simpa using herr
   by_cases hl:id∈layer<;>simp_all
lemma mem_nodes{manifestProblem}(hv:validate g=[])(hm:manifestProblem g=none):
 id∈(engineRun manifestProblem g mods).nodes.map fst↔id∈g.nodeIDs∧behind g mods id=false:=by
 have hg:=validate_wellFormed hv
 obtain ⟨order,ho⟩:=hg.sorted
 obtain ⟨ls,hls⟩:=executionLayers_of_sorted ho
 have hnodes:(engineRun manifestProblem g mods).nodes=(runLayers g mods ls []).1:=by
  simp only[engineRun,hv,ne_eq,not_true_eq_false,if_false,hm,hls]
  cases hr:runLayers g mods ls [] with
  | mk results err=>cases err<;>rfl
 rw[hnodes,runLayers_keys hg (show executionLayers g=some ([]++ls) from hls) ⟨by simp,by simp⟩,behind,hls,(executionLayers_spec hls).2.1]
 simp
lemma split_layers{ls:List (List String)}(h:id∈ls.flatten):
 ∃ layer rest,ls=ls.takeWhile (fun layer=>id∉layer)++layer::rest∧id∈layer:=by
 induction ls with
 | nil=>cases h
 | cons layer rest ih=>
  by_cases hl:id∈layer
  ·exact ⟨layer,rest,by simp[hl],hl⟩
  ·obtain ⟨layer',rest',heq,hmem⟩:=ih (by simpa[hl] using h)
   refine ⟨layer',rest',?_,hmem⟩
   rw[takeWhile_cons_of_pos (by simpa using hl),cons_append,←heq]
lemma takeWhile_of_mem{ls more:List (List String)}{u}(h:u∈ls.flatten):
 (ls++more).takeWhile (fun layer=>u∉layer)=ls.takeWhile fun layer=>u∉layer:=by
 induction ls with
 | nil=>cases h
 | cons layer rest ih=>
  by_cases hl:u∈layer
  ·simp[hl]
  ·simpa[hl] using ih (by simpa[hl] using h)
/-- The steps the engine reaches have predecessors it reached that did not fail. -/
lemma behind_pred(hg:WellFormed g)(hid:id∈g.nodeIDs)(h:behind g mods id=false){u}(hu:u∈predecessorIDs g id):
 behind g mods u=false∧fails g mods u=false:=by
 obtain ⟨order,ho⟩:=hg.sorted
 obtain ⟨ls,hls⟩:=executionLayers_of_sorted ho
 obtain ⟨layer,rest,hsplit,hmem⟩:=split_layers (((executionLayers_spec hls).2.1 id).2 hid)
 simp only[behind,hls,Option.getD_some,any_eq_false] at h⊢
 rw[hsplit] at hls
 have hu':=executionLayers_pred hg hls hmem hu
 refine ⟨fun v hv=>h v ?_,by simpa using h u hu'⟩
 rw[hsplit,takeWhile_of_mem hu'] at hv
 exact ((takeWhile_sublist _).flatten).subset hv

end Outcomes

section Comparison

variable (env:Env)(g:Graph)(mods:Modules)

def outcomeRecord(id:String):Option JobRecord:=
 (outcomes g mods id).map fun out=>stepRecord id (ranStatus env out) out.1

/-- A step behind a failed layer has what its wires give it, the others their outcomes. -/
def settledStep(look:String→Option JobRecord)(id:String):Option JobRecord:=
 if behind g mods id then evalStep env g mods look id else outcomeRecord env g mods id

def settled:String→Option JobRecord:=
 evalAlong (settledStep env g mods) ((topologicalOrder g).getD []) (fun _=>none)

/-- The wire carries something: a port the outcome has, or the pass of a step that is over. -/
def Takes(out:Result×Option String)(e:Edge):Prop:=
 ranStatus env out=.succeeded∧e.onError≠.fallback∧(e.fromPort=passPort∨(out.1.port e.fromPort).isSome)∨
 ranStatus env out=.awaiting∧e.fromPort≠passPort∧(out.1.port e.fromPort).isSome

def Spare(out:Result×Option String)(e:Edge):Prop:=ranStatus env out=.succeeded∧e.onError=.fallback

/-- On the outcomes of the steps before it, a step is switched on and every wire into it carries something or
is the fallback of a success, and not all are fallbacks. -/
structure Enabled(id:String):Prop where
 free:bodyOwned g id=false
 on:isDisabled g id=false
 some:g.incoming id≠[]→∃ e∈g.incoming id,∃ out∈outcomes g mods e.source,Takes env out e
 all:∀ e∈g.incoming id,∃ out∈outcomes g mods e.source,Takes env out e∨Spare env out e

/-- Every step up to the first layer that has a failure is enabled, and the wires let no later step run. -/
structure WiresAgree:Prop where
 ahead:∀ id∈g.nodeIDs,behind g mods id=false→Enabled env g mods id
 later:∀ id∈g.nodeIDs,behind g mods id→executes g (settled env g mods) id=false

variable {env g mods}{id:String}

lemma settledStep_reads:ReadsPreds (predecessorIDs g) (settledStep env g mods):=by
 intro look look' id h
 unfold settledStep
 rw[evalStep_reads env g mods look look' id h]
variable (env) in
lemma ranStatus_of_fails{out}(hout:outcomes g mods id=some out)(h:fails g mods id=false):
 ranStatus env out≠.failed∧ranStatus env out≠.skipped:=by
 have hslot:slotError id out=none:=by simpa[fails,hout] using h
 unfold slotError at hslot
 unfold ranStatus
 cases herr:out.2 with
 | some err=>simp[herr] at hslot
 | none=>
  simp only[herr,ite_eq_right_iff,reduceCtorEq,imp_false] at hslot
  split_ifs<;>simp_all
variable (mods) in
lemma wiredResults_outcomes{look}(hg:WellFormed g)(ids)
 (hlook:∀ u∈ids,u∈g.nodeIDs∧fails g mods u=false∧look u=outcomeRecord env g mods u):
 wiredResults look ids=some (ids.filterMap fun u=>(outcomes g mods u).map fun out=>(u,out.1)):=by
 induction ids with
 | nil=>rfl
 | cons u rest ih=>
  obtain ⟨hu,hok,hrec⟩:=hlook u mem_cons_self
  have hout:outcomes g mods u=_:=outcomes_eq hg hu
  have hstatus:=ranStatus_of_fails env hout hok
  rw[outcomeRecord,hout] at hrec
  rw[filterMap_cons,hout]
  simp[wiredResults,hrec,stepRecord,hstatus,ih fun v hv=>hlook v (mem_cons_of_mem _ hv)]
lemma evalStep_outcome{look}(hg:WellFormed g)(hid:id∈g.nodeIDs)(h:behind g mods id=false)
 (hlook:∀ u∈predecessorIDs g id,look u=outcomeRecord env g mods u)(hex:executes g look id):
 evalStep env g mods look id=outcomeRecord env g mods id:=by
 obtain ⟨prior,hprior,heval⟩:=evalStep_of_executes env mods hex
 have hw:=wiredResults_outcomes mods hg (predecessorIDs g id)
  fun u hu=>⟨pred_mem hg hu,(behind_pred hg hid h hu).2,hlook u hu⟩
 rw[hw] at hprior
 cases hprior
 rw[heval,outcomeRecord,outcomes_eq hg hid]
 rfl
lemma settled_eq(hg:WellFormed g)(hid:id∈g.nodeIDs):
 settled env g mods id=settledStep env g mods (settled env g mods) id:=
 evalOrder_solves hg settledStep_reads hid
variable (env) in
lemma settled_pred(hg:WellFormed g)(hid:id∈g.nodeIDs)(h:behind g mods id=false){u}(hu:u∈predecessorIDs g id):
 settled env g mods u=outcomeRecord env g mods u:=by
 rw[settled_eq hg (pred_mem hg hu),settledStep,(behind_pred hg hid h hu).1]
 rfl
lemma reading_outcome{look e}(hlook:look e.source=outcomeRecord env g mods e.source)
 (hok:fails g mods e.source=false):
 (reading look e=some .active↔∃ out∈outcomes g mods e.source,Takes env out e)∧
 (reading look e=some .dormant↔∃ out∈outcomes g mods e.source,Spare env out e):=by
 rw[reading,hlook,outcomeRecord]
 cases hout:outcomes g mods e.source with
 | none=>simp
 | some out=>
  obtain ⟨hfail,hskip⟩:=ranStatus_of_fails env hout hok
  simp only[Option.map_some,Option.bind_some,Option.mem_some_iff,exists_eq_left',Takes,Spare]
  cases hs:ranStatus env out<;>
   simp_all[readWire,classifyEdge,stepRecord,emits,isTerminalStatus]<;>grind
lemma executes_iff_enabled(hg:WellFormed g)(hid:id∈g.nodeIDs)(h:behind g mods id=false):
 executes g (settled env g mods) id↔Enabled env g mods id:=by
 have hwired:=wiredResults_outcomes mods hg (predecessorIDs g id)
  fun u hu=>⟨pred_mem hg hu,(behind_pred hg hid h hu).2,settled_pred env hg hid h hu⟩
 have hread:∀ e∈g.incoming id,_:=fun e he=>
  have hu:=mem_predecessorIDs.2 ⟨e,((Graph.mem_incoming g id e).1 he).1,rfl,((Graph.mem_incoming g id e).1 he).2⟩
  reading_outcome (e:=e) (settled_pred env hg hid h hu) (behind_pred hg hid h hu).2
 have hrun:analyzeEdges (settled env g mods) (g.incoming id) {}=.enqueue↔_:=(analyzeEdges_reading {}).2
 simp only[executes,Bool.and_eq_true,Bool.not_eq_true',beq_iff_eq,hwired,Option.isSome_some,and_true]
 have hdec:decision g (settled env g mods) id=.enqueue↔
   (g.incoming id≠[]→∃ e∈g.incoming id,∃ out∈outcomes g mods e.source,Takes env out e)∧
   ∀ e∈g.incoming id,∃ out∈outcomes g mods e.source,Takes env out e∨Spare env out e:=by
  unfold decision analyzeDependent
  split_ifs with hnone
  ·simp[hnone]
  ·rw[hrun]
   simp only[ne_eq,hnone,not_false_eq_true,forall_const,Bool.false_eq_true,false_or,true_and]
   refine and_congr (exists_congr fun e=>and_congr_right fun he=>(hread e he).1) (forall₂_congr fun e he=>?_)
   rw[(hread e he).1,(hread e he).2]
   grind
 rw[hdec]
 constructor
 ·rintro ⟨⟨hb,hs,ha⟩,hd⟩
  exact ⟨hb,hd,hs,ha⟩
 ·rintro ⟨hb,hd,hs,ha⟩
  exact ⟨⟨hb,hs,ha⟩,hd⟩

lemma reference_eq(hg:WellFormed g)(hid:id∈g.nodeIDs):
 reference env g mods id=evalStep env g mods (reference env g mods) id:=
 evalOrder_solves hg (evalStep_reads env g mods) hid
/-- Where the dispatcher runs what the engine reaches, these steps have their outcomes. -/
lemma reference_outcome(hg:WellFormed g)
 (hrun:∀ id∈g.nodeIDs,behind g mods id=false→executes g (reference env g mods) id)
 (hid:id∈g.nodeIDs)(hb:behind g mods id=false):reference env g mods id=outcomeRecord env g mods id:=by
 obtain ⟨rank,hrank⟩:=hg.rank
 induction hn:rank id using Nat.strongRecOn generalizing id with
 | ind n ih=>
  rw[reference_eq hg hid]
  refine evalStep_outcome hg hid hb (fun u hu=>?_) (hrun id hid hb)
  obtain ⟨e,he,hs,ht⟩:=mem_predecessorIDs.1 hu
  have hlt:rank u<n:=by
   rw[←hn,←hs,←ht]
   exact hrank e he
  exact ih (rank u) hlt (pred_mem hg hu) (behind_pred hg hid hb hu).1 rfl

end Comparison

def routerModules:Modules:=fun id _=>
 (if id="if" then {status:=.ok,output:=[("true",{})]} else {status:=.ok},none)

end Dazyflow.EngineRun
