import Dazyflow.QueueSearch
import Dazyflow.ReferenceRun

/-!
# Running a flow up to a step

`UpstreamSubset` keeps what a step needs; what the dispatcher decides for a step rests on that alone.
-/
namespace Dazyflow.UpstreamRuns
open FlowGraph JobRecords EdgeClassification LoopBodies ReferenceRun KahnSort QueueSearch Relation List

def predecessors(g:Graph)(id:String):List String:=(g.incoming id).map Edge.source

def upstreamIDs(g:Graph)(target:String):List String:=search (predecessors g) (g.edges.length+1) [] [target]

def subset(g:Graph)(keep:List String):Graph:=
 {g with nodes:=g.nodes.filter (fun n=>n.id∈keep),edges:=g.edges.filter fun e=>e.source∈keep∧e.target∈keep}

def upstreamSubset(g:Graph)(target:String):Option Graph:=
 if (g.node target).isNone then none else some (subset g (upstreamIDs g target))

/-- Records of all steps by the wires of the graph: a step runs on the records of its predecessors or is skipped. -/
structure Evaluates(skip:String→JobRecord)(run:String→List (Option JobRecord)→Option JobRecord)(g:Graph)
 (look:String→Option JobRecord):Prop where
 step:∀ id∈g.nodeIDs,look id=match decision g look id with
  | .waiting=>none
  | .skipped=>some (skip id)
  | .enqueue=>run id ((predecessors g id).map look)
 absent:∀ id∉g.nodeIDs,look id=none

variable {g:Graph}{target:String}

lemma mem_predecessors{x y}:x∈predecessors g y↔Wired (wires g) x y:=by
 simp[predecessors,Wired,wires,Graph.mem_incoming]
 grind

lemma mem_upstreamIDs{x}:x∈upstreamIDs g target↔ReflTransGen (Wired (wires g)) x target:=by
 unfold upstreamIDs
 rw[mem_search (target::g.edges.map Edge.source) (by simp) (by simp) (fun y z hz=>?_) (by simp) (by simp)]
 ·simp only[nil_append,mem_singleton,exists_eq_left,mem_predecessors]
  exact reflTransGen_swap
 ·obtain ⟨e,he,rfl⟩:=mem_map.1 hz
  exact mem_cons_of_mem _ (mem_map_of_mem ((Graph.mem_incoming g y e).1 he).1)

lemma incoming_subset{keep id}(hid:id∈keep)(hkeep:∀ x,Wired (wires g) x id→x∈keep):
 (subset g keep).incoming id=g.incoming id:=by
 unfold subset Graph.incoming
 rw[filter_filter]
 refine filter_congr fun e he=>?_
 by_cases ht:e.target=id
 ·have:=hkeep e.source (mem_map.2 ⟨e,he,by rw[ht]⟩)
  simp[ht,hid,this]
 ·simp[ht]

/-- Two steps in a row and one beside them. -/
def row:Graph:=⟨"g","t","w",[{id:="a",module:="m"},{id:="b",module:="m"},{id:="c",module:="m"}],[⟨"a","out","b","in",.unset⟩]⟩

def ran(ids:List String)(id:String):Option JobRecord:=
 if id∈ids then some {id,status:=.succeeded,result:=some {output:=[("out",{})]}} else none

lemma row_acyclic:Acyclic (wires row):=by
 intro x hx
 have hw{u v}(h:Wired (wires row) u v):u="a"∧v="b":=by simpa[Wired,wires,row] using h
 obtain ⟨_,hout,-⟩:=TransGen.head'_iff.1 hx
 obtain ⟨_,-,hin⟩:=TransGen.tail'_iff.1 hx
 exact absurd ((hw hout).1.symm.trans (hw hin).2) (by decide)

end Dazyflow.UpstreamRuns
