import Mathlib

/-!
# Flow graphs

Steps and wires of a flow as the run path reads them.
-/
namespace Dazyflow.FlowGraph

/-- `on_error` of a wire. A value the constants do not name is kept as `other`:
 the dispatcher's switches send it to their default branch. -/
inductive OnError
 | unset | abort | skip | retry | fallback
 | other (text:String)
 deriving DecidableEq

def OnError.valid:OnError→Bool
 | .other _=>false
 | _=>true

/-- The control pin: wiring it means "run after this step". -/
def passPort:String:= "pass"

structure Node where
 (id module:String)
 breakpoint:Bool:=false
 disabled:Bool:=false
 continueOnError:Bool:=false
 upstreamRefs:List String:=[]
 triggerRef:Bool:=false
 deriving DecidableEq

structure Edge where
 (source fromPort target toPort:String)
 onError:OnError:=.unset
 deriving DecidableEq

structure Graph where
 (id tenant workspace:String)
 nodes:List Node
 edges:List Edge
 deriving DecidableEq

namespace Graph

def node(g:Graph)(id:String):Option Node:=g.nodes.find? (fun n=>n.id==id)

def nodeIDs(g:Graph):List String:=g.nodes.map Node.id

def incoming(g:Graph)(id:String):List Edge:=g.edges.filter (fun e=>e.target==id)

def outgoing(g:Graph)(id:String):List String:=
 ((g.edges.filter fun e=>e.source==id).map Edge.target).eraseDups

lemma mem_incoming(g:Graph)(id:String)(e:Edge):
 e∈g.incoming id↔e∈g.edges∧e.target=id:=by
 simp[incoming]
lemma mem_outgoing(g:Graph)(id t:String):
 t∈g.outgoing id↔∃ e∈g.edges,e.source=id∧e.target=t:=by
 simp[outgoing,List.mem_eraseDups,and_assoc]
lemma node_isSome(g:Graph)(id:String):(g.node id).isSome↔id∈g.nodeIDs:=by
 simp[node,nodeIDs,List.find?_isSome]

end Graph
end Dazyflow.FlowGraph
