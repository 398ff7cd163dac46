import Dazyflow.FlowGraph
import Dazyflow.KahnSort

/-!
# Acyclic and well-formed graphs

`TopologicalOrder`, `ExecutionLayers` and the rules of `Validate` that concern steps and wires.
-/
namespace Dazyflow.GraphValidation
open FlowGraph KahnSort List

def vertices(g:Graph):List String:=g.nodeIDs.dedup

def adjacency(g:Graph):List (String×String):=
 (g.edges.filter fun e=>decide (e.source∈g.nodeIDs)&&decide (e.target∈g.nodeIDs)).map
  fun e=>(e.source,e.target)

def least(a b:String):String:=if b<a then b else a

/-- `heap.Pop`: the least string, and what is left. -/
def popLeast:List String→Option (String×List String)
 | []=>none
 | x::rest=>some (rest.foldl least x,(x::rest).erase (rest.foldl least x))

def sorting(g:Graph):Sorting String:=
 takeAll (adjacency g) popLeast (vertices g).length (start (vertices g) (adjacency g))

def topologicalOrder(g:Graph):Option (List String):=
 if (sorting g).taken.length=(vertices g).length then some (sorting g).taken else none

def sortStrings(l:List String):List String:=l.insertionSort (fun a b=>¬b<a)

def layering(g:Graph):List (List String):=
 layers (adjacency g) sortStrings (vertices g).length (start (vertices g) (adjacency g)).ready
  (start (vertices g) (adjacency g)).indeg

def executionLayers(g:Graph):Option (List (List String)):=
 if (layering g).flatten.length=(vertices g).length then some (layering g) else none

inductive Problem
 | emptyID
 | duplicateID (id:String)
 | emptyModule (id:String)
 | duplicateEdge (e:Edge)
 | unknownSource (id:String)
 | unknownTarget (id:String)
 | emptyFromPort
 | emptyToPort
 | selfLoop (id:String)
 | unknownOnError (e:Edge)
 | cycle

def nodeProblems:List Node→List String→List Problem
 | [],_=>[]
 | n::rest,seen=>
  if n.id="" then .emptyID::nodeProblems rest seen
  else if n.id∈seen then .duplicateID n.id::nodeProblems rest seen
  else (if n.module="" then [.emptyModule n.id] else [])++nodeProblems rest (n.id::seen)

def samePins(e e':Edge):Bool:=
 e.source==e'.source&&e.fromPort==e'.fromPort&&e.target==e'.target&&e.toPort==e'.toPort

def edgeProblems(ids:List String):List Edge→List Edge→List Problem
 | [],_=>[]
 | e::rest,seen=>
  (if seen.any (samePins e) then [.duplicateEdge e] else []) ++
  (if e.source∈ids then [] else [.unknownSource e.source]) ++
  (if e.target∈ids then [] else [.unknownTarget e.target]) ++
  (if e.fromPort="" then [.emptyFromPort] else []) ++
  (if e.toPort="" then [.emptyToPort] else []) ++
  (if e.source=e.target then [.selfLoop e.source] else []) ++
  (if e.onError.valid then [] else [.unknownOnError e]) ++
  edgeProblems ids rest (e::seen)

def validate(g:Graph):List Problem:=
 nodeProblems g.nodes []++edgeProblems (g.nodeIDs.filter fun id=>id != "") g.edges [] ++
  if topologicalOrder g=none then [.cycle] else []

lemma foldl_least_mem(l x):l.foldl least x∈x::l:=by
 induction l generalizing x with
 | nil=>exact mem_singleton_self x
 | cons y rest ih=>
  have hmem:=ih (least x y)
  rw[foldl_cons]
  rcases mem_cons.1 hmem with h | h
  ·rw[h]
   unfold least
   split_ifs<;>simp
  ·exact mem_cons_of_mem _ (mem_cons_of_mem _ h)
lemma popLeast_perm(l x rest)
 (h:popLeast l=some (x,rest)):l.Perm (x::rest):=by
 cases l with
 | nil=>cases h
 | cons y l=>
  simp only[popLeast,Option.some.injEq,Prod.mk.injEq] at h
  obtain ⟨rfl,rfl⟩:=h
  exact perm_cons_erase (foldl_least_mem l y)
lemma mem_vertices(g id):id∈vertices g↔id∈g.nodeIDs:=mem_dedup
lemma mem_adjacency(g)(p:String×String):
 p∈adjacency g↔∃ e∈g.edges,e.source∈g.nodeIDs∧e.target∈g.nodeIDs∧
  p=(e.source,e.target):=by
 simp only[adjacency,mem_map,mem_filter,Bool.and_eq_true,decide_eq_true_eq]
 constructor
 ·rintro ⟨e,⟨he,hs,ht⟩,rfl⟩
  exact ⟨e,he,hs,ht,rfl⟩
 ·rintro ⟨e,he,hs,ht,rfl⟩
  exact ⟨e,⟨he,hs,ht⟩,rfl⟩
lemma adjacency_inside(g):∀ p∈adjacency g,p.1∈vertices g∧p.2∈vertices g:=by
 intro p hp
 obtain ⟨e,_,hs,ht,rfl⟩:=(mem_adjacency g p).1 hp
 exact ⟨(mem_vertices g _).2 hs,(mem_vertices g _).2 ht⟩
lemma sorting_sound(g):Sound (vertices g) (adjacency g) (sorting g):=
 takeAll_sound popLeast_perm (fun p hp=>(adjacency_inside g p hp).2) _
  (start_sound (nodup_dedup _))

variable {g:Graph}{order:List String}{ls:List (List String)}

lemma taken_perm{st}(h:Sound (vertices g) (adjacency g) st)
 (hl:st.taken.length=(vertices g).length):st.taken.Perm (vertices g):=by
 have hsub:∀ x∈st.taken,x∈vertices g:=fun x hx=>h.inside x (.inl hx)
 have hn:st.taken.Nodup:=(nodup_append.1 h.nodup).1
 exact (subperm_of_subset hn hsub).perm_of_length_le hl.symm.le
lemma topologicalOrder_spec(h:topologicalOrder g=some order):
 order.Nodup∧(∀ id,id∈order↔id∈g.nodeIDs)∧
  ∀ l₁ a l₂,order=l₁++a::l₂→∀ e∈g.edges,e.source∈g.nodeIDs→e.target=a→
   e.source∈l₁:=by
 unfold topologicalOrder at h
 split_ifs at h with hl
 cases h
 have hs:=sorting_sound g
 refine ⟨(nodup_append.1 hs.nodup).1,?_,?_⟩
 ·intro id
  rw[(taken_perm hs hl).mem_iff,mem_vertices]
 ·intro l₁ a l₂ hsplit e he hsrc hea
  have ha:a∈g.nodeIDs:=by
   rw[←mem_vertices]
   exact hs.inside a (.inl (hsplit▸by simp))
  exact hs.closed l₁ a l₂ hsplit (e.source,e.target)
   ((mem_adjacency g _).2 ⟨e,he,hsrc,hea▸ha,rfl⟩) hea
lemma topologicalOrder_rank(h:topologicalOrder g=some order)
 {e}(he:e∈g.edges)(hs:e.source∈g.nodeIDs)(ht:e.target∈g.nodeIDs):
 order.idxOf e.source<order.idxOf e.target:=by
 obtain ⟨hn,hmem,hback⟩:=topologicalOrder_spec h
 obtain ⟨l₁,l₂,hsplit⟩:=append_of_mem ((hmem e.target).2 ht)
 exact idxOf_lt_of_split hn hsplit (hback l₁ e.target l₂ hsplit e he hs rfl)

/-- Distinct step ids, wires between steps only, and no cycle. -/
structure WellFormed(g:Graph):Prop where
 ids:g.nodeIDs.Nodup
 named: "" ∉ g.nodeIDs
 source:∀ e∈g.edges,e.source∈g.nodeIDs
 target:∀ e∈g.edges,e.target∈g.nodeIDs
 sorted:∃ order,topologicalOrder g=some order

lemma nodeProblems_nil{nodes seen}(h:nodeProblems nodes seen=[]):
 (nodes.map Node.id).Nodup∧ "" ∉ nodes.map Node.id∧∀ id∈seen,id∉nodes.map Node.id:=by
 induction nodes generalizing seen with
 | nil=>simp
 | cons n rest ih=>
  by_cases hempty:n.id=""
  ·rw[nodeProblems,if_pos hempty] at h
   cases h
  by_cases hdup:n.id∈seen
  ·rw[nodeProblems,if_neg hempty,if_pos hdup] at h
   cases h
  rw[nodeProblems,if_neg hempty,if_neg hdup] at h
  obtain ⟨hn,he,hseen⟩:=ih (append_eq_nil_iff.1 h).2
  refine ⟨nodup_cons.2 ⟨hseen n.id mem_cons_self,hn⟩,?_,?_⟩
  ·rw[map_cons,mem_cons]
   rintro (h0 | h0)
   ·exact hempty h0.symm
   ·exact he h0
  ·intro id hid
   rw[map_cons,mem_cons]
   rintro (h0 | h0)
   ·exact hdup (h0▸hid)
   ·exact hseen id (mem_cons_of_mem _ hid) h0
lemma edgeProblems_nil{ids edges seen}
 (h:edgeProblems ids edges seen=[]):∀ e∈edges,e.source∈ids∧e.target∈ids:=by
 induction edges generalizing seen with
 | nil=>exact fun e he=>by cases he
 | cons e rest ih=>
  simp only[edgeProblems,append_eq_nil_iff,ite_eq_left_iff,cons_ne_self,
   imp_false,Decidable.not_not] at h
  obtain ⟨⟨⟨⟨⟨⟨⟨_,hs⟩,ht⟩,_⟩,_⟩,_⟩,_⟩,hrest⟩:=h
  intro e' he'
  rcases mem_cons.1 he' with rfl | he'
  ·exact ⟨hs,ht⟩
  ·exact ih hrest e' he'
lemma validate_wellFormed(h:validate g=[]):WellFormed g:=by
 simp only[validate,append_eq_nil_iff] at h
 obtain ⟨⟨hn,he⟩,ho⟩:=h
 obtain ⟨hids,hempty,_⟩:=nodeProblems_nil hn
 have hmem:∀ id,id∈g.nodeIDs.filter (fun id=>id != "")→id∈g.nodeIDs:=
  fun id hid=>(mem_filter.1 hid).1
 refine ⟨hids,hempty,fun e hm=>hmem _ (edgeProblems_nil he e hm).1,
  fun e hm=>hmem _ (edgeProblems_nil he e hm).2,?_⟩
 cases hord:topologicalOrder g with
 | none=>simp[hord] at ho
 | some order=>exact ⟨order,rfl⟩
lemma WellFormed.rank(h:WellFormed g):
 ∃ rank:String→Nat,∀ e∈g.edges,rank e.source<rank e.target:=by
 obtain ⟨order,ho⟩:=h.sorted
 exact ⟨order.idxOf,fun e he=>topologicalOrder_rank ho he (h.source e he) (h.target e he)⟩
lemma layering_spec(g):
 (∀ l₁ layer l₂,layering g=l₁++layer::l₂→∀ a∈layer,∀ p∈adjacency g,p.2=a→
  p.1∈l₁.flatten)∧
 ∃ d,Sound (vertices g) (adjacency g) ⟨(layering g).flatten,[],d⟩:=by
 have hstart:Sound (vertices g) (adjacency g)
   ⟨[],(start (vertices g) (adjacency g)).ready,(start (vertices g) (adjacency g)).indeg⟩:=
  start_sound (nodup_dedup _)
 have hin:∀ p∈adjacency g,p.2∈vertices g:=fun p hp=>(adjacency_inside g p hp).2
 have harr:∀ l,(sortStrings l).Perm l:=fun l=>perm_insertionSort _ l
 obtain ⟨hback,ready,d,hs,hr⟩:=layers_sound harr hin (vertices g).length hstart
 simp only[nil_append] at hback hs
 refine ⟨hback,d,?_⟩
 rw[←hr (by simp)]
 exact hs
lemma executionLayers_spec(h:executionLayers g=some ls):
 ls.flatten.Nodup∧(∀ id,id∈ls.flatten↔id∈g.nodeIDs)∧
  ∀ l₁ layer l₂,ls=l₁++layer::l₂→∀ a∈layer,∀ e∈g.edges,e.source∈g.nodeIDs→
   e.target=a→e.source∈l₁.flatten:=by
 unfold executionLayers at h
 split_ifs at h with hl
 cases h
 obtain ⟨hback,d,hs⟩:=layering_spec g
 have hn:(layering g).flatten.Nodup:=(nodup_append.1 hs.nodup).1
 have hperm:=taken_perm hs hl
 refine ⟨hn,fun id=>by rw[←mem_vertices]; exact hperm.mem_iff,?_⟩
 intro l₁ layer l₂ hsplit a ha e he hsrc hea
 have hav:a∈g.nodeIDs:=by
  rw[←mem_vertices,←hperm.mem_iff,hsplit]
  simp[ha]
 exact hback l₁ layer l₂ hsplit a ha (e.source,e.target)
  ((mem_adjacency g _).2 ⟨e,he,hsrc,hea▸hav,rfl⟩) hea
lemma popLeast_none(l)(h:popLeast l=none):l=[]:=by
 cases l with
 | nil=>rfl
 | cons x rest=>cases h
lemma foldl_least_le(l x):∀ y∈x::l,l.foldl least x ≤ y:=by
 have hmin:∀ a b,least a b ≤ a∧least a b ≤ b:=by
  intro a b
  unfold least
  split_ifs with hba
  ·exact ⟨le_of_lt hba,le_refl b⟩
  ·exact ⟨le_refl a,not_lt.1 hba⟩
 induction l generalizing x with
 | nil=>simp
 | cons z rest ih=>
  have hhead:rest.foldl least (least x z) ≤ least x z:=ih (least x z) _ mem_cons_self
  intro y hy
  rw[foldl_cons]
  rcases mem_cons.1 hy with rfl | hy
  ·exact hhead.trans (hmin y z).1
  ·rcases mem_cons.1 hy with rfl | hy
   ·exact hhead.trans (hmin x y).2
   ·exact ih (least x z) y (mem_cons_of_mem _ hy)
lemma popLeast_least(l x rest)(h:popLeast l=some (x,rest)):
 ∀ y∈l,x=y∨x<y:=by
 cases l with
 | nil=>cases h
 | cons z l=>
  cases h
  exact fun y hy=>eq_or_lt_of_le (foldl_least_le l z y hy)
lemma sorting_ready(g):(sorting g).ready=[]:=
 takeAll_ready popLeast_perm (fun p hp=>(adjacency_inside g p hp).2) popLeast_none _
  (start_sound (nodup_dedup _)) (by simp[start])
lemma length_taken_iff{st}(h:Sound (vertices g) (adjacency g) st)
 (hr:st.ready=[]):st.taken.length=(vertices g).length↔Acyclic (adjacency g):=by
 constructor
 ·intro hl
  exact h.acyclic fun e he=>(taken_perm h hl).mem_iff.2 (adjacency_inside g e he).2
 ·intro hac
  have hall:=h.complete hac (adjacency_inside g) hr
  have hle:(vertices g).length ≤ st.taken.length:=
   (subperm_of_subset (nodup_dedup _) hall).length_le
  have hge:=h.taken_le
  omega
lemma topologicalOrder_none_iff(g):topologicalOrder g=none↔¬Acyclic (adjacency g):=by
 rw[topologicalOrder,←length_taken_iff (sorting_sound g) (sorting_ready g)]
 simp only[ite_eq_right_iff,reduceCtorEq,imp_false]
lemma executionLayers_none_iff(g):executionLayers g=none↔¬Acyclic (adjacency g):=by
 obtain ⟨_,d,hs⟩:=layering_spec g
 rw[executionLayers,←length_taken_iff hs rfl]
 simp only[ite_eq_right_iff,reduceCtorEq,imp_false]
lemma executionLayers_of_sorted
 (h:topologicalOrder g=some order):∃ ls,executionLayers g=some ls:=by
 have hac:Acyclic (adjacency g):=by
  by_contra hn
  rw[(topologicalOrder_none_iff g).2 hn] at h
  cases h
 exact Option.ne_none_iff_exists'.1 fun hn=>(executionLayers_none_iff g).1 hn hac

/-- Every step once, and every wire between steps forward. -/
def ForwardOrder(g:Graph)(order:List String):Prop:=
 order.Nodup∧(∀ id,id∈order↔id∈g.nodeIDs)∧
  ∀ e∈g.edges,e.source∈g.nodeIDs→e.target∈g.nodeIDs → order.idxOf e.source<order.idxOf e.target

lemma ForwardOrder.completes(h:ForwardOrder g order):
  Completes (vertices g) (adjacency g) [] order where
 nodup:=h.1
 mem x:=(h.2.1 x).trans (mem_vertices g x).symm
 forward:=by
  intro l₁ a l₂ hl p hp hpa
  obtain ⟨e,he,hs,ht,rfl⟩:=(mem_adjacency g p).1 hp
  have hlt:=h.2.2 e he hs ht
  rw[show e.target=a from hpa,hl] at hlt
  have ha:a∉l₁:=fun ha=>(nodup_append.1 (hl▸h.1)).2.2 a ha a mem_cons_self rfl
  rw[idxOf_append_of_notMem ha,idxOf_cons_self,Nat.add_zero] at hlt
  by_contra hn
  rw[nil_append] at hn
  rw[idxOf_append_of_notMem hn] at hlt
  omega
lemma topologicalOrder_least(h:topologicalOrder g=some order):
 ForwardOrder g order∧∀ other,ForwardOrder g other → order=other∨order<other:=by
 obtain ⟨hn,hmem,_⟩:=topologicalOrder_spec h
 refine ⟨⟨hn,hmem,fun e he hs ht=>topologicalOrder_rank h he hs ht⟩,fun other ho=>?_⟩
 have hlen:other.length≤(vertices g).length:=
  (subperm_of_subset ho.1 fun x hx=>(mem_vertices g x).2 ((ho.2.1 x).1 hx)).length_le
 obtain ⟨l,hl,hor⟩:=takeAll_least popLeast_perm popLeast_none popLeast_least
  (fun p hp=>(adjacency_inside g p hp).2) _ (start_sound (nodup_dedup _)) ho.completes hlen
 unfold topologicalOrder at h
 split_ifs at h
 cases h
 rwa[sorting,hl]
lemma earlier_source{k:Nat}{layer:List String}(hk:(layering g)[k]? = some layer)
 {a b:String}(hb:b∈layer)(hab:Wired (adjacency g) a b):
 ∃ j before,j<k∧(layering g)[j]? = some before∧a∈before:=by
 obtain ⟨hlt,hget⟩:=List.getElem?_eq_some_iff.1 hk
 have hsplit:layering g=(layering g).take k++layer::(layering g).drop (k+1):=by
  rw[←hget,cons_getElem_drop_succ,take_append_drop]
 obtain ⟨before,hbefore,ha⟩:=mem_flatten.1 ((layering_spec g).1 _ layer _ hsplit b hb (a,b) hab rfl)
 obtain ⟨j,hj⟩:=mem_iff_getElem?.1 hbefore
 rw[getElem?_take] at hj
 split_ifs at hj with hjk
 exact ⟨j,before,hjk,hj,ha⟩
lemma le_depth{n:Nat}{x:String}(h:PathTo (vertices g) (adjacency g) n x):
 ∀ k layer,(layering g)[k]? = some layer→x∈layer → n ≤ k:=by
 induction h with
 | start=>exact fun k _ _ _=>Nat.zero_le k
 | wire _ hxy ih=>
  intro k layer hk hy
  obtain ⟨j,before,hjk,hj,hx⟩:=earlier_source hk hy hxy
  have:=ih j before hj hx
  omega
lemma path_of_layer{k layer}(hk:(layering g)[k]? = some layer){x}
 (hx:x∈layer):PathTo (vertices g) (adjacency g) k x:=by
 induction k generalizing layer x with
 | zero=>
  obtain ⟨_,d,hs⟩:=layering_spec g
  exact .start (hs.inside x (.inl (mem_flatten.2 ⟨layer,mem_of_getElem? hk,hx⟩)))
 | succ k ih=>
  obtain ⟨before,hb,y,hy,hyx⟩:=source_of_layer (fun l=>perm_insertionSort _ l) hk hx
  exact .wire (ih hb hy) hyx
lemma mem_layer_iff(h:executionLayers g=some ls)(k x):
 x∈ls.getD k []↔x∈g.nodeIDs∧Longest (vertices g) (adjacency g) k x:=by
 have hmem:=(executionLayers_spec h).2.1 x
 unfold executionLayers at h
 split_ifs at h
 cases h
 have hdepth:∀ j layer,(layering g)[j]? = some layer→x∈layer→Longest (vertices g) (adjacency g) j x:=
  fun j layer hj hx=>⟨path_of_layer hj hx,fun n hn=>le_depth hn j layer hj hx⟩
 constructor
 ·intro hx
  cases hk:(layering g)[k]? with
  | none=>simp[hk] at hx
  | some layer=>
   rw[getD_eq_getElem?_getD,hk,Option.getD_some] at hx
   exact ⟨hmem.1 (mem_flatten.2 ⟨layer,mem_of_getElem? hk,hx⟩),hdepth k layer hk hx⟩
 ·rintro ⟨hid,hlong⟩
  obtain ⟨layer,hlayer,hx⟩:=mem_flatten.1 (hmem.2 hid)
  obtain ⟨j,hj⟩:=mem_iff_getElem?.1 hlayer
  have hjx:=hdepth j layer hj hx
  have hjk:j=k:=Nat.le_antisymm (hlong.2 j hjx.1) (hjx.2 k hlong.1)
  rw[←hjk,getD_eq_getElem?_getD,hj,Option.getD_some]
  exact hx
lemma layers_sorted(h:executionLayers g=some ls):
 ∀ layer∈ls,layer.Pairwise (fun a b=>a < b):=by
 intro layer hl
 have hn:layer.Nodup:=(nodup_flatten.1 (executionLayers_spec h).1).1 layer hl
 unfold executionLayers at h
 split_ifs at h
 cases h
 obtain ⟨l,rfl⟩:=arranged_of_layers hl
 exact (pairwise_insertionSort (fun a b:String=>a ≤ b) l).imp₂ (fun _ _=>lt_of_le_of_ne) hn

theorem orders_and_layers(g:Graph):
 (topologicalOrder g=none↔∃ x,Relation.TransGen (Wired (adjacency g)) x x)∧
 (executionLayers g=none↔∃ x,Relation.TransGen (Wired (adjacency g)) x x)∧
 (∀ order,topologicalOrder g=some order→
  ForwardOrder g order∧∀ other,ForwardOrder g other → order=other∨order<other)∧
 ∀ ls,executionLayers g=some ls→(∀ layer∈ls,layer.Pairwise fun a b=>a < b)∧
  ∀ k x,x∈ls.getD k []↔x∈g.nodeIDs∧Longest (vertices g) (adjacency g) k x:=by
 have hcycle:¬Acyclic (adjacency g)↔∃ x,Relation.TransGen (Wired (adjacency g)) x x:=by simp[Acyclic]
 exact ⟨(topologicalOrder_none_iff g).trans hcycle,(executionLayers_none_iff g).trans hcycle,
  fun _ h=>topologicalOrder_least h,fun _ h=>⟨layers_sorted h,mem_layer_iff h⟩⟩

end Dazyflow.GraphValidation
