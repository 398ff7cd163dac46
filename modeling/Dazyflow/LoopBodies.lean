import Dazyflow.FlowGraph
import Dazyflow.KahnSort

/-!
# Loop bodies

The steps behind a `for_each`'s `body` pin belong to the loop: they run once per item under it and hold no
record of their own in the run.
-/
namespace Dazyflow.LoopBodies
open FlowGraph KahnSort List
open Relation (ReflTransGen TransGen)

abbrev Owners:=List (String×String)

def owned(o:Owners)(id:String):Bool:=(o.lookup id).isSome

/-- The module of a step; the last one drawn when an id is used twice. -/
def moduleOf(g:Graph)(id:String):String:=
 match g.nodes.reverse.find? (fun n=>n.id==id) with
 | some n=>n.module
 | none=>""

def outEdges(g:Graph)(id:String):List String:=
 (g.edges.filter fun e=>e.source==id).map Edge.target

/-- The search from one `body` pin; the head of the list is the top of the stack. -/
def visit(g:Graph)(forEach:String):Nat→List String→Owners→Owners
 | 0,_,o=>o
 | _+1,[],o=>o
 | fuel+1,n::stack,o=>
  if n=forEach then visit g forEach fuel stack o
  else if owned o n then visit g forEach fuel stack o
  else visit g forEach fuel ((outEdges g n).reverse++stack) ((n,forEach)::o)

def bodyPin(g:Graph)(e:Edge):Bool:=e.fromPort== "body"&&moduleOf g e.source== "for_each"

def loopBodyOwners(g:Graph):Owners:=
 g.edges.foldl
  (fun o e=>if bodyPin g e then visit g e.source (g.edges.length+1) [e.target] o else o) []

def bodyOwned(g:Graph)(id:String):Bool:=owned (loopBodyOwners g) id

/-- The first `for_each` inside another one's body, with that outer loop. -/
def validateLoopBodies(g:Graph):Option (String×String):=
 g.nodes.findSome? (fun n=>
  if n.module="for_each" then ((loopBodyOwners g).lookup n.id).map (fun outer=>(n.id,outer))
  else none)

lemma owned_cons(n f o id):
 owned ((n,f)::o) id=(id==n||owned o id):=by
 simp only[owned,lookup_cons]
 cases h:id==n<;>simp

def pending(g:Graph)(o:Owners):Nat:=g.edges.countP (fun e=>!owned o e.source)

lemma pending_cons(g n f o)(hn:owned o n=false):
 pending g ((n,f)::o)+(outEdges g n).length=pending g o:=by
 simp only[pending,outEdges,length_map]
 rw[←countP_eq_length_filter]
 induction g.edges with
 | nil=>rfl
 | cons e rest ih=>
  simp only[countP_cons,owned_cons] at ih ⊢
  by_cases he:e.source=n
  ·subst he
   simp only[beq_self_eq_true,Bool.true_or,Bool.not_true,hn]
   simp only[Bool.false_eq_true,if_false,if_true,Bool.not_false]
   omega
  ·have hb:(e.source==n)=false:=by simpa using he
   simp only[hb,Bool.false_or,Bool.false_eq_true,if_false]
   omega

def wires(g:Graph):List (String×String):=g.edges.map (fun e=>(e.source,e.target))

/-- Each wire out of an owned step leads to an owned step or to one on the stack. -/
def Frontier(g:Graph)(o:Owners)(stack:List String):Prop:=
 ∀ n t,owned o n→t∈outEdges g n→ owned o t∨t∈stack

variable {g:Graph}

lemma mem_outEdges{n t}:t∈outEdges g n↔Wired (wires g) n t:=by
 simp[outEdges,Wired,wires,and_assoc]

/-- The search owns what was owned before and what the stack reaches. -/
lemma visit_spec(hacyclic:Acyclic (wires g)){f fuel stack o}(hfuel:stack.length+pending g o ≤ fuel)
 (hbehind:∀ n∈stack,TransGen (Wired (wires g)) f n)(hfront:Frontier g o stack):
 Frontier g (visit g f fuel stack o) []∧
 (∀ n,owned o n∨n∈stack→ owned (visit g f fuel stack o) n)∧
 ∀ n,owned (visit g f fuel stack o) n →
  owned o n∨∃ m∈stack,ReflTransGen (Wired (wires g)) m n:=by
 induction fuel generalizing stack o with
 | zero=>
  have hs:stack=[]:=length_eq_zero_iff.1 (by omega)
  subst hs
  exact ⟨hfront,fun n h=>h.elim (fun h=>h) nofun,fun n h=>.inl h⟩
 | succ fuel ih=>
  cases stack with
  | nil=>exact ⟨hfront,fun n h=>h.elim (fun h=>h) nofun,fun n h=>.inl h⟩
  | cons n stack=>?_
  rw[length_cons] at hfuel
  have hn:n≠f:=by
   rintro rfl
   exact hacyclic n (hbehind n mem_cons_self)
  have hrest:∀ m∈stack,TransGen (Wired (wires g)) f m:=fun m hm=>hbehind m (mem_cons_of_mem _ hm)
  rw[visit,if_neg hn]
  split_ifs with ho
  ·have hfront':Frontier g o stack:=by
    intro m t hm ht
    have hmt:=hfront m t hm ht
    grind
   obtain ⟨hclosed,hkept,hfrom⟩:=ih (by omega) hrest hfront'
   refine ⟨hclosed,fun m hm=>hkept m ?_,fun m hm=>(hfrom m hm).imp_right ?_⟩
   ·grind
   ·exact fun ⟨x,hx,hp⟩=>⟨x,mem_cons_of_mem _ hx,hp⟩
  ·have hpend:=pending_cons g n f o (by simpa using ho)
   have hpushed:∀ m∈(outEdges g n).reverse++stack,TransGen (Wired (wires g)) f m:=by
    intro m hm
    rcases mem_append.1 hm with hm | hm
    ·exact (hbehind n mem_cons_self).tail (mem_outEdges.1 (mem_reverse.1 hm))
    ·exact hrest m hm
   have hfront':Frontier g ((n,f)::o) ((outEdges g n).reverse++stack):=by
    intro m t hm ht
    simp only[owned_cons,Bool.or_eq_true,beq_iff_eq] at hm⊢
    rcases hm with rfl | hm
    ·exact .inr (mem_append_left _ (mem_reverse.2 ht))
    ·have hmt:=hfront m t hm ht
     grind
   obtain ⟨hclosed,hkept,hfrom⟩:=ih (by simp only[length_append,length_reverse]; omega) hpushed hfront'
   refine ⟨hclosed,fun m hm=>hkept m ?_,fun m hm=>?_⟩
   ·simp only[owned_cons,Bool.or_eq_true,beq_iff_eq]
    grind
   ·rcases hfrom m hm with h | ⟨x,hx,hp⟩
    ·rw[owned_cons,Bool.or_eq_true,beq_iff_eq] at h
     exact h.elim (fun h=>.inr ⟨n,mem_cons_self,h▸.refl⟩) .inl
    ·rcases mem_append.1 hx with hx | hx
     ·exact .inr ⟨n,mem_cons_self,hp.head (mem_outEdges.1 (mem_reverse.1 hx))⟩
     ·exact .inr ⟨x,mem_cons_of_mem _ hx,hp⟩

/-- In an acyclic graph exactly the steps behind a `body` pin are owned. -/
lemma owned_iff(hacyclic:Acyclic (wires g)){id}:bodyOwned g id↔
 ∃ e∈g.edges,bodyPin g e∧ReflTransGen (Wired (wires g)) e.target id:=by
 have hall:∀ (edges:List Edge) o,(∀ e∈edges,e∈g.edges)→Frontier g o []→∀ o',edges.foldl (fun o e=>
    if bodyPin g e then visit g e.source (g.edges.length+1) [e.target] o else o) o=o' →
   Frontier g o' []∧(∀ n,owned o n∨(∃ e∈edges,bodyPin g e∧e.target=n) → owned o' n)∧
   ∀ n,owned o' n → owned o n∨∃ e∈edges,bodyPin g e∧ReflTransGen (Wired (wires g)) e.target n:=by
  intro edges
  induction edges with
  | nil=>
   rintro o _ hf _ rfl
   exact ⟨hf,fun n h=>h.elim (fun h=>h) (by simp),fun n h=>.inl h⟩
  | cons e edges ih=>
   intro o hmem hf o' ho'
   obtain ⟨he,hmem⟩:=forall_mem_cons.1 hmem
   rw[foldl_cons] at ho'
   by_cases hp:bodyPin g e
   ·rw[if_pos hp] at ho'
    have hwire:TransGen (Wired (wires g)) e.source e.target:=.single (mem_map.2 ⟨e,he,rfl⟩)
    have hfuel:[e.target].length+pending g o ≤ g.edges.length+1:=by
     have hle:pending g o ≤ g.edges.length:=countP_le_length
     rw[length_singleton]
     omega
    obtain ⟨hclosed,hkept,hfrom⟩:=visit_spec hacyclic hfuel (forall_mem_singleton.2 hwire)
     fun m t hm ht=>(hf m t hm ht).imp_right nofun
    obtain ⟨hclosed',hkept',hfrom'⟩:=ih _ hmem hclosed o' ho'
    refine ⟨hclosed',fun n hn=>hkept' n ?_,fun n hn=>?_⟩
    ·have hn':=hkept n
     grind
    ·have hn':=hfrom' n hn
     have hn'':=hfrom n
     grind
   ·rw[if_neg hp] at ho'
    obtain ⟨hclosed',hkept',hfrom'⟩:=ih _ hmem hf o' ho'
    grind
 obtain ⟨hclosed,hkept,hfrom⟩:=hall g.edges [] (fun e he=>he) (fun n t h=>by cases h) _ rfl
 refine ⟨fun h=>(hfrom id h).resolve_left (by simp[owned]),?_⟩
 rintro ⟨e,he,hp,hpath⟩
 induction hpath with
 | refl=>exact hkept _ (.inr ⟨e,he,hp,rfl⟩)
 | tail _ hw ih=>exact (hclosed _ _ ih (mem_outEdges.2 hw)).resolve_right nofun

/-- A flow is refused exactly when a loop is behind the `body` pin of another. -/
theorem nested_loops_refused_iff(hacyclic:Acyclic (wires g)):(validateLoopBodies g).isSome↔
 ∃ n∈g.nodes,n.module="for_each"∧∃ e∈g.edges,bodyPin g e∧e.source≠n.id∧
  Relation.ReflTransGen (Wired (wires g)) e.target n.id:=by
 have howned:∀ id,((loopBodyOwners g).lookup id).isSome↔
   ∃ e∈g.edges,bodyPin g e∧Relation.ReflTransGen (Wired (wires g)) e.target id:=fun id=>owned_iff hacyclic
 have hother:∀ e∈g.edges,∀ id,Relation.ReflTransGen (Wired (wires g)) e.target id→e.source≠id:=by
  rintro e he _ hpath rfl
  exact hacyclic _ (.head' (mem_map.2 ⟨e,he,rfl⟩) hpath)
 have hnested:(validateLoopBodies g).isSome↔
   ∃ n∈g.nodes,n.module="for_each"∧((loopBodyOwners g).lookup n.id).isSome:=by
  simp only[validateLoopBodies,findSome?_isSome_iff]
  refine exists_congr fun n=>and_congr_right (fun _=>?_)
  split_ifs with hm<;>simp[hm]
 rw[hnested]
 refine exists_congr fun n=>and_congr_right (fun _=>and_congr_right fun _=>(howned n.id).trans ?_)
 refine exists_congr fun e=>and_congr_right (fun he=>and_congr_right fun _=>?_)
 exact ⟨fun hpath=>⟨hother e he _ hpath,hpath⟩,And.right⟩

def nested:Graph:=⟨"g","t","w",[{id:="a",module:="for_each" },{id:="b",module:="for_each" }],[⟨"a","body","b","in",.unset⟩]⟩

theorem nested_loop_refused:(validateLoopBodies nested).isSome:=by
 have hacyclic:Acyclic (wires nested):=by
  have hab:∀ x y,Relation.TransGen (Wired (wires nested)) x y→x= "a"∧y= "b":=by
   intro x y h
   induction h with
   | single h=>simpa[Wired,wires,nested] using h
   | tail _ h ih=>exact ⟨ih.1,by simp_all[Wired,wires,nested]⟩
  exact fun x h=>absurd ((hab x x h).1.symm.trans (hab x x h).2) (by decide)
 exact (nested_loops_refused_iff hacyclic).2 ⟨_,mem_cons_of_mem _ mem_cons_self,rfl,_,mem_cons_self,
  rfl,by decide,.refl⟩

end Dazyflow.LoopBodies
