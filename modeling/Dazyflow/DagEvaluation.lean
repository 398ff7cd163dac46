import Mathlib

/-!
# Evaluation along an order

A value for each vertex, computed from the values of its predecessors, one vertex after the other.
-/
namespace DagEvaluation

open List

variable {V R:Type} [DecidableEq V]

def evalAlong(eval:(V→Option R)→V→Option R):List V→(V→Option R)→V→Option R
 | [],acc=>acc
 | v::rest,acc=>evalAlong eval rest (Function.update acc v (eval acc v))

def ReadsPreds(preds:V→List V)(eval:(V→Option R)→V→Option R):Prop:=
 ∀ f f' v,(∀ u∈preds v,f u=f' u)→eval f v=eval f' v

/-- Every vertex is listed behind its predecessors. -/
def PredsFirst(preds:V→List V)(order:List V):Prop:=
 ∀ l₁ v l₂,order=l₁++v::l₂→∀ u∈preds v,u∈l₁

variable {preds:V→List V}{eval:(V→Option R)→V→Option R}

lemma evalAlong_append(l₁ l₂)(acc:V→Option R):
 evalAlong eval (l₁++l₂) acc=evalAlong eval l₂ (evalAlong eval l₁ acc):=by
 induction l₁ generalizing acc with
 | nil=>rfl
 | cons v rest ih=>exact ih _
lemma evalAlong_of_notMem{order v}(hv:v∉order)(acc:V→Option R):
 evalAlong eval order acc v=acc v:=by
 induction order generalizing acc with
 | nil=>rfl
 | cons u rest ih=>
  rw[mem_cons,not_or] at hv
  rw[evalAlong,ih hv.2,Function.update_of_ne hv.1]
lemma evalAlong_solves(hr:ReadsPreds preds eval){order}(hn:order.Nodup)
 (ho:PredsFirst preds order)(acc:V→Option R){v}(hv:v∈order):
 evalAlong eval order acc v=eval (evalAlong eval order acc) v:=by
 obtain ⟨l₁,l₂,rfl⟩:=append_of_mem hv
 have hsplit:=nodup_append.1 hn
 have hv₂:v∉l₂:=(nodup_cons.1 hsplit.2.1).1
 -- the vertices listed before `v` have their final values already
 have hbefore:∀ u∈l₁,evalAlong eval (l₁++v::l₂) acc u=evalAlong eval l₁ acc u:=by
  intro u hu
  rw[evalAlong_append]
  exact evalAlong_of_notMem (fun h=>hsplit.2.2 u hu u h rfl) _
 calc evalAlong eval (l₁++v::l₂) acc v
   =eval (evalAlong eval l₁ acc) v:=by
       rw[evalAlong_append,evalAlong,evalAlong_of_notMem hv₂,Function.update_self]
  _=eval (evalAlong eval (l₁++v::l₂) acc) v:=
    hr _ _ v (fun u hu=>(hbefore u (ho l₁ v l₂ rfl u hu)).symm)
lemma evalAlong_unique(hr:ReadsPreds preds eval){order}(hn:order.Nodup)
 (ho:PredsFirst preds order)(acc:V→Option R){f}
 (hf:∀ v∈order,f v=eval f v){v}(hv:v∈order):
 f v=evalAlong eval order acc v:=by
 -- induction on the length of the part of the order before `v`
 obtain ⟨l₁,l₂,hsplit⟩:=append_of_mem hv
 induction hk:l₁.length using Nat.strongRecOn generalizing v l₁ l₂ with
 | ind k ih=>
  rw[hf v hv,evalAlong_solves hr hn ho acc hv]
  refine hr _ _ v fun u hu=>?_
  obtain ⟨a,b,rfl⟩:=append_of_mem (ho l₁ v l₂ hsplit u hu)
  have hu':order=a++u::(b++v::l₂):=by simp[hsplit]
  refine ih a.length ?_ (hu' ▸ by simp) a _ hu' rfl
  simp only[length_append,length_cons] at hk
  omega

end DagEvaluation
