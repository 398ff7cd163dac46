import Mathlib

/-!
# Groups in the order they are first seen

A pass over a list that adds each element to the group of its key and opens a group when the key is new.
-/
namespace FirstSeenGroups

open List

variable {α β κ μ:Type} [DecidableEq κ] [DecidableEq μ]

section Grouping

variable (zero:α→β)(step:β→α→β)

def put(k:κ)(x:α):List (κ×β)→List (κ×β)
 | []=>[(k,step (zero x) x)]
 | g::gs=>if g.1=k then (k,step g.2 x)::gs else g::put k x gs

def groups(key:α→κ)(xs:List α):List (κ×β):=xs.foldl (fun gs x=>put zero step (key x) x gs) []

end Grouping

/-- The elements whose key is neither among the ones seen nor that of an earlier element. -/
def firsts(key:α→κ):List κ→List α→List α
 | _,[]=>[]
 | seen,x::xs=>if key x∈seen then firsts key seen xs else x::firsts key (key x::seen) xs

variable {zero:α→β}{step:β→α→β}{key:α→κ}{seen:List κ}{xs:List α}{x:α}

lemma mem_keys_firsts{k}:k∈(firsts key seen xs).map key↔k∈xs.map key∧k∉seen:=by
 induction xs generalizing seen with
 | nil=>simp[firsts]
 | cons y ys ih=>
  rw[firsts]
  split_ifs with hy
  ·rw[ih,map_cons,mem_cons]
   grind
  ·rw[map_cons,map_cons,mem_cons,mem_cons,ih,mem_cons]
   grind
lemma firsts_keys_nodup:((firsts key seen xs).map key).Nodup:=by
 induction xs generalizing seen with
 | nil=>exact nodup_nil
 | cons y ys ih=>
  rw[firsts]
  split_ifs
  ·exact ih
  ·exact nodup_cons.2 ⟨fun h=>(mem_keys_firsts.1 h).2 mem_cons_self,ih⟩
lemma firsts_append:firsts key seen (xs++[x]) =
 firsts key seen xs++if key x∈seen∨key x∈xs.map key then [] else [x]:=by
 induction xs generalizing seen with
 | nil=>simp[firsts]
 | cons y ys ih=>
  simp only[cons_append,firsts,map_cons,mem_cons]
  by_cases hy:key y∈seen
  ·by_cases hx:key x=key y<;>simp[hy,hx,ih]
  ·simp only[hy,if_false,ih,mem_cons,cons_append]
   congr 3
   grind
lemma firsts_congr(key':α→μ)(seen')(hs:∀ x∈xs,key x∈seen↔key' x∈seen')
 (h:∀ x∈xs,∀ y∈xs,key x=key y↔key' x=key' y):firsts key seen xs=firsts key' seen' xs:=by
 induction xs generalizing seen seen' with
 | nil=>rfl
 | cons y ys ih=>
  have htail:∀ x∈ys,∀ z∈ys,key x=key z↔key' x=key' z:=fun x hx z hz=>
   h x (mem_cons_of_mem _ hx) z (mem_cons_of_mem _ hz)
  rw[firsts,firsts]
  by_cases hy:key y∈seen
  ·rw[if_pos hy,if_pos ((hs y mem_cons_self).1 hy)]
   exact ih _ (fun x hx=>hs x (mem_cons_of_mem _ hx)) htail
  ·rw[if_neg hy,if_neg (mt (hs y mem_cons_self).2 hy)]
   refine congrArg (List.cons y) (ih _ (fun x hx=>?_) htail)
   rw[mem_cons,mem_cons,hs x (mem_cons_of_mem _ hx),
    h x (mem_cons_of_mem _ hx) y mem_cons_self]
lemma put_map{F G:α→β}{gs:List α}(hd:(gs.map key).Nodup)
 (hnew:key x∉gs.map key→G x=step (zero x) x)
 (hstep:∀ y∈gs,G y=if key y=key x then step (F y) x else F y):
 put zero step (key x) x (gs.map fun y=>(key y,F y)) =
  (gs++if key x∈gs.map key then [] else [x]).map (fun y=>(key y,G y)):=by
 induction gs with
 | nil=>simp[put,hnew]
 | cons g gs ih=>
  rw[map_cons,nodup_cons] at hd
  obtain ⟨hg,hgs⟩:=forall_mem_cons.1 hstep
  rw[map_cons,put]
  by_cases hk:key g=key x
  ·have hrest:gs.map (fun y=>(key y,F y))=gs.map (fun y=>(key y,G y)):=by
    refine map_congr_left fun y hy=>?_
    rw[hgs y hy,if_neg fun h=>hd.1 (mem_map.2 ⟨y,hy,h.trans hk.symm⟩)]
   simp[hk,hg,hrest]
  ·rw[if_neg hk,ih hd.2 (fun h=>hnew fun h'=>(mem_cons.1 h').elim (fun he=>hk he.symm) h) hgs]
   simp[hg,hk,Ne.symm hk]

lemma groups_eq:groups zero step key xs=(firsts key [] xs).map (fun x=>
 (key x,(xs.filter fun y=>key y=key x).foldl step (zero x))):=by
 induction xs using reverseRecOn with
 | nil=>rfl
 | append_singleton xs x ih=>
  rw[groups,foldl_append]
  change put zero step (key x) x (groups zero step key xs)=_
  rw[ih,firsts_append,put_map (G:=fun z=>
   ((xs++[x]).filter fun y=>key y=key z).foldl step (zero z)) firsts_keys_nodup]
  ·simp[mem_keys_firsts]
  ·intro hnew
   have hnone:xs.filter (fun y=>key y=key x)=[]:=by
    refine filter_eq_nil_iff.2 fun y hy he=>hnew (mem_keys_firsts.2 ⟨?_,nofun⟩)
    exact mem_map.2 ⟨y,hy,of_decide_eq_true he⟩
   simp[filter_append,hnone]
  ·intro y _
   by_cases he:key y=key x
   ·simp[filter_append,he]
   ·simp[filter_append,he,Ne.symm he]
lemma firsts_sublist:(firsts key seen xs).Sublist xs:=by
 induction xs generalizing seen with
 | nil=>exact .slnil
 | cons x xs ih=>
  rw[firsts]
  split_ifs
  ·exact ih.cons x
  ·exact ih.cons_cons x
lemma flatMap_firsts_perm(key:α→κ)(seen xs):((firsts key seen xs).flatMap fun x=>xs.filter fun y=>key y=key x).Perm
 (xs.filter fun x=>key x∉seen):=by
 induction xs generalizing seen with
 | nil=>exact .refl _
 | cons x xs ih=>
  have htail:∀ {seen'},key x∈seen'→(firsts key seen' xs).flatMap (fun z=>(x::xs).filter fun y=>key y=key z) =
    (firsts key seen' xs).flatMap (fun z=>xs.filter fun y=>key y=key z):=by
   intro seen' hx
   refine flatMap_congr fun z hz=>filter_cons_of_neg ?_
   rw[decide_eq_true_iff]
   exact fun he=>(mem_keys_firsts.1 (mem_map_of_mem hz)).2 (he▸hx)
  rw[firsts]
  split_ifs with hx
  ·rw[htail hx,filter_cons_of_neg (by simpa using hx)]
   exact ih _
  ·rw[flatMap_cons,htail mem_cons_self,filter_cons_of_pos (by simp),
    filter_cons_of_pos (by simpa using hx),cons_append]
   refine ((((ih _).append_left _).trans ?_).cons x)
   have hsplit:=filter_append_perm (fun y=>key y=key x) (xs.filter fun y=>key y∉seen)
   rw[filter_filter,filter_filter] at hsplit
   refine Perm.trans (.of_eq ?_) hsplit
   congr 1
   ·exact filter_congr fun y _=>by grind
   ·exact filter_congr fun y _=>by grind
lemma lookup_map [BEq κ][LawfulBEq κ]{F:κ→β}{k:κ}:
 (xs.map fun x=>(key x,F (key x))).lookup k=if k∈xs.map key then some (F k) else none:=by
 induction xs with
 | nil=>rfl
 | cons x xs ih=>
  rw[map_cons,lookup_cons,ih]
  by_cases hk:k=key x
  ·simp[hk]
  ·simp[hk,beq_false_of_ne hk]
lemma lookup_groups [BEq κ][LawfulBEq κ]{z:β}{k:κ}:((groups (fun _=>z) step key xs).lookup k).getD z =
 (xs.filter fun y=>key y=k).foldl step z:=by
 rw[groups_eq,lookup_map (F:=fun k=>(xs.filter fun y=>key y=k).foldl step z)]
 split_ifs with hk
 ·rfl
 ·rw[filter_eq_nil_iff.2]
  ·rfl
  ·exact fun y hy he=>hk (mem_keys_firsts.2 ⟨mem_map.2 ⟨y,hy,of_decide_eq_true he⟩,nofun⟩)

end FirstSeenGroups
