import Dazyflow.FirstSeenGroups

/-!
# A search with a queue

What was found is what was taken from the queue and what is still in it.
-/
namespace QueueSearch
open FirstSeenGroups Relation List

variable {α:Type}

def search [DecidableEq α] (next:α→List α):Nat→List α→List α→List α
 | fuel+1,taken,x::queue=>search next fuel (taken++[x]) (queue++firsts id (taken++x::queue) (next x))
 | _,taken,queue=>taken++queue

variable {next:α→List α}

lemma mem_closed_iff{found:List α}(hclosed:∀ x∈found,∀ y∈next x,y∈found){y}:
 y∈found↔∃ x∈found,ReflTransGen (fun a b=>b∈next a) x y:=by
 refine ⟨fun h=>⟨y,h,.refl⟩,?_⟩
 rintro ⟨x,hx,hpath⟩
 induction hpath with
 | refl=>exact hx
 | tail _ h ih=>exact hclosed _ ih _ h

/-- With fuel for every vertex the search finds what can be reached from what it starts with. -/
theorem mem_search [DecidableEq α] {fuel taken queue}(verts:List α)(hn:(taken++queue).Nodup)(hverts:∀ x∈taken++queue,x∈verts)
 (hnext:∀ x,∀ y∈next x,y∈verts)(hfuel:verts.length ≤ taken.length+fuel)
 (hclosed:∀ x∈taken,∀ y∈next x,y∈taken++queue)(y:α):
 y∈search next fuel taken queue↔∃ x∈taken++queue,ReflTransGen (fun a b=>b∈next a) x y:=by
 induction fuel generalizing taken queue with
 | zero=>
  have hlen:=hn.length_le_of_subset hverts
  rw[length_append] at hlen
  obtain rfl:queue=[]:=eq_nil_of_length_eq_zero (by omega)
  exact @mem_closed_iff α next (taken++[]) (by simpa using hclosed) y
 | succ fuel ih=>
  cases queue with
  | nil=>exact @mem_closed_iff α next (taken++[]) (by simpa using hclosed) y
  | cons x queue=>?_
  have hnew:∀ z,z∈firsts id (taken++x::queue) (next x)↔z∈next x∧z∉taken++x::queue:=fun z=>by
   have:=@mem_keys_firsts α α _ id (taken++x::queue) (next x) z
   rwa[map_id,map_id] at this
  have hsplit:taken++[x]++(queue++firsts id (taken++x::queue) (next x)) =
    taken++x::queue++firsts id (taken++x::queue) (next x):=by simp
  rw[search,ih,hsplit]
  ·constructor
   ·rintro ⟨z,hz,hpath⟩
    rcases mem_append.1 hz with hz | hz
    ·exact ⟨z,hz,hpath⟩
    ·exact ⟨x,by simp,.head ((hnew z).1 hz).1 hpath⟩
   ·rintro ⟨z,hz,hpath⟩
    exact ⟨z,mem_append_left _ hz,hpath⟩
  ·rw[hsplit]
   have:=@firsts_keys_nodup α α _ id (taken++x::queue) (next x)
   rw[map_id] at this
   exact nodup_append'.2 ⟨hn,this,fun z hz hz'=>((hnew z).1 hz').2 hz⟩
  ·rw[hsplit]
   intro z hz
   rcases mem_append.1 hz with hz | hz
   ·exact hverts z hz
   ·exact hnext x z ((hnew z).1 hz).1
  ·rw[length_append,length_singleton]
   omega
  ·rw[hsplit]
   intro z hz w hw
   by_cases hold:w∈taken++x::queue
   ·exact mem_append_left _ hold
   ·rcases mem_append.1 hz with hz | hz
    ·exact absurd (hclosed z hz w hw) hold
    ·cases mem_singleton.1 hz
     exact mem_append_right _ ((hnew w).2 ⟨hw,hold⟩)

end QueueSearch
