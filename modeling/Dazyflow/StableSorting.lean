import Mathlib

/-!
# Stable sorting by a comparison

The contract of a stable sort is for a comparison that orders the elements at hand.
-/
namespace StableSorting

open List

variable {α:Type} {less:α→α→Bool} {xs ys:List α}

def tie(less:α→α→Bool)(x y:α):Bool:= !less x y&& !less y x

lemma tie_iff{x y}:tie less x y↔less x y=false∧less y x=false:=by simp[tie]

/-- The comparison is a strict weak order on the elements of the list. -/
structure Orders(less:α→α→Bool)(xs:List α):Prop where
 asymm:∀ x∈xs,∀ y∈xs,less x y→less y x=false
 trans:∀ x∈xs,∀ y∈xs,∀ z∈xs,less x y=false→less y z=false→less x z=false

/-- A sort that is stable wherever the comparison orders its input. -/
structure Sorter(α:Type) where
 sort:(α→α→Bool)→List α→List α
 perm:∀ less xs,(sort less xs).Perm xs
 sorted:∀ less xs,Orders less xs→(sort less xs).Pairwise (fun x y=>less y x=false)
 stable:∀ less xs,Orders less xs→∀ r∈xs,(sort less xs).filter (tie less r)=xs.filter (tie less r)

lemma eq_of_sorted(hirr:∀ x,less x x=false)(hp:xs.Perm ys)(hx:xs.Pairwise fun x y=>less y x=false)
 (hy:ys.Pairwise fun x y=>less y x=false)(hf:∀ r∈xs,xs.filter (tie less r)=ys.filter (tie less r)):
 xs=ys:=by
 induction xs generalizing ys with
 | nil=>exact hp.nil_eq
 | cons x xs ih=>
  cases ys with
  | nil=>exact absurd hp.length_eq nofun
  | cons y ys=>?_
  obtain ⟨hxs,hx⟩:=pairwise_cons.1 hx
  obtain ⟨hys,hy'⟩:=pairwise_cons.1 hy
  have hyx:less y x=false:=by
   rcases mem_cons.1 (hp.mem_iff.2 mem_cons_self) with rfl | h
   ·exact hirr y
   ·exact hxs y h
  have hxy:less x y=false:=by
   rcases mem_cons.1 (hp.mem_iff.1 mem_cons_self) with rfl | h
   ·exact hirr x
   ·exact hys x h
  have hhead:=hf x mem_cons_self
  rw[filter_cons_of_pos (tie_iff.2 ⟨hirr x,hirr x⟩),
   filter_cons_of_pos (tie_iff.2 ⟨hxy,hyx⟩)] at hhead
  cases (List.cons.inj hhead).1
  refine congrArg (List.cons x) (ih hp.cons_inv hx hy' fun r hr=>?_)
  have htail:=hf r (mem_cons_of_mem _ hr)
  by_cases ht:tie less r x
  ·rw[filter_cons_of_pos ht,filter_cons_of_pos ht] at htail
   exact (List.cons.inj htail).2
  ·rwa[filter_cons_of_neg ht,filter_cons_of_neg ht] at htail
lemma orders_of_sorts{sort:List α→List α}(hirr:∀ x,less x x=false)
 (hasymm:∀ x y,less x y→less y x=false)
 (hsort:∀ ys,ys.Perm xs→(sort ys).Perm ys∧(sort ys).Pairwise (fun x y=>less y x=false)∧
  ∀ r∈ys,(sort ys).filter (tie less r)=ys.filter (tie less r)):Orders less xs:=by
 refine ⟨fun x _ y _=>hasymm x y,fun x hx y hy z hz hxy hyz=>?_⟩
 by_contra hne
 have hxz:less x z:=by simpa using hne
 have hzy:z≠y:=by
  rintro rfl
  rw[hxy] at hxz
  cases hxz
 have hyx:y≠x:=by
  rintro rfl
  rw[hyz] at hxz
  cases hxz
 have hzx:z≠x:=by
  rintro rfl
  rw[hirr] at hxz
  cases hxz
 -- the three in the opposite order, so that ties keep them apart too
 classical
 obtain ⟨rest,hperm⟩:∃ rest,(z::y::x::rest).Perm xs:=by
  refine ⟨((xs.erase z).erase y).erase x,?_⟩
  have hy':y∈xs.erase z:=(mem_erase_of_ne hzy.symm).2 hy
  have hx':x∈(xs.erase z).erase y:=(mem_erase_of_ne hyx.symm).2 ((mem_erase_of_ne hzx.symm).2 hx)
  exact (((perm_cons_erase hx').symm.cons y).trans (perm_cons_erase hy').symm).cons z |>.trans
   (perm_cons_erase hz).symm
 obtain ⟨hp,hs,hf⟩:=hsort _ hperm
 have hfilter:=hf y (by simp)
 obtain ⟨F,G,hsplit,hF,hG⟩:∃ F G,(z::y::x::rest).filter (tie less y)=F++y::G∧
   (less z y=false→z∈F)∧(less y x=false→x∈G):=by
  have hyy:tie less y y:=tie_iff.2 ⟨hirr y,hirr y⟩
  refine ⟨[z].filter (tie less y),(x::rest).filter (tie less y),?_,fun h=>?_,fun h=>?_⟩
  ·rw[←singleton_append,filter_append,filter_cons_of_pos hyy]
  ·exact mem_filter.2 ⟨mem_cons_self,tie_iff.2 ⟨hyz,h⟩⟩
  ·exact mem_filter.2 ⟨mem_cons_self,tie_iff.2 ⟨h,hxy⟩⟩
 rw[hsplit] at hfilter
 obtain ⟨a,b,hab,ha,hb⟩:=filter_eq_append_iff.1 hfilter
 obtain ⟨c,d,hcd,_,_,hd⟩:=filter_eq_cons_iff.1 hb
 subst hcd
 have hmem:∀ w∈z::y::x::rest,w∈sort (z::y::x::rest):=fun w hw=>hp.mem_iff.2 hw
 rw[hab,←append_assoc] at hs hmem
 obtain ⟨_,hafter,hcross⟩:=pairwise_append.1 hs
 have hya:=(pairwise_cons.1 hafter).1
 have hzfront:z∈a++c:=by
  cases hzy':less z y with
  | false=>
   have hz':=hF hzy'
   rw[←ha] at hz'
   exact mem_append_left _ (mem_filter.1 hz').1
  | true=>
   rcases mem_append.1 (hmem z mem_cons_self) with h | h
   ·exact h
   ·rcases mem_cons.1 h with h | h
    ·exact absurd h hzy
    ·rw[hya z h] at hzy'
     cases hzy'
 have hxback:x∈d:=by
  cases hyx':less y x with
  | false=>
   have hx':=hG hyx'
   rw[←hd] at hx'
   exact (mem_filter.1 hx').1
  | true=>
   rcases mem_append.1 (hmem x (by simp)) with h | h
   ·rw[hcross x h y mem_cons_self] at hyx'
    cases hyx'
   ·exact (mem_cons.1 h).resolve_left hyx.symm
 rw[hcross z hzfront x (mem_cons_of_mem _ hxback)] at hxz
 cases hxz

variable {x:α} {all:List α}

def insert(less:α→α→Bool)(x:α):List α→List α
 | []=>[x]
 | y::ys=>if less x y then y::insert less x ys else x::y::ys

lemma insert_perm:(insert less x xs).Perm (x::xs):=by
 induction xs with
 | nil=>exact .refl _
 | cons y ys ih=>
  rw[insert]
  split
  ·exact (ih.cons y).trans (.swap x y ys)
  ·exact .refl _
lemma insert_sorted(h:Orders less all)(hx:x∈all)(hxs:∀ y∈xs,y∈all)
 (hs:xs.Pairwise fun y z=>less y z=false):(insert less x xs).Pairwise (fun y z=>less y z=false):=by
 induction xs with
 | nil=>exact pairwise_singleton _ _
 | cons y ys ih=>
  obtain ⟨hy,hys⟩:=pairwise_cons.1 hs
  obtain ⟨hyall,hysall⟩:=forall_mem_cons.1 hxs
  rw[insert]
  split
  ·next hlt=>
   refine pairwise_cons.2 ⟨fun z hz=>?_,ih hysall hys⟩
   rcases mem_cons.1 (insert_perm.mem_iff.1 hz) with rfl | hz
   ·exact h.asymm z hx y hyall hlt
   ·exact hy z hz
  ·next hge=>
   have hxy:less x y=false:=by simpa using hge
   refine pairwise_cons.2 ⟨forall_mem_cons.2 ⟨hxy,fun z hz=>?_⟩,hs⟩
   exact h.trans x hx y hyall z (hysall z hz) hxy (hy z hz)
lemma insert_filter{r}(h:Orders less all)(hr:r∈all)(hx:x∈all)(hxs:∀ y∈xs,y∈all):
 (insert less x xs).filter (tie less r)=(x::xs).filter (tie less r):=by
 induction xs with
 | nil=>rfl
 | cons y ys ih=>
  obtain ⟨hy,hys⟩:=forall_mem_cons.1 hxs
  rw[insert]
  split
  ·next hlt=>
   have hih:=ih hys
   -- the two do not both tie with one element
   have hone:tie less r x→tie less r y→False:=by
    intro htx hty
    rw[h.trans x hx r hr y hy (tie_iff.1 htx).2 (tie_iff.1 hty).1] at hlt
    cases hlt
   simp only[filter_cons] at hih⊢
   rw[hih]
   split_ifs with hty htx
   ·exact (hone htx hty).elim
   ·rfl
   ·rfl
   ·rfl
  ·rfl

def insertionSort(less:α→α→Bool)(xs:List α):List α:=
 (xs.foldl (fun done x=>insert less x done) []).reverse

lemma insertionSort_inv(h:Orders less all)(hxs:∀ x∈xs,x∈all)(done)(hd:∀ x∈done,x∈all)
 (hs:done.Pairwise fun y z=>less y z=false):
 (xs.foldl (fun done x=>insert less x done) done).Pairwise (fun y z=>less y z=false)∧
 ∀ r∈all,(xs.foldl (fun done x=>insert less x done) done).filter (tie less r) =
  (xs.reverse++done).filter (tie less r):=by
 induction xs generalizing done with
 | nil=>exact ⟨hs,fun r _=>rfl⟩
 | cons x xs ih=>
  obtain ⟨hx,hxs⟩:=forall_mem_cons.1 hxs
  obtain ⟨hsorted,hfilter⟩:=ih hxs _ (fun y hy=>(mem_cons.1 (insert_perm.mem_iff.1 hy)).elim
   (fun he=>he▸hx) (hd y)) (insert_sorted h hx hd hs)
  refine ⟨hsorted,fun r hr=>?_⟩
  rw[foldl_cons,hfilter r hr,filter_append,insert_filter h hr hx hd,←filter_append]
  simp
lemma insertionSort_perm(xs):(insertionSort less xs).Perm xs:=by
 have h:∀ done,(xs.foldl (fun done x=>insert less x done) done).Perm (xs++done):=by
  induction xs with
  | nil=>exact fun done=>.refl _
  | cons x xs ih=>exact fun done=>(ih _).trans ((insert_perm.append_left xs).trans perm_middle)
 have hall:=h []
 rw[append_nil] at hall
 exact (reverse_perm _).trans hall

def insertionSorter(α:Type):Sorter α where
 sort:=insertionSort
 perm less xs:=insertionSort_perm xs
 sorted less xs h:=by
  refine pairwise_reverse.2 ?_
  exact (insertionSort_inv h (fun x hx=>hx) [] nofun .nil).1
 stable less xs h r hr:=by
  have hf:=(insertionSort_inv h (fun x hx=>hx) [] nofun .nil).2 r hr
  rw[insertionSort,filter_reverse,hf,append_nil,filter_reverse,reverse_reverse]

end StableSorting
