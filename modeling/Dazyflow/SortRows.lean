import Dazyflow.GoStrings
import Dazyflow.RowCells
import Dazyflow.StableSorting

/-!
# Sorting rows by their keys

`sort_rows` compares two cells as numbers when both read as numbers and as text when one does not; a
descending key turns the comparison round, missing cells included.
-/
namespace Dazyflow.SortRows
open RowCells StableSorting List

structure SortKey where
 column:String
 (desc explicit:Bool)

def threeWay{α:Type}[LinearOrder α](a b:α):Int:=if a<b then-1 else if b<a then 1 else 0

variable (N:Numbers)

def toFloat:Value→Option ℚ
 | .num q=>some q
 | .str s=>N.parseFloat s
 | .bool _ | .nested _=>none

def compareCells:Cell→Cell→Int
 | none,none=>0
 | none,some _=>-1
 | some _,none=>1
 | some a,some b=>
  match toFloat N a,toFloat N b with
  | some af,some bf=>threeWay af bf
  | _,_=>
   match a,b with
   | .bool ab,.bool bb=>threeWay ab bb
   | a,b=>threeWay (N.text a) (N.text b)

def less:List SortKey→Row→Row→Bool
 | [],_,_=>false
 | k::keys,x,y=>
  let cmp:=compareCells N (x.cell k.column) (y.cell k.column)
  if cmp=0 then less keys x y else if k.desc then 0<cmp else cmp<0

def directed(descDefault:Bool)(keys:List SortKey):List SortKey:=
 keys.map (fun k=>if k.explicit then k else {k with desc:=descDefault})

def executeSortRows(S:Sorter Row)(keys:List SortKey)(descDefault:Bool)(limit:Nat)(rows:List Row):List Row:=
 let out:=S.sort (less N (directed descDefault keys)) rows
 if 0<limit∧limit<out.length then out.take limit else out

/-- Where the earlier keys tie, the first row lacks a key cell the second has, under a key of the kind. -/
def lacks(kind:SortKey→Bool):List SortKey→Row→Row→Bool
 | [],_,_=>false
 | k::keys,x,y=>
  (kind k&&x.cell k.column=none&&y.cell k.column≠none)||
   (compareCells N (x.cell k.column) (y.cell k.column)=0&&lacks kind keys x y)

/-- Whatever the arrangement, the rows come out sorted, stably, the ones that lack a cell first, and
the outcome is fixed by the order of the rows that tie. -/
def Sorts(S:Sorter Row)(keys:List SortKey)(descDefault:Bool)(rows:List Row):Prop:=
 let less:=less N (directed descDefault keys)
 ∀ given,given.Perm rows→
  let out:=executeSortRows N S keys descDefault 0 given
  (out.Perm given∧out.Pairwise (fun x y=>less y x=false)∧
   ∀ r∈given,out.filter (tie less r)=given.filter (tie less r))∧
  out.Pairwise (fun x y=>lacks N (fun _=>true) (directed descDefault keys) y x=false)∧
  ∀ other,other.Perm given→(∀ r∈given,other.filter (tie less r)=given.filter (tie less r))→
   executeSortRows N S keys descDefault 0 other=out

variable {N}{keys:List SortKey}{x y:Row}

lemma threeWay_swap{α:Type}[LinearOrder α](a b:α):threeWay b a=-threeWay a b:=by
 rcases lt_trichotomy a b with h | rfl | h
 ·simp[threeWay,h,h.asymm]
 ·simp[threeWay]
 ·simp[threeWay,h,h.asymm]
lemma compareCells_swap(a b):compareCells N b a=-compareCells N a b:=by
 rcases a with _ | a<;>rcases b with _ | b<;>try rfl
 cases ha:toFloat N a<;>cases hb:toFloat N b<;>simp only[compareCells,ha,hb]
 case some.some.some.some=>exact threeWay_swap _ _
 all_goals cases a<;>cases b<;>exact threeWay_swap _ _
lemma less_asymm(h:less N keys x y):less N keys y x=false:=by
 induction keys with
 | nil=>rfl
 | cons k keys ih=>
  simp only[less] at h⊢
  rw[compareCells_swap (x.cell k.column)]
  split_ifs at h⊢<;>first | exact ih h | (simp at *; omega)
lemma less_irrefl:less N keys x x=false:=by
 cases h:less N keys x x with
 | false=>rfl
 | true=>exact h.symm.trans (less_asymm h)
lemma less_of_lacks(h:lacks N (fun _=>true) keys x y):
 less N keys x y∨lacks N SortKey.desc keys x y:=by
 induction keys with
 | nil=>cases h
 | cons k keys ih=>
  simp only[lacks,less,Bool.true_and,Bool.or_eq_true,Bool.and_eq_true,decide_eq_true_eq] at h⊢
  rcases h with ⟨hx,hy⟩ | ⟨hcmp,h⟩
  ·obtain ⟨b,hb⟩:=Option.ne_none_iff_exists'.1 hy
   cases hd:k.desc with
   | true=>exact .inr (.inl ⟨⟨rfl,hx⟩,hy⟩)
   | false=>
    refine .inl ?_
    rw[hx,hb]
    rfl
  ·rw[if_pos hcmp]
   exact (ih h).imp_right fun h=>.inr ⟨hcmp,h⟩
lemma less_of_lacks_desc(h:lacks N SortKey.desc keys x y):
 less N keys y x∧lacks N (fun _=>true) keys x y:=by
 induction keys with
 | nil=>cases h
 | cons k keys ih=>
  simp only[lacks,less,Bool.true_and,Bool.or_eq_true,Bool.and_eq_true,decide_eq_true_eq] at h⊢
  rcases h with ⟨⟨hd,hx⟩,hy⟩ | ⟨hcmp,h⟩
  ·refine ⟨?_,.inl ⟨hx,hy⟩⟩
   obtain ⟨b,hb⟩:=Option.ne_none_iff_exists'.1 hy
   rw[hx,hb,hd]
   rfl
  ·rw[compareCells_swap,hcmp,neg_zero,if_pos rfl]
   exact ⟨(ih h).1,.inr ⟨rfl,(ih h).2⟩⟩
lemma sort_exact(S desc rows):
 executeSortRows N S keys desc 0 rows=S.sort (less N (directed desc keys)) rows:=by
 simp[executeSortRows]

variable {S:Sorter Row}{descDefault:Bool}{rows:List Row}

lemma Sorts.trans(h:Sorts N S keys descDefault rows):
 ∀ x∈rows,∀ y∈rows,∀ z∈rows,less N (directed descDefault keys) x y=false→
  less N (directed descDefault keys) y z=false→less N (directed descDefault keys) x z=false:=
 (orders_of_sorts (fun _=>less_irrefl) (fun _ _=>less_asymm) fun ys hys=>(h ys hys).1).trans
lemma Sorts.present(h:Sorts N S keys descDefault rows):
 ∀ x∈rows,∀ y∈rows,lacks N SortKey.desc (directed descDefault keys) x y=false:=by
 intro x hx y hy
 obtain ⟨⟨hperm,hsorted,_⟩,hfirst,_⟩:=h rows (.refl _)
 rw[←Bool.not_eq_true]
 intro hl
 obtain ⟨hless,hlacks⟩:=less_of_lacks_desc hl
 -- the row with the cell must come first, and so must the row without
 have hxout:=hperm.mem_iff.2 hx
 obtain ⟨a,b,hab⟩:=append_of_mem (hperm.mem_iff.2 hy)
 rw[hab] at hsorted hfirst hxout
 obtain ⟨_,_,hbefore⟩:=pairwise_append.1 hsorted
 have hafter:=(pairwise_cons.1 (pairwise_append.1 hfirst).2.1).1
 rcases mem_append.1 hxout with hxa | hxb
 ·exact Bool.false_ne_true ((hbefore x hxa y mem_cons_self).symm.trans hless)
 ·rcases mem_cons.1 hxb with rfl | hxb
  ·exact Bool.false_ne_true (less_irrefl.symm.trans hless)
  ·exact Bool.false_ne_true ((hafter x hxb).symm.trans hlacks)

/-- The rows sort as they should exactly when "not after" is transitive on them and no descending key
tells a row that has its cell from one that lacks it. -/
theorem sorts_iff(N:Numbers)(S:Sorter Row)(keys:List SortKey)(descDefault:Bool)(rows:List Row):
 Sorts N S keys descDefault rows↔
 (∀ x∈rows,∀ y∈rows,∀ z∈rows,less N (directed descDefault keys) x y=false→
  less N (directed descDefault keys) y z=false→less N (directed descDefault keys) x z=false)∧
 ∀ x∈rows,∀ y∈rows,lacks N SortKey.desc (directed descDefault keys) x y=false:=by
 refine ⟨fun h=>⟨h.trans,h.present⟩,?_⟩
 rintro ⟨htrans,hmissing⟩ given hgiven
 have horders:∀ ys,ys.Perm rows→Orders (less N (directed descDefault keys)) ys:=fun ys hys=>
  ⟨fun _ _ _ _=>less_asymm,fun x hx y hy z hz=>
   htrans x (hys.mem_iff.1 hx) y (hys.mem_iff.1 hy) z (hys.mem_iff.1 hz)⟩
 have ho:=horders given hgiven
 simp only[sort_exact]
 refine ⟨⟨S.perm _ _,S.sorted _ _ ho,S.stable _ _ ho⟩,?_,fun other hother hties=>?_⟩
 ·refine (S.sorted _ _ ho).imp_of_mem fun {x y} hx hy hxy=>?_
  rw[←Bool.not_eq_true]
  intro hl
  rcases less_of_lacks hl with hless | hdesc
  ·exact Bool.false_ne_true (hxy.symm.trans hless)
  ·have hmem:∀ r∈S.sort (less N (directed descDefault keys)) given,r∈rows:=fun r hr=>
    hgiven.mem_iff.1 ((S.perm _ _).mem_iff.1 hr)
   exact Bool.false_ne_true ((hmissing y (hmem y hy) x (hmem x hx)).symm.trans hdesc)
 ·have ho':=horders other (hother.trans hgiven)
  refine eq_of_sorted (fun _=>less_irrefl) ((S.perm _ _).trans (hother.trans (S.perm _ _).symm))
   (S.sorted _ _ ho') (S.sorted _ _ ho) (fun r hr=>?_)
  have hr':r∈other:=(S.perm _ _).mem_iff.1 hr
  rw[S.stable _ _ ho' r hr',hties r (hother.mem_iff.1 hr'),S.stable _ _ ho r (hother.mem_iff.1 hr')]

def numbers:Numbers:=⟨fun q=>toString q.num,fun q=>toString q.num,
 fun s=>(GoStrings.digits 1000 s.toList).map Nat.cast,id⟩

def scored(c:Cell):Row:=fun column=>if column="score" then some c else none

/-- Descending puts the row without a score last; 9, 10 and 5x run in a circle, so that no
arrangement of the three is sorted. -/
theorem descending_puts_missing_last:
 (executeSortRows numbers (insertionSorter Row) [⟨"score",false,false⟩] true 0
  [scored none,scored (some (.num 1))]).map (fun row=>row.cell "score")=[some (.num 1),none]∧
 ¬Sorts numbers (insertionSorter Row) [⟨"score",false,false⟩] true [scored none,scored (some (.num 1))]∧
 ¬Sorts numbers (insertionSorter Row) [⟨"score",false,false⟩] false
  [scored (some (.str "9")),scored (some (.str "10")),scored (some (.str "5x"))]:=by
 refine ⟨by decide,fun h=>?_,fun h=>?_⟩
 ·exact absurd (h.present (scored none) (by simp) (scored (some (.num 1))) (by simp)) (by decide)
 ·have htrans:=h.trans (scored (some (.str "10"))) (by simp)
   (scored (some (.str "9"))) (by simp) (scored (some (.str "5x"))) (by simp)
  exact absurd (htrans (by decide) (by decide)) (by decide)

end Dazyflow.SortRows
