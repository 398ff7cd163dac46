import Dazyflow.RowCells

/-!
# Row keys

Joins, grouping and de-duplication take two rows for one when their key texts are equal.
-/
namespace Dazyflow.RowKeys

open RowCells List

variable {β:Type}(sprint:β→String)(cols:List String)(l r:RowOf (Option β))

/-- `sprint` writes the values that are there: any kind of value, any text. -/
def keyCell:Option β→String
 | none=> "<nil>"
 | some v=>sprint v

def texts(row:RowOf (Option β)):List (List Char):=
 cols.map fun c=>(keyCell sprint (row c).join).toList

def keyStringOK(row:RowOf (Option β)):List Char×Bool:=
 (intercalate ['\x1f'] (texts sprint cols row),cols.all fun c=>(row c).join.isSome)

def keyString(row:RowOf (Option β)):List Char:=(keyStringOK sprint cols row).1

def SameTuple:Prop:=
 ∀ c∈cols,keyCell sprint (l c).join=keyCell sprint (r c).join∧((l c).join=none↔(r c).join=none)

/-- The key texts, each cut at the separators it contains. -/
def pieces(row:RowOf (Option β)):List (List (List Char)):=
 (texts sprint cols row).map (splitOn '\x1f')

/-- One cell is missing, the other holds the text a missing cell is written as. -/
def NilText(a b:Option β):Prop:=a=none∧b.map sprint=some "<nil>"

structure Separable:Prop where
 pieces:(pieces sprint cols l).flatten=(pieces sprint cols r).flatten→
  (pieces sprint cols l).map length=(pieces sprint cols r).map length
 nils:texts sprint cols l=texts sprint cols r→
  ∀ c∈cols,¬NilText sprint (l c).join (r c).join∧¬NilText sprint (r c).join (l c).join

variable {sprint cols l r}

lemma splitOn_intercalate_eq{ts:List (List Char)}(h:ts≠[]):
 splitOn '\x1f' (intercalate ['\x1f'] ts)=(ts.map (splitOn '\x1f')).flatten:=by
 induction ts with
 | nil=>exact absurd rfl h
 | cons t ts ih=>
  cases ts with
  | nil=>simp
  | cons t' ts=>
   rw[intercalate_cons_cons,append_assoc,singleton_append,splitOn_append_cons_self,ih nofun]
   rfl

lemma keyString_eq_iff_pieces:
 keyString sprint cols l=keyString sprint cols r↔
  (pieces sprint cols l).flatten=(pieces sprint cols r).flatten:=by
 cases cols with
 | nil=>exact iff_of_true rfl rfl
 | cons c cols=>
  have hsplit(row):(pieces sprint (c::cols) row).flatten=splitOn '\x1f' (keyString sprint (c::cols) row):=by
   rw[pieces,←splitOn_intercalate_eq (by simp[texts])]
   rfl
  rw[hsplit,hsplit]
  refine ⟨congrArg _,fun h=>?_⟩
  have hjoin:=congrArg (intercalate ['\x1f']) h
  rwa[intercalate_splitOn,intercalate_splitOn] at hjoin

lemma texts_eq_of_pieces(h:pieces sprint cols l=pieces sprint cols r):
 texts sprint cols l=texts sprint cols r:=by
 have hjoin:=congrArg (map (intercalate ['\x1f'])) h
 simpa[pieces,Function.comp_def,intercalate_splitOn] using hjoin

lemma texts_eq_iff:texts sprint cols l=texts sprint cols r↔
 ∀ c∈cols,keyCell sprint (l c).join=keyCell sprint (r c).join:=by
 simp[texts,String.toList_inj]

lemma none_of_none{a b:Option β}(h:keyCell sprint a=keyCell sprint b)(hn:¬NilText sprint a b)
 (ha:a=none):b=none:=by
 cases b with
 | none=>rfl
 | some v=>exact absurd ⟨ha,congrArg some (by rw[ha] at h; exact h.symm)⟩ hn

/-- Cells that contain the separator can spell one key in two ways, and a missing cell is written
as a text that a cell may also hold. -/
theorem keyString_identifies_iff:
 (keyString sprint cols l=keyString sprint cols r↔SameTuple sprint cols l r)↔
  Separable sprint cols l r:=by
 refine ⟨fun h=>⟨fun hp=>?_,fun ht c hc=>?_⟩,fun h=>⟨fun hk=>?_,fun hs=>?_⟩⟩
 ·have hs:=h.1 (keyString_eq_iff_pieces.2 hp)
  rw[pieces,pieces,texts_eq_iff.2 fun c hc=>(hs c hc).1]
 ·have hs:=(h.1 (congrArg (intercalate ['\x1f']) ht) c hc).2
  exact ⟨fun ⟨hl,hr⟩=>by simp[hs.1 hl] at hr,fun ⟨hr,hl⟩=>by simp[hs.2 hr] at hl⟩
 ·have hp:=keyString_eq_iff_pieces.1 hk
  have ht:=texts_eq_of_pieces (eq_iff_flatten_eq.2 ⟨hp,h.pieces hp⟩)
  intro c hc
  have hcell:=texts_eq_iff.1 ht c hc
  have hn:=h.nils ht c hc
  exact ⟨hcell,none_of_none hcell hn.1,none_of_none hcell.symm hn.2⟩
 ·exact congrArg (intercalate ['\x1f']) (texts_eq_iff.2 fun c hc=>(hs c hc).1)

def cells(a b:Option String):RowOf (Option String):=
 fun c=>if c="a" then some a else if c="b" then some b else none

theorem two_tuples_one_key:
 (keyString id ["a","b"] (cells (some "x\x1fy") (some "z"))=
   keyString id ["a","b"] (cells (some "x") (some "y\x1fz"))∧
  ¬SameTuple id ["a","b"] (cells (some "x\x1fy") (some "z")) (cells (some "x") (some "y\x1fz")))∧
 keyString id ["a"] (cells none none)=keyString id ["a"] (cells (some "<nil>") none)∧
  ¬SameTuple id ["a"] (cells none none) (cells (some "<nil>") none):=by
 refine ⟨⟨by decide +kernel,fun h=>?_⟩,by decide +kernel,fun h=>?_⟩
 ·exact absurd (h "a" (by simp)).1 (by decide +kernel)
 ·exact absurd ((h "a" (by simp)).2.1 rfl) (by decide +kernel)

end Dazyflow.RowKeys
