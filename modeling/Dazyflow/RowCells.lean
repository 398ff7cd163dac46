import Mathlib

/-!
# Rows of cells

What the row steps pass on: a row holds a cell, which may be null, under each of its columns.
-/
namespace Dazyflow.RowCells

open List

inductive Value where
 | bool (b:Bool)
 | num (q:ℚ)
 | str (s:String)
 /-- An array or an object, by its JSON text. -/
 | nested (json:String)
 deriving DecidableEq

abbrev Cell:=Option Value

/-- What a `map[string]any` holds under its columns; `none` is a column it does not have. -/
abbrev RowOf(β:Type):=String→Option β

abbrev Row:=RowOf Cell

/-- Indexing reads a column that is not there as `nil`. -/
def Row.cell(row:Row)(c:String):Cell:=(row c).join

/-- The rows value of a step: its rows and the order of their columns. -/
structure Table where
 rows:List Row
 headers:List String

structure Refusal where
 (code message:String)

/-- The texts of Go: `fmt.Sprint`, `strconv.FormatFloat` with `'f'`, and `strconv.ParseFloat` of the texts it
reads as numbers. -/
structure Numbers where
 (sprint formatFloat:ℚ→String)
 parseFloat:String→Option ℚ
 sprintNested:String→String

def plainNumbers:Numbers:=⟨fun q=>toString q.num,fun q=>toString q.num,fun _=>none,id⟩

def Numbers.text(N:Numbers):Value→String
 | .bool b=>if b then "true" else "false"
 | .num q=>N.sprint q
 | .str s=>s
 | .nested json=>N.sprintNested json

def Numbers.keyCell(N:Numbers):Cell→String
 | none=> "<nil>"
 | some (.num q)=>N.formatFloat q
 | some v=>N.text v

def Numbers.texts(N:Numbers)(cols:List String)(row:Row):List (List Char):=
 cols.map (fun c=>(N.keyCell (row.cell c)).toList)

def Numbers.keyString(N:Numbers)(cols:List String)(row:Row):List Char:=
 intercalate ['\x1f'] (N.texts cols row)

/-- Assignments to a row one after another; a later one to the same column wins. -/
def RowOf.assign{β:Type}(row:RowOf β)(ps:List (String×β)):RowOf β:=
 ps.foldl (fun r p=>Function.update r p.1 (some p.2)) row

variable {β:Type}{row:RowOf β}{ps qs:List (String×β)}{c:String}

lemma assign_append:row.assign (ps++qs)=(row.assign ps).assign qs:=foldl_append
lemma assign_of_not_mem(h:c∉ps.map Prod.fst):row.assign ps c=row c:=by
 induction ps generalizing row with
 | nil=>rfl
 | cons p ps ih=>
  rw[map_cons,mem_cons,not_or] at h
  exact (ih h.2).trans (Function.update_of_ne h.1 _ _)
lemma assign_last{v}(h:c∉qs.map Prod.fst):row.assign (ps++(c,v)::qs) c=some v:=by
 rw[assign_append]
 exact (assign_of_not_mem h).trans (Function.update_self _ _ _)
lemma exists_last(h:c∈ps.map Prod.fst):
 ∃ front v back,ps=front++(c,v)::back∧c∉back.map Prod.fst:=by
 induction ps with
 | nil=>cases h
 | cons p ps ih=>
  by_cases hc:c∈ps.map Prod.fst
  ·obtain ⟨front,v,back,rfl,hb⟩:=ih hc
   exact ⟨p::front,v,back,rfl,hb⟩
  ·rcases mem_cons.1 h with rfl | h
   ·exact ⟨[],p.2,ps,rfl,hc⟩
   ·exact absurd h hc
lemma assign_isSome(h:c∈ps.map Prod.fst):(row.assign ps c).isSome:=by
 obtain ⟨front,v,back,rfl,hb⟩:=exists_last h
 rw[assign_last hb]
 rfl
lemma assign_of_nodup{v}(hd:(ps.map Prod.fst).Nodup)(h:(c,v)∈ps):row.assign ps c=some v:=by
 obtain ⟨front,back,rfl⟩:=append_of_mem h
 rw[map_append,map_cons] at hd
 exact assign_last (nodup_cons.1 (nodup_append.1 hd).2.1).1
lemma keyString_inj{N:Numbers}{cols cols':List String}{l r:Row}(hlen:cols.length=cols'.length)
 (hl:∀ t∈N.texts cols l,'\x1f'∉t)(hr:∀ t∈N.texts cols' r,'\x1f'∉t):
 N.keyString cols l=N.keyString cols' r↔N.texts cols l=N.texts cols' r:=by
 refine ⟨fun h=>?_,fun h=>congrArg _ h⟩
 cases cols with
 | nil=>
  cases length_eq_zero_iff.1 hlen.symm
  rfl
 | cons c cols=>
  cases cols' with
  | nil=>cases hlen
  | cons c' cols'=>
   have hsplit:=congrArg (splitOn '\x1f') h
   rwa[Numbers.keyString,Numbers.keyString,splitOn_intercalate _ hl nofun,
    splitOn_intercalate _ hr nofun] at hsplit

end Dazyflow.RowCells
