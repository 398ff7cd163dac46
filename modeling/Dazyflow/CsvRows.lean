import Dazyflow.GoStrings
import Dazyflow.RowCells

/-!
# CSV records as rows

`parse_csv` names the columns from the first record, or by number, and `build_csv` writes a row's cells in the
order of the listed columns.
-/
namespace Dazyflow.CsvRows
open RowCells GoStrings List

def colName(i:Nat):String:="col"++itoa (i+1)

def width(records:List (List String)):Nat:=(records.map length).foldr max ⊥

def headersOf(hasHeader:Bool)(records:List (List String)):List String:=
 if hasHeader then records.headD [] else (range (width records)).map colName

def dataRows(hasHeader:Bool)(records:List (List String)):List (List String):=
 if hasHeader then records.tail else records

def textAt(rec:List String)(i:Nat):Cell:=some (.str (rec.getD i ""))

-- a short record is padded, the cells of a long one get numbered columns
def cells(headers rec:List String):List (String×Cell):=
 (headers.zipIdx.map fun h=>(h.1,textAt rec h.2))++
  (range' headers.length (rec.length-headers.length)).map
   fun i=>(colName i,textAt rec i)

def parseRow(headers rec:List String):Row:=RowOf.assign (fun _=>none) (cells headers rec)

def capRows(maxRows n:Nat):Option String:=
 if maxRows<n then some ("input has "++itoa n++" rows, exceeds the "++itoa maxRows++
  "-row limit (raise DAZYFLOW_MAX_ROWS to process larger batches)") else none

def executeParseCSV(maxRows:Nat)(hasHeader:Bool)(records:List (List String)):Except Refusal Table:=
 if records=[] then .ok ⟨[],[]⟩
 else
  let headers:=headersOf hasHeader records
  let data:=dataRows hasHeader records
  match capRows maxRows data.length with
  | some e=>.error ⟨"too_large",e⟩
  | none=>.ok ⟨data.map (parseRow headers),headers⟩

def cellString(N:Numbers):Cell→String
 | none=> ""
 | some v=>N.text v

/-- The records `build_csv` hands to the writer when no `columns` are set. -/
def executeBuildCSV(N:Numbers)(includeHeader:Bool)(t:Table):List (List String):=
 (if includeHeader then [t.headers] else [])++
  t.rows.map (fun row=>t.headers.map fun h=>cellString N (row.cell h))

def column(headers:List String)(i:Nat):String:=headers.getD i (colName i)

/-- Every cell stands in the row, in a listed column of its own, and every listed column is filled. -/
structure Kept(headers rec:List String)(row:Row):Prop where
 cell:∀ i<rec.length,row (column headers i)=some (textAt rec i)
 own:∀ i<rec.length,∀ j<rec.length,column headers i=column headers j→i=j
 listed:∀ i<rec.length,column headers i∈headers
 filled:∀ h∈headers,(row h).isSome

/-- All data records are kept in their rows, and `build_csv` writes their cells back. -/
def KeepsCells(N:Numbers)(data:List (List String))(t:Table):Prop:=
 Forall₂ (Kept t.headers) data t.rows∧
 Forall₂ (fun rec written=>∀ i<rec.length,written[i]?=rec[i]?) data (executeBuildCSV N false t)

/-- No cell is beyond the columns, and a repeated name hides no more than an empty cell. -/
def Fits(headers rec:List String):Prop:=
 rec.length ≤ headers.length∧
 ∀ i<rec.length,∀ j<headers.length,i<j→headers[i]?=headers[j]?→ rec.length ≤ j∧rec.getD i ""= ""

variable {headers rec:List String}

lemma column_of_lt{i}(h:i<headers.length):headers[i]?=some (column headers i):=by
 rw[column,getD_eq_getElem?_getD,getElem?_eq_getElem h]
 rfl
lemma cells_short(h:rec.length ≤ headers.length):
 cells headers rec=headers.zipIdx.map (fun h=>(h.1,textAt rec h.2)):=by
 rw[cells,Nat.sub_eq_zero_of_le h]
 exact append_nil _
lemma fst_cells:(headers.zipIdx.map fun h=>(h.1,textAt rec h.2)).map Prod.fst=headers:=by
 rw[map_map]
 exact zipIdx_map_fst 0 headers
lemma filled_parseRow{h}(hh:h∈headers):(parseRow headers rec h).isSome:=by
 refine assign_isSome ?_
 rw[cells,map_append,fst_cells]
 exact mem_append_left _ hh
lemma parseRow_short(h:rec.length ≤ headers.length){i}(hi:i<headers.length):
 ∃ j<headers.length,i ≤ j∧headers[i]?=headers[j]?∧
  parseRow headers rec (column headers i)=some (textAt rec j):=by
 have hcol:=column_of_lt hi
 have hmem:column headers i∈(cells headers rec).map Prod.fst:=by
  rw[cells_short h,fst_cells]
  exact mem_of_getElem? hcol
 obtain ⟨front,v,back,heq,hback⟩:=exists_last hmem
 have hentry:∀ k,(cells headers rec)[k]?=headers[k]?.map (fun h=>(h,textAt rec k)):=by
  intro k
  rw[cells_short h,getElem?_map,getElem?_zipIdx,Option.map_map,Nat.zero_add]
  rfl
 have hat:=hentry front.length
 rw[heq,getElem?_append_right le_rfl,Nat.sub_self] at hat
 obtain ⟨c,hc,hcv⟩:=Option.map_eq_some_iff.1 hat.symm
 cases hcv
 refine ⟨front.length,(List.getElem?_eq_some_iff.1 hc).1,?_,hcol.trans hc.symm,?_⟩
 ·by_contra hlt
  refine hback (mem_map.2 ⟨(column headers i,textAt rec i),mem_of_getElem? (i:=i-front.length-1) ?_,rfl⟩)
  have hlater:=hentry i
  rw[heq,getElem?_append_right (by omega),hcol] at hlater
  rwa[show i-front.length=i-front.length-1+1 by omega] at hlater
 ·rw[parseRow,heq]
  exact assign_last hback
lemma kept_iff_fits:Kept headers rec (parseRow headers rec)↔Fits headers rec:=by
 constructor
 ·intro hk
  have hlen:rec.length ≤ headers.length:=by
   by_contra hlong
   have hlt:headers.length<rec.length:=Nat.lt_of_not_le hlong
   -- the first cell without a column shares its name with an earlier cell
   obtain ⟨p,hp⟩:=mem_iff_getElem?.1 (hk.listed _ hlt)
   have hpl:=(List.getElem?_eq_some_iff.1 hp).1
   have hsame:column headers p=column headers headers.length:=Option.some.inj ((column_of_lt hpl).symm.trans hp)
   exact Nat.ne_of_lt hpl (hk.own p (hpl.trans hlt) _ hlt hsame)
  refine ⟨hlen,fun i hi j hj hij hsame=>?_⟩
  have hil:i<headers.length:=hij.trans hj
  have hafter:∀ k<headers.length,i<k→headers[i]?=headers[k]?→ rec.length ≤ k:=by
   intro k hk' hik hs
   by_contra hshort
   rw[column_of_lt hil,column_of_lt hk'] at hs
   exact Nat.ne_of_lt hik (hk.own i hi k (Nat.lt_of_not_le hshort) (Option.some.inj hs))
  refine ⟨hafter j hj hij hsame,?_⟩
  obtain ⟨k,hkl,hjk,hs,hval⟩:=@parseRow_short headers rec hlen j hj
  rw[show column headers j=column headers i from
   Option.some.inj ((column_of_lt hj).symm.trans (hsame.symm.trans (column_of_lt hil))),hk.cell i hi] at hval
  have hpad:rec.getD k ""= "":=by
   rw[getD_eq_getElem?_getD,getElem?_eq_none (hafter k hkl (hij.trans_le hjk) (hsame.trans hs))]
   rfl
  rw[textAt,textAt,hpad] at hval
  exact Value.str.inj (Option.some.inj (Option.some.inj hval))
 ·rintro ⟨hlen,hrep⟩
  refine ⟨fun i hi=>?_,fun i hi j hj hs=>?_,fun i hi=>?_,fun h hh=>filled_parseRow hh⟩
  ·obtain ⟨j,hj,hij,hs,hval⟩:=@parseRow_short headers rec hlen i (hi.trans_le hlen)
   rcases Nat.eq_or_lt_of_le hij with rfl | hij
   ·exact hval
   ·obtain ⟨hpast,hempty⟩:=hrep i hi j hj hij hs
    rw[hval,textAt,textAt,hempty,getD_eq_getElem?_getD,getElem?_eq_none hpast]
    rfl
  ·have hget:headers[i]?=headers[j]?:=by
    rw[column_of_lt (hi.trans_le hlen),column_of_lt (hj.trans_le hlen),hs]
   rcases Nat.lt_trichotomy i j with hij | hij | hij
   ·exact absurd (hrep i hi j (hj.trans_le hlen) hij hget).1 (Nat.not_le.2 hj)
   ·exact hij
   ·exact absurd (hrep j hj i (hi.trans_le hlen) hij hget.symm).1 (Nat.not_le.2 hi)
  ·exact mem_of_getElem? (column_of_lt (hi.trans_le hlen))
lemma written_of_kept{N row}(hk:Kept headers rec row)(hlen:rec.length ≤ headers.length)
 {i}(hi:i<rec.length):(headers.map fun h=>cellString N (row.cell h))[i]?=rec[i]?:=by
 rw[getElem?_map,column_of_lt (hi.trans_le hlen),Option.map_some,Row.cell,hk.cell i hi,textAt,
  getD_eq_getElem?_getD,getElem?_eq_getElem hi]
 rfl
lemma keepsCells_iff{N data}:
 KeepsCells N data ⟨data.map (parseRow headers),headers⟩↔∀ rec∈data,Fits headers rec:=by
 rw[KeepsCells,forall₂_map_right_iff,forall₂_same]
 constructor
 ·exact fun h rec hrec=>kept_iff_fits.1 (h.1 rec hrec)
 ·intro h
  refine ⟨fun rec hrec=>kept_iff_fits.2 (h rec hrec),?_⟩
  rw[executeBuildCSV,if_neg (by decide),nil_append,map_map,forall₂_map_right_iff,forall₂_same]
  exact fun rec hrec i hi=>written_of_kept (kept_iff_fits.2 (h rec hrec)) (h rec hrec).1 hi
lemma colName_injective:Function.Injective colName:=by
 intro i j h
 have hlist:=congrArg String.toList h
 rw[colName,colName,String.toList_append,String.toList_append] at hlist
 exact Nat.succ.inj (itoa_injective (String.toList_inj.1 (append_cancel_left hlist)))
lemma fits_numbered{records}(h:rec∈records):
 Fits (headersOf false records) rec:=by
 have hwidth:rec.length ≤ width records:=le_max_of_le (mem_map_of_mem h) le_rfl
 rw[headersOf,if_neg (by decide)]
 refine ⟨by simpa using hwidth,fun i hi j hj hij hs=>?_⟩
 rw[length_map,length_range] at hj
 rw[getElem?_map,getElem?_map,getElem?_range hj,getElem?_range (hij.trans hj)] at hs
 exact absurd (colName_injective (Option.some.inj hs)) (Nat.ne_of_lt hij)

/-- The parser keeps every cell exactly when the header line has room for every record and no name
of it hides a cell; numbered columns always do. -/
theorem parsed_cells_kept_iff(N:Numbers){maxRows:Nat}{hasHeader:Bool}{records:List (List String)}{out:Table}
 (h:executeParseCSV maxRows hasHeader records=.ok out):
 KeepsCells N (dataRows hasHeader records) out↔
  (hasHeader→∀ rec∈records.tail,Fits (records.headD []) rec):=by
 have hout:out=⟨(dataRows hasHeader records).map (parseRow (headersOf hasHeader records)),
   headersOf hasHeader records⟩:=by
  unfold executeParseCSV at h
  split at h
  ·next hnil=>
   subst hnil
   cases hasHeader<;>exact (Except.ok.inj h).symm
  ·dsimp only at h
   split at h
   ·cases h
   ·exact (Except.ok.inj h).symm
 rw[hout,keepsCells_iff]
 cases hasHeader with
 | true=>exact ⟨fun h _=>h,fun h=>h rfl⟩
 | false=>exact ⟨fun _=>nofun,fun _ rec hrec=>fits_numbered hrec⟩

theorem parsed_ragged_line_kept:
 KeepsCells plainNumbers [["1"]] ⟨[parseRow ["id","name"] ["1"]],["id","name"]⟩:=by
 have hok:executeParseCSV 10 true [["id","name"],["1"]]=.ok _:=rfl
 refine (parsed_cells_kept_iff plainNumbers hok).2 fun _ rec hrec=>?_
 cases mem_singleton.1 hrec
 refine ⟨by decide,fun i hi j hj hij hs=>?_⟩
 obtain ⟨rfl,rfl⟩:i=0∧j=1:=by
  change i<1 at hi
  change j<2 at hj
  omega
 exact absurd hs (by decide)

/-- The second column of a name takes the place of the first, and a long record overruns the columns. -/
theorem repeated_name_hides_cell:
 (∃ out,executeParseCSV 10 true [["a","a"],["1","2"]]=.ok out∧
  out.rows.map (fun row=>row "a")=[some (some (.str "2"))]∧¬KeepsCells plainNumbers [["1","2"]] out)∧
 ∃ out,executeParseCSV 10 true [["a"],["1","2"]]=.ok out∧
  executeBuildCSV plainNumbers true out=[["a"],["1"]]∧¬KeepsCells plainNumbers [["1","2"]] out:=by
 refine ⟨⟨_,rfl,by decide,fun h=>?_⟩,⟨_,rfl,by decide,fun h=>?_⟩⟩
 ·have hfit:=keepsCells_iff.1 h _ mem_cons_self
  exact absurd (hfit.2 0 (by decide) 1 (by decide) (by decide) rfl).2 (by decide)
 ·exact absurd (keepsCells_iff.1 h _ mem_cons_self).1 (by decide)

end Dazyflow.CsvRows
