import Dazyflow.FirstSeenGroups
import Dazyflow.GoStrings
import Dazyflow.RowCells

/-!
# Joining two lists of rows

`join_rows` looks the left rows up in an index of the right rows by the text of their key cells; rows that
found no partner come out alone where the kind of join keeps them.
-/
namespace Dazyflow.JoinRows
open RowCells FirstSeenGroups GoStrings List Prod

inductive Kind where
 | inner
 | left
 | right
 | outer
 | anti
 deriving DecidableEq

abbrev Pair:=Option Row×Option Row

def hasKey(cols:List String)(row:Row):Bool:=cols.all (fun c=>(row.cell c).isSome)

variable (N:Numbers)(on:List (String×String))

-- a row without a key has a bucket of its own
def rightKey(r:Row×Nat):List Char:=
 if hasKey (on.map snd) r.1 then N.keyString (on.map snd) r.1
 else "\x00nokey\x00".toList++(itoa r.2).toList

def rightIndex(right:List Row):List (List Char×List Row):=
 groups (fun _=>[]) (fun rows r=>rows++[r.1]) (rightKey N on) right.zipIdx

def partners(right:List Row)(l:Row):List Row:=
 if hasKey (on.map fst) l then
  ((rightIndex N on right).lookup (N.keyString (on.map fst) l)).getD []
 else []

def leftPairs(kind:Kind)(right:List Row)(l:Row):List Pair:=
 match partners N on right l with
 | []=>if kind=.left∨kind=.outer∨kind=.anti then [(some l,none)] else []
 | rs=>if kind=.anti then [] else rs.map (fun r=>(some l,some r))

def matchedRightKeys(left right:List Row):List (List Char):=
 (left.filter fun l=>partners N on right l≠[]).map (N.keyString (on.map fst))

def rightPairs(left right:List Row):List Pair:=
 (rightIndex N on right).flatMap (fun g=>
  if g.1∈matchedRightKeys N on left right then [] else g.2.map fun r=>(none,some r))

def pairs(kind:Kind)(left right:List Row):List Pair:=
 left.flatMap (leftPairs N on kind right)++
  if kind=.right∨kind=.outer then rightPairs N on left right else []

def outName(leftHeaders:List String)(suffix h:String):String:=if h∈leftHeaders then h++suffix else h

def rightOut(suffix:String)(leftHeaders rightHeaders:List String):List (String×String):=
 (rightHeaders.filter fun h=>h∉on.map snd).map (fun h=>(h,outName leftHeaders suffix h))

/-- The code ranges over `rightOut` as a map; the order matters only where two columns share an output name. -/
def mergeRow(leftHeaders:List String)(rightOut:List (String×String)):Pair→Row
 | (left,right)=>
  let out:Row:=match left with
   | some l=>l
   | none=>(RowOf.assign (fun _=>none) (leftHeaders.map fun h=>(h,none))).assign
    (match right with
     | some r=>(on.filter fun k=>k.2≠"").map (fun k=>(k.1,r.cell k.2))
     | none=>[])
  out.assign (rightOut.map fun o=>(o.2,right.bind fun r=>r.cell o.1))

def requireColumns(side:String)(t:Table)(needed:List String):Except Refusal Unit:=
 if t.headers=[]∧t.rows=[] then .ok ()
 else match needed.find? (fun c=>c∉t.headers) with
  | some c=>.error ⟨"bad_input",side++" side has no column "++quote c++" (declared headers: ["++
   " ".intercalate t.headers++"])"⟩
  | none=>.ok ()

def joinTooLarge(max:Nat):Refusal:=⟨"too_large","join output exceeds the "++itoa max++
 "-row limit (a many-to-many key multiplies the inputs); raise DAZYFLOW_MAX_ROWS or join on a more selective key"⟩

def emit(maxOut:Nat)(out:List Row)(row:Row):Except Refusal (List Row):=
 if maxOut ≤ out.length then .error (joinTooLarge maxOut) else .ok (out++[row])

def executeJoinRows(maxOut:Nat)(kind:Kind)(suffix:String)(left right:Table):Except Refusal Table:=do
 requireColumns "left" left (on.map fst)
 requireColumns "right" right (on.map snd)
 let names:=rightOut on suffix left.headers (if kind=.anti then [] else right.headers)
 let rows←((pairs N on kind left.rows right.rows).map (mergeRow on left.headers names)).foldlM (emit maxOut) []
 pure ⟨rows,left.headers++names.map snd⟩

variable {N on}

lemma emit_all{maxOut:Nat}{out rows:List Row}(h:out.length ≤ maxOut):
 rows.foldlM (emit maxOut) out =
  if maxOut<out.length+rows.length then .error (joinTooLarge maxOut) else .ok (out++rows):=by
 induction rows generalizing out with
 | nil=>simp[Nat.not_lt.2 h,pure,Except.pure]
 | cons r rows ih=>
  rw[foldlM_cons,emit]
  by_cases hfull:maxOut ≤ out.length
  ·rw[if_pos hfull,if_pos (by simp only[length_cons];omega)]
   rfl
  ·rw[if_neg hfull]
   refine (ih (by simp only[length_append,length_singleton];omega)).trans ?_
   simp[Nat.add_assoc,Nat.add_comm 1]

variable (N on) in
/-- All key cells are there on both sides and have the same text. -/
def joins(l r:Row):Bool:=
 hasKey (on.map fst) l&&hasKey (on.map snd) r&&N.texts (on.map fst) l=N.texts (on.map snd) r

variable (N) in
def Clean(cols:List String)(row:Row):Prop:=∀ t∈N.texts cols row,'\x1f'∉t∧ '\x00'∉t

variable {left right:List Row}{l r:Row}{kind:Kind}

lemma mem_intercalate{c s:Char}{ts:List (List Char)}(h:c∈intercalate [s] ts):
 c=s∨∃ t∈ts,c∈t:=by
 induction ts with
 | nil=>simp[intercalate] at h
 | cons t ts ih=>
  cases ts with
  | nil=>exact .inr ⟨t,mem_cons_self,by simpa[intercalate] using h⟩
  | cons t' ts=>?_
  have hcons:intercalate [s] (t::t'::ts)=t++s::intercalate [s] (t'::ts):=by
   simp[intercalate]
  rw[hcons,mem_append,mem_cons] at h
  rcases h with h | h | h
  ·exact .inr ⟨t,mem_cons_self,h⟩
  ·exact .inl h
  ·exact (ih h).imp_right fun ⟨u,hu,hc⟩=>⟨u,mem_cons_of_mem _ hu,hc⟩
lemma nul_not_mem_keyString{cols:List String}(h:Clean N cols l): '\x00'∉N.keyString cols l:=by
 intro hc
 rcases mem_intercalate hc with hc | ⟨t,ht,hc⟩
 ·cases hc
 ·exact (h t ht).2 hc
lemma rightKey_eq_keyString{i}(hl:Clean N (on.map fst) l)(hr:Clean N (on.map snd) r):
 rightKey N on (r,i)=N.keyString (on.map fst) l↔
 hasKey (on.map snd) r∧N.texts (on.map fst) l=N.texts (on.map snd) r:=by
 unfold rightKey
 split_ifs with hk
 ·rw[keyString_inj (by simp) (fun t ht=>(hr t ht).1) fun t ht=>(hl t ht).1]
  exact ⟨fun h=>⟨hk,h.symm⟩,fun h=>h.2.symm⟩
 ·refine ⟨fun h=>absurd ?_ (nul_not_mem_keyString hl),fun h=>absurd h.1 hk⟩
  rw[←h]
  exact mem_append_left _ (by decide)
lemma foldl_push(rows:List (Row×Nat))(out):
 rows.foldl (fun out r=>out++[r.1]) out=out++rows.map fst:=by
 induction rows generalizing out with
 | nil=>simp
 | cons r rows ih=>simp[ih]
lemma partners_eq(hl:Clean N (on.map fst) l)(hr:∀ r∈right,Clean N (on.map snd) r):
 partners N on right l=right.filter (joins N on l):=by
 unfold partners
 split_ifs with hk
 ·rw[rightIndex,lookup_groups,foldl_push,nil_append]
  have hcongr:right.zipIdx.filter (fun r=>rightKey N on r=N.keyString (on.map fst) l) =
   right.zipIdx.filter (joins N on l∘fst):=by
   refine filter_congr fun p hp=>?_
   have hmem:p.1∈right:=(zipIdx_map_fst 0 right)▸mem_map_of_mem hp
   rw[Bool.eq_iff_iff,decide_eq_true_iff,rightKey_eq_keyString hl (hr _ hmem)]
   simp[joins,hk]
  rw[hcongr,←filter_map,zipIdx_map_fst]
 ·refine (filter_eq_nil_iff.2 fun r _=>?_).symm
  simp[joins,hk]

variable (N on) in
/-- Right rows with the same key form a group; a row without a key is a group of its own. -/
def group(r:Row×Nat):List (List Char)×Option Nat:=
 if hasKey (on.map snd) r.1 then (N.texts (on.map snd) r.1,none) else ([],some r.2)

variable (N on) in
/-- The right rows that join with no left row, the groups in the order of their first rows. -/
def unmatched(left right:List Row):List Pair:=
 (((firsts (group N on) [] right.zipIdx).flatMap fun p=>
  right.zipIdx.filter fun q=>group N on q=group N on p).filter
   (fun p=> !left.any fun l=>joins N on l p.1)).map (fun p=>(none,some p.1))

variable (N on) in
/-- The join as a relation: what comes out for each left row, and the right rows left over. -/
def relational(kind:Kind)(left right:List Row):List Pair:=
 (left.flatMap fun l=>
  let rs:=right.filter (joins N on l)
  if kind=.anti then (if rs=[] then [(some l,none)] else [])
  else rs.map (fun r=>(some l,some r))++if rs=[]∧(kind=.left∨kind=.outer) then [(some l,none)] else [])++
 if kind=.right∨kind=.outer then unmatched N on left right else []

lemma leftPairs_eq(hl:Clean N (on.map fst) l)(hr:∀ r∈right,Clean N (on.map snd) r):
 leftPairs N on kind right l=
  let rs:=right.filter (joins N on l)
  if kind=.anti then (if rs=[] then [(some l,none)] else [])
  else rs.map (fun r=>(some l,some r))++if rs=[]∧(kind=.left∨kind=.outer) then [(some l,none)] else []:=by
 rw[leftPairs,partners_eq hl hr]
 cases right.filter (joins N on l)<;>cases kind<;>simp
lemma rightKey_eq_iff{p q}(hp:Clean N (on.map snd) p.1)(hq:Clean N (on.map snd) q.1):
 rightKey N on p=rightKey N on q↔group N on p=group N on q:=by
 unfold rightKey group
 have hnul: ∀ n,'\x00'∈"\x00nokey\x00".toList++(itoa n).toList:=fun n=>mem_append_left _ (by decide)
 split_ifs
 ·simp[keyString_inj rfl (fun t ht=>(hp t ht).1) fun t ht=>(hq t ht).1]
 ·exact ⟨fun h=>absurd (h▸hnul q.2) (nul_not_mem_keyString hp),fun h=>nomatch (mk.inj h).2⟩
 ·exact ⟨fun h=>absurd (h▸hnul p.2) (nul_not_mem_keyString hq),fun h=>nomatch (mk.inj h).2⟩
 ·simp[String.toList_inj,itoa_injective.eq_iff]
lemma mem_matchedRightKeys{p:Row×Nat}(hp:p.1∈right)(hl:∀ l∈left,Clean N (on.map fst) l)
 (hr:∀ r∈right,Clean N (on.map snd) r):
 rightKey N on (p.1,p.2)∈matchedRightKeys N on left right↔left.any (fun l=>joins N on l p.1):=by
 rw[matchedRightKeys,mem_map,any_eq_true]
 refine exists_congr fun l=>?_
 rw[mem_filter,and_assoc]
 refine and_congr_right fun hmem=>?_
 rw[partners_eq (hl l hmem) hr,eq_comm (a:=N.keyString (on.map fst) l),
  rightKey_eq_keyString (hl l hmem) (hr _ hp)]
 simp only[ne_eq,decide_eq_true_eq,joins,Bool.and_eq_true]
 constructor
 ·rintro ⟨hne,hk,ht⟩
  obtain ⟨r,hr'⟩:=exists_mem_of_ne_nil _ hne
  have hj:=(mem_filter.1 hr').2
  simp only[joins,Bool.and_eq_true] at hj
  exact ⟨⟨hj.1.1,hk⟩,ht⟩
 ·rintro ⟨⟨hkl,hk⟩,ht⟩
  refine ⟨ne_nil_of_mem (mem_filter.2 ⟨hp,?_⟩),hk,ht⟩
  simp[joins,hkl,hk,ht]
lemma joins_group{p q}(h:group N on q=group N on p):joins N on l q.1=joins N on l p.1:=by
 unfold group at h
 unfold joins
 split_ifs at h with hq hp hp
 ·simp[hq,hp,(mk.inj h).1]
 ·cases (mk.inj h).2
 ·cases (mk.inj h).2
 ·simp[hq,hp]
lemma rightPairs_eq(hl:∀ l∈left,Clean N (on.map fst) l)(hr:∀ r∈right,Clean N (on.map snd) r):
 rightPairs N on left right=unmatched N on left right:=by
 have hmem:∀ p∈right.zipIdx,p.1∈right:=fun p hp=>(zipIdx_map_fst 0 right)▸mem_map_of_mem hp
 have hkeys:∀ p∈right.zipIdx,∀ q∈right.zipIdx,rightKey N on p=rightKey N on q↔group N on p=group N on q:=
  fun p hp q hq=>rightKey_eq_iff (hr _ (hmem p hp)) (hr _ (hmem q hq))
 rw[rightPairs,rightIndex,groups_eq,firsts_congr (group N on) [] (by simp) hkeys,unmatched,
  filter_flatMap,map_flatMap,flatMap_map]
 refine flatMap_congr fun p hp=>?_
 have hp:=firsts_sublist.subset hp
 have hgroup:right.zipIdx.filter (fun q=>rightKey N on q=rightKey N on p) =
  right.zipIdx.filter (fun q=>group N on q=group N on p):=
  filter_congr (fun q hq=>decide_eq_decide.2 (hkeys q hq p hp))
 have hjoin:∀ q∈right.zipIdx.filter (fun q=>group N on q=group N on p),
  (!left.any fun l=>joins N on l q.1)= !left.any (fun l=>joins N on l p.1):=by
  intro q hq
  simp only[joins_group (of_decide_eq_true (mem_filter.1 hq).2)]
 dsimp only
 rw[filter_congr hjoin,hgroup,foldl_push]
 by_cases hany:left.any (fun l=>joins N on l p.1)
 ·rw[if_pos ((mem_matchedRightKeys (hmem p hp) hl hr).2 hany),hany]
  simp
 ·rw[if_neg (mt (mem_matchedRightKeys (hmem p hp) hl hr).1 hany),Bool.eq_false_iff.2 hany]
  simp[Function.comp_def]
lemma unmatched_perm:(unmatched N on left right).Perm
 ((right.filter fun r=> !left.any fun l=>joins N on l r).map fun r=>(none,some r)):=by
 refine (((flatMap_firsts_perm (group N on) [] right.zipIdx).filter _).map _).trans (.of_eq ?_)
 conv_rhs=>rw[←zipIdx_map_fst 0 right,filter_map,List.map_map]
 simp[Function.comp_def]

variable {maxOut:Nat}{suffix:String}{left right out:Table}

variable (on) in
def outNames(kind:Kind)(suffix:String)(left right:Table):List (String×String):=
 rightOut on suffix left.headers (if kind=.anti then [] else right.headers)

lemma executeJoinRows_eq(hleft:requireColumns "left" left (on.map fst)=.ok ())
 (hright:requireColumns "right" right (on.map snd)=.ok ()):
 executeJoinRows N on maxOut kind suffix left right =
  if maxOut<(pairs N on kind left.rows right.rows).length then .error (joinTooLarge maxOut)
  else .ok ⟨(pairs N on kind left.rows right.rows).map (mergeRow on left.headers (outNames on kind suffix left right)),
   left.headers++(outNames on kind suffix left right).map snd⟩:=by
 simp only[executeJoinRows,hleft,hright,outNames]
 rw[emit_all (Nat.zero_le _)]
 simp only[length_nil,Nat.zero_add,length_map,nil_append]
 split_ifs<;>rfl

/-- The output is the relational join, one merged row a pair in its order, or is refused when that is
longer than the ceiling; the right rows left over are each there once, grouped by their keys. -/
theorem joined_relationally(hl:∀ l∈left.rows,Clean N (on.map fst) l)
 (hr:∀ r∈right.rows,Clean N (on.map snd) r)
 (hleft:requireColumns "left" left (on.map fst)=.ok ())
 (hright:requireColumns "right" right (on.map snd)=.ok ()):
 executeJoinRows N on maxOut kind suffix left right =
  (if maxOut<(relational N on kind left.rows right.rows).length then .error (joinTooLarge maxOut)
  else .ok ⟨(relational N on kind left.rows right.rows).map
    (mergeRow on left.headers (outNames on kind suffix left right)),
   left.headers++(outNames on kind suffix left right).map snd⟩)∧
 (unmatched N on left.rows right.rows).Perm
  ((right.rows.filter fun r=> !left.rows.any fun l=>joins N on l r).map fun r=>(none,some r)):=by
 refine ⟨?_,unmatched_perm⟩
 have hpairs:pairs N on kind left.rows right.rows=relational N on kind left.rows right.rows:=by
  rw[pairs,relational,rightPairs_eq hl hr]
  congr 1
  exact flatMap_congr fun l hmem=>leftPairs_eq (hl l hmem) hr
 rw[executeJoinRows_eq hleft hright,hpairs]

def listed(id:String)(n:ℚ):Row:=
 fun c=>if c="id" then some (some (.str id)) else if c="n" then some (some (.num n)) else none

def listing(rows:List Row):Table:=⟨rows,["id","n"]⟩

theorem joined_relationally_outer:
 executeJoinRows plainNumbers [("id","id")] 5 .outer "_right" (listing [listed "a" 1,listed "b" 2,listed "a" 3])
   (listing [listed "c" 4,listed "a" 5]) =
  .ok ⟨[(some (listed "a" 1),some (listed "a" 5)),(some (listed "b" 2),none),
    (some (listed "a" 3),some (listed "a" 5)),(none,some (listed "c" 4))].map
    (mergeRow [("id","id")] ["id","n"] [("n","n_right")]),["id","n","n_right"]⟩:=by
 refine (@joined_relationally plainNumbers _ .outer 5 "_right" (listing _) (listing _) ?_ ?_ rfl rfl).1.trans rfl
 ·simp only[listing,Clean]
  decide
 ·simp only[listing,Clean]
  decide

/-- Two rows of one key are not kept apart by the row between them, and a list of rows without the key column
is refused where the relation has a row. -/
theorem leftover_rows_regrouped:
  (executeJoinRows plainNumbers [("id","id")] 5 .right "_right" (listing [])
   (listing [listed "a" 1,listed "b" 2,listed "a" 3])).toOption.map (fun t=>t.rows.map fun r=>r.cell "n_right") =
   some [some (.num 1),some (.num 3),some (.num 2)]∧
  (executeJoinRows plainNumbers [("id","id")] 5 .left "_right" (listing [listed "a" 1]) ⟨[],["n"]⟩).toOption.isNone∧
  (relational plainNumbers [("id","id")] .left [listed "a" 1] []).length=1:=by decide

variable (N on) in
/-- Every row fills every column, the columns are distinct, and a merged pair keeps the cells of both
rows that were not matched on. -/
structure Complete(kind:Kind)(suffix:String)(left right out:Table):Prop where
 filled:∀ row∈out.rows,∀ h∈out.headers,(row h).isSome
 distinct:out.headers.Nodup
 kept:∀ l r,(some l,some r)∈pairs N on kind left.rows right.rows→
  let row:=mergeRow on left.headers (outNames on kind suffix left right) (some l,some r)
  (∀ c,(l c).isSome→c∉on.map fst→c∈left.headers∧row c=l c)∧
  ∀ c,(r c).isSome→c∉on.map snd→∃ name,(c,name)∈outNames on kind suffix left right∧row name=r c

lemma append_left_inj{a b c:String}(h:a++c=b++c):a=b:=by
 have hlist:=congrArg String.toList h
 rw[String.toList_append,String.toList_append] at hlist
 exact String.toList_inj.1 (append_cancel_right hlist)
lemma headers_nodup_iff{lh rh:List String}:
 (lh++(rightOut on suffix lh rh).map snd).Nodup↔
 lh.Nodup∧(rh.filter fun h=>h∉on.map snd).Nodup∧
 ∀ h∈rh,h∉on.map snd→h∈lh→h++suffix∉lh∧¬(h++suffix∈rh∧h++suffix∉on.map snd):=by
 have hnames:(rightOut on suffix lh rh).map snd=(rh.filter fun h=>h∉on.map snd).map (outName lh suffix):=by
  rw[rightOut,List.map_map]
  rfl
 have hmem:∀ {h},h∈rh.filter (fun h=>h∉on.map snd)↔h∈rh∧h∉on.map snd:=by simp
 rw[hnames,nodup_append]
 refine and_congr_right fun _=>⟨fun ⟨hn,hdis⟩=>⟨hn.of_map,fun h hr hk hlh=>?_⟩,fun ⟨hn,hfresh⟩=>⟨?_,?_⟩⟩
 ·have hname:outName lh suffix h=h++suffix:=if_pos hlh
  have hout:h++suffix∉lh:=fun hin=>
   hdis _ hin _ (mem_map.2 ⟨h,hmem.2 ⟨hr,hk⟩,hname⟩) rfl
  refine ⟨hout,fun hin=>?_⟩
  -- an unsuffixed right column of that name would be a second one
  have hsame:outName lh suffix (h++suffix)=outName lh suffix h:=(if_neg hout).trans hname.symm
  have heq:=inj_on_of_nodup_map hn (hmem.2 hin) (hmem.2 ⟨hr,hk⟩) hsame
  exact hout (heq.symm▸hlh)
 ·refine hn.map_on fun a ha b hb hab=>?_
  rw[hmem] at ha hb
  unfold outName at hab
  split_ifs at hab with hal hbl hbl
  ·exact append_left_inj hab
  ·exact absurd ⟨hab▸hb.1,hab▸hb.2⟩ (hfresh a ha.1 ha.2 hal).2
  ·exact absurd ⟨hab▸ha.1,hab▸ha.2⟩ (hfresh b hb.1 hb.2 hbl).2
  ·exact hab
 ·intro a ha b hb hab
  obtain ⟨h,hh,rfl⟩:=mem_map.1 hb
  rw[hmem] at hh
  unfold outName at hab
  split_ifs at hab with hlh
  ·exact (hfresh h hh.1 hh.2 hlh).1 (hab▸ha)
  ·exact hlh (hab▸ha)
lemma mergeRow_left{lh names}{r?:Option Row}{c}
 (h:c∉names.map snd):mergeRow on lh names (some l,r?) c=l c:=
 assign_of_not_mem (by simpa[Function.comp_def] using h)
lemma mergeRow_right{lh names}{l?:Option Row}{o}
 (hd:(names.map snd).Nodup)(h:o∈names):mergeRow on lh names (l?,some r) o.2=some (r.cell o.1):=by
 refine assign_of_nodup (by simpa[Function.comp_def] using hd) (mem_map.2 ⟨o,h,rfl⟩)
lemma mergeRow_named{lh names p c}
 (h:c∈names.map snd):(mergeRow on lh names p c).isSome:=
 assign_isSome (by simpa[Function.comp_def] using h)
lemma out_of_ok(h:executeJoinRows N on maxOut kind suffix left right=.ok out):
 out=⟨(pairs N on kind left.rows right.rows).map (mergeRow on left.headers (outNames on kind suffix left right)),
  left.headers++(outNames on kind suffix left right).map snd⟩:=by
 cases hl:requireColumns "left" left (on.map fst) with
 | error e=>
  simp only[executeJoinRows,hl] at h
  cases h
 | ok _=>
  cases hr:requireColumns "right" right (on.map snd) with
  | error e=>
   simp only[executeJoinRows,hl,hr] at h
   cases h
  | ok _=>
   rw[executeJoinRows_eq hl hr] at h
   split_ifs at h
   exact (Except.ok.inj h).symm

/-- The join loses nothing exactly when no column name occurs twice, as it is or suffixed, every left
row that comes out has the listed columns, and merged rows have no columns beyond the listed ones. -/
theorem join_complete_iff(hkind:kind≠.anti)(h:executeJoinRows N on maxOut kind suffix left right=.ok out):
 Complete N on kind suffix left right out↔
 (left.headers.Nodup∧(right.headers.filter fun h=>h∉on.map snd).Nodup∧
  ∀ h∈right.headers,h∉on.map snd→h∈left.headers→
   h++suffix∉left.headers∧¬(h++suffix∈right.headers∧h++suffix∉on.map snd))∧
 (∀ l r,(some l,r)∈pairs N on kind left.rows right.rows→∀ h∈left.headers,(l h).isSome)∧
 ∀ l r,(some l,some r)∈pairs N on kind left.rows right.rows→
  (∀ c,(l c).isSome→c∉on.map fst→c∈left.headers)∧
  ∀ c,(r c).isSome→c∉on.map snd→c∈right.headers:=by
 have hnames:outNames on kind suffix left right=rightOut on suffix left.headers right.headers:=by
  rw[outNames,if_neg hkind]
 have hlisted:∀ c,(∃ name,(c,name)∈rightOut on suffix left.headers right.headers)↔
   c∈right.headers∧c∉on.map snd:=by simp[rightOut]
 cases out_of_ok h
 rw[←headers_nodup_iff,←hnames]
 constructor
 ·intro hc
  have hdis:=(nodup_append.1 hc.distinct).2.2
  refine ⟨hc.distinct,fun l r hp h hh=>?_,fun l r hp=>⟨fun c hl hk=>((hc.kept l r hp).1 c hl hk).1,fun c hr hk=>?_⟩⟩
  ·have hrow:=hc.filled _ (mem_map_of_mem hp) h (mem_append_left _ hh)
   rwa[mergeRow_left fun hin=>hdis h hh h hin rfl] at hrow
  ·obtain ⟨name,hname,_⟩:=(hc.kept l r hp).2 c hr hk
   exact ((hlisted c).1 ⟨name,hnames▸hname⟩).1
 ·rintro ⟨hdistinct,hfull,hcols⟩
  obtain ⟨_,hnodup,hdis⟩:=nodup_append.1 hdistinct
  refine ⟨fun row hrow c hc=>?_,hdistinct,fun l r hp=>⟨fun c hl hk=>?_,fun c hr hk=>?_⟩⟩
  ·obtain ⟨⟨l,r⟩,hp,rfl⟩:=mem_map.1 hrow
   rcases mem_append.1 hc with hc | hc
   ·cases l with
    | some l=>
     rw[mergeRow_left fun hin=>hdis c hc c hin rfl]
     exact hfull l r hp c hc
    | none=>
     have hnew:c∉((outNames on kind suffix left right).map fun o=>(o.2,r.bind fun r=>r.cell o.1)).map fst:=by
      simpa[Function.comp_def] using fun a=>fun hin=>hdis c hc c (mem_map.2 ⟨(a,c),hin,rfl⟩) rfl
     refine (congrArg Option.isSome (assign_of_not_mem hnew)).trans ?_
     rw[←assign_append]
     refine assign_isSome ?_
     simp[hc]
   ·exact mergeRow_named hc
  ·have hc:=(hcols l r hp).1 c hl hk
   exact ⟨hc,mergeRow_left fun hin=>hdis c hc c hin rfl⟩
  ·obtain ⟨name,hname⟩:=(hlisted c).2 ⟨(hcols l r hp).2 c hr hk,hk⟩
   refine ⟨name,hnames▸hname,(mergeRow_right hnodup (hnames▸hname)).trans ?_⟩
   obtain ⟨v,hv⟩:=Option.isSome_iff_exists.1 hr
   rw[Row.cell,hv]
   rfl

/-- The row of the first list has no `n`, and the second list's `n` takes the place of its `n_right`. -/
theorem join_loses_columns:
  (executeJoinRows plainNumbers [("id","id")] 5 .inner "_right"
   ⟨[RowOf.assign (fun _=>none) [("id",some (.str "a")),("n_right",some (.num 1))]],["id","n","n_right"]⟩
   (listing [listed "a" 2])).toOption.map
    (fun t=>(t.headers,t.rows.map fun r=>(r "n",r "n_right"))) =
   some (["id","n","n_right","n_right"],[(none,some (some (.num 2)))]):=by decide

theorem join_complete_outer:
 Complete plainNumbers [("id","id")] .outer "_right" (listing [listed "a" 1,listed "b" 2])
  (listing [listed "c" 3,listed "a" 4])
  ⟨[(some (listed "a" 1),some (listed "a" 4)),(some (listed "b" 2),none),(none,some (listed "c" 3))].map
   (mergeRow [("id","id")] ["id","n"] [("n","n_right")]),["id","n","n_right"]⟩:=by
 have hp:pairs plainNumbers [("id","id")] .outer [listed "a" 1,listed "b" 2] [listed "c" 3,listed "a" 4] =
   [(some (listed "a" 1),some (listed "a" 4)),(some (listed "b" 2),none),(none,some (listed "c" 3))]:=rfl
 have hcols:∀ id n c,(listed id n c).isSome→c∈["id","n"]:=by
  intro id n c hc
  unfold listed at hc
  split_ifs at hc<;>simp_all
 have hfull:∀ id n,∀ c∈["id","n"],(listed id n c).isSome:=by
  intro id n c hc
  rcases mem_pair.1 hc with rfl | rfl<;>rfl
 refine (@join_complete_iff plainNumbers [("id","id")] .outer 5 "_right" (listing _) (listing _) _ nofun rfl).2
  ⟨by decide,fun l r hmem=>?_,fun l r hmem=>?_⟩
 ·rcases mem_cons.1 (hp▸hmem) with h | h
  ·cases h
   exact hfull _ _
  ·rcases mem_cons.1 h with h | h
   ·cases h
    exact hfull _ _
   ·cases mem_singleton.1 h
 ·rcases mem_cons.1 (hp▸hmem) with h | h
  ·cases h
   exact ⟨fun c hc _=>hcols _ _ c hc,fun c hc _=>hcols _ _ c hc⟩
  ·rcases mem_cons.1 h with h | h
   ·cases h
   ·cases mem_singleton.1 h

end Dazyflow.JoinRows
