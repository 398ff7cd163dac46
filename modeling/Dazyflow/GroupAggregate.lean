import Dazyflow.FirstSeenGroups
import Dazyflow.GoStrings
import Dazyflow.RowCells

/-!
# Aggregates of groups of rows

`group_aggregate` keeps one accumulator a group and aggregate, and writes the group's key cells and then the
aggregates into the output row.
-/
namespace Dazyflow.GroupAggregate
open RowCells FirstSeenGroups GoStrings List

inductive Op where
 | count
 | sum
 | avg
 | min
 | max
 | first
 | last
 | collect
 deriving DecidableEq

structure AggSpec where
 output:String
 op:Op
 column:String

/-- A float: `strconv.ParseFloat` also reads the texts of NaN and of the infinities. Numbers are exact. -/
inductive Num where
 | nan
 | inf (negative:Bool)
 | rat (q:ℚ)
 deriving DecidableEq

def Num.less:Num→Num→Bool
 | .rat p,.rat q=>p<q
 | .inf true,.rat _ | .inf true,.inf false | .rat _,.inf false=>true
 | _,_=>false

def Num.add:Num→Num→Num
 | .rat p,.rat q=>.rat (p+q)
 | .rat _,n | n,.rat _=>n
 | .inf a,.inf b=>if a=b then .inf a else .nan
 | _,_=>.nan

def Num.div(k:Nat):Num→Num
 | .rat q=>.rat (q/k)
 | n=>n

def Num.rational:Num→Option ℚ
 | .rat q=>some q
 | _=>none

structure Texts extends Numbers where
 readFloat:String→Option Num

/-- A value of an output row: a cell, the list that `collect` gives, or a float that is no number. -/
inductive Out where
 | cell (c:Cell)
 | list (cs:List Cell)
 | special (n:Num)
 deriving DecidableEq

def Out.number:Num→Out
 | .rat q=>.cell (some (.num q))
 | n=>.special n

structure AggOpState where
 numericValid:Bool:=false
 sumFloat:Num:=.rat 0
 count:Nat:=0
 minAny:Cell:=none
 maxAny:Cell:=none
 hasAny:Bool:=false
 first:Cell:=none
 hasFirst:Bool:=false
 last:Cell:=none
 collect:List Cell:=[]

variable (N:Texts)

def coerceNumeric:Value→Except String Num
 | .num q=>.ok (.rat q)
 | .str s=>
  if trimSpace s= "" then .error "empty string is not numeric"
  else match N.readFloat (trimSpace s) with
   | some f=>.ok f
   | none=>.error ("not numeric: "++quote (trimSpace s))
 | .bool _=>.error "bool is not numeric"
 | .nested json=>.error ("type "++(if json.startsWith "[" then "[]interface \x7b\x7d" else
  "map[string]interface \x7b\x7d")++" is not numeric")

def numeric(v:Value):Option Num:=(coerceNumeric N v).toOption

/-- A cell that cannot be added ends the whole step with this error. -/
def observeError(a:AggSpec)(row:Row):Option String:=
 if a.op=.sum∨a.op=.avg then
  (row.cell a.column).bind (fun v=>match coerceNumeric N v with
   | .ok _=>none
   | .error e=>some ("column "++quote a.column++": "++e))
 else none

def beats{α:Type}(less:α→α→Bool)(op:Op)(new old:α):Bool:=(op=.min&&less new old)||(op=.max&&less old new)

def below{α:Type}[LinearOrder α](a b:α):Bool:=a<b

-- the first text stands for both extrema, each kind then moves its own
def AggOpState.observeText(op:Op)(s:AggOpState)(v:Value):AggOpState:=
 if s.hasAny then
  { s with
   minAny:=if op=.min&&beats below op (N.text v) (s.minAny.elim "<nil>" N.text) then some v else s.minAny
   maxAny:=if op=.max&&beats below op (N.text v) (s.maxAny.elim "<nil>" N.text) then some v else s.maxAny}
 else {s with minAny:=some v,maxAny:=some v,hasAny:=true}

def AggOpState.observe(a:AggSpec)(s:AggOpState)(row:Row):AggOpState:=
 let c:=row.cell a.column
 match a.op with
 | .count=>{s with count:=s.count+1}
 | .sum | .avg=>
  match c.bind (numeric N) with
  | some n=>{s with sumFloat:=s.sumFloat.add n,count:=s.count+1,numericValid:=true}
  | none=>s
 | .min | .max=>
  match c with
  | none=>s
  | some v=>
   match numeric N v with
   | some n=>
    if s.numericValid&& !beats Num.less a.op n s.sumFloat then s else {s with sumFloat:=n,numericValid:=true}
   | none=>s.observeText N a.op v
 | .first=>if s.hasFirst then s else {s with first:=c,hasFirst:=true}
 | .last=>{s with last:=c,hasFirst:=true}
 | .collect=>{s with collect:=s.collect++[c]}

def AggOpState.finalize(op:Op)(s:AggOpState):Out:=
 match op with
 | .count=>.cell (some (.num s.count))
 | .sum=>.number (if s.numericValid then s.sumFloat else .rat 0)
 | .avg=>if s.count=0 then .cell none else .number (s.sumFloat.div s.count)
 | .min=>if s.numericValid then .number s.sumFloat else .cell (if s.hasAny then s.minAny else none)
 | .max=>if s.numericValid then .number s.sumFloat else .cell (if s.hasAny then s.maxAny else none)
 | .first=>.cell (if s.hasFirst then s.first else none)
 | .last=>.cell (if s.hasFirst then s.last else none)
 | .collect=>.list s.collect

open AggOpState (finalize observe)

def aggregate(a:AggSpec)(rows:List Row):Out:=(rows.foldl (observe N a) {}).finalize a.op

def unknownColumn(headers by':List String)(aggs:List AggSpec):Option String:=
 (by'.find? fun c=>c∉headers).map (fun c=>"by: column "++quote c++" not in input headers (["++
  " ".intercalate headers++"])") <|>
 (aggs.find? fun a=>a.op≠.count∧a.column∉headers).map (fun a=>"aggregate "++quote a.output++": column "++
  quote a.column++" not in input headers (["++" ".intercalate headers++"])")

def firstError(aggs:List AggSpec)(rows:List Row):Option String:=
 rows.zipIdx.findSome? (fun r=>aggs.findSome? fun a=>(observeError N a r.1).map fun e=>
  "aggregate "++quote a.output++" on row "++itoa r.2++": "++e)

def outRow(by':List String)(aggs:List AggSpec)(keyValues:Row)(ops:AggSpec→AggOpState):RowOf Out:=
 RowOf.assign (fun c=>if c∈by' then some (.cell (keyValues.cell c)) else none)
  (aggs.map fun a=>(a.output,(ops a).finalize a.op))

def executeGroupAggregate(by':List String)(aggs:List AggSpec)(t:Table):
 Except Refusal (List (RowOf Out)):=
 match if t.rows≠[]∨t.headers≠[] then unknownColumn t.headers by' aggs else none with
 | some e=>.error ⟨"bad_input",e⟩
 | none=>
  match firstError N aggs t.rows with
  | some e=>.error ⟨"eval",e⟩
  | none=>.ok ((groups (fun row=>(row,fun _=>{})) (fun acc row=>(acc.1,fun a=>(acc.2 a).observe N a row))
   (N.keyString by') t.rows).map fun g=>outRow by' aggs g.2.1 g.2.2)

/-- A cell that is added up or compared as a float is a number, not NaN or an infinity. -/
def Finite(a:AggSpec)(row:Row):Prop:=
 a.op∈[.sum,.avg,.min,.max]→∀ n∈(row.cell a.column).bind (numeric N),n.rational.isSome

def nums(column:String)(rows:List Row):List ℚ:=
 rows.filterMap (fun r=>((r.cell column).bind (numeric N)).bind Num.rational)

def others(column:String)(rows:List Row):List Value:=
 rows.filterMap (fun r=>(r.cell column).filter fun v=>(numeric N v).isNone)

def Extreme{α:Type}[LinearOrder α](op:Op)(xs:List α)(x:α):Prop:=x∈xs∧∀ y∈xs,beats below op y x=false

/-- What an extremum of the values of a group is; numbers go before texts. -/
def ExtremeOf(op:Op)(xs:List ℚ)(ws:List Value)(v:Out):Prop:=
 (∃ q,v=.cell (some (.num q))∧Extreme op xs q)∨
 xs=[]∧(ws=[]∧v=.cell none∨∃ w∈ws,v=.cell (some w)∧Extreme op (ws.map N.text) (N.text w))

/-- The aggregate as a specification: of the numbers or the texts of the column, or of the rows. -/
def Reference(a:AggSpec)(rows:List Row)(v:Out):Prop:=
 match a.op with
 | .count=>v=.cell (some (.num rows.length))
 | .sum=>v=.cell (some (.num (nums N a.column rows).sum))
 | .avg=>v=.cell (if nums N a.column rows=[] then none
  else some (.num ((nums N a.column rows).sum/(nums N a.column rows).length)))
 | .min | .max=>ExtremeOf N a.op (nums N a.column rows) (others N a.column rows) v
 | .first=>v=.cell (rows.head?.bind fun r=>r.cell a.column)
 | .last=>v=.cell (rows.getLast?.bind fun r=>r.cell a.column)
 | .collect=>v=.list (rows.map fun r=>r.cell a.column)

structure Extrema(op:Op)(xs:List ℚ)(ws:List Value)(s:AggOpState):Prop where
 valid:s.numericValid↔xs≠[]
 number:s.numericValid→∃ q,s.sumFloat=.rat q∧Extreme op xs q
 any:s.hasAny↔ws≠[]
 text:s.hasAny→∃ w∈ws,(if op=.min then s.minAny else s.maxAny)=some w∧
  Extreme op (ws.map N.text) (N.text w)

/-- The output row of the group of `rep`: its key cells and the aggregates of the rows that share them. -/
structure Carries(by':List String)(aggs:List AggSpec)(rows:List Row)(rep:Row)(r:RowOf Out):Prop where
 key:∀ c∈by',r c=some (.cell (rep.cell c))
 aggregates:∀ a∈aggs,∃ v,r a.output=some v∧
  Reference N a (rows.filter fun row=>N.texts by' row=N.texts by' rep) v

/-- The output in whole: one row for each tuple of key texts, and groups that make up all the rows. -/
structure Grouped(by':List String)(aggs:List AggSpec)(rows reps:List Row)(out:List (RowOf Out)):Prop where
 sublist:reps.Sublist rows
 distinct:(reps.map (N.texts by')).Nodup
 complete:∀ row∈rows,N.texts by' row∈reps.map (N.texts by')
 carries:∃ row:Row→RowOf Out,out=reps.map row∧∀ rep∈reps,Carries N by' aggs rows rep (row rep)
 counted:(reps.map fun rep=>(rows.filter fun row=>N.texts by' row=N.texts by' rep).length).sum=rows.length

def keyText:Option Out→Option String
 | some (.cell c)=>some (N.keyCell c)
 | _=>none

/-- The ops whose result does not come from the place of a row. -/
def Unordered(op:Op):Prop:=op=.count∨op=.sum∨op=.avg∨op=.min∨op=.max

/-- An output value up to the kind of a value that is compared as text. -/
def Out.plain:Out→Out
 | .cell (some (.num q))=>.cell (some (.num q))
 | .cell (some v)=>.cell (some (.str (N.text v)))
 | v=>v

def Holds(a:AggSpec)(rows:List Row)(s:AggOpState):Prop:=
 match a.op with
 | .count=>s.count=rows.length
 | .sum | .avg=>s.sumFloat=.rat (nums N a.column rows).sum∧s.count=(nums N a.column rows).length∧
  (s.numericValid↔nums N a.column rows≠[])
 | .min | .max=>Extrema N a.op (nums N a.column rows) (others N a.column rows) s
 | .first=>s.hasFirst= !rows.isEmpty∧s.first=rows.head?.bind (fun r=>r.cell a.column)
 | .last=>s.hasFirst= !rows.isEmpty∧s.last=rows.getLast?.bind (fun r=>r.cell a.column)
 | .collect=>s.collect=rows.map (fun r=>r.cell a.column)

variable {N}{a:AggSpec}{rows:List Row}{op:Op}{α:Type}{x y:α}

lemma Extreme.put [LinearOrder α]{xs:List α}(hop:op=.min∨op=.max)(h:Extreme op xs x):
 Extreme op (xs++[y]) (if beats below op y x then y else x):=by
 rcases hop with rfl | rfl<;>simp only[Extreme,beats,below] at *<;>grind
lemma extreme_single [LinearOrder α]{x:α}(hop:op=.min∨op=.max):Extreme op [x] x:=by
 rcases hop with rfl | rfl<;>simp only[Extreme,beats,below]<;>grind
lemma nums_append{column row}:nums N column (rows++[row])=nums N column rows++
 (((row.cell column).bind (numeric N)).bind Num.rational).toList:=by
 rw[nums,filterMap_append]
 cases h:((row.cell column).bind (numeric N)).bind Num.rational<;>simp[nums,h]
lemma Finite.rat{row n}(h:Finite N a row)(hop:a.op∈[Op.sum,.avg,.min,.max])
 (hn:(row.cell a.column).bind (numeric N)=some n):∃ q,n=.rat q:=by
 have hsome:=h hop n hn
 cases n with
 | rat q=>exact ⟨q,rfl⟩
 | nan | inf=>cases hsome
lemma others_append{column row}:others N column (rows++[row])=others N column rows++
 ((row.cell column).filter fun v=>(numeric N v).isNone).toList:=by
 rw[others,filterMap_append]
 cases h:(row.cell column).filter (fun v=>(numeric N v).isNone)<;>simp[others,h]
lemma Extrema.number_put{xs:List ℚ}{ws:List Value}{s:AggOpState}{p:ℚ}(hop:op=.min∨op=.max)
 (h:Extrema N op xs ws s):Extrema N op (xs++[p]) ws
  (if s.numericValid&& !beats Num.less op (.rat p) s.sumFloat then s
   else {s with sumFloat:=.rat p,numericValid:=true}):=by
 cases hv:s.numericValid with
 | false=>
  have hxs:xs=[]:=by simpa[hv] using h.valid
  subst hxs
  exact ⟨by simp,fun _=>⟨p,rfl,extreme_single hop⟩,h.any,h.text⟩
 | true=>
  obtain ⟨q,hq,hext⟩:=h.number hv
  have hput:=hext.put (y:=p) hop
  have hless:beats Num.less op (.rat p) (.rat q)=beats below op p q:=rfl
  rw[hq,hless]
  cases hb:beats below op p q with
  | false=>exact ⟨by simp[hv],fun _=>⟨q,by simpa using hq,by simpa[hb] using hput⟩,h.any,h.text⟩
  | true=>exact ⟨by simp,fun _=>⟨p,rfl,by simpa[hb] using hput⟩,h.any,h.text⟩
lemma Extrema.text_put{xs:List ℚ}{ws:List Value}{s:AggOpState}{v:Value}(hop:op=.min∨op=.max)
 (h:Extrema N op xs ws s):Extrema N op xs (ws++[v]) (s.observeText N op v):=by
 unfold AggOpState.observeText
 cases ha:s.hasAny with
 | false=>
  have hws:ws=[]:=by simpa[ha] using h.any
  subst hws
  refine ⟨h.valid,h.number,by simp,fun _=>⟨v,by simp,by simp,?_⟩⟩
  exact extreme_single hop
 | true=>
  obtain ⟨w,hw,hpick,hext⟩:=h.text ha
  have hput:=hext.put (y:=N.text v) hop
  refine ⟨h.valid,h.number,by simp,fun _=>?_⟩
  refine ⟨if beats below op (N.text v) (N.text w) then v else w,by split<;>simp[hw],?_,?_⟩
  ·rcases hop with rfl | rfl<;>simp_all<;>split<;>simp_all
  ·rw[map_append,apply_ite N.text]
   exact hput
lemma holds_extreme{s row}(hop:a.op=.min∨a.op=.max)(hfin:Finite N a row)
 (h:Extrema N a.op (nums N a.column rows) (others N a.column rows) s):
 Extrema N a.op (nums N a.column (rows++[row])) (others N a.column (rows++[row])) (s.observe N a row):=by
 rw[nums_append,others_append]
 have hobs:s.observe N a row=match row.cell a.column with
  | none=>s
  | some v=>
   match numeric N v with
   | some n=>
    if s.numericValid&& !beats Num.less a.op n s.sumFloat then s else {s with sumFloat:=n,numericValid:=true}
   | none=>s.observeText N a.op v:=by
  rcases hop with hop | hop<;>simp only[observe,hop]
 rw[hobs]
 cases hc:row.cell a.column with
 | none=>simpa using h
 | some v=>
  cases hn:numeric N v with
  | some n=>
   obtain ⟨q,rfl⟩:=hfin.rat (by rcases hop with hop | hop<;>simp[hop]) (by rw[hc]; exact hn)
   simpa[hn,Option.filter,Num.rational] using h.number_put (p:=q) hop
  | none=>simpa[hn,Option.filter] using h.text_put (v:=v) hop
lemma holds_observe{s row}(hfin:Finite N a row)(h:Holds N a rows s):Holds N a (rows++[row]) (s.observe N a row):=by
 cases hop:a.op with
 | min=>
  simp only[Holds,hop] at h⊢
  exact hop▸holds_extreme (.inl hop) hfin (hop.symm▸h)
 | max=>
  simp only[Holds,hop] at h⊢
  exact hop▸holds_extreme (.inr hop) hfin (hop.symm▸h)
 | count | collect=>simpa[Holds,observe,hop] using h
 | last=>simp[Holds,observe,hop]
 | first=>
  simp only[Holds,observe,hop] at h⊢
  cases rows<;>simp_all
 | sum | avg=>
  simp only[Holds,observe,hop,nums_append] at h⊢
  cases hn:(row.cell a.column).bind (numeric N) with
  | none=>simpa using h
  | some n=>
   obtain ⟨q,rfl⟩:=hfin.rat (by simp[hop]) hn
   simp[h,Num.add,Num.rational]
lemma holds_run(hfin:∀ row∈rows,Finite N a row):Holds N a rows (rows.foldl (observe N a) {}):=by
 induction rows using reverseRecOn with
 | nil=>
  unfold Holds
  cases a.op
  case min | max=>exact ⟨by simp[nums],nofun,by simp[others],nofun⟩
  case sum | avg=>exact ⟨rfl,rfl,by simp[nums]⟩
  all_goals simp
 | append_singleton rows row ih=>
  rw[foldl_append]
  exact holds_observe (hfin row (by simp)) (ih fun r hr=>hfin r (by simp[hr]))
lemma Extrema.extremeOf{op xs ws s}(h:Extrema N op xs ws s):
 ExtremeOf N op xs ws (if s.numericValid then .number s.sumFloat
  else .cell (if s.hasAny then (if op=.min then s.minAny else s.maxAny) else none)):=by
 cases hv:s.numericValid with
 | true=>
  obtain ⟨q,hq,hext⟩:=h.number hv
  exact .inl ⟨q,by simp[hq,Out.number],hext⟩
 | false=>?_
 refine .inr ⟨by simpa[hv] using h.valid,?_⟩
 cases ha:s.hasAny with
 | false=>exact .inl ⟨by simpa[ha] using h.any,rfl⟩
 | true=>
  obtain ⟨w,hw,hpick,hext⟩:=h.text ha
  exact .inr ⟨w,hw,by simp[hpick],hext⟩
lemma aggregate_reference(hfin:∀ row∈rows,Finite N a row):Reference N a rows (aggregate N a rows):=by
 have h:Holds N a rows _:=holds_run hfin
 unfold Reference aggregate finalize
 generalize rows.foldl (observe N a) {}=s at h
 cases hop:a.op<;>simp only[Holds,hop] at h⊢
 case min | max=>exact h.extremeOf
 case sum | avg=>
  obtain ⟨hsum,hcount,hvalid⟩:=h
  cases hx:nums N a.column rows<;>simp_all[Out.number,Num.div]
 all_goals grind
lemma extreme_unique [LinearOrder α]{xs ys:List α}(hop:op=.min∨op=.max)(hp:xs.Perm ys)
 (hx:Extreme op xs x)(hy:Extreme op ys y):x=y:=by
 have hxy:=hx.2 y (hp.mem_iff.2 hy.1)
 have hyx:=hy.2 x (hp.mem_iff.1 hx.1)
 rcases hop with rfl | rfl<;>simp only[beats,below] at hxy hyx<;>grind
lemma numeric_num{q}:numeric N (.num q)=some (.rat q):=rfl
lemma plain_of_text{v w}(hv:numeric N v=none)(hw:numeric N w=none)(h:N.text v=N.text w):
 (Out.cell (some v)).plain N=(Out.cell (some w)).plain N:=by
 cases v<;>cases w<;>simp_all[Out.plain,Numbers.text,numeric_num]
lemma numeric_of_others{column v}(h:v∈others N column rows):numeric N v=none:=by
 obtain ⟨row,_,hv⟩:=mem_filterMap.1 h
 exact Option.isNone_iff_eq_none.1 (Option.filter_eq_some_iff.1 hv).2
lemma extremeOf_unique{xs ys:List ℚ}{ws us:List Value}{v w:Out}(hop:op=.min∨op=.max)
 (hws:∀ u∈ws,numeric N u=none)(hxs:xs.Perm ys)(hus:ws.Perm us)(hv:ExtremeOf N op xs ws v)
 (hw:ExtremeOf N op ys us w):v.plain N=w.plain N:=by
 rcases hv with ⟨q,rfl,hq⟩ | ⟨rfl,hv⟩
 ·rcases hw with ⟨p,rfl,hp⟩ | ⟨rfl,_⟩
  ·rw[extreme_unique hop hxs hq hp]
  ·rw[hxs.eq_nil] at hq
   cases hq.1
 ·rcases hw with ⟨p,rfl,hp⟩ | ⟨_,hw⟩
  ·rw[hxs.symm.eq_nil] at hp
   cases hp.1
  ·rcases hv with ⟨rfl,rfl⟩ | ⟨u,hu,rfl,hmu⟩
   ·rcases hw with ⟨_,rfl⟩ | ⟨u,hu,_⟩
    ·rfl
    ·rw[hus.symm.eq_nil] at hu
     cases hu
   ·rcases hw with ⟨rfl,_⟩ | ⟨u',hu',rfl,hmu'⟩
    ·rw[hus.eq_nil] at hu
     cases hu
    ·exact plain_of_text (hws u hu) (hws u' (hus.mem_iff.2 hu')) (extreme_unique hop (hus.map _) hmu hmu')
lemma reference_perm{rows' v w}(hop:Unordered a.op)(hp:rows.Perm rows')
 (hv:Reference N a rows v)(hw:Reference N a rows' w):v.plain N=w.plain N:=by
 have hnums:(nums N a.column rows).Perm (nums N a.column rows'):=hp.filterMap _
 have hothers:(others N a.column rows).Perm (others N a.column rows'):=hp.filterMap _
 unfold Reference at hv hw
 rcases hop with hop | hop | hop | hop | hop<;>simp only[hop] at hv hw
 ·rw[hv,hw,hp.length_eq]
 ·rw[hv,hw,hnums.sum_eq]
 ·rw[hv,hw,hnums.sum_eq,hnums.length_eq]
  simp only[←length_eq_zero_iff,hnums.length_eq]
 ·exact extremeOf_unique (.inl rfl) (fun u=>numeric_of_others) hnums hothers hv hw
 ·exact extremeOf_unique (.inr rfl) (fun u=>numeric_of_others) hnums hothers hv hw

variable {by':List String}{aggs:List AggSpec}{t:Table}

lemma firstError_eq_none:firstError N aggs rows=none↔∀ row∈rows,∀ a∈aggs,observeError N a row=none:=by
 rw[firstError,findSome?_eq_none_iff]
 simp only[findSome?_eq_none_iff,Option.map_eq_none_iff,Prod.forall]
 constructor
 ·intro h row hr a ha
  obtain ⟨i,hi,rfl⟩:=getElem_of_mem hr
  exact h _ i (mk_mem_zipIdx_iff_getElem?.2 (getElem?_eq_getElem hi)) a ha
 ·exact fun h row i hr=>h row (fst_mem_of_mem_zipIdx hr)
lemma foldl_pair{rep}:rows.foldl (fun (acc:Row×(AggSpec→AggOpState)) row=>
 (acc.1,fun a=>(acc.2 a).observe N a row)) (rep,fun _=>{}) =
 (rep,fun a=>rows.foldl (observe N a) {}):=by
 induction rows using reverseRecOn with
 | nil=>rfl
 | append_singleton rows row ih=>
  simp only[foldl_append,foldl_cons,foldl_nil,ih]

def groupRow(N:Texts)(by':List String)(aggs:List AggSpec)(rows:List Row)(rep:Row):RowOf Out:=
 outRow by' aggs rep (fun a=>
  (rows.filter fun row=>N.keyString by' row=N.keyString by' rep).foldl (observe N a) {})

lemma executeGroupAggregate_ok{out}:executeGroupAggregate N by' aggs t=.ok out↔
 ((if t.rows≠[]∨t.headers≠[] then unknownColumn t.headers by' aggs else none)=none∧
  ∀ row∈t.rows,∀ a∈aggs,observeError N a row=none)∧
 (firsts (N.keyString by') [] t.rows).map (groupRow N by' aggs t.rows)=out:=by
 rw[executeGroupAggregate,groups_eq,←firstError_eq_none]
 simp only[foldl_pair,map_map]
 split
 ·simp_all
 rename_i hcols
 rw[hcols]
 cases firstError N aggs t.rows with
 | some e=>simp
 | none=>
  simp only[Except.ok.injEq,true_and]
  rfl
lemma groupRow_carries{rep}(hkeys:∀ row∈rows,N.keyString by' row=N.keyString by' rep↔N.texts by' row=N.texts by' rep)
 (hfin:∀ row∈rows,∀ a∈aggs,Finite N a row)(hnames:(aggs.map AggSpec.output).Nodup)(hby:∀ a∈aggs,a.output∉by'):
 Carries N by' aggs rows rep (groupRow N by' aggs rows rep):=by
 have hrows:rows.filter (fun row=>N.keyString by' row=N.keyString by' rep) =
  rows.filter (fun row=>N.texts by' row=N.texts by' rep):=
  filter_congr (fun row hr=>decide_eq_decide.2 (hkeys row hr))
 rw[groupRow,hrows]
 constructor
 ·intro c hc
  rw[outRow,assign_of_not_mem]
  ·exact if_pos hc
  ·rw[map_map,mem_map]
   rintro ⟨a,ha,rfl⟩
   exact hby a ha hc
 ·intro a ha
  refine ⟨_,assign_of_nodup (by simpa[Function.comp_def] using hnames) (mem_map_of_mem ha),?_⟩
  exact aggregate_reference fun row hr=>hfin row (mem_of_mem_filter hr) a ha
lemma grouped{out}(hsep:∀ row∈t.rows,∀ x∈N.texts by' row,'\x1f'∉x)(hfin:∀ row∈t.rows,∀ a∈aggs,Finite N a row)
 (hnames:(aggs.map AggSpec.output).Nodup)(hby:∀ a∈aggs,a.output∉by')
 (h:executeGroupAggregate N by' aggs t=.ok out):Grouped N by' aggs t.rows (firsts (N.texts by') [] t.rows) out:=by
 obtain ⟨_,rfl⟩:=executeGroupAggregate_ok.1 h
 have hkeys:∀ row∈t.rows,∀ rep∈t.rows,N.keyString by' row=N.keyString by' rep↔N.texts by' row=N.texts by' rep:=
  fun row hr rep hp=>keyString_inj rfl (hsep row hr) (hsep rep hp)
 have hfirsts:firsts (N.keyString by') [] t.rows=firsts (N.texts by') [] t.rows:=
  firsts_congr _ [] (by simp) hkeys
 rw[hfirsts]
 refine ⟨firsts_sublist,firsts_keys_nodup,fun row hr=>mem_keys_firsts.2 ⟨mem_map_of_mem hr,nofun⟩,?_,?_⟩
 ·refine ⟨_,rfl,fun rep hrep=>?_⟩
  exact groupRow_carries (fun row hr=>hkeys row hr rep (firsts_sublist.subset hrep)) hfin hnames hby
 ·have hperm:=flatMap_firsts_perm (N.texts by') [] t.rows
  rw[←length_flatMap,hperm.length_eq]
  simp

/-- One row for each tuple of key texts, with its aggregates; the groups make up all the rows, and the order of
the rows decides no count, sum, average or extremum. -/
theorem grouped_by_text{out:List (RowOf Out)}(hsep:∀ row∈t.rows,∀ x∈N.texts by' row,'\x1f'∉x)
 (hfin:∀ row∈t.rows,∀ a∈aggs,Finite N a row)
 (hnames:(aggs.map AggSpec.output).Nodup)(hby:∀ a∈aggs,a.output∉by')
 (h:executeGroupAggregate N by' aggs t=.ok out):
 (∃ reps,Grouped N by' aggs t.rows reps out)∧
 ∀ rows',rows'.Perm t.rows→∃ out',executeGroupAggregate N by' aggs {t with rows:=rows' }=.ok out'∧
  ∀ r∈out,∃ r'∈out',(∀ c∈by',keyText N (r c)=keyText N (r' c))∧
   ∀ a∈aggs,Unordered a.op→(r a.output).map (Out.plain N)=(r' a.output).map (Out.plain N):=by
 have hall:=grouped hsep hfin hnames hby h
 refine ⟨⟨_,hall⟩,fun rows' hp=>?_⟩
 obtain ⟨⟨hcols,hobs⟩,_⟩:=executeGroupAggregate_ok.1 h
 have hcols':(if rows'≠[]∨t.headers≠[] then unknownColumn t.headers by' aggs else none)=none:=by
  simpa only[ne_eq,←length_eq_zero_iff,hp.length_eq] using hcols
 have hok':executeGroupAggregate N by' aggs {t with rows:=rows' }=.ok _:=
  executeGroupAggregate_ok.2 ⟨⟨hcols',fun row hr=>hobs row (hp.mem_iff.1 hr)⟩,rfl⟩
 have hall':=grouped (fun row hr=>hsep row (hp.mem_iff.1 hr)) (fun row hr=>hfin row (hp.mem_iff.1 hr)) hnames hby hok'
 refine ⟨_,hok',fun r hr=>?_⟩
 obtain ⟨F,hF,hc⟩:=hall.carries
 obtain ⟨F',hF',hc'⟩:=hall'.carries
 rw[hF] at hr
 rw[hF']
 obtain ⟨rep,hrep,rfl⟩:=mem_map.1 hr
 obtain ⟨rep',hrep',htexts⟩:=mem_map.1 (hall'.complete rep (hp.mem_iff.2 (hall.sublist.subset hrep)))
 refine ⟨_,mem_map_of_mem hrep',fun c hcb=>?_,fun a ha hop=>?_⟩
 ·have hcell:=map_inj_left.1 htexts c hcb
  rw[(hc rep hrep).key c hcb,(hc' rep' hrep').key c hcb,keyText,keyText,String.toList_inj.1 hcell]
 ·obtain ⟨v,hv,hrv⟩:=(hc rep hrep).aggregates a ha
  obtain ⟨w,hw,hrw⟩:=(hc' rep' hrep').aggregates a ha
  rw[htexts] at hrw
  rw[hv,hw,Option.map_some,Option.map_some,reference_perm hop (hp.filter _).symm hrv hrw]

def sample(c:String)(vs:List Value):Table:=⟨vs.map fun v=>RowOf.assign (fun _=>none) [(c,some v)],[c]⟩

def texts:Texts:=⟨plainNumbers,fun s=>if s= "NaN" then some .nan else none⟩

theorem grouped_by_text_two:∃ out,
 executeGroupAggregate texts [] [⟨"low",.min,"v"⟩,⟨"all",.sum,"v"⟩] (sample "v" [.num 2,.num 1])=.ok out∧
 (∃ reps,Grouped texts [] [⟨"low",.min,"v"⟩,⟨"all",.sum,"v"⟩] (sample "v" [.num 2,.num 1]).rows reps out)∧
 out.map (fun r=>(r "low",r "all"))=[(some (.cell (some (.num 1))),some (.cell (some (.num 3))))]:=by
 refine ⟨_,rfl,?_,by decide +kernel⟩
 exact (grouped_by_text (by decide) (by unfold Finite; decide) (by decide) (by decide) rfl).1

def lowest(v w:Value):Except Refusal (List (RowOf Out)):=
 executeGroupAggregate texts [] [⟨"m",.min,"v"⟩] (sample "v" [v,w])

/-- An aggregate named like the column the rows are grouped by takes its place; of a value and the text it is
written as the one that comes first is the minimum, and a NaN that comes first stays. -/
theorem aggregate_over_key:
 (∃ out,executeGroupAggregate texts ["k"] [⟨"k",.count,""⟩] (sample "k" [.str "a"])=.ok out∧
  out.map (fun r=>r "k")=[some (.cell (some (.num 1)))])∧
 (∀ p∈[(Value.bool true,Value.str "true"),(.nested "[1]",.str "[1]")],∃ out out',lowest p.1 p.2=.ok out∧
  lowest p.2 p.1=.ok out'∧out.map (fun r=>r "m")=[some (.cell (some p.1))]∧
  out'.map (fun r=>r "m")=[some (.cell (some p.2))])∧
 ∃ out out',lowest (.str "NaN") (.num 1)=.ok out∧lowest (.num 1) (.str "NaN")=.ok out'∧
  out.map (fun r=>r "m")=[some (.special .nan)]∧out'.map (fun r=>r "m")=[some (.cell (some (.num 1)))]:=by
 refine ⟨⟨_,rfl,by decide⟩,fun p hp=>?_,_,_,rfl,rfl,by decide,by decide⟩
 simp only[mem_cons,not_mem_nil,or_false] at hp
 rcases hp with rfl | rfl
 ·exact ⟨_,_,rfl,rfl,by decide,by decide⟩
 ·exact ⟨_,_,rfl,rfl,by decide,by decide⟩

end Dazyflow.GroupAggregate
