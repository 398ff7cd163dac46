import Dazyflow.GoStrings

/-!
# Buffered execution counts

Executions are counted in memory under the tenant and the month.
-/
namespace Dazyflow.BufferedUsage
open GoStrings List

/-- `time.Time` with its `Format` and `Parse` for the layout `2006-01`. -/
structure Calendar where
 Time:Type
 format:Time→String
 parse:String→Option Time

abbrev Entry:=List Char×Int

/-- The counts are integers, of which Go's `int` holds 64 bits. -/
structure State where
 inner:String→String→Int:=fun _ _=>0
 pending:List Entry:=[]
 /-- What each flush took and has not dealt with yet. -/
 held:List (List Entry):=[]

def addTo(key:List Char)(n:Int):List Entry→List Entry
 | []=>[(key,n)]
 | e::es=>if e.1=key then (key,e.2+n)::es else e::addTo key n es

variable (cal:Calendar)

def addNodeExecutions(tenant:String)(n:Int)(now:cal.Time)(s:State):State:=
 {s with pending:=addTo (tenant.toList++ '\x00'::(cal.format now).toList) n s.pending}

def snapshot(s:State):State:={s with pending:=[],held:=s.pending::s.held}

/-- One entry of a flush; `fails` is a refused store write. -/
def flushEntry(fails:Bool)(e:Entry)(s:State):State:=
 let (tenant,periodKey):=(cut '\x00' e.1).getD (e.1,[])
 match cal.parse (String.ofList periodKey) with
 | none=>s
 | some ts=>
  if fails then {s with pending:=addTo e.1 e.2 s.pending}
  else
   { s with
    inner:=fun t p=>s.inner t p+if t=String.ofList tenant∧p=cal.format ts then e.2 else 0}

/-- The states of a run with the executions added so far, where `allowed` holds of every add. A flush takes its
entries in any order. -/
inductive Reached(allowed:String→cal.Time→Prop):State→(String→String→Int)→Prop
 | start:Reached allowed {} (fun _ _=>0)
 | add{s:State}{added:String→String→Int}(tenant:String)(n:Int)(now:cal.Time)(h:Reached allowed s added)
  (hok:allowed tenant now):Reached allowed (addNodeExecutions cal tenant n now s)
   fun t p=>added t p+if t=tenant∧p=cal.format now then n else 0
 | snapshot{s:State}{added:String→String→Int}(h:Reached allowed s added):Reached allowed (snapshot s) added
 | write{s:State}{added:String→String→Int}(front back:List (List Entry))(before after:List Entry)(e:Entry)
  (fails:Bool)(h:Reached allowed {s with held:=front++(before++e::after)::back} added):
  Reached allowed (flushEntry cal fails e {s with held:=front++(before++after)::back}) added

/-- The key of the add is read back as what it was made of. -/
def Parses(tenant:String)(now:cal.Time):Prop:=
 '\x00'∉tenant.toList∧(cal.parse (cal.format now)).map cal.format=some (cal.format now)

/-- The executions of a tenant and a month among some entries. -/
def credit(tenant period:String)(es:List Entry):Int:=
 (es.map fun e=>if cut '\x00' e.1=some (tenant.toList,period.toList) then e.2 else 0).sum

def Reads(e:Entry):Prop:=
 ∃ tenant period:String,cut '\x00' e.1=some (tenant.toList,period.toList)∧
  (cal.parse period).map cal.format=some period

variable {cal}{s:State}{added:String→String→Int}{tenant period:String}{es:List Entry}{e:Entry}

lemma credit_addTo{key n}:credit tenant period (addTo key n es)=credit tenant period es+
 if cut '\x00' key=some (tenant.toList,period.toList) then n else 0:=by
 induction es with
 | nil=>simp[addTo,credit]
 | cons e es ih=>
  by_cases hk:e.1=key
  ·subst hk
   simp only[addTo,if_true,credit,map_cons,sum_cons]
   split_ifs<;>omega
  ·simp only[addTo,hk,if_false,credit,map_cons,sum_cons] at ih⊢
   rw[ih,add_assoc]
lemma reads_addTo{n}(he:Reads cal e)(h:∀ e∈es,Reads cal e):∀ x∈addTo e.1 n es,Reads cal x:=by
 induction es with
 | nil=>exact forall_mem_singleton.2 he
 | cons x es ih=>
  obtain ⟨hx,hes⟩:=forall_mem_cons.1 h
  rw[addTo]
  split_ifs
  ·exact forall_mem_cons.2 ⟨he,hes⟩
  ·exact forall_mem_cons.2 ⟨hx,ih hes⟩

structure Conserved(cal:Calendar)(s:State)(added:String→String→Int):Prop where
 pending:∀ e∈s.pending,Reads cal e
 held:∀ es∈s.held,∀ e∈es,Reads cal e
 total:∀ tenant period,s.inner tenant period+credit tenant period s.pending+
  (s.held.map (credit tenant period)).sum=added tenant period

lemma Conserved.add{n now}(h:Conserved cal s added)(hok:Parses cal tenant now):
 Conserved cal (addNodeExecutions cal tenant n now s)
  (fun t p=>added t p+if t=tenant∧p=cal.format now then n else 0):=by
 have hcut:=cut_append (cal.format now).toList hok.1
 refine ⟨reads_addTo (e:=(_,n)) ⟨_,_,hcut,hok.2⟩ h.pending,h.held,fun t p=>?_⟩
 rw[←h.total t p,addNodeExecutions,credit_addTo,hcut]
 simp only[Option.some.injEq,Prod.mk.injEq,String.toList_inj,eq_comm]
 omega
lemma Conserved.write{front back before after fails}
 (h:Conserved cal {s with held:=front++(before++e::after)::back} added):
 Conserved cal (flushEntry cal fails e {s with held:=front++(before++after)::back}) added:=by
 have hheld:∀ es∈front++(before++after)::back,∀ x∈es,Reads cal x:=by
  intro es hes x hx
  rcases mem_append.1 hes with hes | hes
  ·exact h.held es (mem_append_left _ hes) x hx
  ·rcases mem_cons.1 hes with rfl | hes
   ·exact h.held _ (mem_append_right _ mem_cons_self) x (by grind)
   ·exact h.held es (mem_append_right _ (mem_cons_of_mem _ hes)) x hx
 have he:Reads cal e:=h.held _ (mem_append_right _ mem_cons_self) e (by simp)
 have htotal:∀ t p,s.inner t p+credit t p s.pending+((front++(before++after)::back).map (credit t p)).sum+
  (if cut '\x00' e.1=some (t.toList,p.toList) then e.2 else 0)=added t p:=by
  intro t p
  rw[←h.total t p]
  simp only[credit,map_append,map_cons,sum_append,sum_cons]
  omega
 obtain ⟨tenant,period,hcut,hparse⟩:=id he
 obtain ⟨ts,hts,hformat⟩:=Option.map_eq_some_iff.1 hparse
 rw[flushEntry,hcut,Option.getD_some]
 simp only[String.ofList_toList,hts]
 cases fails with
 | true=>
  refine ⟨reads_addTo he h.pending,hheld,fun t p=>?_⟩
  have hsum:=htotal t p
  simp only[if_true,credit_addTo]
  omega
 | false=>
  refine ⟨h.pending,hheld,fun t p=>?_⟩
  rw[←htotal t p,hcut,hformat]
  simp only[Option.some.injEq,Prod.mk.injEq,String.toList_inj,Bool.false_eq_true,if_false,eq_comm]
  omega

/-- What is recorded, pending and held by flushes is what was added, as long as the keys read back. -/
theorem executions_conserved(h:Reached cal (Parses cal) s added)(tenant period:String):
 s.inner tenant period+credit tenant period s.pending+(s.held.map (credit tenant period)).sum =
  added tenant period:=by
 suffices hc:Conserved cal s added from hc.total tenant period
 induction h with
 | start=>exact ⟨nofun,nofun,fun _ _=>rfl⟩
 | add tenant n now _ hok ih=>exact ih.add hok
 | snapshot _ ih=>
  refine ⟨nofun,forall_mem_cons.2 ⟨ih.pending,ih.held⟩,fun t p=>?_⟩
  rw[←ih.total t p]
  simp[snapshot,credit,add_assoc]
 | write front back before after e fails _ ih=>exact ih.write

def june:Calendar:=⟨Unit,fun _=>"2026-06",fun p=>if p= "2026-06" then some () else none⟩

theorem executions_conserved_three:∃ s added,Reached june (Parses june) s added∧
 s.inner "acme" "2026-06"=3∧s.inner "acme" "2026-06"+credit "acme" "2026-06" s.pending+
  (s.held.map (credit "acme" "2026-06")).sum=added "acme" "2026-06":=by
 have hadd:Reached june (Parses june) _ _:=.add "acme" 3 () .start ⟨by decide,rfl⟩
 have hrun:=Reached.write (s:={}) [] [] [] [] ("acme\x002026-06".toList,3) false hadd.snapshot
 exact ⟨_,_,hrun,rfl,executions_conserved hrun _ _⟩

/-- The executions of a tenant with a NUL in its name are dropped by a flush that fails no write. -/
theorem executions_of_nul_tenant_lost:∃ s added,Reached june (fun _ _=>True) s added∧
 s.inner=(fun _ _=>0)∧s.pending=[]∧s.held=[[]]∧added "a\x00b" "2026-06"=3:=by
 have hadd:Reached june (fun _ _=>True) _ _:=.add "a\x00b" 3 () .start trivial
 have hrun:=Reached.write (s:={}) [] [] [] [] ("a\x00b\x002026-06".toList,3) false hadd.snapshot
 exact ⟨_,_,hrun,rfl,rfl,rfl,rfl⟩

end Dazyflow.BufferedUsage
