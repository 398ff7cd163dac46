import Dazyflow.BoundedTable

/-!
# The memory of recorded writes

What `memoryWriteDedupe` answers after any `Get` and `Put` calls.
-/
namespace Dazyflow.WriteDedupe

open BoundedTable KeyedTable List Function

def writeDedupeTTL:Nat:=3600000000000

def writeDedupeMaxItems:Nat:=50000

/-- `cloneResult`: the JSON round trip, which fails on values JSON does not have; what came back from it
goes through unchanged. -/
structure Json(Result:Type) where
 clone:Result→Option Result
 stable:∀ r w,clone r=some w→clone w=some w

structure Entry(Result:Type) where
 result:Result
 storedAt:Nat

abbrev Memory(Result:Type):=Store (Prod.fst:String×Entry Result→String)

variable {Result:Type}(J:Json Result)

def get(m:Memory Result)(key:String)(now:Nat):Option Result×Memory Result:=
 match m.table.find? key with
 | none=>(none,m)
 | some (_,e)=>if now-e.storedAt > writeDedupeTTL then (none,m.remove key) else (J.clone e.result,m)

def put(m:Memory Result)(key:String)(result:Result)(now:Nat):Memory Result:=
 m.put writeDedupeMaxItems (key,⟨(J.clone result).getD result,now⟩)

/-- A call and the time that has passed since the one before it. -/
inductive Call(Result:Type)
 | get (key:String)(wait:Nat)
 | put (key:String)(result:Result)(wait:Nat)

/-- A memory with what happened to it: the call that brought in each key, the last value put for it and
when, and whether it was evicted since. -/
structure History(Result:Type) where
 memory:Memory Result:={}
 clock:Nat:=0
 since:String→Nat:=fun _=>0
 calls:Nat:=0
 last:String→Option (Result×Nat):=fun _=>none
 evicted:String→Prop:=fun _=>False

def History.step(d:History Result):Call Result→History Result
 | .get key wait=>
  {d with memory:=(get J d.memory key (d.clock+wait)).2,clock:=d.clock+wait,calls:=d.calls+1}
 | .put key result wait=>
  {memory:=put J d.memory key result (d.clock+wait),clock:=d.clock+wait,calls:=d.calls+1
   since:=if key∈d.memory.order then d.since else update d.since key d.calls
   last:=update d.last key (some (result,d.clock+wait))
   evicted:=fun k=>k≠key∧(d.evicted k∨
    k∈d.memory.order∧k∉(put J d.memory key result (d.clock+wait)).order)}

def after(calls:List (Call Result)):History Result:=calls.foldl (History.step J) {}

structure History.Well(d:History Result):Prop where
 kept:Kept writeDedupeMaxItems d.memory d.since d.calls
 found:∀ k e,d.memory.table.find? k=some e→
  ∃ r,d.last k=some (r,e.2.storedAt)∧¬d.evicted k∧e.2.result=(J.clone r).getD r
 lost:∀ k r t,d.memory.table.find? k=none→d.last k=some (r,t)→¬d.evicted k→writeDedupeTTL < d.clock-t

variable {J}{d:History Result}{k:String}

lemma max_pos:0 < writeDedupeMaxItems:=by decide
lemma find?_remove(m:Memory Result)(key k):
 (m.remove key).table.find? k=if k=key then none else m.table.find? k:=by
 rw[Store.remove,find?_erase]
 cases hf:m.table.find? k with
 | none=>simp
 | some e=>
  have he:e.1=k:=key_of_find? hf
  by_cases hk:k=key<;>simp[he,hk]
lemma History.Well.later(h:d.Well J)(wait n):
 History.Well J {d with clock:=d.clock+wait,calls:=d.calls+n}:=
 ⟨h.kept.mono (Nat.le_add_right _ _),h.found,fun k r t hf hl he=>
  Nat.lt_of_lt_of_le (h.lost k r t hf hl he) (Nat.sub_le_sub_right (Nat.le_add_right _ _) _)⟩
lemma History.Well.get(h:d.Well J)(key wait):(d.step J (.get key wait)).Well J:=by
 have hl:=h.later wait 1
 rw[History.step,WriteDedupe.get]
 cases hf:d.memory.table.find? key with
 | none=>exact hl
 | some e=>
  dsimp only
  split_ifs with hexp
  ·refine ⟨hl.kept.remove key,fun k e hk=>?_,fun k r t hk hlast he=>?_⟩
   ·rw[find?_remove] at hk
    split_ifs at hk
    exact h.found k e hk
   ·rw[find?_remove] at hk
    split_ifs at hk with hkey
    ·obtain ⟨r',hr,-,-⟩:=h.found key e hf
     cases hr.symm.trans (hkey ▸ hlast)
     exact hexp
    ·exact hl.lost k r t hk hlast he
  ·exact hl
lemma History.Well.put(h:d.Well J)(key r wait):(d.step J (.put key r wait)).Well J:=by
 have hkept:=h.kept.put max_pos (key,⟨(J.clone r).getD r,d.clock+wait⟩)
 obtain ⟨hnew,hold⟩:=h.kept.find_put max_pos (key,⟨(J.clone r).getD r,d.clock+wait⟩)
 refine ⟨hkept,fun k e hk=>?_,fun k r' t hk hlast he=>?_⟩
 ·by_cases hkey:k=key
  ·cases hkey
   cases hnew.symm.trans hk
   exact ⟨r,update_self _ _ _,fun he=>he.1 rfl,rfl⟩
  obtain ⟨r',hr,hev,hres⟩:=h.found k e (hold k e hkey hk)
  have hin:=hkept.mem_iff.2 (Option.isSome_of_eq_some hk)
  exact ⟨r',(update_of_ne hkey _ _).trans hr,fun he=>he.2.elim hev fun hout=>hout.2 hin,hres⟩
 ·by_cases hkey:k=key
  ·cases hkey
   cases hnew.symm.trans hk
  have hout:k∉(WriteDedupe.put J d.memory key r (d.clock+wait)).order:=
   fun hin=>Option.isSome_iff_ne_none.1 (hkept.mem_iff.1 hin) hk
  have hnin:k∉d.memory.order:=fun hin=>he ⟨hkey,.inr ⟨hin,hout⟩⟩
  exact (h.later wait 0).lost k r' t (by simpa using mt h.kept.mem_iff.2 hnin)
   ((update_of_ne hkey _ _).symm.trans hlast) fun hev=>he ⟨hkey,.inl hev⟩
lemma well_after(J:Json Result)(calls):(after J calls).Well J:=by
 have hrun(d:History Result)(h:d.Well J):(calls.foldl (History.step J) d).Well J:=by
  induction calls generalizing d with
  | nil=>exact h
  | cons c calls ih=>
   cases c with
   | get key wait=>exact ih _ (h.get key wait)
   | put key r wait=>exact ih _ (h.put key r wait)
 exact hrun {} ⟨⟨.refl _,Nat.zero_le _,.nil,fun k hk=>absurd hk not_mem_nil⟩,nofun,nofun⟩

theorem write_dedupe_kept(J:Json Result)(calls:List (Call Result)):
 ((after J calls).memory.order.Nodup∧
  (∀ k,k∈(after J calls).memory.order↔((after J calls).memory.table.find? k).isSome)∧
  (after J calls).memory.table.rows.length ≤ writeDedupeMaxItems)∧
 (∀ key wait w,(get J (after J calls).memory key ((after J calls).clock+wait)).1=some w↔
  ∃ r t,(after J calls).last key=some (r,t)∧(after J calls).clock+wait-t ≤ writeDedupeTTL∧
   ¬(after J calls).evicted key∧J.clone r=some w)∧
 ∀ key r now k,k∈(after J calls).memory.order→k∉(put J (after J calls).memory key r now).order→
  (after J calls).memory.order.length=writeDedupeMaxItems∧∀ k'∈(after J calls).memory.order,k'≠k→(after J calls).since k < (after J calls).since k':=by
 have h:=well_after J calls
 generalize after J calls=d at h ⊢
 refine ⟨⟨h.kept.nodup,fun k=>h.kept.mem_iff,h.kept.rows_le⟩,fun key wait w=>?_,
  fun key r now k hk hn=>(h.kept.evicted max_pos hk hn).imp_right And.right⟩
 rw[get]
 cases hf:d.memory.table.find? key with
 | none=>
  refine iff_of_false nofun fun ⟨r,t,hl,ht,he,_⟩=>?_
  exact absurd ht (Nat.not_le.2 ((h.later wait 0).lost key r t hf hl he))
 | some e=>
  obtain ⟨r,hl,he,hres⟩:=h.found key e hf
  have hclone:J.clone e.2.result=J.clone r:=by
   rw[hres]
   cases hc:J.clone r with
   | none=>exact hc
   | some w=>exact J.stable r w hc
  dsimp only
  split_ifs with hexp
  ·refine iff_of_false nofun fun ⟨r',t,hl',ht,_⟩=>?_
   cases hl.symm.trans hl'
   exact absurd ht (Nat.not_le.2 hexp)
  ·rw[hclone]
   refine ⟨fun hw=>⟨r,_,hl,Nat.not_lt.1 hexp,he,hw⟩,fun ⟨r',t,hl',_,_,hw⟩=>?_⟩
   cases hl.symm.trans hl'
   exact hw

inductive Number
 | int (n:Int)
 | float (n:Int)
 | nan

/-- A Go integer comes back from JSON as a floating-point number, and `NaN` is refused. -/
def numbers:Json Number where
 clone
  | .int n | .float n=>some (.float n)
  | .nan=>none
 stable r w h:=by cases r<;>cases h<;>rfl

theorem written_number_kept:
 (get numbers (after numbers [.put "k" (.int 3) 0,.put "l" .nan 2]).memory "k" (2+5)).1=some (.float 3):=
 ((write_dedupe_kept numbers [.put "k" (.int 3) 0,.put "l" .nan 2]).2.1 "k" 5 (.float 3)).2
  ⟨.int 3,0,rfl,by decide,fun he=>he.2.elim (fun h=>h.1 rfl) fun h=>h.2 (by decide),rfl⟩

end Dazyflow.WriteDedupe
