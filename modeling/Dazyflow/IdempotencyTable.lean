import Dazyflow.BoundedTable
import Dazyflow.IdempotentCalls

/-!
# The table of idempotency keys

The calls of `idempotencyStore`, on any keys and in any order, keep its table and its order list in step.
-/
namespace Dazyflow.IdempotentCalls

open BoundedTable KeyedTable List Function

inductive TableCall
 /-- The store's `begin`. -/
 | start (key reqHash:String)(now:Nat)
 | attach (key:String)(run:RunID)
 | commit (key:String)(response:Response)(now:Nat)
 | abort (key:String)

def TableCall.run(s:State):TableCall→State
 | .start key reqHash now=>(s.start key reqHash now).2
 | .attach key run=>s.attach key run
 | .commit key response now=>s.commit key response now
 | .abort key=>s.abort key

/-- The key a call adds at the end of the order. -/
def TableCall.added(s:State):TableCall→Option String
 | .start key reqHash now=>if (s.start key reqHash now).1=none then some key else none
 | .commit key _ _=>if s.find key=none then some key else none
 | _=>none

/-- A state with the number of the call that brought in each key. -/
structure Dated where
 state:State:={}
 since:String→Nat:=fun _=>0
 calls:Nat:=0

def Dated.step(d:Dated)(c:TableCall):Dated:=
 ⟨c.run d.state,((c.added d.state).map fun key=>update d.since key d.calls).getD d.since,d.calls+1⟩

def after(calls:List TableCall):Dated:=calls.foldl Dated.step {}

def State.store(s:State):Store (Prod.fst:String×Nat→String):=⟨s.entries,s.order⟩

abbrev Dated.Well(d:Dated):Prop:=Kept idempotencyMaxCache d.state.store d.since d.calls

variable {s:State}{d:Dated}{c:TableCall}{k key:String}

lemma store_evictLocked(s:State):s.evictLocked.store=trim idempotencyMaxCache s.order s.entries:=by
 have hevict(order)(entries:Entries):
   (evict order entries).2=(trim idempotencyMaxCache order entries).table∧
   (evict order entries).1=(trim idempotencyMaxCache order entries).order:=by
  induction order generalizing entries with
  | nil=>exact ⟨rfl,rfl⟩
  | cons k order ih=>
   rw[evict,trim]
   split_ifs
   ·exact ih _
   ·exact ⟨rfl,rfl⟩
 rw[State.store,State.evictLocked,(hevict _ _).1,(hevict _ _).2]
lemma find_isSome(s:State)(key):(s.find key).isSome=(s.entries.find? key).isSome:=Option.isSome_map
lemma store_put(s:State){order}(key entry)
 (ho:order=if (s.find key).isSome then s.order else s.order++[key]):
 ({s with order:=order}.put key entry).evictLocked.store=
  s.store.put idempotencyMaxCache (key,s.cells.length):=by
 rw[store_evictLocked,ho,find_isSome]
 rfl

/-- The call finds the key in the table, but past its time to live. -/
def Expired(s:State)(key:String)(now:Nat):Prop:=
 ∃ object,s.find key=some object∧idempotencyTTL < now-(s.entry object).storedAt

def Aborted(s:State)(k:String)(c:TableCall):Prop:=
 c=.abort k∧∃ object,s.find k=some object∧(s.entry object).done=false

lemma start_fresh{reqHash now}(h:(s.start key reqHash now).1=none):
 s.find key=none∧(s.start key reqHash now).2.store=s.store.put idempotencyMaxCache (key,s.cells.length)∨
 Expired s key now∧
  (s.start key reqHash now).2.store=(s.store.remove key).put idempotencyMaxCache (key,s.cells.length):=by
 unfold State.start at h ⊢
 cases hf:s.find key with
 | none=>exact .inl ⟨rfl,store_put s key _ (by rw[hf]; rfl)⟩
 | some object=>
  rw[hf] at h
  dsimp only at h ⊢
  split_ifs at h ⊢ with hlive
  refine .inr ⟨⟨object,hf,Nat.lt_of_not_le hlive⟩,store_put (s.drop key) key _ ?_⟩
  rw[find_isSome,State.drop,find?_erase]
  cases he:s.entries.find? key with
  | none=>rfl
  | some e=>simp[key_of_find? he]

/-- What a call does to the table. -/
lemma run_cases(s:State)(c:TableCall):
 c.added s=none∧((c.run s).store=s.store∨∃ k,Aborted s k c∧(c.run s).store=s.store.remove k)∨
 ∃ key v,(c.run s).store=s.store.put idempotencyMaxCache (key,v)∧
   c.added s=(if s.find key=none then some key else none)∨
  (c.run s).store=(s.store.remove key).put idempotencyMaxCache (key,v)∧c.added s=some key∧
   (s.find key).isSome:=by
 cases c with
 | start key reqHash now=>
  by_cases h:(s.start key reqHash now).1=none
  ·rcases start_fresh h with ⟨hf,he⟩ | ⟨⟨object,hf,-⟩,he⟩
   ·exact .inr ⟨key,_,.inl ⟨he,by simp[TableCall.added,h,hf]⟩⟩
   ·exact .inr ⟨key,_,.inr ⟨he,by simp[TableCall.added,h],by simp[hf]⟩⟩
  ·refine .inl ⟨by simp[TableCall.added,h],.inl (congrArg State.store ?_)⟩
   rw[TableCall.run]
   unfold State.start at h ⊢
   cases hf:s.find key with
   | none=>simp[hf] at h
   | some object=>
    simp only[hf] at h ⊢
    split_ifs at h ⊢
    ·rfl
    ·exact absurd rfl h
 | attach key run=>
  refine .inl ⟨rfl,.inl ?_⟩
  rw[TableCall.run,State.attach]
  split
  ·split_ifs<;>rfl
  ·rfl
 | commit key response now=>
  rw[TableCall.run,State.commit]
  cases hf:s.find key with
  | none | some=>exact .inr ⟨key,_,.inl ⟨store_put s key _ (by rw[hf]; rfl),by simp[TableCall.added,hf]⟩⟩
 | abort key=>
  refine .inl ⟨rfl,?_⟩
  rw[TableCall.run,State.abort]
  cases hf:s.find key with
  | none=>exact .inl rfl
  | some object=>
   dsimp only
   split_ifs with hd
   ·exact .inl rfl
   ·exact .inr ⟨key,⟨rfl,object,hf,by simpa using hd⟩,rfl⟩

lemma max_pos:0 < idempotencyMaxCache:=by decide
lemma Dated.Well.mem_iff(h:d.Well):k∈d.state.order↔(d.state.find k).isSome:=by
 rw[find_isSome]
 exact Kept.mem_iff h
lemma Dated.Well.step(h:d.Well)(c):(d.step c).Well:=by
 unfold Dated.Well Dated.step
 rcases run_cases d.state c with ⟨ha,he | ⟨k,-,he⟩⟩ | ⟨key,v,⟨he,ha⟩ | ⟨he,ha,hf⟩⟩<;>rw[ha,he]
 ·exact h.mono (Nat.le_succ _)
 ·exact (h.remove k).mono (Nat.le_succ _)
 ·convert h.put max_pos (key,v) using 1
  have hm:=h.mem_iff (k:=key)
  by_cases hf:d.state.find key=none<;>simp[entered,State.store,hm,hf,Option.isSome_iff_ne_none]
 ·convert (h.remove key).put max_pos (key,v) using 1
  exact (if_neg h.nodup.not_mem_erase).symm
lemma Dated.Well.run(h:d.Well)(calls:List TableCall):(calls.foldl Dated.step d).Well:=by
 induction calls generalizing d with
 | nil=>exact h
 | cons c calls ih=>exact ih (h.step c)

/-- The table is full and the call makes room by dropping the key that has been in it longest. -/
def Evicted(d:Dated)(k:String)(c:TableCall):Prop:=
 d.state.order.length=idempotencyMaxCache∧c.added d.state≠none∧k∉(d.step c).state.order∧∀ k'∈d.state.order,k'≠k→d.since k < d.since k'

lemma Dated.Well.left(h:d.Well)(hk:k∈d.state.order)(hn:k∉(d.step c).state.order):
 Aborted d.state k c∨Evicted d k c:=by
 have hn':=hn
 change k∉(c.run d.state).store.order at hn
 rcases run_cases d.state c with ⟨-,he | ⟨k',hab,he⟩⟩ | ⟨key,v,⟨he,ha⟩ | ⟨he,-,hf⟩⟩<;>rw[he] at hn
 ·exact absurd hk hn
 ·by_cases hkk:k=k'
  ·exact .inl (hkk ▸ hab)
  ·exact absurd ((mem_erase_of_ne hkk).2 hk) hn
 ·obtain ⟨hfull,hkey,hold⟩:=Kept.evicted h max_pos hk hn
  refine .inr ⟨hfull,?_,hn',hold⟩
  rw[ha,if_pos (by simpa using mt h.mem_iff.2 hkey)]
  nofun
 ·by_cases hkk:k=key
  ·exact absurd (hkk ▸ (h.remove key).mem_put max_pos (key,v)) hn
  ·have hfull:=((h.remove key).evicted max_pos ((mem_erase_of_ne hkk).2 hk) hn).1
   have hmem:key∈d.state.order:=h.mem_iff.2 hf
   have hlen:=length_erase_of_mem hmem
   have:d.state.order.length ≤ idempotencyMaxCache:=h.bound
   have:=length_pos_of_mem hmem
   rw[show (d.state.store.remove key).order=d.state.order.erase key from rfl] at hfull
   omega
lemma Dated.Well.exists_left(h:d.Well)(hk:k∈d.state.order){calls:List TableCall}
 (hn:k∉(calls.foldl Dated.step d).state.order):
 ∃ front c back,calls=front++c::back∧
  (Aborted (front.foldl Dated.step d).state k c∨Evicted (front.foldl Dated.step d) k c):=by
 induction calls generalizing d with
 | nil=>exact absurd hk hn
 | cons c calls ih=>
  by_cases hk':k∈(d.step c).state.order
  ·obtain ⟨front,c',back,rfl,hl⟩:=ih (h.step c) hk' hn
   exact ⟨c::front,c',back,rfl,hl⟩
  ·exact ⟨[],c,calls,rfl,h.left hk hk'⟩
lemma Dated.Well.mem_started(h:d.Well){reqHash now}(hf:(d.state.start k reqHash now).1=none):
 k∈(d.step (.start k reqHash now)).state.order:=by
 change k∈(d.state.start k reqHash now).2.store.order
 rcases start_fresh hf with ⟨-,he⟩ | ⟨-,he⟩<;>rw[he]
 ·exact Kept.mem_put h max_pos (k,_)
 ·exact (h.remove k).mem_put max_pos (k,_)

theorem idempotency_table_kept(calls:List TableCall):
 ((after calls).state.order.Nodup∧
  (∀ k,k∈(after calls).state.order↔((after calls).state.find k).isSome)∧
  (after calls).state.entries.rows.length ≤ idempotencyMaxCache)∧
 ∀ k reqHash now later reqHash' now',
  ((after calls).state.start k reqHash now).1=none→
  ((after (calls++.start k reqHash now::later)).state.start k reqHash' now').1=none→
   Expired (after (calls++.start k reqHash now::later)).state k now'∨
   ∃ front c back,later=front++c::back∧
    (Aborted (after (calls++.start k reqHash now::front)).state k c∨
     Evicted (after (calls++.start k reqHash now::front)) k c):=by
 have h:(after calls).Well:=Dated.Well.run ⟨.refl _,Nat.zero_le _,.nil,fun k hk=>absurd hk not_mem_nil⟩ calls
 refine ⟨⟨h.nodup,fun k=>h.mem_iff,h.rows_le⟩,fun k reqHash now later reqHash' now' hf hf'=>?_⟩
 simp only[after,foldl_append,foldl_cons] at hf hf' ⊢
 rcases start_fresh hf' with ⟨hnone,-⟩ | ⟨hexp,-⟩
 ·refine .inr ((h.step _).exists_left (h.mem_started hf) fun hk=>?_)
  have hs:=((h.step _).run later).mem_iff.1 hk
  exact absurd hnone (Option.isSome_iff_ne_none.1 hs)
 ·exact .inl hexp

theorem aborted_key_starts_again:((after [.start "k" "h" 0,.abort "k"]).state.start "k" "h" 1).1=none∧
 (Expired (after [.start "k" "h" 0,.abort "k"]).state "k" 1∨∃ front c back,[TableCall.abort "k"]=front++c::back∧
  (Aborted (after (.start "k" "h" 0::front)).state "k" c∨Evicted (after (.start "k" "h" 0::front)) "k" c)):=
 ⟨rfl,(idempotency_table_kept []).2 "k" "h" 0 [.abort "k"] "h" 1 rfl rfl⟩

end Dazyflow.IdempotentCalls
