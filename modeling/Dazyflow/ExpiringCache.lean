import Dazyflow.KeyedTable

/-!
# Bounded caches with expiry

A keyed map whose items stop being fresh with time.
-/
namespace ExpiringCache
open KeyedTable

variable {κ V:Type}

structure Versioned(α:Type) where
 value:α
 version:Nat
 deriving DecidableEq

structure Item(κ V:Type) where
 key:κ
 value:V
 cachedAt:Nat

abbrev Cache(κ V:Type):=Table κ (Item κ V) Item.key

variable [DecidableEq κ]

def get(fresh:Item κ V→Bool)(c:Cache κ V)(k:κ):Option V×Cache κ V:=
 match c.find? k with
 | none=>(none,c)
 | some e=>if fresh e then (some e.value,c) else (none,c.erase fun e=>e.key=k)

def sweep(max:Nat)(fresh:Item κ V→Bool)(c:Cache κ V):Cache κ V:=
 if max ≤ c.rows.length then
  if max≤(c.erase fun e=>!fresh e).rows.length then empty else c.erase (fun e=>!fresh e)
 else c

def put(max:Nat)(fresh:Item κ V→Bool)(c:Cache κ V)(item:Item κ V):Cache κ V:=
 (sweep max fresh c).upsert item

def drop(gone:Item κ V→Bool)(c:Cache κ V):Cache κ V:=c.erase gone

variable {fresh:Item κ V→Bool}{c:Cache κ V}{k k':κ}{e:Item κ V}

lemma find_erase{gone}(h:(c.erase gone).find? k=some e):
 c.find? k=some e∧gone e=false:=by
 rw[find?_erase] at h
 obtain ⟨he,hg⟩:=Option.filter_eq_some_iff.1 h
 exact ⟨he,by simpa using hg⟩
lemma get_hit{v}(h:(get fresh c k).1=some v):∃ e,c.find? k=some e∧e.value=v:=by
 unfold get at h
 cases he:c.find? k with
 | none=>
  rw[he] at h
  cases h
 | some e=>
  rw[he] at h
  dsimp only at h
  split_ifs at h
  exact ⟨e,rfl,Option.some.inj h⟩
lemma get_hit_eq{v}(h:(get fresh c k).1=some v):(get fresh c k).2=c:=by
 unfold get at h ⊢
 cases he:c.find? k with
 | none=>rfl
 | some e=>
  rw[he] at h
  dsimp only at h ⊢
  split_ifs at h ⊢
  rfl
lemma find_get(h:(get fresh c k).2.find? k'=some e):c.find? k'=some e:=by
 unfold get at h
 split at h
 ·exact h
 ·split_ifs at h
  ·exact h
  ·exact (find_erase h).1
lemma find_sweep{max}(h:(sweep max fresh c).find? k=some e):c.find? k=some e:=by
 unfold sweep at h
 split_ifs at h
 ·cases h
 ·exact (find_erase h).1
 ·exact h
lemma find_put{max item}(h:(put max fresh c item).find? k=some e):
 k=item.key∧e=item∨k≠item.key∧c.find? k=some e:=by
 rw[put,find?_upsert] at h
 split_ifs at h with hk
 ·exact .inl ⟨hk,(Option.some.inj h).symm⟩
 ·exact .inr ⟨hk,find_sweep h⟩
lemma find_drop{gone}(h:(drop gone c).find? k=some e):
  c.find? k=some e∧gone e=false:=find_erase h

end ExpiringCache
