import Dazyflow.KeyedTable

/-!
# Tables with a bound

A table lists its keys in the order in which they came in, and drops the first of them while it
holds too many.
-/
namespace BoundedTable

open KeyedTable List Function

variable {κ α:Type}{key:α→κ}

structure Store(key:α→κ) where
 table:Table κ α key:=empty
 order:List κ:=[]

/-- `since` tells at which step each key came in; `n` steps are done. -/
structure Kept(max:Nat)(s:Store key)(since:κ→Nat)(n:Nat):Prop where
 perm:s.order.Perm (s.table.rows.map key)
 bound:s.order.length ≤ max
 aged:s.order.Pairwise fun k k'=>since k < since k'
 past:∀ k∈s.order,since k < n

variable {max:Nat}{s:Store key}{since:κ→Nat}{n:Nat}{a:α}{k:κ}

lemma Kept.nodup(h:Kept max s since n):s.order.Nodup:=h.perm.nodup_iff.2 s.table.nodup
lemma Kept.rows_le(h:Kept max s since n):s.table.rows.length ≤ max:=by
 simpa[h.perm.length_eq] using h.bound
lemma Kept.mono{m}(h:Kept max s since n)(hm:n ≤ m):Kept max s since m:=
 ⟨h.perm,h.bound,h.aged,fun k hk=>Nat.lt_of_lt_of_le (h.past k hk) hm⟩

variable [DecidableEq κ]

def trim(max:Nat):List κ→Table κ α key→Store key
 | [],t=>⟨t,[]⟩
 | k::order,t=>if t.rows.length > max then trim max order (t.erase fun a=>key a=k) else ⟨t,k::order⟩

def Store.remove(s:Store key)(k:κ):Store key:=⟨s.table.erase fun a=>key a=k,s.order.erase k⟩

def Store.put(max:Nat)(s:Store key)(a:α):Store key:=
 trim max (if (s.table.find? (key a)).isSome then s.order else s.order++[key a]) (s.table.upsert a)

def entered(s:Store key)(since:κ→Nat)(n:Nat)(a:α):κ→Nat:=
 if key a∈s.order then since else update since (key a) n

lemma keys_erase(t:Table κ α key)(k):(t.erase fun a=>key a=k).rows.map key=(t.rows.map key).erase k:=by
 rw[t.nodup.erase_eq_filter,filter_map]
 exact congrArg (map key) (filter_congr fun a _=>by by_cases ha:key a=k<;>simp[ha])
lemma keys_upsert(t:Table κ α key)(a):
 (t.upsert a).rows.map key=
  if (t.find? (key a)).isSome then t.rows.map key else t.rows.map key++[key a]:=by
 unfold Table.upsert
 by_cases h:t.find? (key a)=none
 ·simp[h,Table.insert]
 ·rw[dif_neg h,if_pos (Option.isSome_iff_ne_none.2 h),map_map]
  exact map_congr_left fun b _=>by by_cases hb:key b=key a<;>simp[hb]

variable {t:Table κ α key}

lemma trim_of_le{order}(hp:order.Perm (t.rows.map key))(h:order.length ≤ max):
 trim max order t=⟨t,order⟩:=by
 cases order with
 | nil=>rfl
 | cons k order=>rw[trim,if_neg (by simpa[hp.length_eq] using h)]
lemma trim_full{order}(hp:(k::order).Perm (t.rows.map key))(h:order.length=max):
 order.Perm ((t.erase fun a=>key a=k).rows.map key)∧
 trim max (k::order) t=⟨t.erase fun a=>key a=k,order⟩:=by
 have hp':order.Perm ((t.erase fun a=>key a=k).rows.map key):=by
  rw[keys_erase]
  simpa using hp.erase k
 have hlen:t.rows.length=max+1:=by simpa[h] using hp.length_eq.symm
 rw[trim,if_pos (hlen ▸ Nat.lt_succ_self _),trim_of_le hp' (Nat.le_of_eq h)]
 exact ⟨hp',rfl⟩

namespace Kept

variable (h:Kept max s since n)(hmax:0 < max)

include h

lemma mem_iff:k∈s.order↔(s.table.find? k).isSome:=by
 rw[h.perm.mem_iff,Option.isSome_iff_ne_none,Ne,find?_eq_none_iff]
 simp
lemma remove(k):Kept max (s.remove k) since n:=by
 refine ⟨?_,Nat.le_trans erase_sublist.length_le h.bound,h.aged.sublist erase_sublist,
  fun k' hk'=>h.past k' (mem_of_mem_erase hk')⟩
 rw[Store.remove,keys_erase]
 exact h.perm.erase k

include hmax

/-- A key that is there keeps its place; a new one comes last, and the first leaves a full table. -/
lemma put_cases(a):
 (s.put max a).order.Perm ((s.put max a).table.rows.map key)∧
 (key a∈s.order∧s.put max a=⟨s.table.upsert a,s.order⟩∨
  key a∉s.order∧(s.order.length < max∧s.put max a=⟨s.table.upsert a,s.order++[key a]⟩∨
   ∃ k order,s.order=k::order∧order.length+1=max∧
    s.put max a=⟨(s.table.upsert a).erase fun b=>key b=k,order++[key a]⟩)):=by
 have hp:=keys_upsert s.table a
 unfold Store.put
 by_cases hk:key a∈s.order
 ·rw[if_pos (h.mem_iff.1 hk)] at hp ⊢
  rw[trim_of_le (hp ▸ h.perm) h.bound]
  exact ⟨hp ▸ h.perm,.inl ⟨hk,rfl⟩⟩
 rw[if_neg fun hs=>hk (h.mem_iff.2 hs)] at hp ⊢
 have hp':(s.order++[key a]).Perm ((s.table.upsert a).rows.map key):=hp ▸ h.perm.append_right _
 by_cases hroom:s.order.length < max
 ·rw[trim_of_le hp' (by rwa[length_append])]
  exact ⟨hp',.inr ⟨hk,.inl ⟨hroom,rfl⟩⟩⟩
 cases ho:s.order with
 | nil=>exact absurd (ho ▸ hmax) hroom
 | cons k order=>
  have hlen:order.length+1=max:=Nat.le_antisymm (by simpa[ho] using h.bound) (by simpa[ho] using hroom)
  rw[ho] at hk
  rw[ho,cons_append] at hp'
  obtain ⟨hp',he⟩:=trim_full hp' (by simpa using hlen)
  rw[cons_append,he]
  exact ⟨hp',.inr ⟨hk,.inr ⟨k,order,rfl,hlen,rfl⟩⟩⟩
omit hmax in
lemma append(hk:key a∉s.order){order}(hs:order.Sublist s.order):
 (order++[key a]).Pairwise (fun k k'=>entered s since n a k < entered s since n a k')∧
  ∀ k∈order++[key a],entered s since n a k < n+1:=by
 have hold(k)(hk':k∈order):entered s since n a k=since k:=by
  rw[entered,if_neg hk,update_of_ne fun he:k=key a=>hk (he ▸ hs.subset hk')]
 have hnew:entered s since n a (key a)=n:=by rw[entered,if_neg hk,update_self]
 have hpast(k)(hk':k∈order):entered s since n a k < n:=hold k hk' ▸ h.past k (hs.subset hk')
 refine ⟨pairwise_append.2 ⟨?_,pairwise_singleton _ _,fun k hk' b hb=>?_⟩,fun k hk'=>?_⟩
 ·exact (h.aged.sublist hs).imp_of_mem fun ha hb hlt=>by rwa[hold _ ha,hold _ hb]
 ·rw[mem_singleton.1 hb,hnew]
  exact hpast k hk'
 ·rcases mem_append.1 hk' with hk' | hk'
  ·exact Nat.lt_succ_of_lt (hpast k hk')
  ·rw[mem_singleton.1 hk',hnew]
   exact Nat.lt_succ_self n
lemma put(a):
 Kept max (s.put max a) (entered s since n a) (n+1):=by
 obtain ⟨hp,⟨hk,he⟩ | ⟨hk,⟨hroom,he⟩ | ⟨k,order,ho,hlen,he⟩⟩⟩:=h.put_cases hmax a<;>rw[he] at hp ⊢
 ·rw[entered,if_pos hk]
  exact ⟨hp,h.bound,h.aged,fun k hk=>Nat.lt_succ_of_lt (h.past k hk)⟩
 ·have ha:=h.append hk (.refl _)
  exact ⟨hp,by rwa[length_append],ha.1,ha.2⟩
 ·have ha:=h.append hk (ho ▸ sublist_cons_self k order)
  exact ⟨hp,by simp[hlen],ha.1,ha.2⟩
lemma mem_put(a):key a∈(s.put max a).order:=by
 obtain ⟨-,⟨hk,he⟩ | ⟨-,⟨-,he⟩ | ⟨k,order,-,-,he⟩⟩⟩:=h.put_cases hmax a<;>rw[he]
 ·exact hk
 all_goals exact mem_append_right _ mem_cons_self
lemma find_put(a):
 (s.put max a).table.find? (key a)=some a∧
 ∀ k b,k≠key a→(s.put max a).table.find? k=some b→s.table.find? k=some b:=by
 have hup(k b)(hne:k≠key a)(hb:(s.table.upsert a).find? k=some b):s.table.find? k=some b:=by
  rwa[find?_upsert,if_neg hne] at hb
 obtain ⟨-,⟨-,he⟩ | ⟨hk,⟨-,he⟩ | ⟨k₀,order,ho,-,he⟩⟩⟩:=h.put_cases hmax a<;>rw[he]
 ·exact ⟨by rw[find?_upsert,if_pos rfl],hup⟩
 ·exact ⟨by rw[find?_upsert,if_pos rfl],hup⟩
 ·have hne:key a≠k₀:=fun he=>hk (by simp[ho,he])
  refine ⟨by simp[find?_erase,find?_upsert,hne],fun k b hkb hb=>hup k b hkb ?_⟩
  rw[find?_erase,Option.filter_eq_some_iff] at hb
  exact hb.1
lemma evicted(hk:k∈s.order)(hn:k∉(s.put max a).order):
 s.order.length=max∧key a∉s.order∧∀ k'∈s.order,k'≠k→since k < since k':=by
 obtain ⟨-,⟨-,he⟩ | ⟨hkey,⟨-,he⟩ | ⟨k₀,order,ho,hlen,he⟩⟩⟩:=h.put_cases hmax a<;>rw[he] at hn
 ·exact absurd hk hn
 ·exact absurd (mem_append_left _ hk) hn
 ·have haged:=h.aged
  rw[ho] at hk haged
  rcases mem_cons.1 hk with rfl | hk
  ·refine ⟨by rw[ho]; exact hlen,hkey,fun k' hk' hne=>?_⟩
   rw[ho] at hk'
   exact (pairwise_cons.1 haged).1 k' ((mem_cons.1 hk').resolve_left hne)
  ·exact absurd (mem_append_left _ hk) hn

end Kept

end BoundedTable
