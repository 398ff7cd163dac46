import Mathlib

/-!
# Tables keyed by a column

A finite map given by its rows: each row carries its own key, and no two rows share one.
-/
namespace KeyedTable

open List

structure Table(κ α:Type)(key:α→κ) where
 rows:List α
 nodup:(rows.map key).Nodup

variable {κ α:Type}{key:α→κ}

def empty:Table κ α key:=⟨[],nodup_nil⟩

variable [DecidableEq κ]

def Table.find?(t:Table κ α key)(k:κ):Option α:=t.rows.find? (fun a=>key a=k)

lemma find?_eq_some_iff(t:Table κ α key)(k:κ)(a:α):
 t.find? k=some a↔a∈t.rows∧key a=k:=by
 constructor
 ·intro h
  exact ⟨mem_of_find?_eq_some h,by simpa using find?_some h⟩
 ·rintro ⟨hm,rfl⟩
  unfold Table.find?
  cases h:t.rows.find? (fun x=>key x=key a) with
  | none=>
   rw[find?_eq_none] at h
   exact absurd (decide_eq_true rfl) (h a hm)
  | some b=>
   have hb:b∈t.rows:=mem_of_find?_eq_some h
   have hk:key b=key a:=by simpa using find?_some h
   rw[inj_on_of_nodup_map t.nodup hb hm hk]
lemma find?_eq_none_iff(t:Table κ α key)(k:κ):
 t.find? k=none↔∀ a∈t.rows,key a≠k:=by
 simp[Table.find?]
lemma mem_rows_iff(t:Table κ α key)(a:α):a∈t.rows↔t.find? (key a)=some a:=by
 rw[find?_eq_some_iff]
 exact ⟨fun h=>⟨h,rfl⟩,fun h=>h.1⟩

variable {t:Table κ α key}{k:κ}

lemma key_of_find?{a}(h:t.find? k=some a):key a=k:=
 ((find?_eq_some_iff t k a).1 h).2

def Table.insert(t:Table κ α key)(a:α)(fresh:t.find? (key a)=none):Table κ α key:=
 ⟨t.rows++[a],by
  rw[map_append,map_singleton,nodup_append]
  refine ⟨t.nodup,nodup_singleton _,?_⟩
  intro k hk k' hk'
  obtain ⟨b,hb,rfl⟩:=mem_map.1 hk
  rw[mem_singleton.1 hk']
  exact (find?_eq_none_iff t _).1 fresh b hb⟩

def Table.modify(t:Table κ α key)(k:κ)(f:α→α)(keep:∀ a,key (f a)=key a):
 Table κ α key:=
 ⟨t.rows.map fun a=>if key a=k then f a else a,by
  have h:(t.rows.map fun a=>if key a=k then f a else a).map key=t.rows.map key:=by
   rw[map_map]
   apply map_congr_left
   intro a _
   by_cases ha:key a=k<;>simp[ha,keep]
  rw[h]
  exact t.nodup⟩

lemma mem_insert(t:Table κ α key)(a b:α)(fresh:t.find? (key a)=none):
 b∈(t.insert a fresh).rows↔b∈t.rows∨b=a:=by
 simp[Table.insert]
lemma find?_insert(t:Table κ α key)(a:α)(fresh:t.find? (key a)=none)(k:κ):
 (t.insert a fresh).find? k=if k=key a then some a else t.find? k:=by
 by_cases hk:k=key a
 ·subst hk
  rw[if_pos rfl,find?_eq_some_iff,mem_insert]
  exact ⟨.inr rfl,rfl⟩
 ·rw[if_neg hk]
  unfold Table.find? Table.insert
  rw[find?_append]
  have:[a].find? (fun x=>key x=k)=none:=by
   simp[Ne.symm hk]
  rw[this,Option.or_none]
lemma find?_modify(t:Table κ α key)(k:κ)(f:α→α)(keep:∀ a,key (f a)=key a)
 (k':κ):
 (t.modify k f keep).find? k'=if k'=k then (t.find? k).map f else t.find? k':=by
 have hrow:∀ a,key (if key a=k then f a else a)=key a:=by
  intro a
  split<;>simp[keep]
 unfold Table.find? Table.modify
 simp only[find?_map,Function.comp_def,hrow]
 by_cases hk:k'=k
 ·subst hk
  rw[if_pos rfl]
  cases h:t.rows.find? (fun a=>key a=k') with
  | none=>rfl
  | some a=>
   have ha:key a=k':=by simpa using find?_some h
   simp[ha]
 ·rw[if_neg hk]
  cases h:t.rows.find? (fun a=>key a=k') with
  | none=>rfl
  | some a=>
   have ha:key a=k':=by simpa using find?_some h
   simp[ha,hk]
lemma find?_modify_self{a}(f:α→α)(keep:∀ a,key (f a)=key a)
 (h:t.find? k=some a):(t.modify k f keep).find? k=some (f a):=by
 rw[find?_modify,if_pos rfl,h,Option.map_some]
lemma countP_modify_le{f}(keep:∀ a,key (f a)=key a){p}
 (h:∀ a,p (f a)→p a):(t.modify k f keep).rows.countP p ≤ t.rows.countP p:=by
 unfold Table.modify
 rw[countP_map]
 refine countP_mono_left fun a _ ha=>?_
 simp only[Function.comp_apply] at ha
 split_ifs at ha with hk
 ·exact h a ha
 ·exact ha
lemma countP_modify_le_succ(t:Table κ α key)(k:κ)(f:α→α)(keep:∀ a,key (f a)=key a)(p:α→Bool):
 (t.modify k f keep).rows.countP p ≤ t.rows.countP p+1:=by
 suffices h:∀ l:List α,(l.map key).Nodup→
  (l.map fun a=>if key a=k then f a else a).countP p ≤ l.countP p+1 from h t.rows t.nodup
 intro l hl
 induction l with
 | nil=>simp
 | cons a rest ih=>
  obtain ⟨ha,hrest⟩:=nodup_cons.1 hl
  rw[map_cons,countP_cons,countP_cons]
  by_cases hk:key a=k
  · -- no later row has the key
   have hsame:rest.map (fun b=>if key b=k then f b else b)=rest:=by
    refine (map_congr_left fun b hb=>if_neg fun hb'=>ha ?_).trans (map_id' rest)
    exact mem_map.2 ⟨b,hb,hb'.trans hk.symm⟩
   rw[hsame]
   split_ifs<;>omega
  ·rw[if_neg hk]
   have:=ih hrest
   omega

def Table.erase(t:Table κ α key)(p:α→Bool):Table κ α key:=
 ⟨t.rows.filter fun a=>!p a,t.nodup.sublist (filter_sublist.map key)⟩

lemma find?_erase(t:Table κ α key)(p:α→Bool)(k:κ):
 (t.erase p).find? k=(t.find? k).filter (fun a=>!p a):=by
 cases h:t.find? k with
 | none=>
  rw[find?_eq_none_iff] at h
  rw[Option.filter_none,find?_eq_none_iff]
  exact fun a ha=>h a (mem_of_mem_filter ha)
 | some a=>
  obtain ⟨hm,hk⟩:=(find?_eq_some_iff t k a).1 h
  cases hp:p a with
  | true=>
   simp only[Option.filter_some,hp,Bool.not_true,Bool.false_eq_true,if_false]
   rw[find?_eq_none_iff]
   intro b hb hbk
   obtain ⟨hb,hnp⟩:=mem_filter.1 hb
   have hba:b=a:=inj_on_of_nodup_map t.nodup hb hm (hbk.trans hk.symm)
   simp[hba,hp] at hnp
  | false=>
   simp only[Option.filter_some,hp,Bool.not_false,if_true]
   rw[find?_eq_some_iff]
   exact ⟨mem_filter.2 ⟨hm,by simp[hp]⟩,hk⟩

def Table.upsert(t:Table κ α key)(a:α):Table κ α key:=
 if h:t.find? (key a)=none then t.insert a h
 else ⟨t.rows.map fun b=>if key b=key a then a else b,by
  have hkeys:(t.rows.map fun b=>if key b=key a then a else b).map key=t.rows.map key:=by
   rw[map_map]
   apply map_congr_left
   intro b _
   by_cases hb:key b=key a<;>simp[hb]
  rw[hkeys]
  exact t.nodup⟩

lemma find?_upsert(t:Table κ α key)(a:α)(k:κ):
 (t.upsert a).find? k=if k=key a then some a else t.find? k:=by
 unfold Table.upsert
 by_cases h:t.find? (key a)=none
 ·rw[dif_pos h,find?_insert]
 rw[dif_neg h]
 have hrow:∀ b,key (if key b=key a then a else b)=key b:=by
  intro b
  by_cases hb:key b=key a<;>simp[hb]
 obtain ⟨b,hb⟩:=Option.ne_none_iff_exists'.1 h
 unfold Table.find? at hb ⊢
 simp only[find?_map,Function.comp_def,hrow]
 by_cases hk:k=key a
 ·subst hk
  have hba:key b=key a:=by simpa using find?_some hb
  simp[hb,hba]
 ·rw[if_neg hk]
  cases hf:t.rows.find? (fun b=>key b=k) with
  | none=>rfl
  | some c=>
   have hc:key c=k:=by simpa using find?_some hf
   simp[hc,hk]

def Table.updateWhere(t:Table κ α key)(p:α→Bool)(f:α→α)
 (keep:∀ a,key (f a)=key a):Table κ α key:=
 ⟨t.rows.map fun a=>if p a then f a else a,by
  have h:(t.rows.map fun a=>if p a then f a else a).map key=t.rows.map key:=by
   rw[map_map]
   apply map_congr_left
   intro a _
   by_cases ha:p a<;>simp[ha,keep]
  rw[h]
  exact t.nodup⟩

/-- Inserts the rows whose key is free and counts them. -/
def Table.insertNew(t:Table κ α key):List α→Nat×Table κ α key
 | []=>(0,t)
 | a::rest=>
  if h:t.find? (key a)=none then
   (((t.insert a h).insertNew rest).1+1,((t.insert a h).insertNew rest).2)
  else t.insertNew rest

def Table.insertAll(t:Table κ α key):List α→Option (Table κ α key)
 | []=>some t
 | a::rest=>
  if h:t.find? (key a)=none then (t.insert a h).insertAll rest
  else none

lemma insertAll_eq_insertNew{t' l}(h:t.insertAll l=some t'):
 t.insertNew l=(l.length,t'):=by
 induction l generalizing t with
 | nil=>simpa[Table.insertAll,Table.insertNew] using h
 | cons a rest ih=>
  unfold Table.insertAll at h
  unfold Table.insertNew
  split_ifs at h with hf
  rw[dif_pos hf,ih h]
  rfl
lemma filter_key{a}(h:t.find? k=some a):
 t.rows.filter (fun b=>key b=k)=[a]:=by
 obtain ⟨hm,hk⟩:=(find?_eq_some_iff t k a).1 h
 obtain ⟨pre,post,hrows⟩:=append_of_mem hm
 have hn:=t.nodup
 rw[hrows,map_append,map_cons,nodup_middle,nodup_cons] at hn
 have hout:∀ b∈pre++post,¬ (decide (key b=k)):=by
  intro b hb hbk
  refine hn.1 ?_
  rw[←map_append,hk,←of_decide_eq_true hbk]
  exact mem_map_of_mem hb
 have hpre:pre.filter (fun b=>key b=k)=[]:=
  filter_eq_nil_iff.2 (fun b hb=>hout b (mem_append_left _ hb))
 have hpost:post.filter (fun b=>key b=k)=[]:=
  filter_eq_nil_iff.2 (fun b hb=>hout b (mem_append_right _ hb))
 rw[hrows,filter_append,hpre,filter_cons,hpost]
 simp[hk]
lemma insertAll_isSome_iff(t:Table κ α key)(l:List α):
 (t.insertAll l).isSome↔(∀ a∈l,t.find? (key a)=none)∧(l.map key).Nodup:=by
 induction l generalizing t with
 | nil=>simp[Table.insertAll]
 | cons a rest ih=>
  unfold Table.insertAll
  by_cases h:t.find? (key a)=none
  ·rw[dif_pos h,ih,map_cons,nodup_cons]
   constructor
   ·rintro ⟨hfree,hnd⟩
    have hrest:∀ b∈rest,key b≠key a∧t.find? (key b)=none:=by
     intro b hb
     have:=hfree b hb
     rw[find?_insert] at this
     split_ifs at this with hba
     exact ⟨hba,this⟩
    refine ⟨forall_mem_cons.2 ⟨h,fun b hb=>(hrest b hb).2⟩,?_,hnd⟩
    intro hmem
    obtain ⟨b,hb,hba⟩:=mem_map.1 hmem
    exact (hrest b hb).1 hba
   ·rintro ⟨hfree,hna,hnd⟩
    refine ⟨fun b hb=>?_,hnd⟩
    have hba:key b≠key a:=fun he=>hna (he▸mem_map_of_mem hb)
    rw[find?_insert,if_neg hba]
    exact hfree b (mem_cons_of_mem _ hb)
  ·rw[dif_neg h]
   exact ⟨fun hs=>absurd hs (by simp),fun hs=>absurd (hs.1 a mem_cons_self) h⟩

end KeyedTable
