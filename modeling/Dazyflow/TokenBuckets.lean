import Mathlib

/-!
# Token buckets

A key's level rises at a rate up to a burst and every admitted request takes one from it.
-/
namespace TokenBuckets

open List

variable {κ:Type}[DecidableEq κ]{rate burst:ℚ}

section Serving
variable (rate burst)

/-- What a request leaves of a level. -/
def left(level:ℚ):ℚ:=if 1 ≤ level then level-1 else level

def spend(L:κ→ℚ→ℚ)(k:κ)(now:ℚ):κ→ℚ→ℚ:=fun k' now'=>
 if k'=k then min burst (left (L k now)+(now'-now)*rate) else L k' now'

/-- The decisions of a limiter that knows every key's level at every moment. -/
def serve(L:κ→ℚ→ℚ):List (κ×ℚ)→List Bool
 | []=>[]
 | (k,now)::rest=>decide (1 ≤ L k now)::serve (spend rate burst L k now) rest

def admitted(k:κ)(reqs:List (κ×ℚ))(oks:List Bool):List ℚ:=
 ((reqs.zip oks).filter fun r=>r.1.1=k∧r.2).map (·.1.2)

/-- A level from a moment on: between zero and the burst, rising no faster than the rate. -/
structure Filling(level:ℚ→ℚ)(since:ℚ):Prop where
 nonneg:∀ now,since ≤ now→0 ≤ level now
 le:∀ now,since ≤ now→ level now ≤ burst
 grows:∀ now now',since ≤ now→now ≤ now'→ level now' ≤ level now+(now'-now)*rate

def within(t u:ℚ)(times:List ℚ):ℚ:=times.countP (fun x=>t ≤ x∧x ≤ u)

/-- The level is what the admissions so far have left, counted from any earlier moment. -/
structure Paced(level now:ℚ)(times:List ℚ):Prop where
 le:level ≤ burst
 past:∀ x∈times,x ≤ now
 balance:∀ t,t ≤ now→ within t now times+level ≤ burst+rate*(now-t)
 window:∀ t u,t ≤ u→ within t u times ≤ burst+rate*(u-t)

end Serving

lemma within_cons(t u x:ℚ)(times:List ℚ):
 within t u (x::times)=within t u times+if t ≤ x∧x ≤ u then 1 else 0:=by
 unfold within
 rw[countP_cons]
 split_ifs<;>simp_all
lemma within_past{t now u times}(h:∀ x∈times,x ≤ now)(hu:now ≤ u):within t u times=within t now times:=by
 unfold within
 congr 1
 refine countP_congr fun x hx=>?_
 simp only[decide_eq_true_eq]
 exact ⟨fun hx'=>⟨hx'.1,h x hx⟩,fun hx'=>⟨hx'.1,hx'.2.trans hu⟩⟩

namespace Paced
variable {level now:ℚ}{times:List ℚ}

lemma start(hr:0 ≤ rate)(hb:0 ≤ burst)(now:ℚ):Paced rate burst burst now []:=by
 refine ⟨le_rfl,nofun,fun t ht=>?_,fun t u hu=>?_⟩
 ·have:=mul_nonneg hr (sub_nonneg.2 ht)
  simpa[within] using this
 ·have:=mul_nonneg hr (sub_nonneg.2 hu)
  simp only[within,countP_nil,Nat.cast_zero]
  linarith
lemma wait(h:Paced rate burst level now times)(hr:0 ≤ rate){now' level'}(hnow:now ≤ now')
 (hle:level' ≤ burst)(hgrow:level' ≤ level+(now'-now)*rate):Paced rate burst level' now' times:=by
 refine ⟨hle,fun x hx=>(h.past x hx).trans hnow,fun t ht=>?_,h.window⟩
 by_cases hlt:t ≤ now
 ·rw[within_past h.past hnow]
  linarith[h.balance t hlt]
 ·have hnone:within t now' times=0:=by
   unfold within
   rw[Nat.cast_eq_zero,countP_eq_zero]
   intro x hx hx'
   exact hlt ((of_decide_eq_true hx').1.trans (h.past x hx))
  have:=mul_nonneg hr (sub_nonneg.2 ht)
  rw[hnone]
  linarith
lemma take(h:Paced rate burst level now times)(hr:0 ≤ rate)(hlevel:1 ≤ level):
 Paced rate burst (level-1) now (now::times):=by
 refine ⟨by linarith[h.le],forall_mem_cons.2 ⟨le_rfl,h.past⟩,fun t ht=>?_,fun t u hu=>?_⟩
 ·rw[within_cons,if_pos ⟨ht,le_rfl⟩]
  linarith[h.balance t ht]
 ·rw[within_cons]
  split_ifs with hin
  ·rw[within_past h.past hin.2]
   have:=mul_le_mul_of_nonneg_left (sub_le_sub_right hin.2 t) hr
   linarith[h.balance t hin.1]
  ·rw[add_zero]
   exact h.window t u hu

end Paced

section Served
variable {L:κ→ℚ→ℚ}{since now:ℚ}{k:κ}

lemma Filling.later{level}(h:Filling rate burst level since)(hnow:since ≤ now):Filling rate burst level now:=
 ⟨fun t ht=>h.nonneg t (hnow.trans ht),fun t ht=>h.le t (hnow.trans ht),
  fun t t' ht=>h.grows t t' (hnow.trans ht)⟩
lemma left_nonneg{level}(h:0 ≤ level):0 ≤ left level:=by
 unfold left
 split_ifs<;>linarith
lemma left_le(level:ℚ):left level ≤ level:=by
 unfold left
 split_ifs<;>linarith
lemma spend_filling(hr:0 ≤ rate)(hb:0 ≤ burst)(h:∀ k,Filling rate burst (L k) since)(hnow:since ≤ now)(k k':κ):
 Filling rate burst (spend rate burst L k now k') now:=by
 unfold spend
 by_cases hk:k'=k
 ·simp only[if_pos hk]
  refine ⟨fun t ht=>?_,fun t _=>min_le_left _ _,fun t t' ht ht'=>?_⟩
  ·exact le_min hb (add_nonneg (left_nonneg ((h k).nonneg now hnow)) (mul_nonneg (sub_nonneg.2 ht) hr))
  ·rw[←min_add_add_right]
   exact min_le_min (le_add_of_nonneg_right (mul_nonneg (sub_nonneg.2 ht') hr)) (by linarith)
 ·simp only[if_neg hk]
  exact (h k').later hnow
lemma admitted_cons(r:κ×ℚ)(ok:Bool)(reqs oks):
 admitted k (r::reqs) (ok::oks)=(if r.1=k∧ok then [r.2] else [])++admitted k reqs oks:=by
 unfold admitted
 rw[zip_cons_cons,filter_cons]
 split_ifs<;>simp_all

/-- No window admits more than the burst and what flows in during it. -/
theorem serve_window(hr:0 ≤ rate)(hb:0 ≤ burst){reqs times}(hL:∀ k,Filling rate burst (L k) since)
 (hp:Paced rate burst (L k since) since times)(hclock:(since::reqs.map Prod.snd).Pairwise (· ≤ ·))
 (t u:ℚ)(hu:t ≤ u):
 within t u times+within t u (admitted k reqs (serve rate burst L reqs)) ≤ burst+rate*(u-t):=by
 induction reqs generalizing L since times with
 | nil=>
  have:=hp.window t u hu
  simpa[admitted,within] using this
 | cons r reqs ih=>
  obtain ⟨k',now⟩:=r
  obtain ⟨hle,hclock⟩:=pairwise_cons.1 hclock
  have hnow:since ≤ now:=hle now mem_cons_self
  have hp:=hp.wait hr hnow ((hL k).le now hnow) ((hL k).grows since now le_rfl hnow)
  have hnext:=spend_filling hr hb hL hnow k'
  rw[serve,admitted_cons]
  split_ifs with hk
  ·obtain ⟨rfl,hok⟩:=hk
   have hok:=of_decide_eq_true hok
   have hlevel:spend rate burst L k' now k' now=L k' now-1:=by
    rw[spend,if_pos rfl,left,if_pos hok,sub_self,zero_mul,add_zero,min_eq_right (by linarith[(hL k').le now hnow])]
   have:=ih hnext (hlevel▸hp.take hr hok) hclock
   rw[singleton_append,within_cons] at *
   linarith
  ·refine ih hnext (hp.wait hr le_rfl ((hnext k).le now le_rfl) ?_) hclock
   unfold spend
   split_ifs with hkk
   ·cases hkk
    exact (min_le_right _ _).trans (by linarith[left_le (L k now)])
   ·linarith

/-- A key whose level is at least the number of its requests has them admitted. -/
lemma serve_enough(since:ℚ)(hr:0 ≤ rate){reqs:List (κ×ℚ)}{n:Nat}(hn:(n:ℚ) ≤ burst)
 (hL:∀ now,since ≤ now→(n:ℚ) ≤ L k now)(hclock:(since::reqs.map Prod.snd).Pairwise (· ≤ ·)):
 ∀ r∈((reqs.zip (serve rate burst L reqs)).filter (·.1.1=k)).take n,r.2:=by
 induction reqs generalizing L since n with
 | nil=>simp[serve]
 | cons r reqs ih=>
  obtain ⟨k',now⟩:=r
  obtain ⟨hle,hclock⟩:=pairwise_cons.1 hclock
  have hnow:since ≤ now:=hle now mem_cons_self
  rw[serve,zip_cons_cons,filter_cons]
  by_cases hk:k'=k
  ·cases hk
   rw[if_pos (by simp)]
   cases n with
   | zero=>simp
   | succ n=>?_
   push_cast at hn hL
   have hlevel:=hL now hnow
   have hn0:=Nat.cast_nonneg (α:=ℚ) n
   rw[take_succ_cons]
   refine forall_mem_cons.2 ⟨decide_eq_true (by linarith),ih now (by linarith) (fun now' hnow'=>?_) hclock⟩
   have:=mul_nonneg (sub_nonneg.2 hnow') hr
   rw[spend,if_pos rfl,left,if_pos (by linarith)]
   exact le_min (by linarith) (by linarith)
  ·rw[if_neg (by simpa using hk)]
   refine ih now hn (fun now' hnow'=>?_) hclock
   rw[spend,if_neg fun h=>hk h.symm]
   exact hL now' (hnow.trans hnow')

/-- A key that has not asked for as long as a burst takes to flow in has its burst again. -/
theorem serve_rested(hr:0<rate)(hb:0 ≤ burst){before after:List (κ×ℚ)}{t:ℚ}{n:Nat}(hn:(n:ℚ) ≤ burst)
 (hL:∀ k,Filling rate burst (L k) since)(hfull:∀ now,since ≤ now→t ≤ now→ L k now=burst)
 (hclock:(since::(before++after).map Prod.snd).Pairwise (· ≤ ·))
 (hbefore:∀ r∈before,r.1=k→ r.2+burst/rate ≤ t)(hafter:∀ r∈after,t ≤ r.2):
 ∀ r∈((after.zip ((serve rate burst L (before++after)).drop before.length)).filter (·.1.1=k)).take n,r.2:=by
 induction before generalizing L since with
 | nil=>
  obtain ⟨hle,hclock⟩:=pairwise_cons.1 hclock
  refine serve_enough (max since t) hr.le hn (fun now hnow=>?_) (pairwise_cons.2 ⟨fun x hx=>?_,hclock⟩)
  ·exact (hfull now ((le_max_left _ _).trans hnow) ((le_max_right _ _).trans hnow)).symm▸hn
  ·obtain ⟨r,hr,rfl⟩:=mem_map.1 hx
   exact max_le (hle _ hx) (hafter r hr)
 | cons r before ih=>
  obtain ⟨k',now⟩:=r
  obtain ⟨hle,hclock⟩:=pairwise_cons.1 hclock
  have hnow:since ≤ now:=hle now mem_cons_self
  obtain ⟨hhead,hbefore⟩:=forall_mem_cons.1 hbefore
  refine ih (spend_filling hr.le hb hL hnow k') (fun now' hnow' ht=>?_) hclock hbefore
  unfold spend
  split_ifs with hk
  ·have hflow:burst ≤ (now'-now)*rate:=by
    rw[←div_le_iff₀ hr]
    linarith[hhead hk.symm]
   rw[min_eq_left (by linarith[left_nonneg ((hL k').nonneg now hnow)])]
  ·exact hfull now' (hnow.trans hnow') ht

end Served

end TokenBuckets
