import Dazyflow.KeyedTable
import Dazyflow.TokenBuckets

/-!
# The request rate limiter

Buckets refill when they are asked, a periodic clean-up drops the refilled ones, and a full map drops the
oldest. Times in seconds.
-/
namespace Dazyflow.RequestLimits
open KeyedTable TokenBuckets List

structure TokenBucket where
 (tokens last:ℚ)

structure IpRateLimiter where
 buckets:Table String (String×TokenBucket) Prod.fst
 (rate burst lastGC:ℚ)

def maxRateLimiterBuckets:Nat:=50000

def newIPRateLimiter(perMinute burst:Int)(now:ℚ):IpRateLimiter:=
 let burst:=if perMinute ≤ 0∧burst ≤ 0 then 10 else burst
 let perMinute:=if perMinute ≤ 0 then 30 else perMinute
 ⟨empty,perMinute/60,if burst ≤ 0 then 1 else burst,now⟩

def gcLocked(now:ℚ)(l:IpRateLimiter):IpRateLimiter:=
 if now-l.lastGC<60 then l
 else {l with
  lastGC:=now
  buckets:=l.buckets.erase fun b=>60<now-b.2.last∧l.burst ≤ b.2.tokens+(now-b.2.last)*l.rate}

def evictOldestLocked(l:IpRateLimiter):IpRateLimiter:=
 match l.buckets.rows.argmin (fun b=>b.2.last) with
 | none=>l
 | some oldest=>{l with buckets:=l.buckets.erase fun b=>b.1=oldest.1}

/-- `forget` is off for the limiter that never cleans up. -/
def allow(forget:Bool)(ip:String)(now:ℚ)(l:IpRateLimiter):Bool×IpRateLimiter:=
 let l:=if forget then gcLocked now l else l
 let l:=if l.buckets.find? ip=none∧maxRateLimiterBuckets ≤ l.buckets.rows.length then evictOldestLocked l else l
 let b:=((l.buckets.find? ip).map Prod.snd).getD ⟨l.burst,now⟩
 let tokens:=min l.burst (b.tokens+(now-b.last)*l.rate)
 (decide (1 ≤ tokens),
  {l with buckets:=l.buckets.upsert (ip,⟨left tokens,now⟩)})

def decisions(forget:Bool)(l:IpRateLimiter):List (String×ℚ)→List Bool
 | []=>[]
 | (ip,now)::rest=>(allow forget ip now l).1::decisions forget (allow forget ip now l).2 rest

def level(l:IpRateLimiter)(ip:String)(now:ℚ):ℚ:=
 ((l.buckets.find? ip).map fun b=>min l.burst (b.2.tokens+(now-b.2.last)*l.rate)).getD l.burst

variable {l:IpRateLimiter}{ip:String}{now now':ℚ}

lemma level_gcLocked(hr:0 ≤ l.rate)(h:now ≤ now'):level (gcLocked now l) ip now'=level l ip now':=by
 unfold gcLocked
 split_ifs
 ·rfl
 unfold level
 rw[find?_erase]
 cases hb:l.buckets.find? ip with
 | none=>rfl
 | some b=>?_
 rw[Option.filter_some]
 split_ifs with hkeep
 ·rfl
 ·simp only[Bool.not_eq_eq_eq_not,Bool.not_true,decide_eq_false_iff_not,not_not] at hkeep
  have:=mul_le_mul_of_nonneg_right (sub_le_sub_right h b.2.last) hr
  simp only[Option.map_none,Option.getD_none,Option.map_some,Option.getD_some]
  rw[min_eq_left (by linarith[hkeep.2])]
lemma rows_gcLocked(b)(h:b∈(gcLocked now l).buckets.rows):b∈l.buckets.rows:=by
 unfold gcLocked at h
 split_ifs at h
 ·exact h
 ·exact mem_of_mem_filter h

/-- The keys of the buckets are among those of a run that stays below the ceiling. -/
structure Below(keys:Finset String)(l:IpRateLimiter):Prop where
 card:keys.card ≤ maxRateLimiterBuckets
 mem:∀ b∈l.buckets.rows,b.1∈keys

lemma Below.room{keys}(h:Below keys l)(hip:ip∈keys)(hnew:l.buckets.find? ip=none):
 l.buckets.rows.length< maxRateLimiterBuckets:=by
 have hsub:(l.buckets.rows.map Prod.fst).toFinset⊆keys.erase ip:=by
  intro x hx
  obtain ⟨b,hb,rfl⟩:=mem_map.1 (mem_toFinset.1 hx)
  exact Finset.mem_erase.2 ⟨(find?_eq_none_iff _ _).1 hnew b hb,h.mem b hb⟩
 have hcard:=Finset.card_le_card hsub
 rw[toFinset_card_of_nodup l.buckets.nodup,length_map,Finset.card_erase_of_mem hip] at hcard
 have:=Finset.card_pos.2 ⟨ip,hip⟩
 have:=h.card
 omega

lemma allow_spec{keys}(forget:Bool)(hr:0 ≤ l.rate)(hl:Below keys l)(hip:ip∈keys):
 (allow forget ip now l).1=decide (1 ≤ level l ip now)∧Below keys (allow forget ip now l).2∧
 (allow forget ip now l).2.rate=l.rate∧(allow forget ip now l).2.burst=l.burst∧
 ∀ ip' now',now ≤ now'→level (allow forget ip now l).2 ip' now'=spend l.rate l.burst (level l) ip now ip' now':=by
 obtain ⟨m,hm,hlevel,hrate,hburst,hbelow⟩:∃ m,m=(if forget then gcLocked now l else l)∧
   (∀ ip' now',now ≤ now'→level m ip' now'=level l ip' now')∧m.rate=l.rate∧m.burst=l.burst∧Below keys m:=by
  refine ⟨_,rfl,?_⟩
  split_ifs
  ·refine ⟨fun _ _=>level_gcLocked hr,?_,?_,⟨hl.card,fun b hb=>hl.mem b (rows_gcLocked b hb)⟩⟩<;>
    (unfold gcLocked; split_ifs<;>rfl)
  ·exact ⟨fun _ _ _=>rfl,rfl,rfl,hl⟩
 have htokens:min m.burst ((((m.buckets.find? ip).map Prod.snd).getD ⟨m.burst,now⟩).tokens+
   (now-(((m.buckets.find? ip).map Prod.snd).getD ⟨m.burst,now⟩).last)*m.rate)=level l ip now:=by
  rw[←hlevel ip now le_rfl]
  unfold level
  cases m.buckets.find? ip<;>simp
 unfold allow
 simp only[←hm]
 rw[if_neg fun h=>absurd (hbelow.room hip h.1) (not_lt.2 h.2),htokens]
 refine ⟨rfl,⟨hl.card,fun b hb=>?_⟩,hrate,hburst,fun ip' now' hnow=>?_⟩
 ·have hf:=(mem_rows_iff _ _).1 hb
  rw[find?_upsert] at hf
  by_cases hk:b.1=ip
  ·exact hk▸hip
  ·exact hbelow.mem b ((mem_rows_iff _ _).2 ((if_neg hk).symm.trans hf))
 ·unfold spend
  rw[level,find?_upsert]
  split_ifs<;>simp_all[level]

variable {keys:Finset String}{reqs:List (String×ℚ)}

lemma decisions_eq_serve(forget:Bool){L}(hr:0 ≤ l.rate)(hl:Below keys l)(hkeys:∀ r∈reqs,r.1∈keys)
 (hclock:(now::reqs.map Prod.snd).Pairwise (· ≤ ·))
 (hL:∀ ip now',now ≤ now'→level l ip now'=L ip now'):decisions forget l reqs=serve l.rate l.burst L reqs:=by
 induction reqs generalizing l L now with
 | nil=>rfl
 | cons r reqs ih=>
  obtain ⟨ip,t⟩:=r
  obtain ⟨hip,hkeys⟩:=forall_mem_cons.1 hkeys
  obtain ⟨hle,hclock⟩:=pairwise_cons.1 hclock
  have ht:=hle t mem_cons_self
  obtain ⟨hok,hl',hrate,hburst,hlevel⟩:=@allow_spec l ip t keys forget hr hl hip
  rw[decisions,serve,hok,hL ip t ht,ih (hrate.symm▸hr) hl' hkeys hclock fun ip' now' h=>(hlevel ip' now' h).trans ?_,
   hrate,hburst]
  unfold spend
  rw[hL ip t ht,hL ip' now' (ht.trans h)]

/-- No window admits more than its share, a key that has rested has its burst again, and the clean-up
decides nothing. -/
theorem requests_paced(perMinute burst:Int)(start:ℚ)(reqs:List (String×ℚ))
 (hclock:(start::reqs.map Prod.snd).Pairwise (· ≤ ·))
 (hkeys:(reqs.map Prod.fst).toFinset.card ≤ maxRateLimiterBuckets):
 let l:=newIPRateLimiter perMinute burst start
 (∀ ip t u,t ≤ u→within t u (admitted ip reqs (decisions true l reqs)) ≤ l.burst+l.rate*(u-t))∧
 (∀ ip before after t (n:Nat),reqs=before++after→(∀ r∈before,r.1=ip→ r.2+l.burst/l.rate ≤ t)→
  (∀ r∈after,t ≤ r.2)→(n:ℚ) ≤ l.burst→
  ∀ r∈((after.zip ((decisions true l reqs).drop before.length)).filter (·.1.1=ip)).take n,r.2)∧
 decisions true l reqs=decisions false l reqs:=by
 intro l
 have hr:0<l.rate:=by
  change 0<(((if perMinute ≤ 0 then 30 else perMinute:Int):ℚ)/60)
  split_ifs with h
  ·norm_num
  ·exact div_pos (Int.cast_pos.2 (not_le.1 h)) (by norm_num)
 have hb:0 ≤ l.burst:=by
  simp only[l,newIPRateLimiter]
  split_ifs
  all_goals
   norm_num
  omega
 have hserve:∀ forget,decisions forget l reqs=serve l.rate l.burst (fun _ _=>l.burst) reqs:=fun forget=>
  decisions_eq_serve forget hr.le ⟨hkeys,nofun⟩ (fun r hr=>mem_toFinset.2 (mem_map_of_mem hr)) hclock
   fun _ _ _=>rfl
 have hL:∀ _:String,Filling l.rate l.burst (fun _=>l.burst) start:=fun _=>
  ⟨fun _ _=>hb,fun _ _=>le_rfl,fun now now' _ h=>le_add_of_nonneg_right (mul_nonneg (sub_nonneg.2 h) hr.le)⟩
 refine ⟨fun ip t u hu=>?_,?_,(hserve true).trans (hserve false).symm⟩
 ·have:=@serve_window String _ _ _ _ _ ip hr.le hb _ _ hL (.start hr.le hb start) hclock t u hu
  rw[hserve]
  simpa[within] using this
 ·rintro ip before after t n rfl hbefore hafter hn
  rw[hserve]
  exact serve_rested hr hb hn hL (fun _ _ _=>rfl) hclock hbefore hafter

theorem requests_paced_two:
 let l:=newIPRateLimiter 60 1 0
 decisions true l [("a",0),("a",0)]=[true,false]∧
 within 0 0 (admitted "a" [("a",0),("a",0)] (decisions true l [("a",0),("a",0)])) ≤ l.burst+l.rate*(0-0):=
 ⟨by decide +kernel,(requests_paced 60 1 0 [("a",0),("a",0)] (by decide) (by decide)).1 "a" 0 0 le_rfl⟩

end Dazyflow.RequestLimits
