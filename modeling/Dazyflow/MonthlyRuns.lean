import Dazyflow.KeyedTable
import Dazyflow.ProgramStages

/-!
# The monthly run counter

A submission reserves a run in the counter of the current month just before it inserts the run, and gives the
reservation back when the insertion fails.
-/
namespace Dazyflow.MonthlyRuns
open Interleaving Protocol KeyedTable

abbrev Time:=Int

def pad(width:Nat)(n:Nat):String:= "".pushn '0' (width-n.repr.length)++n.repr

/-- Year and month of a day, counted from 1970 in the Gregorian calendar. Years begin in
 March here until the last line, so that a leap day is the last of its year. -/
def civilMonth(days:Int):Int×Int:=
 let z:=days+719468
 let era:=z / 146097
 let doe:=z-era*146097
 let yoe:=(doe-doe / 1460+doe / 36524-doe / 146096) / 365
 let doy:=doe-(365*yoe+yoe / 4-yoe / 100)
 let mp:=(5*doy+2) / 153
 let month:=if mp<10 then mp+3 else mp-9
 (yoe+era*400+(if month≤2 then 1 else 0),month)

def usagePeriod(t:Time):String:=
 let (year,month):=civilMonth (t / 86400)
 pad 4 year.toNat++"-"++pad 2 month.toNat

example:[0,1709164800,1785542399,1785542400].map usagePeriod=["1970-01","2024-02","2026-07","2026-08"]:=by
 decide +kernel

structure UsageCounters where
 (tenant period:String)
 graphRuns:Int:=0

abbrev Usage:=Table (String×String) UsageCounters (fun c=>(c.tenant,c.period))

def bucket(s:Usage)(tenant:String)(now:Time):UsageCounters:=
 (s.find? (tenant,usagePeriod now)).getD {tenant:=tenant,period:=usagePeriod now}

def addRun(s:Usage)(tenant:String)(now:Time):Usage:=
 let b:=bucket s tenant now
 s.upsert {b with graphRuns:=b.graphRuns+1}

def addRunIfUnder(s:Usage)(tenant:String)(now:Time)(limit:Int):Bool×Usage:=
 let b:=bucket s tenant now
 if 0<limit∧limit ≤ b.graphRuns then (false,s.upsert b) else (true,addRun s tenant now)

def releaseRun(s:Usage)(tenant:String)(now:Time):Usage:=
 let b:=bucket s tenant now
 if 0<b.graphRuns then s.upsert {b with graphRuns:=b.graphRuns-1} else s.upsert b

def usage(s:Usage)(tenant:String)(months:Nat):List UsageCounters:=
 let out:=(s.rows.filter fun c=>c.tenant=tenant).mergeSort (fun a b=>decide (b.period ≤ a.period))
 if 0 < months then out.take months else out

/-- `checks` are the other reasons to refuse a submission. -/
inductive Call
 | checks
 | now
 | usage (tenant:String)(months:Nat)
 | addRun (tenant:String)(now:Time)
 | addRunIfUnder (tenant:String)(now:Time)(limit:Int)
 | enqueue
 | releaseRun (tenant:String)(now:Time)

@[reducible] def Res:Call→Type
 | .checks=>Bool
 | .now=>Time
 | .usage _ _=>List UsageCounters
 | .addRun _ _=>Unit
 | .addRunIfUnder _ _ _=>Bool
 | .enqueue=>Bool
 | .releaseRun _ _=>Unit

@[reducible] def sig:Sig where
 Call:=Call
 Res:=Res
 Ret:=Empty.elim

abbrev Program:=Prog sig

def ask(c:Call):Program (Res c):=Prog.ask (S:=sig) c

structure Oracle where
 passes:Bool:=true
 time:Time:=0
 stores:Bool:=true

def step:(c:Call)→Oracle→Usage→Res c×Usage
 | .checks,o,s=>(o.passes,s)
 | .now,o,s=>(o.time,s)
 | .usage tenant months,_,s=>(MonthlyRuns.usage s tenant months,s)
 | .addRun tenant now,_,s=>((),MonthlyRuns.addRun s tenant now)
 | .addRunIfUnder tenant now limit,_,s=>MonthlyRuns.addRunIfUnder s tenant now limit
 | .enqueue,o,s=>(o.stores,s)
 | .releaseRun tenant now,_,s=>((),MonthlyRuns.releaseRun s tenant now)

structure Config where
 runLimit:String→Int

def runsThisMonth(tenant:String):Program Int:=do
 let buckets←ask (.usage tenant 1)
 match buckets with
 | []=>return 0
 | c::_=>
  let now←ask .now
  return if c.period=usagePeriod now then c.graphRuns else 0

def checkRunQuota(cfg:Config)(tenant:String):Program Bool:=do
 if cfg.runLimit tenant≤0 then return true
 else
  let used←runsThisMonth tenant
  return used<cfg.runLimit tenant

def reserveRun(cfg:Config)(tenant:String):Program Bool:=do
 let now←ask .now
 if cfg.runLimit tenant≤0 then
  ask (.addRun tenant now)
  return true
 else ask (.addRunIfUnder tenant now (cfg.runLimit tenant))

def insertRun(tenant:String):Program Unit:=do
 if←ask .enqueue then return ()
 else
  let now←ask .now
  ask (.releaseRun tenant now)

def meterRun(cfg:Config)(tenant:String):Program Unit:=do
 if←reserveRun cfg tenant then insertRun tenant
 else return ()

def admitRun(cfg:Config)(tenant:String):Program Unit:=do
 if←checkRunQuota cfg tenant then
  if←ask .checks then meterRun cfg tenant
  else return ()
 else return ()

def submit(cfg:Config)(tenant:String):Program Unit:=do
 if←ask .checks then admitRun cfg tenant
 else return ()

@[reducible] def machine(cfg:Config):Machine sig where
 State:=Usage
 Oracle:=Oracle
 step:=step
 body:=Empty.rec
 Entry:=String
 entry:=submit cfg

/-- The month stands after the tenant once the run is reserved in it. -/
inductive Stage
 | arriving (tenant:String)
 | quota (tenant:String)
 | ready (tenant:String)
 | reserving (tenant:String)(now:Time)
 | holding (tenant period:String)
 | kept (tenant period:String)
 | releasing (tenant period:String)
 | returning (tenant period:String)(now:Time)
 | released (tenant period:String)
 | refused

def Stage.next:Stage→(c:Call)→Res c→Stage
 | .arriving tenant,.checks,true=>.quota tenant
 | .quota tenant,.checks,true=>.ready tenant
 | .quota tenant,.usage _ _,_=>.quota tenant
 | .quota tenant,.now,_=>.quota tenant
 | .ready tenant,.now,t=>.reserving tenant t
 | .reserving tenant now,.addRun _ _,_=>.holding tenant (usagePeriod now)
 | .reserving tenant now,.addRunIfUnder _ _ _,true=>.holding tenant (usagePeriod now)
 | .holding tenant period,.enqueue,true=>.kept tenant period
 | .holding tenant period,.enqueue,false=>.releasing tenant period
 | .releasing tenant period,.now,t=>.returning tenant period t
 | .returning tenant period _,.releaseRun _ _,_=>.released tenant period
 | _,_,_=>.refused

def Stage.allows(cfg:Config):Stage→Call→Prop
 | .arriving _,.checks=>True
 | .quota _,.checks=>True
 | .quota tenant,.usage tenant' _=>tenant'=tenant
 | .quota _,.now=>True
 | .ready _,.now=>True
 | .reserving tenant now,.addRun tenant' now'=>tenant'=tenant∧now'=now∧cfg.runLimit tenant≤0
 | .reserving tenant now,.addRunIfUnder tenant' now' limit=>tenant'=tenant∧now'=now∧limit=cfg.runLimit tenant
 | .holding _ _,.enqueue=>True
 | .releasing _ _,.now=>True
 | .returning tenant _ now,.releaseRun tenant' now'=>tenant'=tenant∧now'=now
 | _,_=>False

@[reducible] def stages(cfg:Config):Protocol (machine cfg) where
 Stage:=Stage
 first:=.arriving
 next:=Stage.next
 allowed:=Stage.allows cfg
 pre f _:=f.elim
 post f _ _ _:=f.elim

section Follows

variable {cfg:Config}{tenant:String}

lemma obeys_runsThisMonth:
 (stages cfg).Obeys (runsThisMonth tenant) (.quota tenant) (fun _ n=>n=.quota tenant):=by
 exact obeys_call rfl fun
  | .nil=>obeys_done rfl
  | .cons c rest=>obeys_call trivial (fun _=>obeys_done rfl)
lemma obeys_checkRunQuota:
 (stages cfg).Obeys (checkRunQuota cfg tenant) (.quota tenant) (fun _ n=>n=.quota tenant):=by
 exact obeys_if (fun _=>obeys_done rfl) fun _=>obeys_bind obeys_runsThisMonth fun _ _ hn=>obeys_done hn
lemma obeys_reserveRun:
 (stages cfg).Obeys (reserveRun cfg tenant) (.ready tenant) (fun b n=>b→∃ period,n=.holding tenant period):=by
 refine obeys_call trivial fun now=>obeys_if (fun hlimit=>?_) fun _=>?_
 ·exact obeys_call ⟨rfl,rfl,hlimit⟩ fun _=>obeys_done (fun _=>⟨_,rfl⟩)
 ·refine obeys_ask ⟨rfl,rfl,rfl⟩ fun b hb=>?_
  obtain rfl:b:=hb
  exact ⟨_,rfl⟩
lemma obeys_insertRun{period}:
 (stages cfg).Obeys (insertRun tenant) (.holding tenant period) (fun _ _=>True):=by
 exact obeys_call trivial fun
  | true=>obeys_done trivial
  | false=>obeys_call trivial (fun now=>obeys_ask ⟨rfl,rfl⟩ fun _=>trivial)
lemma obeys_admitRun:(stages cfg).Obeys (admitRun cfg tenant) (.quota tenant) (fun _ _=>True):=by
 refine obeys_bind obeys_checkRunQuota fun b n hn=>?_
 subst hn
 cases b with
 | false=>exact obeys_done trivial
 | true=>?_
 refine obeys_call trivial fun
  | false=>obeys_done trivial
  | true=>?_
 change (stages cfg).Obeys (meterRun cfg tenant) (.ready tenant) _
 refine obeys_bind obeys_reserveRun fun b n hn=>?_
 cases b with
 | false=>exact obeys_done trivial
 | true=>
  obtain ⟨period,rfl⟩:=hn rfl
  exact obeys_insertRun
lemma follows(cfg):(stages cfg).Follows (fun _=>True) where
 entries tenant:=by
  exact obeys_call trivial fun
   | false=>obeys_done trivial
   | true=>obeys_admitRun

end Follows

def graphRuns(s:Usage)(tenant period:String):Int:=((s.find? (tenant,period)).map UsageCounters.graphRuns).getD 0

def Stage.reserved:Stage→Option (String×String)
 | .holding tenant period=>some (tenant,period)
 | .kept tenant period=>some (tenant,period)
 | .releasing tenant period=>some (tenant,period)
 | .returning tenant period _=>some (tenant,period)
 | _=>none

def reservedRuns(ns:List Stage)(tenant period:String):Nat:=ns.countP (fun n=>n.reserved=some (tenant,period))

/-- The reservation is given back in its own month. -/
def Stage.inMonth:Stage→Bool
 | .returning _ period now=>usagePeriod now=period
 | _=>true

section Counts

variable {cfg:Config}{s:Usage}{ns:List Stage}{n n':Stage}{i:Nat}{tenant period:String}

lemma graphRuns_empty:graphRuns empty tenant period=0:=rfl
lemma graphRuns_upsert(b):
 graphRuns (s.upsert b) tenant period=if (tenant,period)=(b.tenant,b.period) then b.graphRuns else graphRuns s tenant period:=by
 unfold graphRuns
 rw[find?_upsert]
 split_ifs<;>rfl
lemma bucket_key(now):(bucket s tenant now).tenant=tenant∧(bucket s tenant now).period=usagePeriod now:=by
 unfold bucket
 cases h:s.find? (tenant,usagePeriod now) with
 | none=>exact ⟨rfl,rfl⟩
 | some c=>
  have hk:=key_of_find? h
  simp only[Prod.mk.injEq] at hk
  exact hk
lemma bucket_graphRuns(now):(bucket s tenant now).graphRuns=graphRuns s tenant (usagePeriod now):=by
 unfold bucket graphRuns
 cases s.find? (tenant,usagePeriod now)<;>rfl

variable {tenant':String}

lemma graphRuns_bucket{now count}:
 graphRuns (s.upsert {bucket s tenant' now with graphRuns:=count}) tenant period =
  if (tenant,period)=(tenant',usagePeriod now) then count else graphRuns s tenant period:=by
 rw[graphRuns_upsert,(bucket_key now).1,(bucket_key now).2]
lemma graphRuns_touch{now}:
 graphRuns (s.upsert (bucket s tenant' now)) tenant period=graphRuns s tenant period:=by
 rw[graphRuns_upsert,(bucket_key now).1,(bucket_key now).2,bucket_graphRuns]
 split_ifs with h
 ·cases h
  rfl
 ·rfl
lemma graphRuns_addRun{now}:
 graphRuns (addRun s tenant' now) tenant period =
  graphRuns s tenant period+if (tenant,period)=(tenant',usagePeriod now) then 1 else 0:=by
 unfold addRun
 rw[graphRuns_bucket,bucket_graphRuns]
 split_ifs with h
 ·cases h
  rfl
 ·exact (Int.add_zero _).symm
lemma addRunIfUnder_cases(tenant' now limit):
 ((addRunIfUnder s tenant' now limit).1=false∧
   ∀ tenant period,graphRuns (addRunIfUnder s tenant' now limit).2 tenant period=graphRuns s tenant period)∨
  (0<limit → graphRuns s tenant' (usagePeriod now)<limit)∧
   addRunIfUnder s tenant' now limit=(true,addRun s tenant' now):=by
 unfold addRunIfUnder
 by_cases h:0<limit∧limit≤(bucket s tenant' now).graphRuns
 ·rw[if_pos h]
  exact Or.inl ⟨rfl,fun _ _=>graphRuns_touch⟩
 ·rw[if_neg h]
  rw[bucket_graphRuns] at h
  exact Or.inr ⟨by omega,rfl⟩
lemma graphRuns_releaseRun{now}:
 graphRuns (releaseRun s tenant' now) tenant period =
  if (tenant,period)=(tenant',usagePeriod now)∧0<graphRuns s tenant period then graphRuns s tenant period-1
  else graphRuns s tenant period:=by
 unfold releaseRun
 simp only[bucket_graphRuns]
 by_cases hpos:0<graphRuns s tenant' (usagePeriod now)
 ·rw[if_pos hpos,graphRuns_bucket]
  by_cases hk:(tenant,period)=(tenant',usagePeriod now)
  ·cases hk
   rw[if_pos rfl,if_pos ⟨rfl,hpos⟩]
  ·rw[if_neg hk,if_neg fun h=>hk h.1]
 ·rw[if_neg hpos,graphRuns_touch,if_neg]
  rintro ⟨hk,hx⟩
  cases hk
  exact hpos hx
lemma reservedRuns_set(hn:ns[i]? = some n)(n' tenant period):
 reservedRuns (ns.set i n') tenant period+(if n.reserved=some (tenant,period) then 1 else 0) =
  reservedRuns ns tenant period+(if n'.reserved=some (tenant,period) then 1 else 0):=by
 simpa[reservedRuns] using countP_set_add (fun m=>decide (Stage.reserved m=some (tenant,period))) hn (y:=n')

structure Bounded(cfg:Config)(s:Usage):Prop where
 nonneg:∀ tenant period,0 ≤ graphRuns s tenant period
 below:∀ tenant period,0<cfg.runLimit tenant → graphRuns s tenant period ≤ cfg.runLimit tenant

lemma Bounded.of_same{s'}(h:Bounded cfg s)(hs:∀ tenant period,graphRuns s' tenant period=graphRuns s tenant period):
 Bounded cfg s':=
 ⟨fun t p=>hs t p▸h.nonneg t p,fun t p=>hs t p▸h.below t p⟩
lemma Bounded.add{now}(h:Bounded cfg s)
 (hroom:0<cfg.runLimit tenant → graphRuns s tenant (usagePeriod now)<cfg.runLimit tenant):
 Bounded cfg (addRun s tenant now):=by
 refine ⟨fun t p=>?_,fun t p hlimit=>?_⟩
 ·have:=h.nonneg t p
  rw[graphRuns_addRun]
  split_ifs<;>omega
 ·have hle:=h.below t p hlimit
  rw[graphRuns_addRun]
  split_ifs with hk
  ·cases hk
   have:=hroom hlimit
   omega
  ·omega
lemma Bounded.release{now}(h:Bounded cfg s):Bounded cfg (releaseRun s tenant now):=by
 refine ⟨fun t p=>?_,fun t p hlimit=>?_⟩
 ·have:=h.nonneg t p
  rw[graphRuns_releaseRun]
  split_ifs<;>omega
 ·have:=h.below t p hlimit
  rw[graphRuns_releaseRun]
  split_ifs<;>omega
lemma Bounded.call{c o}(h:Bounded cfg s)(hall:n.allows cfg c):Bounded cfg (step c o s).2:=by
 cases c with
 | addRun tenant now=>
  cases n with
  | reserving tenant' now'=>
   obtain ⟨rfl,rfl,hlimit⟩:=hall
   exact h.add fun hpos=>absurd hpos (by omega)
  | _=>cases hall
 | addRunIfUnder tenant now limit=>
  cases n with
  | reserving tenant' now'=>
   obtain ⟨rfl,rfl,rfl⟩:=hall
   rcases addRunIfUnder_cases (s:=s) tenant now (cfg.runLimit tenant) with ⟨_,hsame⟩ | ⟨hroom,hx⟩
   ·exact h.of_same hsame
   ·simp only[step,hx]
    exact h.add hroom
  | _=>cases hall
 | releaseRun tenant now=>exact h.release
 | _=>exact h

def Exact(s:Usage)(ns:List Stage):Prop:=
 ∀ tenant period,graphRuns s tenant period=reservedRuns ns tenant period

section

variable (h:Exact s ns)

include h

lemma Exact.start:Exact s (ns++[.arriving tenant]):=by
 intro t p
 rw[h t p,reservedRuns,reservedRuns,List.countP_append]
 simp[Stage.reserved]
lemma Exact.stay{s'}(hn:ns[i]? = some n)(hr:n'.reserved=n.reserved)
 (hs:∀ tenant period,graphRuns s' tenant period=graphRuns s tenant period):Exact s' (ns.set i n'):=by
 intro t p
 have hset:=reservedRuns_set hn n' t p
 rw[hr] at hset
 rw[hs,h t p]
 omega
lemma Exact.reserve{now}(hn:ns[i]? = some (.reserving tenant now)):
 Exact (addRun s tenant now) (ns.set i (.holding tenant (usagePeriod now))):=by
 intro t p
 have hset:=reservedRuns_set hn (.holding tenant (usagePeriod now)) t p
 have hold:=h t p
 rw[graphRuns_addRun]
 simp only[Stage.reserved,Option.some.injEq,Prod.mk.injEq,reduceCtorEq,if_false] at hset ⊢
 by_cases hk:tenant=t∧usagePeriod now=p
 ·obtain ⟨rfl,rfl⟩:=hk
  simp only[and_self,if_true] at hset ⊢
  omega
 ·rw[if_neg fun hx=>hk ⟨hx.1.symm,hx.2.symm⟩]
  rw[if_neg hk] at hset
  omega
lemma Exact.release_iff{now}(hn:ns[i]? = some (.returning tenant period now)):
 Exact (releaseRun s tenant now) (ns.set i (.released tenant period))↔usagePeriod now=period:=by
 have hset:=fun t p=>reservedRuns_set hn (.released tenant period) t p
 simp only[Stage.reserved,Option.some.injEq,Prod.mk.injEq,reduceCtorEq,if_false] at hset
 constructor
 ·intro hx
  by_contra hne
  have hnew:=hx tenant period
  have hone:=hset tenant period
  rw[graphRuns_releaseRun,if_neg fun hk=>hne (Prod.mk.inj hk.1).2.symm,h tenant period] at hnew
  simp only[and_self,if_true] at hone
  omega
 ·rintro rfl t p
  have hold:=h t p
  have hone:=hset t p
  rw[graphRuns_releaseRun]
  by_cases hk:tenant=t∧usagePeriod now=p
  ·obtain ⟨rfl,rfl⟩:=hk
   simp only[and_self,if_true,true_and] at hone ⊢
   rw[if_pos (by omega)]
   omega
  ·rw[if_neg fun hx=>hk ⟨(Prod.mk.inj hx.1).1.symm,(Prod.mk.inj hx.1).2.symm⟩]
   rw[if_neg hk] at hone
   omega
lemma Exact.call{c o}(hn:ns[i]? = some n)(hall:n.allows cfg c)
 (hmonth:n.inMonth):Exact (step c o s).2 (ns.set i (n.next c (step c o s).1)):=by
 cases n with
 | reserving tenant now=>
  cases c with
  | addRun tenant' now'=>
   obtain ⟨rfl,rfl,_⟩:=hall
   exact h.reserve hn
  | addRunIfUnder tenant' now' limit=>
   obtain ⟨rfl,rfl,rfl⟩:=hall
   rcases addRunIfUnder_cases (s:=s) tenant' now' (cfg.runLimit tenant') with ⟨hno,hsame⟩ | ⟨_,hx⟩
   ·simp only[step,hno]
    exact h.stay hn rfl hsame
   ·simp only[step,hx]
    exact h.reserve hn
  | _=>cases hall
 | returning tenant period now=>
  cases c with
  | releaseRun tenant' now'=>
   obtain ⟨rfl,rfl⟩:=hall
   have hsame:usagePeriod now'=period:=of_decide_eq_true hmonth
   exact (h.release_iff hn).2 hsame
  | _=>cases hall
 | holding tenant period=>
  cases c with
  | enqueue=>cases hb:o.stores<;>simp only[step,hb]<;>exact h.stay hn rfl (fun _ _=>rfl)
  | _=>cases hall
 | releasing tenant period | ready tenant=>
  cases c with
  | now=>exact h.stay hn rfl (fun _ _=>rfl)
  | _=>cases hall
 | arriving tenant=>
  cases c with
  | checks=>cases hb:o.passes<;>simp only[step,hb]<;>exact h.stay hn rfl (fun _ _=>rfl)
  | _=>cases hall
 | quota tenant=>
  cases c with
  | checks=>cases hb:o.passes<;>simp only[step,hb]<;>exact h.stay hn rfl (fun _ _=>rfl)
  | usage tenant' months | now=>exact h.stay hn rfl (fun _ _=>rfl)
  | _=>cases hall
 | kept tenant period | released tenant period | refused=>cases c<;>cases hall

end

end Counts

def standing{cfg}(P:Pool (machine cfg)):List Stage:=(stages cfg).stages P

abbrev sameMonthRuns(cfg:Config):Rules (machine cfg):=
 Allowed (fun _ _=>True) (fun P i _ _=>∀ n∈(standing P)[i]?,n.inMonth)

abbrev noUsage(cfg:Config):Pool (machine cfg):={state:=empty}

section Runs

variable {cfg:Config}{P:Pool (machine cfg)}

lemma bounded_of_reach{ok:Rules (machine cfg)}(hr:Reach ok (noUsage cfg) P):
 Bounded cfg P.state:=by
 refine (follows cfg).run_inv (A:=noUsage cfg) rfl (J:=fun s _=>Bounded cfg s) ?_ (fun _ _ _ _ h=>h) ?_ hr
 ·exact ⟨fun _ _=>Int.le_of_eq graphRuns_empty.symm,fun _ _ h=>graphRuns_empty▸Int.le_of_lt h⟩
 ·intro P i o c n _ _ _ _ hall h
  exact h.call hall
lemma exact_of_reach(hr:Reach (sameMonthRuns cfg) (noUsage cfg) P):Exact P.state (standing P):=by
 refine (follows cfg).run_inv (A:=noUsage cfg) rfl (J:=Exact) (fun _ _=>graphRuns_empty) (fun _ _ _ _ h=>h.start) ?_ hr
 intro P i o c n _ ha hnext hn hall h
 exact h.call hn hall (ha c hnext n hn)

/-- While every reservation is given back in its month, the counter of a month is the number
 of runs reserved in it and not given back, and is not above the limit; the first one
 that is given back in another month makes its counter wrong. -/
theorem monthly_runs_exact(hr:Reach (sameMonthRuns cfg) (noUsage cfg) P):
 (∀ tenant period,graphRuns P.state tenant period=reservedRuns (standing P) tenant period∧
  0 ≤ graphRuns P.state tenant period∧
  (0<cfg.runLimit tenant → graphRuns P.state tenant period ≤ cfg.runLimit tenant))∧
 ∀ i o P' tenant period now,(standing P)[i]? = some (.returning tenant period now)→P.exec (.step i o)=some P'→
  ((∀ t p,graphRuns P'.state t p=reservedRuns (standing P') t p)↔usagePeriod now=period):=by
 have hex:=exact_of_reach hr
 have hb:=bounded_of_reach hr
 refine ⟨fun tenant period=>⟨hex tenant period,hb.nonneg tenant period,hb.below tenant period⟩,?_⟩
 intro i o P' tenant period now hn he
 obtain ⟨c,n,_,hn',hall,hstate,hst⟩ | ⟨f,_⟩:=(follows cfg).exec_step rfl hr he
 ·obtain rfl:=Option.some.inj (hn.symm.trans hn')
  cases c with
  | releaseRun tenant' now'=>
   obtain ⟨rfl,rfl⟩:=hall
   have hiff:=hex.release_iff hn
   rw[←show P'.state=releaseRun P.state tenant' now' from hstate,
    ←show standing P'=(standing P).set i (.released tenant' period) from hst] at hiff
   exact hiff
  | _=>cases hall
 ·exact f.elim

end Runs

def capped:Config where
 runLimit _:=2

def failedSubmission(reserved released:Time):List (Action (machine capped)):=
 [.start "acme",.step 0 {},.step 0 {},.step 0 {},.step 0 {time:=reserved},.step 0 {},.step 0 {stores:=false},
  .step 0 {time:=released},.step 0 {}]

def july:Time:=1785542399

def august:Time:=1785542400

def failedInJuly:Pool (machine capped):=(noUsage capped).after (sameMonthRuns capped) (failedSubmission july july)

theorem failed_run_not_counted:graphRuns failedInJuly.state "acme" "2026-07"=reservedRuns (standing failedInJuly) "acme" "2026-07":=
 ((monthly_runs_exact (P:=failedInJuly) (reach_after (by decide +kernel))).1 "acme" "2026-07").1

def failedOverMidnight:Pool (machine capped):=
 (noUsage capped).after (anyRuns (machine capped)) (failedSubmission july august)

/-- The failed run still counts against July. -/
theorem failed_run_counted:Reach (anyRuns (machine capped)) (noUsage capped) failedOverMidnight∧
 graphRuns failedOverMidnight.state "acme" "2026-07"=1∧reservedRuns (standing failedOverMidnight) "acme" "2026-07"=0:=
 ⟨reach_after (by decide +kernel),by decide +kernel,by decide +kernel⟩

end Dazyflow.MonthlyRuns
