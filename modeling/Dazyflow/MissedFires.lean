import Mathlib

/-!
# Missed fires of a schedule

A fire that was due while nobody fired is reported, not made up.
-/
namespace Dazyflow.MissedFires

open Function

structure Entry where
 scheduleAt:Nat
 scheduleFn:Option (Nat→Nat)
 (interval emptyStreak:Nat)

def second:Nat:=10 ^ 9

def maxPollIntervalSeconds:Nat:=366*24*60*60

def pollBackoffGrace:Nat:=3

def maxPollBackoffMultiplier:Nat:=8

def Entry.effectiveInterval(e:Entry):Nat:=
 let mult:=if pollBackoffGrace ≤ e.emptyStreak then
  min (2 ^ min (e.emptyStreak-pollBackoffGrace+1) 16) maxPollBackoffMultiplier else 1
 min (e.interval*mult) (maxPollIntervalSeconds*second)

def Entry.nextFireFrom(e:Entry)(now:Nat):Nat:=
 match e.scheduleFn with
 | some next=>next now
 | none=>now+e.effectiveInterval

def maxCountedMissedFires:Nat:=500

structure Report where
 missed:Nat
 atLeast:Bool
 (due reached:Nat)
 deriving DecidableEq

/-- The counting loop with so much of its ceiling left; nothing when the schedule gives up. -/
def countMissed(next:Nat→Nat)(now:Nat):Nat→Nat→Option Nat
 | 0,_=>some 0
 | n+1,t=>
  if next t ≤ now then
   if next t=0 then none else (countMissed next now n (next t)).map (fun missed=>missed+1)
  else some 0

def skipMarkerWindow:Nat:=60*60*second

/-- The markers are those of one kind for one flow: when the last was made, if one was. -/
def markOnce(marked:Option Nat)(clock:Nat):Bool×Option Nat:=
 match marked with
 | some last=>if clock-last<skipMarkerWindow then (false,marked) else (true,some clock)
 | none=>(true,some clock)

def markBroken(marked:Option Nat)(clock:Nat)(r:Report):Option Report×Option Nat:=
 (if (markOnce marked clock).1 then some r else none,(markOnce marked clock).2)

section Recording

-- the last marker and what `markOnce` reads from the clock
variable (marked:Option Nat)(clock:Nat)

def recordMissedFires(e:Entry)(now:Nat):Option Report×Option Nat:=
 if e.scheduleAt=0 then (none,marked)
 else
  match countMissed e.nextFireFrom now maxCountedMissedFires e.scheduleAt with
  | none=>(none,marked)
  | some missed=>if missed=0 then (none,marked)
   else markBroken marked clock ⟨missed,decide (maxCountedMissedFires ≤ missed),e.scheduleAt,now⟩

def fireDue(streak now:Nat)(e:Entry):(Option Report×Option Nat)×Entry:=
 if e.scheduleAt=0∨now<e.scheduleAt then ((none,marked),e)
 else
  (recordMissedFires marked clock e now,
   {e with emptyStreak:=streak,scheduleAt:={e with emptyStreak:=streak}.nextFireFrom now})

def Entry.measured(e:Entry):Entry:=
 if 0<e.interval then {e with emptyStreak:=max e.emptyStreak (pollBackoffGrace+16)} else e

-- the last run is missing when none is on record or the lookup failed
def firstOwedFire(lastRun:Option Nat)(e:Entry)(now:Nat):Option Nat:=
 match lastRun with
 | none=>none
 | some last=>if e.measured.nextFireFrom last=0∨now<e.measured.nextFireFrom last then none
  else some (e.measured.nextFireFrom last)

def reanchor(lastRun:Option Nat)(jitter now:Nat)(e:Entry):(Option Report×Option Nat)×Entry:=
 (if e.scheduleAt=0∨now<e.scheduleAt then (none,marked)
  else match firstOwedFire lastRun e now with
   | none=>(none,marked)
   | some owed=>recordMissedFires marked clock {e.measured with scheduleAt:=owed} now,
  {e with scheduleAt:=e.nextFireFrom now-jitter})

end Recording

/-- No report of this kind was made for the flow within the last hour. -/
def Open(marked:Option Nat)(clock:Nat):Prop:=∀ last∈marked,skipMarkerWindow ≤ clock-last

instance (marked:Option Nat)(clock:Nat):Decidable (Open marked clock):=
 inferInstanceAs (Decidable (∀ last∈marked,_≤_))

def due(next:Nat→Nat)(now t:Nat):Set Nat:={u | u ≤ now∧∃ k,u=next^[k+1] t}

section Increasing

variable {next:Nat→Nat}(hnext:∀ t,t<next t)

include hnext in
lemma lt_iterate(k t):t<next^[k+1] t:=by
 induction k generalizing t with
 | zero=>exact hnext t
 | succ k ih=>
  rw[iterate_succ_apply]
  exact (hnext t).trans (ih (next t))
lemma due_of_le{now t}(h:next t ≤ now):due next now t=insert (next t) (due next now (next t)):=by
 ext u
 constructor
 ·rintro ⟨hu,k,rfl⟩
  cases k with
  | zero=>exact .inl rfl
  | succ k=>exact .inr ⟨hu,k,by rw[iterate_succ_apply]⟩
 ·rintro (rfl | ⟨hu,k,rfl⟩)
  ·exact ⟨h,0,rfl⟩
  ·exact ⟨hu,k+1,by rw[←iterate_succ_apply]⟩

include hnext in
lemma due_of_lt{now t}(h:now<next t):due next now t=∅:=by
 refine Set.eq_empty_of_forall_notMem ?_
 rintro u ⟨hu,k,rfl⟩
 cases k with
 | zero=>exact absurd hu (Nat.not_le.2 h)
 | succ k=>
  rw[iterate_succ_apply] at hu
  have:=lt_iterate hnext k (next t)
  omega

include hnext in
lemma ncard_due(now t):
 (due next now t).ncard=if next t ≤ now then (due next now (next t)).ncard+1 else 0:=by
 split_ifs with h
 ·have hfin:(due next now (next t)).Finite:=(Set.finite_Iic now).subset fun u hu=>hu.1
  rw[due_of_le h,Set.ncard_insert_of_notMem _ hfin]
  rintro ⟨_,k,hk⟩
  exact absurd (lt_iterate hnext k (next t)) (by omega)
 ·rw[due_of_lt hnext (Nat.lt_of_not_le h),Set.ncard_empty]

include hnext in
lemma countMissed_eq(now n t):countMissed next now n t=some (min n (due next now t).ncard):=by
 induction n generalizing t with
 | zero=>simp[countMissed]
 | succ n ih=>
  have hpos:=hnext t
  rw[countMissed,ncard_due hnext,ih]
  split_ifs with h h0
  ·omega
  ·simp
  ·simp

end Increasing

lemma effectiveInterval_pos{e:Entry}(h:0<e.interval):0<e.effectiveInterval:=by
 have hceiling:0 < maxPollIntervalSeconds*second:=by decide
 have hmult:∀ n,0 < min (2 ^ n) maxPollBackoffMultiplier:=fun n=>
  Nat.lt_min.2 ⟨Nat.two_pow_pos n,by decide⟩
 unfold Entry.effectiveInterval
 split_ifs
 ·exact Nat.lt_min.2 ⟨Nat.mul_pos h (hmult _),hceiling⟩
 ·exact Nat.lt_min.2 ⟨by omega,hceiling⟩
lemma measured_increasing{e:Entry}(h:∀ t,t<e.nextFireFrom t)(t):t<e.measured.nextFireFrom t:=by
 by_cases hi:0<e.interval
 ·rw[Entry.measured,if_pos hi]
  cases hf:e.scheduleFn with
  | some next=>simpa[Entry.nextFireFrom,hf] using h t
  | none=>
   simp only[Entry.nextFireFrom]
   exact Nat.lt_add_of_pos_right (effectiveInterval_pos hi)
 ·rw[Entry.measured,if_neg hi]
  exact h t
variable (marked:Option Nat)(clock:Nat)

lemma markBroken_eq(r):(markBroken marked clock r).1=if Open marked clock then some r else none:=by
 unfold markBroken markOnce Open
 cases marked with
 | none=>simp
 | some last=>by_cases h:clock-last<skipMarkerWindow<;>simp[h]
lemma recordMissedFires_eq{e}(h:∀ t,t<e.nextFireFrom t)(hat:e.scheduleAt≠0)(now):
 (recordMissedFires marked clock e now).1.map Report.missed =
  if (due e.nextFireFrom now e.scheduleAt).ncard=0∨¬Open marked clock then none
  else some (min maxCountedMissedFires (due e.nextFireFrom now e.scheduleAt).ncard):=by
 have hmin:min maxCountedMissedFires (due e.nextFireFrom now e.scheduleAt).ncard=0↔
   (due e.nextFireFrom now e.scheduleAt).ncard=0:=by
  have:0 < maxCountedMissedFires:=by decide
  omega
 rw[recordMissedFires,if_neg hat,countMissed_eq h]
 simp only[hmin]
 by_cases h0:(due e.nextFireFrom now e.scheduleAt).ncard=0
 ·simp[h0]
 ·rw[if_neg h0,markBroken_eq]
  by_cases ho:Open marked clock<;>simp[h0,ho]
lemma reanchor_missed{e}(h:∀ t,t<e.measured.nextFireFrom t)(jitter now last)
 (hdue:e.measured.nextFireFrom last ≤ now):
 (reanchor marked clock (some last) jitter now e).1.1.map Report.missed =
  if e.scheduleAt=0∨now<e.scheduleAt∨
   (due e.measured.nextFireFrom now (e.measured.nextFireFrom last)).ncard=0∨¬Open marked clock then none
  else some (min maxCountedMissedFires
   (due e.measured.nextFireFrom now (e.measured.nextFireFrom last)).ncard):=by
 have hpos:=h last
 have howed:firstOwedFire (some last) e now=some (e.measured.nextFireFrom last):=by
  rw[firstOwedFire,if_neg (by omega)]
 have hrecord:=recordMissedFires_eq marked clock (e:={e.measured with scheduleAt:=e.measured.nextFireFrom last}) h
  (by change e.measured.nextFireFrom last≠0; omega) now
 change _=if (due e.measured.nextFireFrom now (e.measured.nextFireFrom last)).ncard=0∨_ then none else
  some (min _ (due e.measured.nextFireFrom now (e.measured.nextFireFrom last)).ncard) at hrecord
 simp only[reanchor,howed,←or_assoc]
 by_cases hstale:e.scheduleAt=0∨now<e.scheduleAt
 ·rw[if_pos hstale,if_pos (.inl (.inl hstale))]
  rfl
 ·rw[if_neg hstale,hrecord]
  simp only[hstale,false_or]
  rfl

def everyTen:Entry:=⟨20,some fun t=>(t / 10+1)*10,0,0⟩

lemma everyTen_increasing(t):t<everyTen.nextFireFrom t:=by
 change t<(t / 10+1)*10
 omega

example:(fireDue none 46 0 45 everyTen).1=(some ⟨2,false,20,45⟩,some 46):=by decide

end Dazyflow.MissedFires
