import Dazyflow.GoStrings

/-!
# Waiting for a named moment

The delay step hands its slot back when the wait is long and is executed again from the start when the moment
has come.
-/
namespace Dazyflow.DeferredWaits
open GoStrings

def second:Int:=10 ^ 9

def int64(x:Int):Int:=x.bmod (2 ^ 64)

/-- A time zone: its offset from UTC at a moment, both in seconds. Moments are nanoseconds from Go's zero time. -/
structure Zone where
 offset:Int→Int

namespace Zone

variable (z:Zone)

def wall(t:Int):Int:=t / second+z.offset (t / second)

def dayOf(t:Int):Int:=z.wall t / 86400

def clockOf(t:Int):Int:=z.wall t % 86400*second+t % second

/-- What `time.Date` takes for the offset at a wall clock reading: it looks the reading up as if it were UTC, and
again with the offset found. -/
def chosen(w:Int):Int:=z.offset (int64 (w-z.offset (int64 w)))

def reading(day sub:Int):Int:=int64 (int64 day*86400+sub / second)

/-- `time.Date`: so many nanoseconds of wall clock into a day. -/
def date (day sub:Int):Int:=int64 (reading day sub-z.chosen (reading day sub))*second+sub % second

def namedDay(now dayOffset:Int):Int:=z.dayOf (z.date (z.dayOf now+dayOffset) (z.clockOf now))

end Zone

def startOfDay(z:Zone)(now dayOffset:Int):Int:=z.date (z.namedDay now dayOffset) 0

-- the fuel is the length of the text; the code's sums and products are wrapped to 64 bits
def offsetUnits(wrap:Int→Int):Nat→List Char→Int→Int→Option (Int×Int)
 | _,[],days,sub=>some (days,sub)
 | 0,_,_,_=>none
 | fuel+1,cs,days,sub=>
  match digits (2 ^ 63) (cs.takeWhile Char.isDigit),cs.dropWhile Char.isDigit with
  | some n,'w'::rest=>offsetUnits wrap fuel rest (wrap (days+wrap (n*7))) sub
  | some n,'d'::rest=>offsetUnits wrap fuel rest (wrap (days+n)) sub
  | some n,'h'::rest=>offsetUnits wrap fuel rest days (wrap (sub+wrap (n*(3600*second))))
  | some n,'m'::rest=>offsetUnits wrap fuel rest days (wrap (sub+wrap (n*(60*second))))
  | some n,'s'::rest=>offsetUnits wrap fuel rest days (wrap (sub+wrap (n*second)))
  | _,_=>none

def trim(cs:List Char):List Char:=trimRight (cs.dropWhile isSpace)

def signed:List Char→Bool×List Char
 | '+'::cs=>(false,cs)
 | '-'::cs=>(true,cs)
 | cs=>(false,cs)

def offsetParts(wrap:Int→Int)(s:List Char):Option (Int×Int):=
 (offsetUnits wrap (signed (trim s)).2.length (signed (trim s)).2 0 0).map fun p=>
  if (signed (trim s)).1 then (wrap (-p.1),wrap (-p.2)) else p

def parseOffsetParts:List Char→Option (Int×Int):=offsetParts int64

def duration(p:Int×Int):Int:=int64 (int64 (int64 (p.1*24)*(3600*second))+p.2)

def lower(cs:List Char):String:=String.ofList (cs.map Char.toLower)

def splitBase(s:List Char):List Char×List Char:=
 match (List.range s.length).reverse.find? (fun i=>
  ((s.drop i).head?==some '+'||(s.drop i).head?==some '-')&&(parseOffsetParts (s.drop i)).isSome) with
 | none=>(s,[])
 | some i=>
  if lower (trim (s.take i))∈["","now","today","tomorrow","yesterday"] then (trim (s.take i),s.drop i)
  else (s,[])

inductive Base
 | now
 | day (offset:Int)
 | absolute

def baseOf(base:List Char):Base:=
 if lower base="now"∨lower base="" then .now
 else if lower base="today" then .day 0
 else if lower base="tomorrow" then .day 1
 else if lower base="yesterday" then .day (-1)
 else .absolute

section Resolving

-- `parseAbsolute` of a date, a timestamp or Unix seconds, none of which reads the clock
variable (parseAbsolute:List Char→Zone→Except String Int)

def resolve(z:Zone)(text:List Char)(now:Int):Except String (Option Int):=do
 if trim text=[] then return none
 let (base,offset):=splitBase (trim text)
 let anchor←match baseOf base with
  | .now=>pure now
  | .day n=>pure (startOfDay z now n)
  | .absolute=>parseAbsolute base z
 if offset=[] then return some anchor
 match parseOffsetParts offset with
 | none=>throw "bad offset"
 | some (days,sub)=>
  match baseOf base with
  | .day _=>return some (z.date (z.dayOf anchor+days) sub)
  | _=>return some (anchor+duration (days,sub))

/-- The civil day that a day word, with or without an offset, counts from. -/
def countedDay(z:Zone)(offset:List Char)(n now:Int):Int:=
 if offset=[] then z.namedDay now n else z.dayOf (startOfDay z now n)

/-- The clock of an execution names the same moment or day as that of the first one. -/
def Steady(z:Zone)(text:List Char)(first now:Int):Prop:=
 match baseOf (splitBase (trim text)).1 with
 | .now=>now=first
 | .day n=>countedDay z (splitBase (trim text)).2 n now=countedDay z (splitBase (trim text)).2 n first
 | .absolute=>True

/-- The days that the two clocks name are not at opposite ends of Go's range. -/
def Near(z:Zone)(text:List Char)(first now:Int):Prop:=∀ n,
 |countedDay z (splitBase (trim text)).2 n now-countedDay z (splitBase (trim text)).2 n first|<2 ^ 46

lemma resolve_day{z:Zone}{text n}(ht:trim text≠[])(hb:baseOf (splitBase (trim text)).1=.day n)(now):
 resolve parseAbsolute z text now=if (splitBase (trim text)).2=[] then .ok (some (startOfDay z now n)) else
  match parseOffsetParts (splitBase (trim text)).2 with
  | none=>.error "bad offset"
  | some p=>.ok (some (z.date (z.dayOf (startOfDay z now n)+p.1) p.2)):=by
 unfold resolve
 simp only[if_neg ht,hb]
 split_ifs
 ·rfl
 ·cases parseOffsetParts (splitBase (trim text)).2<;>rfl
lemma resolve_of_steady{z text first now}(h:Steady z text first now):
 resolve parseAbsolute z text now=resolve parseAbsolute z text first:=by
 unfold Steady at h
 cases hb:baseOf (splitBase (trim text)).1 with
 | now=>rw[hb] at h; simp only at h; rw[h]
 | day n=>
  rw[hb] at h
  simp only[countedDay] at h
  by_cases ht:trim text=[]
  ·simp only[resolve,if_pos ht]
  rw[resolve_day _ ht hb,resolve_day _ ht hb]
  split_ifs at h ⊢
  ·rw[startOfDay,h,←startOfDay]
  ·rw[h]
 | absolute=>
  unfold resolve
  simp only[hb]
lemma int64_eq_add(x):∃ k,int64 x=x+2 ^ 64*k:=
 ⟨-x.bdiv (2 ^ 64),by have:=Int.bmod_add_bdiv x (2 ^ 64); rw[int64]; push_cast at this ⊢; omega⟩
lemma date_inj{z:Zone}(hz:∀ a b,z.offset a-z.offset b<86400){d d' sub:Int}(hnear:|d-d'|<2 ^ 46)
 (h:z.date d sub=z.date d' sub):d=d':=by
 simp only[Zone.date,Zone.reading,second] at h
 generalize hr:int64 (int64 d*86400+sub / 10 ^ 9)=r at h
 generalize hr':int64 (int64 d'*86400+sub / 10 ^ 9)=r' at h
 have hc:z.chosen r-z.chosen r'<86400:=hz _ _
 have hc':z.chosen r'-z.chosen r<86400:=hz _ _
 obtain ⟨k₁,h₁⟩:=int64_eq_add (r-z.chosen r)
 obtain ⟨k₂,h₂⟩:=int64_eq_add (r'-z.chosen r')
 obtain ⟨k₃,h₃⟩:=int64_eq_add (int64 d*86400+sub / 10 ^ 9)
 obtain ⟨k₄,h₄⟩:=int64_eq_add (int64 d'*86400+sub / 10 ^ 9)
 obtain ⟨k₅,h₅⟩:=int64_eq_add d
 obtain ⟨k₆,h₆⟩:=int64_eq_add d'
 have hd:=abs_lt.1 hnear
 -- the seconds agree modulo 2 ^ 64, and so closely only if they are equal
 have heq:(d-d')*86400-(z.chosen r-z.chosen r')=2 ^ 64*(k₂+k₄+k₆*86400-k₁-k₃-k₅*86400):=by omega
 generalize k₂+k₄+k₆*86400-k₁-k₃-k₅*86400=k at heq
 have hk:k=0:=by omega
 omega
lemma steady_of_resolve{z:Zone}{text first now m}(hz:∀ a b,z.offset a-z.offset b<86400)(hnear:Near z text first now)
 (hf:resolve parseAbsolute z text first=.ok (some m))
 (h:resolve parseAbsolute z text now=resolve parseAbsolute z text first):Steady z text first now:=by
 by_cases ht:trim text=[]
 ·simp[resolve,if_pos ht,pure,Except.pure] at hf
 unfold Steady
 cases hb:baseOf (splitBase (trim text)).1 with
 | now=>
  have hv(now):resolve parseAbsolute z text now=if (splitBase (trim text)).2=[] then .ok (some now) else
   match parseOffsetParts (splitBase (trim text)).2 with
   | none=>.error "bad offset"
   | some p=>.ok (some (now+duration p)):=by
   unfold resolve
   simp only[if_neg ht,hb]
   split_ifs
   ·rfl
   ·cases parseOffsetParts (splitBase (trim text)).2<;>rfl
  rw[hv] at hf
  rw[hv,hv] at h
  split_ifs at h hf
  ·exact Option.some.inj (Except.ok.inj h)
  ·cases hp:parseOffsetParts (splitBase (trim text)).2 with
   | none=>simp[hp] at hf
   | some p=>
    simp only[hp] at h
    exact add_right_cancel (Option.some.inj (Except.ok.inj h))
 | day n=>
  have hn:=hnear n
  rw[resolve_day _ ht hb] at hf
  rw[resolve_day _ ht hb,resolve_day _ ht hb] at h
  simp only[countedDay] at hn ⊢
  split_ifs at h hf hn ⊢
  ·exact date_inj hz hn (Option.some.inj (Except.ok.inj h))
  ·cases hp:parseOffsetParts (splitBase (trim text)).2 with
   | none=>simp[hp] at hf
   | some p=>
    simp only[hp] at h
    have hd:=date_inj hz (d:=_+p.1) (by simpa using hn) (Option.some.inj (Except.ok.inj h))
    omega
 | absolute=>trivial

/-- What one execution of the step reads: its settings, the time the step became due,
which survives a requeue, and its own timeout. -/
structure Step where
 untilText:List Char
 ms:Option Int
 zone:Except String Zone
 anchor:Option Int
 budget:Int

/-- The readings of the clock in one execution: for `Resolve`, for the wait until the target, for a deadline without an
anchor and for what remains. -/
structure Readings where
 (resolving waiting starting remaining:Nat)
 ordered:resolving ≤ waiting∧waiting ≤ starting∧starting ≤ remaining

inductive Outcome
 | error (code message:String)
 | ok
 | deferred (resumeAt:Int)
 | sleeping (remaining:Int)
 deriving DecidableEq

def maxDelayMs:Int:=365*24*60*60*1000

def millisecond:Int:=10 ^ 6

def maxInlineDelay:Int:=second

def Step.target(st:Step)(now:Int):Except String (Option Int):=
 if st.untilText=[] then pure none
 else do
  match←resolve parseAbsolute (←st.zone) st.untilText now with
  | none=>throw "'Wait until' is empty"
  | some t=>return some t

def Step.waitMs(st:Step)(target:Option Int)(now:Int):Int:=
 match target with
 | some t=>max 0 ((t-now) / millisecond)
 | none=>st.ms.getD 0

-- a target at the zero time counts as none
def Step.deadline(st:Step)(target:Option Int)(now:Readings):Int:=
 if target=none∨target=some 0 then st.anchor.getD now.starting+st.waitMs target now.waiting*millisecond else target.getD 0

def executeDelay(st:Step)(now:Readings):Outcome:=
 if st.untilText≠[]∧st.ms.isSome then
  .error "bad_param" "'Wait' and 'Wait until' are both set — keep the one you meant"
 else if st.untilText=[]∧st.ms=none then
  .error "bad_param" "set 'Wait' (how long, in milliseconds) or 'Wait until' (the moment to carry on at)"
 else
  match st.target parseAbsolute now.resolving with
  | .error message=>.error "bad_param" message
  | .ok target=>
   let remaining:=st.deadline target now-now.remaining
   if st.waitMs target now.waiting<0 then .error "bad_param" "ms must be non-negative"
   else if maxDelayMs<st.waitMs target now.waiting then
    .error "bad_param" ("ms must be at most "++toString maxDelayMs ++
     " (one year); use a Schedule trigger for longer waits")
   else if remaining≤0 then .ok
   else if 0<st.budget∧st.budget<remaining then .error "timeout" ""
   else if st.anchor.isSome∧maxInlineDelay<remaining then .deferred (st.deadline target now)
   else .sleeping remaining

variable {parseAbsolute}{st:Step}

lemma target_of_steady{z:Zone}(hz:st.zone=.ok z){first now:Int}
 (h:Steady z st.untilText first now):st.target parseAbsolute now=st.target parseAbsolute first:=by
 simp only[Step.target,hz,bind,Except.bind,resolve_of_steady parseAbsolute h]
lemma target_ne_none(h:st.untilText≠[])(now):st.target parseAbsolute now≠.ok none:=by
 rw[Step.target,if_neg h]
 cases st.zone with
 | error e=>exact fun he=>nomatch he
 | ok z=>?_
 simp only[bind,Except.bind]
 cases resolve parseAbsolute z st.untilText now with
 | error e=>exact fun he=>nomatch he
 | ok r=>
  cases r with
  | none | some t=>exact fun he=>nomatch he

lemma deferred_spec{st now t}(h:executeDelay parseAbsolute st now=.deferred t):
 (¬(st.untilText≠[]∧st.ms.isSome)∧¬(st.untilText=[]∧st.ms=none))∧
  st.anchor.isSome∧∃ target,st.target parseAbsolute now.resolving=.ok target∧t=st.deadline target now:=by
 unfold executeDelay at h
 split_ifs at h with h₁ h₂
 split at h
 ·cases h
 next target htarget=>
  dsimp only at h
  split_ifs at h with _ _ _ _ hanchor
  cases h
  exact ⟨⟨h₁,h₂⟩,hanchor.1,target,htarget,rfl⟩
lemma deadline_passed(hanchor:st.anchor.isSome){first now:Readings}{t:Int}
 (h:st.deadline (some t) first ≤ now.resolving):
 st.waitMs (some t) now.waiting=0∧st.deadline (some t) now ≤ now.remaining:=by
 obtain ⟨a,ha⟩:=Option.isSome_iff_exists.1 hanchor
 obtain ⟨hw,hs,hr⟩:=now.ordered
 have hzero:∀ u:Int,u ≤ now.resolving → st.waitMs (some u) now.waiting=0:=by
  intro u hu
  have:(u-now.waiting) / millisecond≤0:=Int.ediv_nonpos_of_nonpos_of_neg (by omega) (by decide)
  exact Int.max_eq_left this
 by_cases ht:t=0
 ·subst ht
  have hnow:=hzero 0 (by omega)
  have hfirst:0 ≤ st.waitMs (some 0) first.waiting*millisecond:=Int.mul_nonneg (Int.le_max_left _ _) (by decide)
  simp only[Step.deadline,ha,Option.getD_some,or_true,if_true] at h ⊢
  exact ⟨hnow,by rw[hnow]; omega⟩
 ·have hne:¬(some t=none∨some t=some 0):=by simp[ht]
  simp only[Step.deadline,if_neg hne,Option.getD_some] at h ⊢
  exact ⟨hzero t h,by omega⟩
lemma resolve_of_target{z:Zone}(hz:st.zone=.ok z){now t}(h:st.target parseAbsolute now=.ok (some t)):
 resolve parseAbsolute z st.untilText now=.ok (some t):=by
 rw[Step.target] at h
 split_ifs at h
 ·cases h
 rw[hz] at h
 simp only[bind,Except.bind] at h
 cases hr:resolve parseAbsolute z st.untilText now with
 | error e=>rw[hr] at h; cases h
 | ok r=>
  rw[hr] at h
  cases r with
  | none=>cases h
  | some t=>cases h; rfl

/-- Executions whose clocks name the same moment or day resolve to the same instant and finish once it has come; in a
zone whose offset never changes by a whole day, no others resolve to it. -/
theorem deferred_wait_ends{st:Step}{z:Zone}(hz:st.zone=.ok z)(hmoment:st.untilText≠[]){first:Readings}{t:Int}
 (hdeferred:executeDelay parseAbsolute st first=.deferred t)(hops:List Readings):
 ((∀ now∈hops,Steady z st.untilText first.resolving now.resolving)→∀ now∈hops,
  resolve parseAbsolute z st.untilText now.resolving=resolve parseAbsolute z st.untilText first.resolving∧
   (t ≤ now.resolving→executeDelay parseAbsolute st now=.ok))∧
 ((∀ a b,z.offset a-z.offset b<86400)→∀ now∈hops,Near z st.untilText first.resolving now.resolving→
  resolve parseAbsolute z st.untilText now.resolving=resolve parseAbsolute z st.untilText first.resolving→
   Steady z st.untilText first.resolving now.resolving):=by
 obtain ⟨⟨h₁,h₂⟩,hanchor,target,htarget,rfl⟩:=deferred_spec hdeferred
 cases target with
 | none=>exact absurd htarget (target_ne_none hmoment _)
 | some t=>?_
 refine ⟨fun hsteady now hnow=>⟨resolve_of_steady parseAbsolute (hsteady now hnow),fun hle=>?_⟩,
  fun hzone now _ hnear h=>steady_of_resolve parseAbsolute hzone hnear (resolve_of_target hz htarget) h⟩
 rw[←target_of_steady hz (hsteady now hnow)] at htarget
 obtain ⟨hms,hdead⟩:=deadline_passed hanchor hle
 unfold executeDelay
 rw[if_neg h₁,if_neg h₂,htarget]
 dsimp only
 rw[hms,if_neg (by decide),if_neg (by decide),if_pos (by omega)]

end Resolving

def utc:Zone:=⟨fun _=>0⟩

def waiting(text:String):Step:=⟨text.toList,none,.ok utc,some (1000*86400*second),0⟩

def noon(days:Nat):Readings where
 resolving:=(1000+days)*86400000000000+43200000000000
 waiting:=(1000+days)*86400000000000+43200000000001
 starting:=(1000+days)*86400000000000+43200000000002
 remaining:=(1000+days)*86400000000000+43200000000003
 ordered:=by omega

def lateEvening:Readings:=⟨86482800000000000,86482800000000000,86482800000000000,86482800000000000,by decide⟩

def noAbsolute(_:List Char)(_:Zone):Except String Int:=.error "couldn't read it as a time"

theorem tomorrow_defers_again:
 executeDelay noAbsolute (waiting "tomorrow") (noon 0)=.deferred (1001*86400*second)∧
  executeDelay noAbsolute (waiting "tomorrow") (noon 1)=.deferred (1002*86400*second):=by
 decide

theorem deferred_wait_ends_today:
 executeDelay noAbsolute (waiting "today+23h") (noon 0)=.deferred (1000*86400*second+23*3600*second)∧
  executeDelay noAbsolute (waiting "today+23h") lateEvening=.ok:=by
 have hdeferred:executeDelay noAbsolute (waiting "today+23h") (noon 0) =
   .deferred (1000*86400*second+23*3600*second):=by decide +kernel
 have hsteady:∀ now∈[lateEvening],Steady utc (waiting "today+23h").untilText (noon 0).resolving now.resolving:=by
  intro now hnow
  rw[List.mem_singleton.1 hnow]
  change countedDay utc "+23h".toList 0 lateEvening.resolving=countedDay utc "+23h".toList 0 (noon 0).resolving
  decide
 exact ⟨hdeferred,((deferred_wait_ends rfl (by decide) hdeferred [lateEvening]).1 hsteady _ (List.mem_singleton_self _)).2
  (by decide)⟩

end Dazyflow.DeferredWaits
