import Dazyflow.DeferredWaits

/-!
# Relative offsets in machine integers

The code adds the terms of an offset in 64 bits; the exact sums are those of integers.
-/
namespace Dazyflow.RelativeOffsets
open GoStrings DeferredWaits

/-- The terms as written, added as integers. -/
def exactParts:List Char→Option (Int×Int):=offsetParts id

/-- The instant an offset leads to: on the wall clock from a day's start, in elapsed time otherwise. -/
def resolved(z:Zone)(dayAnchored:Bool)(anchor:Int)(p:Int×Int):Int:=
 if dayAnchored then z.date (z.dayOf anchor+p.1) p.2 else anchor+duration p

/-- The sum of the written terms in nanoseconds. -/
def exactSum(p:Int×Int):Int:=p.1*24*(3600*second)+p.2

section Day

variable (z:Zone)(anchor:Int)

/-- The wall clock reading, in seconds, that an offset names from the start of the anchor's day. -/
def named(exact:Int×Int):Int:=(z.dayOf anchor+exact.1)*86400+exact.2 / second

/-- The moment of that reading in the zone. -/
def moment(exact:Int×Int):Int:=named z anchor exact-z.chosen (named z anchor exact)

def Exact(dayAnchored:Bool)(exact p:Int×Int):Prop:=
 if dayAnchored then p=exact∧resolved z true anchor p=moment z anchor exact*second+exact.2 % second
 else duration p=exactSum exact

/-- The shifts are the exact ones and the instants are in the order of the exact sums. -/
def Faithful(dayAnchored:Bool)(exact exact' p q:Int×Int):Prop:=
 Exact z anchor dayAnchored exact p∧Exact z anchor dayAnchored exact' q∧
 (exactSum exact<exactSum exact'→ resolved z dayAnchored anchor p<resolved z dayAnchored anchor q)

def InInt64(x:Int):Prop:= -2 ^ 63 ≤ x∧x<2 ^ 63

def Fits(dayAnchored:Bool)(exact:Int×Int):Prop:=
 if dayAnchored then (InInt64 exact.1∧InInt64 exact.2)∧InInt64 (moment z anchor exact) else InInt64 (exactSum exact)

end Day

lemma int64_eq_iff{x}:int64 x=x↔InInt64 x:=by
 unfold int64 InInt64
 constructor
 ·intro h
  have hlo:=@Int.le_bmod x (2 ^ 64) (by decide)
  have hhi:=@Int.bmod_lt x (2 ^ 64) (by decide)
  omega
 ·rintro ⟨hlo,hhi⟩
  exact Int.bmod_eq_of_le (by omega) (by omega)

def both(p:Int×Int):Int×Int:=(int64 p.1,int64 p.2)

lemma offsetUnits_both(fuel cs days sub):
 offsetUnits int64 fuel cs (int64 days) (int64 sub)=(offsetUnits id fuel cs days sub).map both:=by
 induction fuel generalizing cs days sub with
 | zero=>cases cs<;>rfl
 | succ fuel ih=>
  cases cs with
  | nil=>rfl
  | cons c cs=>
   simp only[offsetUnits]
   split
   all_goals simp_all[←ih,int64]
lemma parseOffsetParts_both(s):parseOffsetParts s=(exactParts s).map both:=by
 have hunits:∀ cs,offsetUnits int64 cs.length cs 0 0=(offsetUnits id cs.length cs 0 0).map both:=fun cs=>
  offsetUnits_both cs.length cs 0 0
 rw[parseOffsetParts,exactParts,offsetParts,offsetParts,hunits,Option.map_map,Option.map_map]
 congr 1
 funext p
 simp only[Function.comp]
 split_ifs
 ·simp[both,int64]
 ·rfl
lemma duration_both(p):duration (both p)=int64 (exactSum p):=by
 simp[duration,both,exactSum,int64]

variable {z:Zone}{anchor:Int}{e:Int×Int}

lemma resolved_day:resolved z true anchor e=int64 (moment z anchor e)*second+e.2 % second:=by
 have hr:Zone.reading (z.dayOf anchor+e.1) e.2=int64 (named z anchor e):=by
  rw[Zone.reading,int64,int64,←Int.bmod_add_bmod,Int.bmod_mul_bmod,Int.bmod_add_bmod]
  rfl
 have hc:z.chosen (int64 (named z anchor e))=z.chosen (named z anchor e):=by simp[Zone.chosen,int64]
 rw[resolved,if_pos rfl,Zone.date,hr,hc,moment]
 simp[int64]
lemma exact_both_iff{dayAnchored}:Exact z anchor dayAnchored e (both e)↔Fits z anchor dayAnchored e:=by
 unfold Exact Fits
 split_ifs
 ·have hboth:both e=e↔InInt64 e.1∧InInt64 e.2:=Prod.ext_iff.trans (and_congr int64_eq_iff int64_eq_iff)
  rw[←hboth]
  refine and_congr_right fun he=>?_
  rw[he,resolved_day,←int64_eq_iff,second]
  omega
 ·rw[duration_both,int64_eq_iff]
lemma moment_eq:moment z anchor e*second+e.2 % second =
 z.dayOf anchor*86400*second+exactSum e-z.chosen (named z anchor e)*second:=by
 unfold moment exactSum
 generalize z.chosen (named z anchor e)=c
 unfold named second
 omega

/-- Two accepted offsets are resolved as written exactly when their sums fit and, from a day's start, the zone's
offset does not go forward between the readings they name by as much as these are apart. -/
theorem offsets_exact_iff(z:Zone)(dayAnchored:Bool)(anchor:Int){s t:List Char}{p q:Int×Int}
 (hs:parseOffsetParts s=some p)(ht:parseOffsetParts t=some q):
 ∃ exact exact',exactParts s=some exact∧exactParts t=some exact'∧
  (Faithful z anchor dayAnchored exact exact' p q↔Fits z anchor dayAnchored exact∧Fits z anchor dayAnchored exact'∧
   (dayAnchored→exactSum exact<exactSum exact'→
    (z.chosen (named z anchor exact')-z.chosen (named z anchor exact))*second<exactSum exact'-exactSum exact)):=by
 rw[parseOffsetParts_both] at hs ht
 obtain ⟨exact,hexact,rfl⟩:=Option.map_eq_some_iff.1 hs
 obtain ⟨exact',hexact',rfl⟩:=Option.map_eq_some_iff.1 ht
 refine ⟨exact,exact',hexact,hexact',?_⟩
 rw[Faithful,exact_both_iff,exact_both_iff]
 refine and_congr_right fun hf=>and_congr_right (fun hf'=>?_)
 have he:=exact_both_iff.2 hf
 have he':=exact_both_iff.2 hf'
 cases dayAnchored with
 | true=>
  rw[Exact,if_pos rfl,moment_eq] at he he'
  rw[he.2,he'.2]
  refine ⟨fun h _ hlt=>?_,fun h hlt=>?_⟩
  ·have:=h hlt
   linarith
  ·have:=h rfl hlt
   linarith
 | false=>
  change duration (both exact)=_ at he
  change duration (both exact')=_ at he'
  refine ⟨fun _=>nofun,fun _ hlt=>?_⟩
  change anchor+duration (both exact)<anchor+duration (both exact')
  omega

/-- Summer time from the 100th day on: the clocks go from 2 to 3. -/
def summer:Zone:=⟨fun t=>if t<100*86400+3600 then 3600 else 7200⟩

theorem offsets_exact_hours:∃ exact exact',exactParts "+2h".toList=some exact∧exactParts "+1d".toList=some exact'∧
 (Faithful summer 0 true exact exact' (0,7200*second) (1,0)↔Fits summer 0 true exact∧Fits summer 0 true exact'∧
  (true→exactSum exact<exactSum exact'→
   (summer.chosen (named summer 0 exact')-summer.chosen (named summer 0 exact))*second<exactSum exact'-exactSum exact)):=
 offsets_exact_iff summer true 0 (s:="+2h".toList) (t:="+1d".toList) (by decide) (by decide)

/-- An offset of 2600000 hours leads into the past, and of two offsets that name 2:30 and 3:00 on the day the clocks
change the second is the earlier moment. -/
theorem long_offset_wraps:
 (exactParts "+2600000h".toList=some (0,2600000*3600*second)∧
  ∃ p,parseOffsetParts "+2600000h".toList=some p∧duration p<0)∧
 resolved summer true (100*86400*second) (0,3*3600*second)<resolved summer true (100*86400*second) (0,9000*second):=
 ⟨⟨by decide,_,rfl,by decide⟩,by decide⟩

end Dazyflow.RelativeOffsets
