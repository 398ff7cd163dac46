import Mathlib

/-!
# Replaying a numbered log

A log whose records carry increasing numbers, and the parts of it up to and after a number.
-/
namespace ReplayedLog

open List

variable {ρ:Type}(num:ρ→Nat)

def Increasing(l:List ρ):Prop:=l.Pairwise (fun a b=>num a<num b)

def upTo(n:Nat)(l:List ρ):List ρ:=l.filter (fun r=>num r ≤ n)

def after(n:Nat)(l:List ρ):List ρ:=l.filter (fun r=>n<num r)

def lastNum(l:List ρ):Nat:=(l.getLast?.map num).getD 0

def seen(n:Nat)(l:List ρ):Nat:=l.foldl (fun m r=>max m (num r)) n

variable {num}{l a b:List ρ}{n:Nat}

lemma upTo_of_le(h:∀ r∈l,num r ≤ n):upTo num n l=l:=
 filter_eq_self.2 (fun r hr=>decide_eq_true (h r hr))
lemma upTo_of_lt(h:∀ r∈l,n<num r):upTo num n l=[]:=
 filter_eq_nil_iff.2 (fun r hr=>by simpa using h r hr)
lemma upTo_append_after(h:Increasing num l)(n):upTo num n l++after num n l=l:=by
 induction l with
 | nil=>rfl
 | cons r rest ih=>
  obtain ⟨hr,hrest⟩:=pairwise_cons.1 h
  by_cases hn:num r ≤ n
  ·have hup:upTo num n (r::rest)=r::upTo num n rest:=filter_cons_of_pos (by simpa using hn)
   have haf:after num n (r::rest)=after num n rest:=filter_cons_of_neg (by simpa using hn)
   rw[hup,haf,cons_append,ih hrest]
  · -- every later number is higher still
   have hlt:∀ x∈r::rest,n<num x:=by
    intro x hx
    rcases mem_cons.1 hx with rfl | hx
    ·omega
    ·have:=hr x hx
     omega
   have haf:after num n (r::rest)=r::rest:=filter_eq_self.2 fun x hx=>decide_eq_true (hlt x hx)
   rw[upTo_of_lt hlt,haf,nil_append]
lemma after_lastNum(h:Increasing num (a++b))(hpos:∀ r∈a++b,0<num r):
 after num (lastNum num a) (a++b)=b:=by
 rcases eq_nil_or_concat a with rfl | ⟨init,x,rfl⟩
 ·exact filter_eq_self.2 fun r hr=>decide_eq_true (hpos r hr)
 obtain ⟨hinc,-,hlt⟩:=pairwise_append.1 h
 have hx:lastNum num (init.concat x)=num x:=by simp[lastNum,concat_eq_append]
 have hle:∀ r∈init.concat x,¬num x<num r:=by
  rw[concat_eq_append] at hinc ⊢
  intro r hr
  rcases mem_append.1 hr with hr | hr
  ·have:=(pairwise_append.1 hinc).2.2 r hr x (mem_singleton_self x)
   omega
  ·rw[mem_singleton.1 hr]
   exact Nat.lt_irrefl _
 have hin:after num (num x) (init.concat x)=[]:=
  filter_eq_nil_iff.2 (fun r hr=>by simpa using hle r hr)
 have hout:after num (num x) b=b:=
  filter_eq_self.2 (fun r hr=>decide_eq_true (hlt x (by simp[concat_eq_append]) r hr))
 rw[hx]
 unfold after at hin hout ⊢
 rw[filter_append,hin,hout,nil_append]
lemma le_seen(n l):n ≤ seen num n l:=by
 induction l generalizing n with
 | nil=>exact Nat.le_refl n
 | cons r rest ih=>exact Nat.le_trans (Nat.le_max_left n (num r)) (ih _)
lemma le_seen_of_mem{r}(hr:r∈l)(n):num r ≤ seen num n l:=by
 induction l generalizing n with
 | nil=>cases hr
 | cons x rest ih=>
  rcases mem_cons.1 hr with rfl | hr
  ·exact Nat.le_trans (Nat.le_max_right n (num r)) (le_seen _ rest)
  ·exact ih hr _

end ReplayedLog
