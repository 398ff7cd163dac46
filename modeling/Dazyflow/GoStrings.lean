import Mathlib

/-!
# Text as the Go library reads it

`strings.TrimSpace`, over the white space of `unicode.IsSpace`, the verb `%q`, and the decimal numbers of
`strconv`.
-/
namespace GoStrings

open List Nat

/-- `unicode.IsSpace`: the Latin-1 blanks and the separators of category Z. -/
def isSpace(c:Char):Bool:=
 [9,10,11,12,13,32,0x85,0xA0,0x1680,0x2028,0x2029,0x202F,0x205F,0x3000].contains c.toNat
  || (0x2000 ≤ c.toNat&&c.toNat≤0x200A)

def trimRight(cs:List Char):List Char:=(cs.reverse.dropWhile isSpace).reverse

def trimSpace(s:String):String:=String.ofList (trimRight (s.toList.dropWhile isSpace))

-- `%q` of text without characters to escape
def quote(s:String):String:= "\""++s++"\""

def itoa(n:Nat):String:=n.repr

-- a run of digits below a bound; anything else is the error of `ParseInt`
def digits(bound:Nat)(cs:List Char):Option Nat:=
 if cs≠[]∧cs.all Char.isDigit∧ofDigitChars 10 cs 0<bound then some (ofDigitChars 10 cs 0)
 else none

def atoi(s:String):Option Int:=
 match s.toList with
 | '-'::cs=>(digits (2 ^ 63+1) cs).map (fun n=>-(n:Int))
 | '+'::cs=>(digits (2 ^ 63) cs).map (fun n=>(n:Int))
 | cs=>(digits (2 ^ 63) cs).map (fun n=>(n:Int))

lemma digits_toDigits{n bound}(h:n<bound):digits bound (toDigits 10 n)=some n:=by
 have hall:(toDigits 10 n).all Char.isDigit:=by
  rw[all_eq_true]
  exact fun c hc=>isDigit_of_mem_toDigits (by decide) (by decide) hc
 have hval:ofDigitChars 10 (toDigits 10 n) 0=n:=
  ofDigitChars_toDigits (by decide) (by decide)
 rw[digits,hval,if_pos ⟨toDigits_ne_nil,hall,h⟩]
lemma itoa_injective:Function.Injective itoa:=by
 intro i j h
 have hdigits:=congrArg String.toList h
 rw[itoa,itoa,toList_repr,toList_repr] at hdigits
 simpa using congrArg (fun cs=>ofDigitChars 10 cs 0) hdigits
lemma atoi_itoa{n}(h:n<2 ^ 63):atoi (itoa n)=some (n:Int):=by
 have hdigit:∀ c∈toDigits 10 n,c.isDigit:=fun c hc=>
  isDigit_of_mem_toDigits (by decide) (by decide) hc
 have hparse:=digits_toDigits h
 unfold atoi itoa
 rw[toList_repr]
 -- a number does not start with a sign
 split
 ·next cs heq=>
  have:=hdigit '-' (heq▸mem_cons_self)
  cases this
 ·next cs heq=>
  have:=hdigit '+' (heq▸mem_cons_self)
  cases this
 ·rw[hparse]
  rfl
lemma itoa_digit{n c}(h:c∈(itoa n).toList):c.isDigit:=by
 rw[itoa,toList_repr] at h
 exact isDigit_of_mem_toDigits (by decide) (by decide) h
lemma digits_eq_none{bound cs c}(hmem:c∈cs)(hc:c.isDigit=false):
 digits bound cs=none:=by
 refine if_neg fun h=>?_
 rw[all_eq_true.1 h.2.1 c hmem] at hc
 cases hc
lemma atoi_eq_none{s c}(hmem:c∈s.toList)(hc:c.isDigit=false)(hminus:c≠ '-')
 (hplus:c≠ '+'):atoi s=none:=by
 unfold atoi
 split
 next cs heq=>
  have hcs:c∈cs:=by simpa[heq,hminus] using hmem
  rw[digits_eq_none hcs hc]
  rfl
 next cs heq=>
  have hcs:c∈cs:=by simpa[heq,hplus] using hmem
  rw[digits_eq_none hcs hc]
  rfl
 next=>
  rw[digits_eq_none hmem hc]
  rfl
lemma itoa_inj{n m}(h:itoa n=itoa m):n=m:=by
 have hd:toDigits 10 n=toDigits 10 m:=by
  simpa[itoa,toList_repr] using congrArg String.toList h
 have hn:ofDigitChars 10 (toDigits 10 n) 0=n:=ofDigitChars_toDigits (by decide) (by decide)
 rw[←hn,hd,ofDigitChars_toDigits (by decide) (by decide)]

variable {a b x y:List Char}

lemma append_cons_inj{c:Char}(hx:c∉x)(hy:c∉y)(h:a++c::b=x++c::y):
 a=x∧b=y:=by
 induction a generalizing x with
 | nil=>
  cases x with
  | nil=>exact ⟨rfl,(List.cons.inj h).2⟩
  | cons d x=>exact absurd (mem_cons.2 (.inl (List.cons.inj h).1)) hx
 | cons d a ih=>
  cases x with
  | nil=>
   have hb:a++c::b=y:=(List.cons.inj h).2
   exact absurd (hb▸mem_append_right a mem_cons_self) hy
  | cons e x=>
   obtain ⟨rfl,htail⟩:=List.cons.inj h
   obtain ⟨rfl,rfl⟩:=ih (fun hm=>hx (mem_cons_of_mem d hm)) htail
   exact ⟨rfl,rfl⟩

def cutPrefix:List Char→List Char→Option (List Char)
 | [],rest=>some rest
 | _::_,[]=>none
 | c::p,d::rest=>if c=d then cutPrefix p rest else none

def cut(sep:Char):List Char→Option (List Char×List Char)
 | []=>none
 | c::rest=>if c=sep then some ([],rest) else (cut sep rest).map (fun r=>(c::r.1,r.2))

lemma cutPrefix_append(p rest):cutPrefix p (p++rest)=some rest:=by
 induction p with
 | nil=>rfl
 | cons c p ih=>simpa[cutPrefix] using ih
lemma cut_append{sep a}(b)(h:sep∉a):cut sep (a++sep::b)=some (a,b):=by
 induction a with
 | nil=>simp[cut]
 | cons c a ih=>
  rw[mem_cons,not_or] at h
  simp[cut,Ne.symm h.1,ih h.2]
lemma append_cons_cancel{c:Char}(h:a++c::x=b++c::y)(hx:c∉x)(hy:c∉y):
 a=b∧x=y:=by
 have hrev:x.reverse++c::a.reverse=y.reverse++c::b.reverse:=by
  simpa using congrArg reverse h
 have hcut:=cut_append a.reverse (mt mem_reverse.1 hx)
 rw[hrev,cut_append b.reverse (mt mem_reverse.1 hy)] at hcut
 simpa[eq_comm,and_comm] using hcut
lemma cut_eq_some{sep l a b}(h:cut sep l=some (a,b)):l=a++sep::b∧sep∉a:=by
 induction l generalizing a with
 | nil=>cases h
 | cons c rest ih=>
  rw[cut] at h
  split_ifs at h with hc
  ·cases h
   simp[hc]
  ·obtain ⟨⟨a',b'⟩,hcut,heq⟩:=Option.map_eq_some_iff.1 h
   cases heq
   obtain ⟨hrest,hnot⟩:=ih hcut
   exact ⟨congrArg (List.cons c) hrest,fun hmem=>(mem_cons.1 hmem).elim (fun h=>hc h.symm) hnot⟩
lemma cutPrefix_eq_some{p l rest}(h:cutPrefix p l=some rest):l=p++rest:=by
 induction p generalizing l with
 | nil=>cases h; rfl
 | cons c p ih=>
  cases l with
  | nil=>cases h
  | cons d l=>
   rw[cutPrefix] at h
   split_ifs at h with hcd
   rw[hcd,ih h,cons_append]
lemma cutPrefix_of_head{c p l}(h:l.head? ≠ some c):cutPrefix (c::p) l=none:=by
 cases l with
 | nil=>rfl
 | cons d rest=>
  have hne:c≠d:=fun hcd=>h (by rw[hcd]; rfl)
  simp[cutPrefix,hne]

def lines:List Char→List (List Char)
 | []=>[[]]
 | c::rest=>
  if c= '\n' then []::lines rest
  else
   match lines rest with
   | []=>[[c]]
   | l::ls=>(c::l)::ls

lemma lines_of_not_mem{l}(h: '\n' ∉ l):lines l=[l]:=by
 induction l with
 | nil=>rfl
 | cons c rest ih=>
  rw[mem_cons,not_or] at h
  rw[lines,if_neg (Ne.symm h.1),ih h.2]
lemma lines_append{a}(b)(h: '\n' ∉ a):lines (a++ '\n'::b)=a::lines b:=by
 induction a with
 | nil=>simp[lines]
 | cons c rest ih=>
  rw[mem_cons,not_or] at h
  rw[cons_append,lines,if_neg (Ne.symm h.1),ih h.2]
lemma head?_trimRight{l c}(h:(trimRight l).head? = some c):l.head? = some c:=by
 have hsuffix:l.reverse.dropWhile isSpace <:+ l.reverse:=dropWhile_suffix _
 obtain ⟨rest,hrest⟩:trimRight l <+: l:=by
  simpa[trimRight] using reverse_prefix.2 hsuffix
 rw[←hrest,head?_append,h]
 rfl
lemma trimRight_append{a l}(hne:l≠[])(h:∀ c∈l,isSpace c=false):
 trimRight (a++l)=a++l:=by
 obtain ⟨init,x,rfl⟩:=(eq_nil_or_concat l).resolve_left hne
 have hx:isSpace x=false:=h x (by simp[concat_eq_append])
 have hrev:(a++init.concat x).reverse=x::(a++init).reverse:=by simp[concat_eq_append]
 unfold trimRight
 rw[hrev,dropWhile_cons_of_neg (by simp[hx]),←hrev,reverse_reverse]

end GoStrings
