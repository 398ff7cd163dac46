import Mathlib

/-!
# Replacing every occurrence of a word

`strings.ReplaceAll` for a word that is not empty: occurrences are replaced from the left, and the search goes
on behind each.
-/
namespace ReplacedText

open List

variable {α:Type} [DecidableEq α]

-- the number counts the symbols of the last occurrence that are still to be passed over
def scan(old new:List α):Nat→List α→List α
 | _,[]=>[]
 | k+1,_::rest=>scan old new k rest
 | 0,c::rest=>
  if old <+: c::rest then new++scan old new (old.length-1) rest else c::scan old new 0 rest

def replaceAll(old new s:List α):List α:=scan old new 0 s

/-- A word that neither contains the marker, nor lies in it, nor overlaps an end of it. -/
abbrev Clear(marker w:List α):Prop:=
 w≠[]∧¬w <:+: marker∧¬marker <:+: w∧(∀ u∈w.tails,u≠[]→¬u <+: marker)∧
  ∀ u∈w.inits,u≠[]→¬u <:+ marker

variable {old marker w:List α}

lemma prefix_of_scan(s)(hends:∀ u,u <:+ w→u≠[]→¬u <+: marker)(hin:¬marker <:+: w)
 (h:w <+: scan old marker 0 s):w <+: s:=by
 induction s generalizing w with
 | nil=>exact h
 | cons c rest ih=>
  cases w with
  | nil=>exact nil_prefix
  | cons d w=>?_
  rw[scan] at h
  split_ifs at h with hold
  · -- the word would start inside the marker or run past it
   rcases prefix_or_prefix_of_prefix h (prefix_append marker _) with hm | hm
   ·exact absurd hm (hends _ suffix_rfl (cons_ne_nil d w))
   ·exact absurd hm.isInfix hin
  ·obtain ⟨rfl,htail⟩:=cons_prefix_cons.1 h
   have hsuffix:w <:+ d::w:=suffix_cons d w
   exact cons_prefix_cons.2 ⟨rfl,ih (fun u hu=>hends u (hu.trans hsuffix))
    (fun hm=>hin (hm.trans hsuffix.isInfix)) htail⟩

omit [DecidableEq α] in
lemma infix_of_marker_append(hc:Clear marker w){t}(h:w <:+: marker++t):w <:+: t:=by
 obtain ⟨-,hout,-,-,hstarts⟩:=hc
 obtain ⟨p,q,h⟩:=h
 rw[append_assoc] at h
 rcases append_eq_append_iff.1 h with ⟨m,rfl,hq⟩ | ⟨m,rfl,rfl⟩
 ·rcases append_eq_append_iff.1 hq with ⟨x,rfl,rfl⟩ | ⟨x,rfl,rfl⟩
  ·exact absurd ⟨p,x,append_assoc p w x⟩ hout
  ·by_cases hm:m=[]
   ·subst hm
    exact (prefix_append x q).isInfix
   ·exact absurd (suffix_append p m) (hstarts m ((mem_inits m _).2 (prefix_append m x)) hm)
 ·exact ⟨m,q,append_assoc m w q⟩
lemma unreplaced_of_scan(hc:Clear marker w)(s k)(h:w <:+: scan old marker k s):
 ∃ t,t <:+ s∧w <+: t∧¬old <+: t:=by
 induction s generalizing k with
 | nil=>exact absurd (infix_nil.1 (by simpa[scan] using h)) hc.1
 | cons c rest ih=>
  have later:∀ j,w <:+: scan old marker j rest→∃ t,t <:+ c::rest∧w <+: t∧¬old <+: t:=by
   intro j hj
   obtain ⟨t,ht,hw,ho⟩:=ih j hj
   exact ⟨t,ht.trans (suffix_cons c rest),hw,ho⟩
  cases k with
  | succ k=>exact later k (by simpa[scan] using h)
  | zero=>?_
  by_cases hold:old <+: c::rest
  ·rw[scan,if_pos hold] at h
   exact later _ (infix_of_marker_append hc h)
  ·have hscan:scan old marker 0 (c::rest)=c::scan old marker 0 rest:=by rw[scan,if_neg hold]
   rcases infix_cons_iff.1 (hscan▸h) with hp | hi
   ·have hw:=prefix_of_scan (c::rest) (fun u hu=>hc.2.2.2.1 u ((mem_tails u w).2 hu)) hc.2.2.1
     (hscan.symm▸hp)
    exact ⟨c::rest,suffix_rfl,hw,hold⟩
   ·exact later 0 hi
lemma not_infix_replaceAll(hc:Clear marker w)(s):¬w <:+: replaceAll w marker s:=by
 intro h
 obtain ⟨t,_,hw,ho⟩:=unreplaced_of_scan hc s 0 h
 exact ho hw
lemma infix_of_replaceAll(hc:Clear marker w){s}(h:w <:+: replaceAll old marker s):w <:+: s:=by
 obtain ⟨t,ht,hw,_⟩:=unreplaced_of_scan hc s 0 h
 exact hw.isInfix.trans ht.isInfix

end ReplacedText
