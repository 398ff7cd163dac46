import Dazyflow.RelyGuarantee

/-!
# Exclusive sections

A program that is alone on a part of the state runs there as it would by itself, whatever the others do to the
rest.
-/
namespace Interleaving

variable {S:Sig}{M:Machine S}{V α β:Type}

/-- These calls answer from the view, and change it by what it was. -/
def Sees(view:M.State→V)(C:S.Call→Prop):Prop:=
 ∀ c,C c→∀ o s t,view s=view t→
  (M.step c o s).1=(M.step c o t).1∧view (M.step c o s).2=view (M.step c o t).2

lemma Prog.within_all(p:Prog S α):p.Within (fun _=>True) (fun _=>True):=by
 induction p with
 | done a=>trivial
 | call c k ih | invoke f k ih=>exact ⟨trivial,ih⟩
lemma Prog.alone_shift(p:Prog S α){o u n m s}
 (h:∀ j,o (n+j)=u (m+j)):
 (p.alone M o n s).map (fun r=>(r.1,r.2.2))=(p.alone M u m s).map (fun r=>(r.1,r.2.2)):=by
 induction p generalizing n m s with
 | done a | invoke f k ih=>rfl
 | call c k ih=>
  have hnow:o n=u m:=h 0
  simp only[alone,hnow]
  refine ih _ fun j=>?_
  have hj:=h (j+1)
  rwa[←Nat.add_assoc,←Nat.add_assoc,Nat.add_right_comm n,Nat.add_right_comm m] at hj

variable {Q:α→M.State→Prop}

lemma Solo.of_done [Nonempty M.Oracle] {a s}
 (h:Solo M (.done a) s Q):Q a s:=by
 obtain ⟨o⟩:=‹Nonempty M.Oracle›
 exact h.of_run (o:=fun _=>o) (n:=0) rfl
lemma Solo.of_call{c k s}
 (h:Solo M (.call c k) s Q)(o:M.Oracle):Solo M (k (M.step c o s).1) (M.step c o s).2 Q:=by
 intro rest n
 obtain ⟨a,m,t,hrun,hQ⟩:=h (fun i=>if i=0 then o else rest (n+(i-1))) 0
 have hshift:=(k (M.step c o s).1).alone_shift (s:=(M.step c o s).2)
  (o:=fun i=>if i=0 then o else rest (n+(i-1))) (u:=rest) (n:=1) (m:=n)
  fun j=>by simp
 rw[Prog.alone] at hrun
 simp only[if_true,Nat.zero_add] at hrun
 rw[hrun] at hshift
 obtain ⟨⟨a',m',t'⟩,hrun',heq⟩:=Option.map_eq_some_iff.1 hshift.symm
 cases heq
 exact ⟨_,m',_,hrun',hQ⟩

namespace Contract

variable {K:Contract M}

variable (K) in
/-- A note from which everything is allowed and which no call leaves. -/
structure Absorbing(lost:K.Note):Prop where
 guar:∀ c t,K.guar lost c t
 note:∀ e,K.note lost e=lost
 pre:∀ f t,K.pre f lost t
 post:∀ f t a n u,K.post f lost t a n u → n=lost

lemma Absorbing.triple{lost}(h:K.Absorbing lost)(p:Prog S α):
 K.Triple (fun n _=>n=lost) p (fun _ n _=>n=lost):=by
 refine triple_within (I:=fun n _=>n=lost) p.within_all (fun _ _ _ _ _ h=>h) ?_ ?_ ?_ ?_
 ·rintro c-n t-rfl
  exact h.guar c t
 ·rintro c-n t o-rfl - - -
  exact h.note _
 ·rintro f-n t-rfl
  exact h.pre f t
 ·rintro f-n t a n' u-rfl - - hp
  exact h.post f t a n' u hp
lemma Absorbing.wp{lost}(h:K.Absorbing lost){p s}
 {Q:α→K.Note→M.State→Prop}(hs:K.inv s)(hQ:∀ a t,Q a lost t):K.wp p Q lost s:=
 wp_mono (Q:=fun _ n _=>n=lost) (fun a _ t _ _ hn=>hn.symm▸hQ a t) (h.triple p lost s hs rfl)
lemma Absorbing.or_lost{lost}(h:K.Absorbing lost){I:K.Note→M.State→Prop}{p}
 {Q:α→K.Note→M.State→Prop}(hp:K.Triple I p Q)(hQ:∀ a t,Q a lost t):
 K.Triple (fun n s=>n=lost∨I n s) p Q:=by
 rintro n s hs (rfl | hI)
 ·exact h.wp hs hQ
 ·exact hp n s hs hI

/-- The note holds a view, checked at every call of the program. -/
structure Holding(view:M.State→V)(C:S.Call→Prop)(held:V→K.Note)(lost:K.Note):Prop where
 absorbing:K.Absorbing lost
 guar:∀ c,C c→∀ v t,K.guar (held v) c t
 kept:∀ v e,C e.call→view e.before=v→K.note (held v) e=held (view e.after)
 missed:∀ v e,view e.before≠v→K.note (held v) e=lost

lemma wp_solo [Nonempty M.Oracle] {view:M.State→V}{C:S.Call→Prop}{held:V→K.Note}{lost:K.Note}
 (hK:Holding view C held lost)(hsee:Sees view C){p:Prog S α}(hp:p.Only C){s:M.State}
 (hs:Solo M p s Q){t:M.State}(ht:K.inv t):
 K.wp p (fun a n _=>n=lost∨∃ s',n=held (view s')∧Q a s') (held (view s)) t:=by
 induction p generalizing s t with
 | done a=>exact fun u _ _=>.inr ⟨s,rfl,hs.of_done⟩
 | call c k ih=>
  refine wp_call (fun u _ _=>hK.guar c hp.1 _ u) fun u o _ hu _ _ hinv=>?_
  by_cases hview:view u=view s
  · -- the call answers as it would have, and the view goes on with it
   obtain ⟨hres,hafter⟩:=hsee c hp.1 o u s hview
   rw[hK.kept _ ⟨u,c,_,_⟩ hp.1 hview,hres,hafter]
   exact ih _ (hp.2 _) (hs.of_call o) hinv
  ·rw[hK.missed _ ⟨u,c,_,_⟩ hview]
   exact hK.absorbing.wp hinv fun _ _=>.inl rfl
 | invoke f k ih=>exact hp.1.elim

end Contract
end Interleaving
