import Dazyflow.ExclusiveSections

/-!
# Whole runs of one program

A program by itself from beginning to end, the bodies of the functions it enters included.
-/
namespace Interleaving

variable {S:Sig}{M:Machine S}{α β:Type}

inductive Runs(M:Machine S){α:Type}:Prog S α→M.State→α→M.State→Prop
 | done (a:α) (s:M.State):Runs M (.done a) s a s
 | call {c k s t a} (o:M.Oracle)
   (h:Runs M (k (M.step c o s).1) (M.step c o s).2 a t):Runs M (.call c k) s a t
 | invoke {f k s t a}
   (h:Runs M (M.body f>>=k) s a t):Runs M (.invoke f k) s a t

variable {p:Prog S α}{k:α→Prog S β}

lemma Runs.of_bind{s u:M.State}{b:β}(h:Runs M (p>>=k) s b u):
 ∃ a t,Runs M p s a t∧Runs M (k a) t b u:=by
 generalize hq:p>>=k=q at h
 induction h generalizing p with
 | done b s=>
  cases p with
  | done a=>exact ⟨a,s,.done a s,(show k a=.done b from hq) ▸ .done b s⟩
  | call c k' | invoke f k'=>cases hq
 | @call c k₁ s t b o h ih=>
  cases p with
  | done a=>exact ⟨a,s,.done a s,(show k a=.call c k₁ from hq) ▸ .call o h⟩
  | call c k'=>
   cases hq
   obtain ⟨a,t',hp,hk⟩:=ih rfl
   exact ⟨a,t',.call o hp,hk⟩
  | invoke f k'=>cases hq
 | @invoke f k₁ s t b h ih=>
  cases p with
  | done a=>exact ⟨a,s,.done a s,(show k a=.invoke f k₁ from hq) ▸ .invoke h⟩
  | call c k'=>cases hq
  | invoke f k'=>
   cases hq
   obtain ⟨a,t',hp,hk⟩:=ih (Prog.bind_assoc _ _ _)
   exact ⟨a,t',.invoke hp,hk⟩
lemma Runs.inv{I:M.State→Prop}(hI:∀ c o s,I s→I (M.step c o s).2){s t:M.State}{a:α}
 (h:Runs M p s a t)(hs:I s):I t:=by
 induction h with
 | done a s=>exact hs
 | call o _ ih=>exact ih (hI _ o _ hs)
 | invoke _ ih=>exact ih hs

def Ends(M:Machine S)(p:Prog S α)(s:M.State)(Q:α→M.State→Prop):Prop:=
 ∀ a t,Runs M p s a t→Q a t

namespace Ends

variable {Q:α→M.State→Prop}

lemma done{a s}(h:Q a s):Ends M (.done a) s Q:=by
 rintro _ _ ⟨⟩
 exact h
lemma call{c k s}
 (h:∀ o,Ends M (k (M.step c o s).1) (M.step c o s).2 Q):Ends M (.call c k) s Q:=by
 intro a t hr
 cases hr with
 | call o hr=>exact h o a t hr

variable {Q R:α→M.State→Prop}

lemma mono{p s}(h:Ends M p s Q)
 (hq:∀ a t,Q a t→R a t):Ends M p s R:=
 fun a t hr=>hq a t (h a t hr)
lemma bind{s:M.State}{R:β→M.State→Prop}
 (h:Ends M p s Q)(hk:∀ a t,Q a t→Ends M (k a) t R):Ends M (p>>=k) s R:=by
 intro b u hr
 obtain ⟨a,t,hp,hr'⟩:=hr.of_bind
 exact hk a t (h a t hp) b u hr'
lemma and{p s}(h:Ends M p s Q)(h':Ends M p s R):
 Ends M p s (fun a t=>Q a t∧R a t):=
 fun a t hr=>⟨h a t hr,h' a t hr⟩
lemma only{C:S.Call→Prop}{I:M.State→Prop}(hI:∀ c o s,C c→I s→I (M.step c o s).2)
 (hp:p.Only C){s:M.State}(hs:I s):Ends M p s (fun _ t=>I t):=by
 induction p generalizing s with
 | done a=>exact done hs
 | call c k ih=>exact call (fun o=>ih _ (hp.2 _) (hI c o s hp.1 hs))
 | invoke f k ih=>exact absurd hp.1 id
lemma yields{P:α→Prop}{p}(hp:p.Yields P)(s):Ends M p s (fun a _=>P a):=by
 intro a t hr
 induction hr with
 | done a s=>exact hp
 | call o _ ih=>exact ih (hp _)
 | @invoke f k s t a h ih=>exact ih (Prog.yields_bind (Prog.yields_true _) fun r _=>hp r)
lemma of_solo [Nonempty M.Oracle] {p s}(h:Solo M p s Q):
 Ends M p s Q:=by
 intro a t hr
 induction hr with
 | done a s=>exact h.of_done
 | call o _ ih=>exact ih (h.of_call o)
 | invoke _ _=>
  obtain ⟨o⟩:=‹Nonempty M.Oracle›
  obtain ⟨_,_,_,hrun,_⟩:=h (fun _=>o) 0
  cases hrun

end Ends

def Prog.execute(M:Machine S)(o:M.Oracle):Nat→Prog S α→M.State→Option (α×M.State)
 | _,.done a,s=>some (a,s)
 | 0,_,_=>none
 | n+1,.call c k,s=>(k (M.step c o s).1).execute M o n (M.step c o s).2
 | n+1,.invoke f k,s=>(M.body f>>=k).execute M o n s

lemma runs_of_execute{o:M.Oracle}{n:Nat}{s t:M.State}{a:α}
 (h:p.execute M o n s=some (a,t)):Runs M p s a t:=by
 induction n generalizing p s with
 | zero=>
  cases p with
  | done b=>
   cases h
   exact .done _ _
  | call c k | invoke f k=>cases h
 | succ n ih=>
  cases p with
  | done b=>
   cases h
   exact .done _ _
  | call c k=>exact .call o (ih h)
  | invoke f k=>exact .invoke (ih h)
lemma runs_executed{o:M.Oracle}{n:Nat}{s:M.State}{d:α×M.State}
 (h:(p.execute M o n s).isSome):
 Runs M p s ((p.execute M o n s).getD d).1 ((p.execute M o n s).getD d).2:=by
 obtain ⟨r,hr⟩:=Option.isSome_iff_exists.1 h
 rw[hr]
 exact runs_of_execute hr

end Interleaving
