import Dazyflow.RelyGuarantee

/-!
# Stages of a program

A protocol gives each program a stage that its own calls move, and says which calls a stage allows.
-/
namespace Interleaving

open List

variable {S:Sig}(M:Machine S)

structure Protocol where
 Stage:Type
 first:M.Entry→Stage
 next:Stage→(c:S.Call)→S.Res c→Stage
 allowed:Stage→S.Call→Prop
 pre:S.Fn→Stage→Prop:=by exact nofun
 post:(f:S.Fn)→Stage→S.Ret f→Stage→Prop:=by exact nofun

variable {M}(T:Protocol M){α β:Type}

namespace Protocol

/-- The contract that relies on nothing and guarantees the protocol. -/
def contract:Contract M where
 inv _:=True
 rely _ _:=True
 rely_refl _:=trivial
 rely_trans _ _:=trivial
 legal _ _ _:=True
 Note:=T.Stage
 blank:=T.first
 note n e:=T.next n e.call e.res
 guar n c _:=T.allowed n c
 keep _ _ _ _ _ _ _:=⟨trivial,trivial⟩
 pre f n _:=T.pre f n
 post f n _ a n' _:=T.post f n a n'

/-- From this stage the program keeps to the protocol and ends in `Q`. -/
def Obeys(p:Prog S α)(n:T.Stage)(Q:α→T.Stage→Prop):Prop:=
 ∀ s,T.contract.wp p (fun a n' _=>Q a n') n s

variable {T}{n:T.Stage}{Q:α→T.Stage→Prop}

lemma obeys_done{a}(h:Q a n):T.Obeys (.done a) n Q:=
 fun _ _ _ _=>h
lemma obeys_call{c k}(ha:T.allowed n c)
 (hk:∀ r,T.Obeys (k r) (T.next n c r) Q):T.Obeys (.call c k) n Q:=
 fun _ _ _ _=>⟨ha,fun _ _=>hk _ _⟩
lemma obeys_ask{c}{Q:S.Res c→T.Stage→Prop}(ha:T.allowed n c)
 (hk:∀ r,Q r (T.next n c r)):T.Obeys (Prog.ask c) n Q:=
 obeys_call ha (fun r=>obeys_done (hk r))
lemma obeys_end{c}{k:S.Res c→α}(ha:T.allowed n c):T.Obeys (.call c fun r=>.done (k r)) n (fun _ _=>True):=
 obeys_call ha fun _=>obeys_done trivial
lemma obeys_ite{p q m}{b:Prop}[Decidable b](hp:b→T.Obeys p n Q)
 (hq:¬b→T.Obeys q m Q):T.Obeys (if b then p else q) (if b then n else m) Q:=by
 by_cases h:b
 ·rw[if_pos h,if_pos h]
  exact hp h
 ·rw[if_neg h,if_neg h]
  exact hq h
lemma obeys_if{p q}{b:Prop}[Decidable b](hp:b→T.Obeys p n Q)
 (hq:¬b→T.Obeys q n Q):T.Obeys (if b then p else q) n Q:=by
 have h:=obeys_ite hp hq
 rwa[ite_self] at h
lemma obeys_enter{f}{Q:S.Ret f→T.Stage→Prop}(ha:T.pre f n)
 (hk:∀ a n',T.post f n a n'→Q a n'):T.Obeys (Prog.enter f) n Q:=
 fun _ _ _ _=>⟨ha,fun a n' _ _ _ hp _ _ _=>hk a n' hp⟩

variable {R:β→T.Stage→Prop}

lemma obeys_bind{p k}
 (hp:T.Obeys p n Q)(hk:∀ a n',Q a n'→T.Obeys (k a) n' R):T.Obeys (p>>=k) n R:=
 fun s=>Contract.wp_bind (Contract.wp_mono (fun a n' t _ _ hq=>hk a n' hq t) (hp s))
lemma obeys_then{p k}(hp:T.Obeys p n (fun (_:α) n'=>n'=n))
 (hk:∀ a,T.Obeys (k a) n R):T.Obeys (p>>=k) n R:=
 obeys_bind hp fun a _ hn=>hn▸hk a
lemma obeys_mono{p}{Q R:α→T.Stage→Prop}(hp:T.Obeys p n Q)
 (hq:∀ a n',Q a n'→R a n'):T.Obeys p n R:=
 fun s=>Contract.wp_mono (fun a n' _ _ _ h=>hq a n' h) (hp s)
lemma obeys_within{C:S.Call→Prop}{F:S.Fn→Prop}{p:Prog S α}(hp:p.Within C F)
 (hC:∀ c,C c→T.allowed n c∧∀ r,T.next n c r=n)
 (hF:∀ f,F f→T.pre f n∧∀ a n',T.post f n a n' → n'=n):T.Obeys p n (fun _ n'=>n'=n):=by
 induction p with
 | done a=>exact obeys_done rfl
 | call c k ih=>
  refine obeys_call (hC c hp.1).1 fun r=>?_
  rw[(hC c hp.1).2 r]
  exact ih r (hp.2 r)
 | invoke f k ih=>
  refine obeys_bind (obeys_enter (hF f hp.1).1 (hF f hp.1).2) fun a n' hn=>?_
  rw[hn]
  exact ih a (hp.2 a)
lemma obeys_only{C:S.Call→Prop}{p:Prog S α}(hp:p.Only C)
 (hC:∀ c,C c→T.allowed n c∧∀ r,T.next n c r=n):T.Obeys p n (fun _ n'=>n'=n):=
 obeys_within hp hC (fun _ h=>h.elim)

variable (T)

def stageOf(entry:M.Entry)(log:List (Event M)):T.Stage:=T.contract.noteOf entry log

def stages(P:Pool M):List T.Stage:=P.procs.map (fun p=>T.stageOf p.entry p.log)

/-- Every program of the machine keeps to the protocol. -/
structure Follows(last:T.Stage→Prop):Prop where
 entries:∀ e,T.Obeys (M.entry e) (T.first e) (fun _ n=>last n)
 bodies:∀ f n,T.pre f n→T.Obeys (M.body f) n (fun a n'=>T.post f n a n'):=by exact nofun

variable {T}{last:T.Stage→Prop}{ok:Rules M}{A P:Pool M}

section

variable (h:T.Follows last)(h₀:A.procs=[])

include h h₀

lemma Follows.holds:
  T.contract.Holds (fun n _=>last n) ok A where
 verified f n s _ hp:=h.bodies f n hp s
 init:=⟨trivial,by simp[h₀]⟩
 fresh:=by simp[h₀]
 legal _ _ _ _ _ _ _ _ _ _:=trivial
 start _ e _ _ _:=h.entries e _
omit h h₀ in
lemma stages_get{i:Nat}{p:Proc M}(hp:P.procs[i]? = some p):
 (T.stages P)[i]? = some (T.stageOf p.entry p.log):=by
 simp[stages,hp]
lemma Follows.allowed(hr:Reach ok A P){i:Nat}{e:M.Entry}
 {c:S.Call}{k:S.Res c→Prog S Unit}{log:List (Event M)}
 (hp:P.procs[i]? = some ⟨e,.call c k,log⟩):T.allowed (T.stageOf e log) c:=
 ((h.holds h₀).supported hr).guar_of_call hp

variable {J:M.State→List T.Stage→Prop}{ok₁:Rules M}

lemma Follows.pool_inv_since{P₁:Pool M}(hr₁:Reach ok₁ A P₁)(hinit:J P₁.state (T.stages P₁))
 (hstart:∀ P e,Reach ok P₁ P → ok P (.start e)→J P.state (T.stages P)→J P.state (T.stages P++[T.first e]))
 (hcall:∀ P i o c n,Reach ok P₁ P → ok P (.step i o)→P.next i=some c→(T.stages P)[i]? = some n→
  T.allowed n c→J P.state (T.stages P)→
   J (M.step c o P.state).2 ((T.stages P).set i (T.next n c (M.step c o P.state).1)))
 (hr:Reach ok P₁ P):J P.state (T.stages P):=by
 refine Contract.pool_inv_since (K:=T.contract) hinit hstart ?_ hr
 intro P i o e c k log hr ha hproc hJ
 have hreach:Reach (fun _ _=>True) A P:=(hr₁.mono fun _ _ _=>trivial).trans (hr.mono fun _ _ _=>trivial)
 exact hcall P i o c _ hr ha (Pool.next_of_call hproc) (stages_get hproc) (h.allowed h₀ hreach hproc) hJ
lemma Follows.run_inv(hinit:J A.state [])
 (hstart:∀ P e,Reach ok A P → ok P (.start e)→J P.state (T.stages P)→J P.state (T.stages P++[T.first e]))
 (hcall:∀ P i o c n,Reach ok A P → ok P (.step i o)→P.next i=some c→(T.stages P)[i]? = some n→
  T.allowed n c→J P.state (T.stages P)→
   J (M.step c o P.state).2 ((T.stages P).set i (T.next n c (M.step c o P.state).1)))
 (hr:Reach ok A P):J P.state (T.stages P):=by
 have h₁:Reach ok A A:=.init
 refine h.pool_inv_since h₀ h₁ ?_ hstart hcall hr
 rw[stages,h₀]
 exact hinit
lemma Follows.pool_inv(hinit:J A.state [])
 (hstart:∀ s ns e,J s ns→J s (ns++[T.first e]))
 (hcall:∀ P i o c n ns,ok P (.step i o)→P.next i=some c → ns[i]? = some n→T.allowed n c→
  J P.state ns→J (M.step c o P.state).2 (ns.set i (T.next n c (M.step c o P.state).1)))
 (hr:Reach ok A P):J P.state (T.stages P):=
 h.run_inv h₀ hinit (fun P e _ _ hJ=>hstart P.state _ e hJ)
  (fun P i o c n _ ha hnext hn hall hJ=>hcall P i o c n _ ha hnext hn hall hJ) hr
lemma Follows.each_since{P₁}
 (hr₁:Reach ok₁ A P₁){G:Nat→T.Stage→Prop}(hJ:J P₁.state (T.stages P₁))
 (hG:∀ k n,(T.stages P₁)[k]? = some n→G k n)
 (hstart:∀ s ns e,J s ns→J s (ns++[T.first e]))(hfirst:∀ k e,P₁.procs.length ≤ k→G k (T.first e))
 (hcall:∀ P i o c n,Reach ok P₁ P → ok P (.step i o)→P.next i=some c→(T.stages P)[i]? = some n→
  T.allowed n c→J P.state (T.stages P)→G i n→
   J (M.step c o P.state).2 ((T.stages P).set i (T.next n c (M.step c o P.state).1))∧
    G i (T.next n c (M.step c o P.state).1))
 (hr:Reach ok P₁ P):J P.state (T.stages P)∧∀ k n,(T.stages P)[k]? = some n→G k n:=by
 have hlen:∀ Q:Pool M,(T.stages Q).length=Q.procs.length:=fun Q=>length_map _
 have hinv:=h.pool_inv_since h₀ hr₁ (P:=P)
  (J:=fun s ns=>(J s ns∧P₁.procs.length ≤ ns.length)∧∀ k n,ns[k]? = some n→G k n)
  ⟨⟨hJ,(hlen P₁).symm.le⟩,hG⟩ ?_ ?_ hr
 ·exact ⟨hinv.1.1,hinv.2⟩
 ·rintro P e _ _ ⟨⟨hs,hle⟩,hold⟩
  refine ⟨⟨hstart _ _ e hs,by simp only[length_append]; omega⟩,fun k n hn=>?_⟩
  rcases append_cases hn with hn | ⟨rfl,rfl⟩
  ·exact hold k n hn
  ·exact hfirst _ e hle
 ·rintro P i o c n hr ha hnext hn hall ⟨⟨hs,hle⟩,hold⟩
  obtain ⟨hs',hg⟩:=hcall P i o c n hr ha hnext hn hall hs (hold i n hn)
  refine ⟨⟨hs',by simpa using hle⟩,fun k m hm=>?_⟩
  rcases set_cases hm with ⟨rfl,rfl⟩ | ⟨_,hm⟩
  ·exact hg
  ·exact hold k m hm
lemma Follows.exec_step(hr:Reach ok A P){P':Pool M}{i:Nat}
 {o:M.Oracle}(he:P.exec (.step i o)=some P'):
 (∃ c n,P.next i=some c∧(T.stages P)[i]? = some n∧T.allowed n c∧P'.state=(M.step c o P.state).2∧
  T.stages P'=(T.stages P).set i (T.next n c (M.step c o P.state).1))∨
 ∃ _:S.Fn,P'.state=P.state∧T.stages P'=T.stages P:=by
 have hm:=moves_of_exec he
 cases hm with
 | @call _ _ e log c k hproc=>
  refine .inl ⟨c,_,Pool.next_of_call hproc,stages_get hproc,h.allowed h₀ hr hproc,rfl,?_⟩
  rw[stages,map_set]
  rfl
 | @invoke _ _ e log f k hproc=>
  refine .inr ⟨f,rfl,?_⟩
  obtain ⟨hi,hget⟩:=List.getElem?_eq_some_iff.1 (stages_get (T:=T) hproc)
  rw[stages,map_set,←hget]
  exact set_getElem_self hi
lemma Follows.last_of_finished(hr:Reach ok A P){p}
 (hp:p∈P.procs)(hf:p.prog.finished):last (T.stageOf p.entry p.log):=
 ((h.holds h₀).supported hr).final_of_finished hp hf

end

end Protocol
end Interleaving
