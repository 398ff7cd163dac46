import Dazyflow.InterleavedPrograms

/-!
# Rely-guarantee reasoning for interleaved programs

A contract fixes what every program may rely on and must guarantee: an invariant of the shared state, a
preorder along which it moves, and a note that each program keeps of its own calls.
-/
namespace Interleaving

open List

variable {S:Sig}(M:Machine S)

structure Contract where
 inv:M.State→Prop
 rely:M.State→M.State→Prop
 rely_refl:∀ s,rely s s
 rely_trans:∀ {a b c},rely a b → rely b c → rely a c
 /-- What a program may assume of the oracle at its own calls. -/
 legal:S.Call→M.Oracle→M.State→Prop
 /-- The private note of a program, and how a call of its own changes it. -/
 Note:Type
 blank:M.Entry→Note
 note:Note→Event M→Note
 /-- What a program must show before it makes a call. -/
 guar:Note→S.Call→M.State→Prop
 /-- A call made under the guarantee keeps the invariant and moves along `rely`. -/
 keep:∀ n c o t,inv t→legal c o t → guar n c t→
  rely t (M.step c o t).2∧inv (M.step c o t).2
 /-- Specifications of the named functions. -/
 pre:S.Fn→Note→M.State→Prop
 post:(f:S.Fn)→Note→M.State→S.Ret f→Note→M.State→Prop

variable {M}(K:Contract M){α β:Type}

namespace Contract

def noteOf(entry:M.Entry)(log:List (Event M)):K.Note:=
 log.foldr (fun e n=>K.note n e) (K.blank entry)

/-- Weakest precondition: whatever the others do between two steps within `rely`,
 the program makes each of its calls under `guar`, and it ends in `Q`. -/
def wp:Prog S α→(α→K.Note→M.State→Prop)→K.Note→M.State→Prop
 | .done a,Q,n,s=>∀ t,K.rely s t→K.inv t→Q a n t
 | .call c k,Q,n,s=>∀ t,K.rely s t→K.inv t→K.guar n c t∧∀ o,K.legal c o t→
  wp (k (M.step c o t).1) Q (K.note n ⟨t,c,(M.step c o t).1,(M.step c o t).2⟩) (M.step c o t).2
 | .invoke f k,Q,n,s=>∀ t,K.rely s t→K.inv t→K.pre f n t∧
  ∀ a n' u,K.rely t u→K.inv u→K.post f n t a n' u→wp (k a) Q n' u

variable {K}{Q Q':α→K.Note→M.State→Prop}{n:K.Note}{s t:M.State}

lemma wp_rely{p}(h:K.wp p Q n s)(hr:K.rely s t):K.wp p Q n t:=by
 cases p with
 | done a | call c k | invoke f k=>exact fun u hu=>h u (K.rely_trans hr hu)
lemma wp_later{p}(h:∀ t,K.rely s t→K.inv t→K.wp p Q n t):K.wp p Q n s:=by
 cases p with
 | done a | call c k | invoke f k=>exact fun t ht hi=>h t ht hi t (K.rely_refl t) hi
lemma wp_mono{p}(hq:∀ a n' t,K.rely s t→K.inv t→Q a n' t→Q' a n' t)
 (h:K.wp p Q n s):K.wp p Q' n s:=by
 induction p generalizing n s with
 | done a=>exact fun t ht hi=>hq a n t ht hi (h t ht hi)
 | call c k ih=>
  intro t ht hi
  obtain ⟨hg,hk⟩:=h t ht hi
  refine ⟨hg,fun o ho=>?_⟩
  have hr:=(K.keep n c o t hi ho hg).1
  exact ih _ (fun a n' u hu=>hq a n' u (K.rely_trans ht (K.rely_trans hr hu))) (hk o ho)
 | invoke f k ih=>
  intro t ht hi
  obtain ⟨hpre,hk⟩:=h t ht hi
  refine ⟨hpre,fun a n' u hu hiu hp=>?_⟩
  exact ih a (fun a' n'' v hv=>hq a' n'' v (K.rely_trans ht (K.rely_trans hu hv))) (hk a n' u hu hiu hp)

variable {p:Prog S α}{R:β→K.Note→M.State→Prop}{k:α→Prog S β}

lemma wp_bind(h:K.wp p (fun a n' t=>K.wp (k a) R n' t) n s):K.wp (p>>=k) R n s:=by
 induction p generalizing n s with
 | done a=>exact wp_later h
 | call c k' ih=>
  intro t ht hi
  obtain ⟨hg,hk⟩:=h t ht hi
  exact ⟨hg,fun o ho=>ih _ (hk o ho)⟩
 | invoke f k' ih=>
  intro t ht hi
  obtain ⟨hpre,hk⟩:=h t ht hi
  exact ⟨hpre,fun a n' u hu hiu hp=>ih a (hk a n' u hu hiu hp)⟩
lemma wp_call{c k}
 (hg:∀ t,K.rely s t→K.inv t→K.guar n c t)
 (hk:∀ t o,K.rely s t→K.inv t→K.legal c o t→K.rely t (M.step c o t).2→
  K.inv (M.step c o t).2→K.wp (k (M.step c o t).1) Q
   (K.note n ⟨t,c,(M.step c o t).1,(M.step c o t).2⟩) (M.step c o t).2):
 K.wp (.call c k) Q n s:=by
 intro t ht hi
 refine ⟨hg t ht hi,fun o ho=>?_⟩
 obtain ⟨hr,hinv⟩:=K.keep n c o t hi ho (hg t ht hi)
 exact hk t o ht hi ho hr hinv
lemma wp_invoke{f k}
 (h:∀ t,K.rely s t→K.inv t→K.pre f n t∧
  ∀ a n' u,K.rely t u→K.inv u→K.post f n t a n' u→K.wp (k a) Q n' u):
 K.wp (.invoke f k) Q n s:=h

variable (K) in
def Stable(I:K.Note→M.State→Prop):Prop:=
 ∀ n s t,K.rely s t→K.inv t→I n s→I n t

variable (K) in
def Triple(I:K.Note→M.State→Prop)(p:Prog S α)(Q:α→K.Note→M.State→Prop):Prop:=
 ∀ n s,K.inv s→I n s→K.wp p Q n s

variable (K) in
abbrev Keeps(I:K.Note→M.State→Prop)(p:Prog S α):Prop:=K.Triple I p fun _=>I

variable {I J:K.Note→M.State→Prop}

lemma triple_bind(hp:K.Triple I p Q)(hk:∀ a,K.Triple (Q a) (k a) R):K.Triple I (p>>=k) R:=
 fun n s hs hI=>wp_bind (wp_mono (fun a n' t _ ht hQ=>hk a n' t ht hQ) (hp n s hs hI))
lemma triple_done{a}(hI:K.Stable I)(h:∀ n s,K.inv s→I n s→Q a n s):
 K.Triple I (.done a) Q:=
 fun n s _ hIs t ht hi=>h n t hi (hI n s t ht hi hIs)
lemma triple_mono{p}(h:K.Triple I p Q)(hJ:∀ n s,K.inv s→J n s→I n s)
 (hQ:∀ a n s,K.inv s→Q a n s→Q' a n s):K.Triple J p Q':=
 fun n s hs hJs=>wp_mono (fun a n' t _ ht hq=>hQ a n' t ht hq) (h n s hs (hJ n s hs hJs))
lemma triple_call{c k}(hI:K.Stable I)
 (hg:∀ n t,K.inv t→I n t→K.guar n c t)
 (hk:∀ n t o,K.inv t→I n t→K.legal c o t→K.rely t (M.step c o t).2→
  K.inv (M.step c o t).2→K.wp (k (M.step c o t).1) Q
   (K.note n ⟨t,c,(M.step c o t).1,(M.step c o t).2⟩) (M.step c o t).2):
 K.Triple I (.call c k) Q:=by
 intro n s hs hIs
 refine wp_call (fun t ht hi=>hg n t hi (hI n s t ht hi hIs)) ?_
 intro t o ht hi ho hr hinv
 exact hk n t o hi (hI n s t ht hi hIs) ho hr hinv
lemma triple_ask{c}{Q:S.Res c→K.Note→M.State→Prop}(hI:K.Stable I)
 (hQ:∀ r,K.Stable (Q r))(hg:∀ n t,K.inv t→I n t→K.guar n c t)
 (hk:∀ n t o,K.inv t→I n t→K.legal c o t→K.rely t (M.step c o t).2→
  K.inv (M.step c o t).2→Q (M.step c o t).1
   (K.note n ⟨t,c,(M.step c o t).1,(M.step c o t).2⟩) (M.step c o t).2):
 K.Triple I (Prog.ask c) Q:=by
 refine triple_call hI hg fun n t o hi hIt ho hr hinv=>?_
 exact fun u hu hiu=>hQ _ _ _ u hu hiu (hk n t o hi hIt ho hr hinv)
lemma triple_within{C:S.Call→Prop}{F:S.Fn→Prop}(hp:p.Within C F)
 (hI:K.Stable I)(hg:∀ c,C c→∀ n t,K.inv t→I n t→K.guar n c t)
 (hk:∀ c,C c→∀ n t o,K.inv t→I n t→K.legal c o t→K.rely t (M.step c o t).2→
  K.inv (M.step c o t).2→
   I (K.note n ⟨t,c,(M.step c o t).1,(M.step c o t).2⟩) (M.step c o t).2)
 (hpre:∀ f,F f→∀ n t,K.inv t→I n t→K.pre f n t)
 (hpost:∀ f,F f→∀ n t a n' u,K.inv t→I n t→K.rely t u→K.inv u→K.post f n t a n' u→I n' u):
 K.Keeps I p:=by
 induction p with
 | done a=>exact triple_done hI (fun _ _ _ h=>h)
 | call c k ih=>
  refine triple_call hI (hg c hp.1) fun n t o hi hIt ho hr hinv=>?_
  exact ih _ (hp.2 _) _ _ hinv (hk c hp.1 n t o hi hIt ho hr hinv)
 | invoke f k ih=>
  intro n s hs hIs t ht hi
  have hIt:=hI n s t ht hi hIs
  refine ⟨hpre f hp.1 n t hi hIt,fun a n' u hu hiu hpo=>?_⟩
  exact ih a (hp.2 a) n' u hiu (hpost f hp.1 n t a n' u hi hIt hu hiu hpo)
lemma triple_only{C:S.Call→Prop}(hp:p.Only C)(hI:K.Stable I)
 (hg:∀ c,C c→∀ n t,K.inv t→I n t→K.guar n c t)
 (hk:∀ c,C c→∀ n t o,K.inv t→I n t→K.legal c o t→K.rely t (M.step c o t).2→
  K.inv (M.step c o t).2→
   I (K.note n ⟨t,c,(M.step c o t).1,(M.step c o t).2⟩) (M.step c o t).2):
 K.Keeps I p:=
 triple_within hp hI hg hk (fun _ h=>h.elim) (fun _ h=>h.elim)
lemma triple_enter{f}{Q:S.Ret f→K.Note→M.State→Prop}(hI:K.Stable I)
 (hQ:∀ r,K.Stable (Q r))(hpre:∀ n t,K.inv t→I n t→K.pre f n t)
 (hpost:∀ n t a n' u,K.inv t→I n t→K.rely t u→K.inv u→K.post f n t a n' u→Q a n' u):
 K.Triple I (Prog.enter f) Q:=by
 intro n s hs hIs
 refine wp_invoke fun t ht hi=>?_
 have hIt:=hI n s t ht hi hIs
 refine ⟨hpre n t hi hIt,fun a n' u hu hiu hp v hv hiv=>?_⟩
 exact hQ a n' u v hv hiv (hpost n t a n' u hi hIt hu hiu hp)
lemma triple_yields{P:α→Prop}{p}(h:K.Triple I p Q)(hp:p.Yields P):
 K.Triple I p (fun a n s=>P a∧Q a n s):=by
 have hwp:∀ n s,K.wp p Q n s→K.wp p (fun a n s=>P a∧Q a n s) n s:=by
  clear h
  induction p with
  | done a=>exact fun n s hw t ht hi=>⟨hp,hw t ht hi⟩
  | call c k ih=>
   intro n s hw t ht hi
   obtain ⟨hg,hk⟩:=hw t ht hi
   exact ⟨hg,fun o ho=>ih _ (hp _) _ _ (hk o ho)⟩
  | invoke f k ih=>
   intro n s hw t ht hi
   obtain ⟨hpre,hk⟩:=hw t ht hi
   exact ⟨hpre,fun a n' u hu hiu hpost=>ih a (hp a) _ _ (hk a n' u hu hiu hpost)⟩
 exact fun n s hs hI=>hwp n s (h n s hs hI)
lemma triple_given{P:Prop}{p}(h:P→K.Triple I p Q):
 K.Triple (fun n s=>P∧I n s) p Q:=
 fun n s hs hI=>h hI.1 n s hs hI.2
lemma triple_known{P:Prop}{p}(hP:∀ n s,K.inv s→I n s→P)(h:P→K.Triple I p Q):
 K.Triple I p Q:=
 fun n s hs hI=>h (hP n s hs hI) n s hs hI
lemma stable_and(hI:K.Stable I)(hJ:K.Stable J):K.Stable (fun n s=>I n s∧J n s):=
 fun n s t hr hi h=>⟨hI n s t hr hi h.1,hJ n s t hr hi h.2⟩

variable (K) in
/-- Every function's body meets its specification, assuming all specifications. -/
def Verified:Prop:=
 ∀ f n s,K.inv s→K.pre f n s→K.wp (M.body f) (fun a n' t=>K.post f n s a n' t) n s

variable (K) in
/-- Every program of the pool is judged safe to its end. -/
structure Supported(final:K.Note→M.State→Prop)(P:Pool M):Prop where
 inv:K.inv P.state
 procs:∀ p∈P.procs,K.wp p.prog (fun _ n s=>final n s) (K.noteOf p.entry p.log) P.state

variable {final:K.Note→M.State→Prop}

lemma Supported.moves{P P':Pool M}{a:Action M}
 (hv:K.Verified)(h:K.Supported final P)
 (hlegal:∀ i o e c k log,a=.step i o→P.procs[i]? = some ⟨e,.call c k,log⟩→
  K.legal c o P.state)
 (hstart:∀ e,a=.start e→K.wp (M.entry e) (fun _ n s=>final n s) (K.blank e) P.state)
 (hm:Moves P a P'):K.rely P.state P'.state∧K.Supported final P':=by
 cases hm with
 | start e=>
  refine ⟨K.rely_refl _,h.inv,fun p hp=>?_⟩
  rcases mem_append.1 hp with hp | hp
  ·exact h.procs p hp
  ·obtain rfl:=mem_singleton.1 hp
   exact hstart e rfl
 | @call i o e log c k hp=>
  have hw:=h.procs _ (mem_of_getElem? hp)
  obtain ⟨hg,hk⟩:=hw P.state (K.rely_refl _) h.inv
  have ho:=hlegal i o e c k log rfl hp
  obtain ⟨hr,hinv⟩:=K.keep _ c o P.state h.inv ho hg
  refine ⟨hr,hinv,fun p hp'=>?_⟩
  rcases mem_or_eq_of_mem_set hp' with hp' | rfl
  ·exact wp_rely (h.procs p hp') hr
  ·exact hk o ho
 | @invoke i o e log f k hp=>
  have hw:=h.procs _ (mem_of_getElem? hp)
  obtain ⟨hpre,hk⟩:=hw P.state (K.rely_refl _) h.inv
  refine ⟨K.rely_refl _,h.inv,fun p hp'=>?_⟩
  rcases mem_or_eq_of_mem_set hp' with hp' | rfl
  ·exact h.procs p hp'
  · -- the body runs in place of the call, its specification carries the rest
   refine wp_bind (wp_mono ?_ (hv f _ P.state h.inv hpre))
   exact fun a n' u hu hiu hpost=>hk a n' u hu hiu hpost

variable {i:Nat}{e:M.Entry}{c:S.Call}{k:S.Res c→Prog S Unit}{log:List (Event M)}

lemma Supported.guar_of_call{P:Pool M}
 (h:K.Supported final P)
 (hp:P.procs[i]? = some ⟨e,.call c k,log⟩):
 K.guar (K.noteOf e log) c P.state:=
 (h.procs _ (mem_of_getElem? hp) P.state (K.rely_refl _) h.inv).1
lemma Supported.final_of_finished{P}
 (h:K.Supported final P){p}(hp:p∈P.procs)(hf:p.prog.finished):
 final (K.noteOf p.entry p.log) P.state:=by
 have hw:=h.procs p hp
 cases hprog:p.prog with
 | done a=>
  rw[hprog] at hw
  exact hw P.state (K.rely_refl _) h.inv
 | call c k | invoke f k=>simp[hprog,Prog.finished] at hf

variable (K) in
/-- A contract that is met by every program a run can start. -/
structure Holds(final:K.Note→M.State→Prop)(ok:Rules M)(P₀:Pool M):
 Prop where
 verified:K.Verified
 init:K.Supported final P₀
 fresh:∀ p∈P₀.procs,p.log=[]
 legal:∀ P i o e c k log,Reach ok P₀ P → ok P (.step i o)→
  P.procs[i]? = some ⟨e,.call c k,log⟩→K.legal c o P.state
 start:∀ P e,Reach ok P₀ P → ok P (.start e)→K.inv P.state→
  K.wp (M.entry e) (fun _ n s=>final n s) (K.blank e) P.state

variable {final:K.Note→M.State→Prop}{ok:Rules M}{P₀ P:Pool M}

section Holds

variable (h:K.Holds final ok P₀)

include h

lemma Holds.supported(hr:Reach ok P₀ P):K.Supported final P:=by
 induction hr with
 | init=>exact h.init
 | @step P P' a hreach ha he ih=>
  refine (ih.moves h.verified ?_ ?_ (moves_of_exec he)).2
  ·rintro i o e c k log rfl hp
   exact h.legal P i o e c k log hreach ha hp
  ·rintro e rfl
   exact h.start P e hreach ha ih.inv
lemma Holds.step_rely{P' a}(hr:Reach ok P₀ P)
 (ha:ok P a)(he:P.exec a=some P'):K.rely P.state P'.state:=by
 refine ((h.supported hr).moves h.verified ?_ ?_ (moves_of_exec he)).1
 ·rintro i o e c k log rfl hp
  exact h.legal P i o e c k log hr ha hp
 ·rintro e rfl
  exact h.start P e hr ha (h.supported hr).inv
lemma Holds.since_start(hr:Reach ok P₀ P):K.rely P₀.state P.state:=by
 induction hr with
 | init=>exact K.rely_refl _
 | step hreach ha he ih=>exact K.rely_trans ih (h.step_rely hreach ha he)
lemma Holds.guar_of_made{entry:M.Entry}{older:List (Event M)}
 {e:Event M}{Q:Pool M}{o:M.Oracle}(hm:Made ok P₀ entry older e Q i o):
 K.guar (K.noteOf entry older) e.call e.before∧K.inv e.before∧K.legal e.call o e.before:=by
 obtain ⟨k,hp⟩:=hm.proc
 have hs:=h.supported hm.reach
 rw[←hm.before]
 exact ⟨hs.guar_of_call hp,hs.inv,h.legal Q i o entry e.call k older hm.reach hm.allowed hp⟩
lemma Holds.rely_of_made{entry older}
 {e Q i o}(hm:Made ok P₀ entry older e Q i o):
 K.rely e.before e.after∧K.inv e.after:=by
 obtain ⟨hg,hi,hl⟩:=h.guar_of_made hm
 have hk:=K.keep _ e.call o e.before hi hl hg
 rw[hm.effect] at hk
 exact hk
lemma Holds.call_kept(hr:Reach ok P₀ P){o:M.Oracle}
 (ha:ok P (.step i o))
 (hp:P.procs[i]? = some ⟨e,.call c k,log⟩):
 K.rely P.state (M.step c o P.state).2∧K.inv (M.step c o P.state).2:=
 K.keep _ c o P.state (h.supported hr).inv (h.legal P i o e c k log hr ha hp)
  ((h.supported hr).guar_of_call hp)
lemma Holds.since(hr:Reach ok P₀ P):
 ∀ p∈P.procs,∀ e∈p.log,K.rely e.after P.state:=by
 induction hr with
 | init=>
  intro p hp e he
  rw[h.fresh p hp] at he
  cases he
 | @step P P' a hreach ha he ih=>
  have hrel:=h.step_rely hreach ha he
  have hm:=moves_of_exec he
  cases hm with
  | start e=>
   intro p hp ev hev
   rcases mem_append.1 hp with hp | hp
   ·exact ih p hp ev hev
   ·obtain rfl:=mem_singleton.1 hp
    cases hev
  | @call i o e log c k hproc=>
   intro p hp ev hev
   rcases mem_or_eq_of_mem_set hp with hp | rfl
   ·exact K.rely_trans (ih p hp ev hev) hrel
   ·rcases mem_cons.1 hev with rfl | hev
    ·exact K.rely_refl _
    ·exact K.rely_trans (ih _ (mem_of_getElem? hproc) ev hev) hrel
  | @invoke i o e log f k hproc=>
   intro p hp ev hev
   rcases mem_or_eq_of_mem_set hp with hp | rfl
   ·exact ih p hp ev hev
   ·exact ih _ (mem_of_getElem? hproc) ev hev

end Holds

variable (K) in
def notes(P:Pool M):List K.Note:=P.procs.map (fun p=>K.noteOf p.entry p.log)

lemma notes_get{p:Proc M}(hp:P.procs[i]? = some p):
 (K.notes P)[i]? = some (K.noteOf p.entry p.log):=by
 simp[notes,hp]

variable {J:M.State→List K.Note→Prop}

lemma pool_inv_since{P₁:Pool M}(hinit:J P₁.state (K.notes P₁))
 (hstart:∀ P e,Reach ok P₁ P → ok P (.start e)→J P.state (K.notes P)→
  J P.state (K.notes P++[K.blank e]))
 (hcall:∀ P i o e c k log,Reach ok P₁ P → ok P (.step i o)→P.procs[i]? = some ⟨e,.call c k,log⟩→
  J P.state (K.notes P)→J (M.step c o P.state).2 ((K.notes P).set i
   (K.note (K.noteOf e log) ⟨P.state,c,(M.step c o P.state).1,(M.step c o P.state).2⟩)))
 (hr:Reach ok P₁ P):J P.state (K.notes P):=by
 induction hr with
 | init=>exact hinit
 | @step P P' a hr ha he ih=>
  have hm:=moves_of_exec he
  cases hm with
  | start e=>
   have hs:=hstart P e hr ha ih
   simpa[notes,noteOf] using hs
  | @call i o e log c k hproc=>
   have hs:=hcall P i o e c k log hr ha hproc ih
   rw[notes,map_set]
   exact hs
  | @invoke i o e log f k hproc=>
   -- entering a function moves neither the state nor a note
   have hset:K.notes {P with procs:=P.procs.set i ⟨e,M.body f>>=k,log⟩}=K.notes P:=by
    obtain ⟨hi,hget⟩:=List.getElem?_eq_some_iff.1 (notes_get (K:=K) hproc)
    rw[notes,map_set,←hget]
    exact set_getElem_self hi
   rw[hset]
   exact ih
lemma pool_inv(h₀:P₀.procs=[])(hinit:J P₀.state [])
 (hstart:∀ P e,Reach ok P₀ P → ok P (.start e)→J P.state (K.notes P)→
  J P.state (K.notes P++[K.blank e]))
 (hcall:∀ P i o e c k log,Reach ok P₀ P → ok P (.step i o)→P.procs[i]? = some ⟨e,.call c k,log⟩→
  J P.state (K.notes P)→J (M.step c o P.state).2 ((K.notes P).set i
   (K.note (K.noteOf e log) ⟨P.state,c,(M.step c o P.state).1,(M.step c o P.state).2⟩)))
 (hr:Reach ok P₀ P):J P.state (K.notes P):=by
 refine pool_inv_since ?_ hstart hcall hr
 rw[notes,h₀]
 exact hinit

end Contract

/-- What a further contract asks of programs that are known to keep `K`. -/
structure Rider(K:Contract M) where
 Note:Type
 blank:M.Entry→Note
 note:Note→Event M→Note
 /-- What is known of every call beside what `K` says of it. -/
 sure:S.Call→M.Oracle→M.State→Prop
 guar:Note→S.Call→M.State→Prop
 pre:S.Fn→Note→M.State→Prop
 post:(f:S.Fn)→Note→M.State→S.Ret f→Note→M.State→Prop

namespace Rider

open Contract

variable {K:Contract M}(R:Rider K)

/-- The rider relies on what `K` relies on; that every call keeps to it is known from `K`. -/
@[reducible] def contract:Contract M where
 inv:=K.inv
 rely:=K.rely
 rely_refl:=K.rely_refl
 rely_trans:=K.rely_trans
 legal c o s:=(K.legal c o s∧R.sure c o s)∧K.rely s (M.step c o s).2∧K.inv (M.step c o s).2
 Note:=R.Note
 blank:=R.blank
 note:=R.note
 guar:=R.guar
 keep _ _ _ _ _ h _:=h.2
 pre:=R.pre
 post:=R.post

lemma holds{R:Rider K}{final:K.Note→M.State→Prop}{final':R.Note→M.State→Prop}
 {ok:Rules M}{P₀:Pool M}(h:K.Holds final ok P₀)(h₀:P₀.procs=[])
 (hv:R.contract.Verified)
 (hsure:∀ P i o e c k log,Reach ok P₀ P → ok P (.step i o)→
  P.procs[i]? = some ⟨e,.call c k,log⟩→R.sure c o P.state)
 (hstart:∀ P e,Reach ok P₀ P → ok P (.start e)→K.inv P.state→
  R.contract.wp (M.entry e) (fun _ n s=>final' n s) (R.blank e) P.state):
 R.contract.Holds final' ok P₀ where
 verified:=hv
 init:=⟨h.init.inv,by simp[h₀]⟩
 fresh:=by simp[h₀]
 legal P i o e c k log hr ha hp:=
  ⟨⟨h.legal P i o e c k log hr ha hp,hsure P i o e c k log hr ha hp⟩,h.call_kept hr ha hp⟩
 start:=hstart

end Rider
end Interleaving
