import Mathlib

/-!
# Interleaved programs

Sequential programs over a set of atomic calls and of named, possibly recursive functions, and pools of such
programs that run on one shared state.
-/
namespace Interleaving

open List

structure Sig where
 Call:Type
 Res:Call→Type
 Fn:Type:=Empty
 Ret:Fn→Type:=by exact nofun

inductive Prog(S:Sig)(α:Type):Type
 | done (a:α)
 | call (c:S.Call) (k:S.Res c→Prog S α)
 | invoke (f:S.Fn) (k:S.Ret f→Prog S α)

namespace Prog

variable {S:Sig}{α β γ:Type}

def bind:Prog S α→(α→Prog S β)→Prog S β
 | done a,f=>f a
 | call c k,f=>call c (fun r=>(k r).bind f)
 | invoke g k,f=>invoke g (fun r=>(k r).bind f)

instance:Monad (Prog S) where
 pure:=done
 bind:=bind

def ask(c:S.Call):Prog S (S.Res c):=call c done

def enter(f:S.Fn):Prog S (S.Ret f):=invoke f done

@[simp] lemma pure_eq(a:α):(pure a:Prog S α)=done a:=rfl

@[simp] lemma done_bind(a:α)(f:α→Prog S β):(done a>>=f)=f a:=rfl

@[simp] lemma call_bind(c)(k:S.Res c→Prog S α)(f:α→Prog S β):
 (call c k>>=f)=call c (fun r=>k r>>=f):=rfl

@[simp] lemma invoke_bind(g)(k:S.Ret g→Prog S α)(f:α→Prog S β):
 (invoke g k>>=f)=invoke g (fun r=>k r>>=f):=rfl

@[simp] lemma ask_bind(c)(f:S.Res c→Prog S β):(ask c>>=f)=call c f:=rfl

@[simp] lemma enter_bind(g)(f:S.Ret g→Prog S β):(enter g>>=f)=invoke g f:=rfl

lemma bind_assoc(p)(f:α→Prog S β)(g:β→Prog S γ):
 (p>>=f>>=g)=(p>>=fun a=>f a>>=g):=by
 induction p with
 | done a=>rfl
 | call c k ih=>exact congrArg (call c) (funext fun r=>ih r)
 | invoke h k ih=>exact congrArg (invoke h) (funext fun r=>ih r)

def finished:Prog S α→Bool
 | done _=>true
 | _=>false

/-- Every call the program can make is one of `C`, and every function it enters one of `F`. -/
def Within(C:S.Call→Prop)(F:S.Fn→Prop):Prog S α→Prop
 | done _=>True
 | call c k=>C c∧∀ r,(k r).Within C F
 | invoke f k=>F f∧∀ r,(k r).Within C F

section Within

variable {C C':S.Call→Prop}{F F':S.Fn→Prop}{p:Prog S α}

lemma within_bind{k:α→Prog S β}(hp:p.Within C F)(hk:∀ a,(k a).Within C F):
 (p>>=k).Within C F:=by
 induction p with
 | done a=>exact hk a
 | call c k' ih | invoke f k' ih=>exact ⟨hp.1,fun r=>ih r (hp.2 r)⟩
lemma within_mono(hC:∀ c,C c→C' c)(hF:∀ f,F f→F' f)(hp:p.Within C F):
 p.Within C' F':=by
 induction p with
 | done a=>trivial
 | call c k ih=>exact ⟨hC c hp.1,fun r=>ih r (hp.2 r)⟩
 | invoke f k ih=>exact ⟨hF f hp.1,fun r=>ih r (hp.2 r)⟩
lemma within_ask{c}(h:C c):(ask c).Within C F:=⟨h,fun _=>trivial⟩
lemma within_enter{f}(h:F f):(enter f).Within C F:=⟨h,fun _=>trivial⟩
lemma within_any(p:Prog S α)(hC:∀ c,C c)(hF:∀ f,F f):p.Within C F:=by
 induction p with
 | done a=>trivial
 | call c k ih=>exact ⟨hC c,ih⟩
 | invoke f k ih=>exact ⟨hF f,ih⟩

end Within

/-- Every call the program can make is one of `C`, and it enters no function. -/
def Only(C:S.Call→Prop)(p:Prog S α):Prop:=p.Within C (fun _=>False)

variable {k:α→Prog S β}{C:S.Call→Prop}{p:Prog S α}

lemma only_bind(hp:p.Only C)
 (hk:∀ a,(k a).Only C):(p>>=k).Only C:=within_bind hp hk
lemma only_ask{c}(h:C c):(ask c).Only C:=within_ask h
lemma only_pure(a:α):(pure a:Prog S α).Only C:=trivial

/-- Whatever its calls answer, the program can only return a value with `P`. -/
def Yields(P:α→Prop):Prog S α→Prop
 | done a=>P a
 | call _ k=>∀ r,(k r).Yields P
 | invoke _ k=>∀ r,(k r).Yields P

lemma yields_true(p:Prog S α):p.Yields (fun _=>True):=by
 induction p with
 | done a=>trivial
 | call c k ih | invoke f k ih=>exact ih
lemma yields_bind{P:α→Prop}{Q:β→Prop}(hp:p.Yields P)
 (hk:∀ a,P a→(k a).Yields Q):(p>>=k).Yields Q:=by
 induction p with
 | done a=>exact hk a hp
 | call c k' ih | invoke f k' ih=>exact fun r=>ih r (hp r)
lemma within_bind_yields{F:S.Fn→Prop}{P:α→Prop}
 (hp:p.Within C F)(hy:p.Yields P)(hk:∀ a,P a→(k a).Within C F):
 (p>>=k).Within C F:=by
 induction p with
 | done a=>exact hk a hy
 | call c k' ih | invoke f k' ih=>exact ⟨hp.1,fun r=>ih r (hp.2 r) (hy r)⟩

end Prog

/-- A shared state, what the calls do to it, the functions' bodies, and the
 programs that may be started on it. -/
structure Machine(S:Sig) where
 (State Oracle:Type)
 step:(c:S.Call)→Oracle→State→S.Res c×State
 body:(f:S.Fn)→Prog S (S.Ret f):=by exact nofun
 Entry:Type
 entry:Entry→Prog S Unit

variable {S:Sig}(M:Machine S)

structure Event where
 before:M.State
 call:S.Call
 res:S.Res call
 after:M.State

structure Proc where
 entry:M.Entry
 prog:Prog S Unit
 log:List (Event M):=[]

structure Pool where
 state:M.State
 procs:List (Proc M):=[]

inductive Action
 | step (i:Nat)(o:M.Oracle)
 | start (e:M.Entry)

/-- Which actions are open to a pool. -/
abbrev Rules:=Pool M→Action M→Prop

variable {M}

section Alone

variable {α β:Type}

/-- Runs a program with nobody else moving; the `n`-th call is decided by `o n`.
 Programs that enter named functions are not run this way. -/
def Prog.alone(M:Machine S)(o:Nat→M.Oracle):Prog S α→Nat→M.State→
 Option (α×Nat×M.State)
 | .done a,n,s=>some (a,n,s)
 | .call c k,n,s=>(k (M.step c (o n) s).1).alone M o (n+1) (M.step c (o n) s).2
 | .invoke _ _,_,_=>none

lemma Prog.alone_bind(o:Nat→M.Oracle)(p)(k:α→Prog S β)(n s):
 (p>>=k).alone M o n s =
  (p.alone M o n s).bind (fun r=>(k r.1).alone M o r.2.1 r.2.2):=by
 induction p generalizing n s with
 | done a | invoke f k' ih=>rfl
 | call c k' ih=>exact ih _ (n+1) _

def Solo(M:Machine S)(p:Prog S α)(s:M.State)(Q:α→M.State→Prop):Prop:=
 ∀ o n,∃ a n' t,p.alone M o n s=some (a,n',t)∧Q a t

variable {Q:α→M.State→Prop}

lemma Solo.done{a s}(h:Q a s):
 Solo M (.done a) s Q:=
 fun _ n=>⟨a,n,s,rfl,h⟩
lemma Solo.call{c k s}
 (h:∀ o,Solo M (k (M.step c o s).1) (M.step c o s).2 Q):Solo M (.call c k) s Q:=
 fun o n=>h (o n) o (n+1)
lemma Solo.mono{p s}{Q Q':α→M.State→Prop}(h:Solo M p s Q)
 (hq:∀ a t,Q a t→Q' a t):Solo M p s Q':=by
 intro o n
 obtain ⟨a,n',t,hr,hQ⟩:=h o n
 exact ⟨a,n',t,hr,hq a t hQ⟩
lemma Solo.bind{p k s}
 {R:β→M.State→Prop}(h:Solo M p s Q)(hk:∀ a t,Q a t→Solo M (k a) t R):
 Solo M (p>>=k) s R:=by
 intro o n
 obtain ⟨a,n',t,hr,hQ⟩:=h o n
 obtain ⟨b,n'',u,hr',hR⟩:=hk a t hQ o n'
 refine ⟨b,n'',u,?_,hR⟩
 rw[Prog.alone_bind,hr]
 exact hr'
lemma Solo.and{p s}{Q R:α→M.State→Prop}(h:Solo M p s Q)
 (h':Solo M p s R):Solo M p s (fun a t=>Q a t∧R a t):=by
 intro o n
 obtain ⟨a,n',t,hr,hQ⟩:=h o n
 obtain ⟨a',m',t',hr',hR⟩:=h' o n
 rw[hr] at hr'
 cases hr'
 exact ⟨a,n',t,hr,hQ,hR⟩
lemma Solo.of_run{p s t}{o}
 {a n n'}(h:Solo M p s Q)(hr:p.alone M o n s=some (a,n',t)):Q a t:=by
 obtain ⟨a',n'',t',hr',hQ⟩:=h o n
 rw[hr] at hr'
 cases hr'
 exact hQ

end Alone

def Pool.exec(P:Pool M):Action M→Option (Pool M)
 | .start e=>some {P with procs:=P.procs++[{entry:=e,prog:=M.entry e}]}
 | .step i o=>
  match P.procs[i]? with
  | none=>none
  | some p=>
   match p.prog with
   | .done _=>none
   | .call c k=>
    some { state:=(M.step c o P.state).2
           procs:=P.procs.set i
            { entry:=p.entry
              prog:=k (M.step c o P.state).1
              log:=⟨P.state,c,(M.step c o P.state).1,(M.step c o P.state).2⟩::p.log} }
   | .invoke f k=>
    some {P with procs:=P.procs.set i {entry:=p.entry,prog:=M.body f>>=k,log:=p.log} }

inductive Moves(P:Pool M):Action M→Pool M→Prop
 | start (e:M.Entry):
  Moves P (.start e) {P with procs:=P.procs++[{entry:=e,prog:=M.entry e}]}
 | call {i o e log c}
  {k} (hp:P.procs[i]? = some ⟨e,.call c k,log⟩):
  Moves P (.step i o)
   { state:=(M.step c o P.state).2
     procs:=P.procs.set i
      { entry:=e
        prog:=k (M.step c o P.state).1
        log:=⟨P.state,c,(M.step c o P.state).1,(M.step c o P.state).2⟩::log} }
 | invoke {i o e log f}
  {k} (hp:P.procs[i]? = some ⟨e,.invoke f k,log⟩):
  Moves P (.step i o)
   {P with procs:=P.procs.set i {entry:=e,prog:=M.body f>>=k,log:=log} }

lemma moves_of_exec{P P':Pool M}{a:Action M}(h:P.exec a=some P'):Moves P a P':=by
 cases a with
 | start e=>
  cases h
  exact .start e
 | step i o=>
  simp only[Pool.exec] at h
  cases hp:P.procs[i]? with
  | none=>rw[hp] at h; cases h
  | some p=>?_
  obtain ⟨e,prog,log⟩:=p
  rw[hp] at h
  cases prog with
  | done a=>cases h
  | call c k=>cases h; exact .call hp
  | invoke f k=>cases h; exact .invoke hp

/-- The pools a run can reach when every action it takes is allowed. -/
inductive Reach(ok:Rules M)(P₀:Pool M):Pool M→Prop
 | init:Reach ok P₀ P₀
 | step {P P' a} (h:Reach ok P₀ P) (ha:ok P a)
  (he:P.exec a=some P'):Reach ok P₀ P'

variable (M) in
abbrev anyRuns(_:Pool M)(_:Action M):Prop:=True

/-- Runs a schedule, refusing an action that is not allowed. -/
def Pool.follow(ok:Rules M) [∀ P a,Decidable (ok P a)] (P:Pool M):
 List (Action M)→Option (Pool M)
 | []=>some P
 | a::rest=>
  if ok P a then
   match P.exec a with
   | none=>none
   | some P'=>P'.follow ok rest
  else none

lemma reach_of_follow(ok:Rules M) [∀ P a,Decidable (ok P a)] {P₀ P P'}
 {schedule}(h:Reach ok P₀ P)(hf:P.follow ok schedule=some P'):
 Reach ok P₀ P':=by
 induction schedule generalizing P with
 | nil=>
  cases hf
  exact h
 | cons a rest ih=>
  rw[Pool.follow] at hf
  split_ifs at hf with ha
  cases he:P.exec a with
  | none=>rw[he] at hf; cases hf
  | some Q=>
   rw[he] at hf
   exact ih (h.step ha he) hf
lemma reach_of_check(ok:Rules M) [∀ P a,Decidable (ok P a)] (P₀)
 (schedule)(check:Pool M→Bool)(h:(P₀.follow ok schedule).any check):
 ∃ P,Reach ok P₀ P∧check P:=by
 obtain ⟨P,hP,hc⟩:=(Option.any_eq_true _ _).1 h
 exact ⟨P,reach_of_follow ok .init hP,hc⟩

def Pool.after(ok:Rules M) [∀ P a,Decidable (ok P a)] (P:Pool M)
 (schedule:List (Action M)):Pool M:=
 (P.follow ok schedule).getD P

variable {ok:Rules M}

lemma reach_after [∀ P a,Decidable (ok P a)] {P}
 {schedule}(h:(P.follow ok schedule).isSome):Reach ok P (P.after ok schedule):=by
 obtain ⟨Q,hQ⟩:=Option.isSome_iff_exists.1 h
 refine reach_of_follow ok .init (hQ.trans ?_)
 simp[Pool.after,hQ]
lemma exec_after [∀ P a,Decidable (ok P a)] {P a}
 (ha:ok P a)(h:(P.exec a).isSome):P.exec a=some (P.after ok [a]):=by
 obtain ⟨Q,hQ⟩:=Option.isSome_iff_exists.1 h
 simp[Pool.after,Pool.follow,ha,hQ]
lemma Reach.mono{ok ok':Rules M}{P₀ P}
 (hle:∀ P a,ok P a → ok' P a)(h:Reach ok P₀ P):Reach ok' P₀ P:=by
 induction h with
 | init=>exact .init
 | step _ ha he ih=>exact ih.step (hle _ _ ha) he
lemma Reach.trans{P₀ P Q}(h:Reach ok P₀ P)(h':Reach ok P Q):
 Reach ok P₀ Q:=by
 induction h' with
 | init=>exact h
 | step _ ha he ih=>exact ih.step ha he

def Pool.next(P:Pool M)(i:Nat):Option S.Call:=
 match P.procs[i]? with
 | some ⟨_,.call c _,_⟩=>some c
 | _=>none

variable {log:List (Event M)}{i:Nat}{P:Pool M}{e:M.Entry}{c:S.Call}{k:S.Res c→Prog S Unit}

lemma Pool.next_of_call(h:P.procs[i]? = some ⟨e,.call c k,log⟩):P.next i=some c:=by
 simp[Pool.next,h]
lemma Pool.call_of_next(h:P.next i=some c):
 ∃ e k log,P.procs[i]? = some ⟨e,.call c k,log⟩:=by
 unfold Pool.next at h
 split at h
 ·case h_1 e c' k log hp=>
  cases h
  exact ⟨e,k,log,hp⟩
 ·cases h

/-- Runs whose starts meet `starts` and whose calls meet `calls` in the pool they are made in. -/
def Allowed(starts:Pool M→M.Entry→Prop)(calls:Pool M→Nat→S.Call→M.Oracle→Prop)
 (P:Pool M):Action M→Prop
 | .start e=>starts P e
 | .step i o=>∀ c∈P.next i,calls P i c o

instance (starts:Pool M→M.Entry→Prop)(calls:Pool M→Nat→S.Call→M.Oracle→Prop)
 [∀ P e,Decidable (starts P e)] [∀ P i c o,Decidable (calls P i c o)] (P:Pool M)(a:Action M):
 Decidable (Allowed starts calls P a):=
 match a with
 | .start e=>inferInstanceAs (Decidable (starts P e))
 | .step i o=>inferInstanceAs (Decidable (∀ c∈P.next i,calls P i c o))

lemma Allowed.call{starts:Pool M→M.Entry→Prop}{calls:Pool M→Nat→S.Call→M.Oracle→Prop}
 {o:M.Oracle}
 (h:Allowed starts calls P (.step i o))
 (hp:P.procs[i]? = some ⟨e,.call c k,log⟩):calls P i c o:=
 h c (Pool.next_of_call hp)

variable {α:Type}{l:List α}{x y:α}{i j:Nat}

lemma set_cases(h:(l.set i x)[j]? = some y):
 j=i∧y=x∨j≠i∧l[j]? = some y:=by
 by_cases hij:i=j
 ·subst hij
  rw[getElem?_set_self'] at h
  cases hl:l[i]? with
  | none=>rw[hl] at h; cases h
  | some z=>
   rw[hl] at h
   exact .inl ⟨rfl,(Option.some.inj h).symm⟩
 ·rw[getElem?_set_ne hij] at h
  exact .inr ⟨Ne.symm hij,h⟩
lemma mem_set_cases(h:y∈l.set i x):
 y=x∨∃ j,j≠i∧l[j]? = some y:=by
 obtain ⟨j,hj⟩:=mem_iff_getElem?.1 h
 rcases set_cases hj with ⟨_,rfl⟩ | ⟨hji,hj⟩
 ·exact .inl rfl
 ·exact .inr ⟨j,hji,hj⟩
lemma mem_set_of_ne{j:Nat}{a b c:α}(ha:a∈l)(hj:l[j]? = some b)(hne:a≠b):
 a∈l.set j c:=by
 obtain ⟨k,hk⟩:=mem_iff_getElem?.1 ha
 have hkj:j≠k:=by
  rintro rfl
  exact hne (Option.some.inj (hk.symm.trans hj))
 exact mem_of_getElem? ((getElem?_set_ne hkj).trans hk)
lemma append_cases{j:Nat}(h:(l++[x])[j]? = some y):
 l[j]? = some y∨j=l.length∧y=x:=by
 rcases Nat.lt_or_ge j l.length with hj | hj
 ·rw[getElem?_append_left hj] at h
  exact .inl h
 ·rw[getElem?_append_right hj] at h
  obtain ⟨hlt,heq⟩:=List.getElem?_eq_some_iff.1 h
  simp only[length_singleton] at hlt
  exact .inr ⟨by omega,(mem_singleton.1 (heq▸getElem_mem hlt))⟩

structure Replaces{α:Type}(l l':List α)(i:Nat)(y:α):Prop where
 here:l'[i]? = some y
 there:∀ j,j≠i→l'[j]? = l[j]?

section Replaces

variable {α:Type}{l l':List α}{i:Nat}{x y:α}

lemma replaces_set(h:l[i]? = some x):Replaces l (l.set i y) i y:=
 ⟨by simp[(List.getElem?_eq_some_iff.1 h).1],fun _ hj=>getElem?_set_ne (Ne.symm hj)⟩
lemma replaces_append:Replaces l (l++[y]) l.length y:=by
 refine ⟨by simp,fun j hj=>?_⟩
 rcases Nat.lt_or_ge j l.length with hlt | hge
 ·exact getElem?_append_left hlt
 ·rw[getElem?_eq_none (by simp; omega),getElem?_eq_none hge]
lemma Replaces.get(h:Replaces l l' i y){j z}(hz:l'[j]? = some z):
 j=i∧z=y∨j≠i∧l[j]? = some z:=by
 by_cases hj:j=i
 ·subst hj
  exact .inl ⟨rfl,Option.some.inj (hz.symm.trans h.here)⟩
 ·exact .inr ⟨hj,(h.there j hj).symm.trans hz⟩
lemma Replaces.mem(h:Replaces l l' i y){z}(hz:z∈l'):z=y∨∃ j,j≠i∧l[j]? = some z:=by
 obtain ⟨j,hj⟩:=mem_iff_getElem?.1 hz
 exact (h.get hj).imp (fun hx=>hx.2) fun hx=>⟨j,hx⟩
lemma Replaces.distinct{κ:Type}{pick:α→Option κ}(h:Replaces l l' i y)
 (hold:∀ (a b:Nat) u v k,l[a]? = some u→l[b]? = some v→pick u=some k→pick v=some k→a=b)
 (hnew:∀ k,pick y=some k→∀ (b:Nat) v,b≠i→l[b]? = some v→pick v≠some k):
 ∀ (a b:Nat) u v k,l'[a]? = some u→l'[b]? = some v→pick u=some k→pick v=some k→a=b:=by
 intro a b u v k ha hb hu hv
 rcases h.get ha with ⟨rfl,rfl⟩ | ⟨hai,hal⟩
 ·rcases h.get hb with ⟨rfl,_⟩ | ⟨hbi,hbl⟩
  ·rfl
  ·exact absurd hv (hnew k hu b v hbi hbl)
 ·rcases h.get hb with ⟨rfl,rfl⟩ | ⟨_,hbl⟩
  ·exact absurd hu (hnew k hv a u hai hal)
  ·exact hold a b u v k hal hbl hu hv
lemma countP_set_add(p:α→Bool)(h:l[i]? = some x):
 (l.set i y).countP p+(if p x then 1 else 0)=l.countP p+(if p y then 1 else 0):=by
 obtain ⟨hi,rfl⟩:=List.getElem?_eq_some_iff.1 h
 have hle:=boole_getElem_le_countP (p:=p) (l:=l) hi
 rw[countP_set hi]
 omega
lemma sum_map_set_add(f:α→Nat)(h:l[i]? = some x):
 ((l.set i y).map f).sum+f x=(l.map f).sum+f y:=by
 induction l generalizing i with
 | nil=>cases h
 | cons a l ih=>
  cases i with
  | zero=>
   obtain rfl:a=x:=Option.some.inj h
   simp only[set_cons_zero,map_cons,sum_cons]
   omega
  | succ i=>
   have hl:=ih (i:=i) h
   simp only[set_cons_succ,map_cons,sum_cons]
   omega

end Replaces

structure Made(ok:Rules M)(P₀:Pool M)(entry:M.Entry)(older:List (Event M))
 (e:Event M)(Q:Pool M)(i:Nat)(o:M.Oracle):Prop where
 reach:Reach ok P₀ Q
 allowed:ok Q (.step i o)
 before:Q.state=e.before
 proc:∃ k,Q.procs[i]? = some ⟨entry,.call e.call k,older⟩
 effect:M.step e.call o e.before=(e.res,e.after)

lemma Reach.made{P₀ P:Pool M}(h:Reach ok P₀ P)
 (h₀:∀ p∈P₀.procs,p.log=[]):
 ∀ p∈P.procs,∀ newer e older,p.log=newer++e::older→
  ∃ Q i o,Made ok P₀ p.entry older e Q i o:=by
 induction h with
 | init=>
  intro p hp newer e older hl
  rw[h₀ p hp] at hl
  simp at hl
 | @step P P' a hr ha he ih=>
  have hm:=moves_of_exec he
  cases hm with
  | start e=>
   intro p hp newer ev older hl
   rcases mem_append.1 hp with hp | hp
   ·exact ih p hp newer ev older hl
   ·obtain rfl:=mem_singleton.1 hp
    simp at hl
  | @call i o e log c k hproc=>
   intro p hp newer ev older hl
   rcases mem_or_eq_of_mem_set hp with hp | rfl
   ·exact ih p hp newer ev older hl
   cases newer with
   | nil=>
    simp only[nil_append,List.cons.injEq] at hl
    obtain ⟨rfl,rfl⟩:=hl
    exact ⟨P,i,o,hr,ha,rfl,⟨k,hproc⟩,rfl⟩
   | cons x newer=>
    simp only[cons_append,List.cons.injEq] at hl
    exact ih _ (mem_of_getElem? hproc) newer ev older hl.2
  | @invoke i o e log f k hproc=>
   intro p hp newer ev older hl
   rcases mem_or_eq_of_mem_set hp with hp | rfl
   ·exact ih p hp newer ev older hl
   ·exact ih _ (mem_of_getElem? hproc) newer ev older hl

end Interleaving
