import Dazyflow.TwoFactor

/-!
# Single use of a two-factor challenge

A verification counts its wrong guess only after the comparison, and deletes the challenge only after it has
authenticated.
-/
namespace Dazyflow.TwoFactor
open Interleaving List Function

def Stage.late:Stage→Bool
 | .consuming _ _ _ | .counting _ | .winning _ _ _=>true
 | _=>false

def Stage.succeeded:Stage→Bool
 | .passed _ _ _=>true
 | _=>false

def Stage.account:Stage→Option String
 | .validating _ email _ _ _ | .matching _ email _ _ | .consuming _ email _=>some email
 | _=>none

/-- The challenge is looked up while no verification has got hold of it, and the stores do
 not fail the calls that follow the comparison. -/
def alone(k:Token)(ns:List Stage)(o:Oracle)(n:Stage):Bool:=
 (n.on≠some k||n.early||!o.fails)&&
 match n with
 | .fetching a=>a.token≠k||ns.all (fun m=>m.on≠some k||m.succeeded)
 | _=>true

structure Counted(k:Token)(s:State)(ns:List Stage):Prop where
 cap:s.guesses k ≤ maxTOTPChallengeAttempts
 unissued:s.nextToken ≤ k → s.guesses k=0∧s.challenges k=none∧∀ n∈ns,n.on≠some k
 idle:(∀ n∈ns,n.on≠some k)→∀ c,s.challenges k=some c→
  s.guesses k ≤ c.attempts∧c.attempts < maxTOTPChallengeAttempts
 early:∀ n∈ns,n.on=some k → n.early → s.guesses k < maxTOTPChallengeAttempts∧
  ∀ c,s.challenges k=some c → s.guesses k ≤ c.attempts∧c.attempts < maxTOTPChallengeAttempts
 late:∀ n∈ns,n.on=some k → n.late→∀ c,s.challenges k=some c→
  s.guesses k ≤ c.attempts+1∧c.attempts < maxTOTPChallengeAttempts
 gone:∀ n∈ns,n.on=some k → n.succeeded → s.challenges k=none
 sole:∀ (i j:Nat) n m,ns[i]? = some n → ns[j]? = some m → n.on=some k→m.on=some k→i=j
 known:∀ n∈ns,∀ email,n.account=some email→∃ u,s.users email=some u

section Counted

variable {k:Token}{s s':State}{n n':Stage}{ns:List Stage}{i:Nat}

def Stays(s s':State):Prop:=∀ email,(∃ u,s.users email=some u)→∃ u,s'.users email=some u

lemma stays_put(s email u):Stays s (s.putUser email u):=by
 rintro email' ⟨u',hu'⟩
 by_cases he:email'=email
 ·exact ⟨u,by simp[State.putUser,he]⟩
 ·exact ⟨u',by simp[State.putUser,update_of_ne he,hu']⟩
lemma Counted.known_of{ns'}(h:Counted k s ns)(hrep:Replaces ns ns' i n')(hst:Stays s s')
 (hacc:∀ email,n'.account=some email→∃ u,s'.users email=some u):
 ∀ n∈ns',∀ email,n.account=some email→∃ u,s'.users email=some u:=by
 intro m hm email he
 rcases hrep.mem hm with rfl | ⟨j,_,hj⟩
 ·exact hacc email he
 ·exact hst email (h.known m (mem_of_getElem? hj) email he)
lemma Counted.away{ns'}(h:Counted k s ns)(hrep:Replaces ns ns' i n')(hon:∀ n,ns[i]? = some n → n.on≠some k)
 (hon':n'.on≠some k)(hg:s'.guesses k=s.guesses k)(hc:s'.challenges k=s.challenges k∨s'.challenges k=none)
 (hnext:s.nextToken ≤ s'.nextToken)(hst:Stays s s')
 (hacc:∀ email,n'.account=some email→∃ u,s'.users email=some u):Counted k s' ns':=by
 have hget:∀ (a:Nat) m,ns'[a]? = some m→m.on=some k→ns[a]? = some m:=by
  intro a m ha hk
  rcases hrep.get ha with ⟨_,rfl⟩ | ⟨_,ham⟩
  ·exact absurd hk hon'
  ·exact ham
 have hmem:∀ m∈ns',m.on=some k→m∈ns:=by
  intro m hm hk
  obtain ⟨a,ha⟩:=mem_iff_getElem?.1 hm
  exact mem_of_getElem? (hget a m ha hk)
 have hchal:∀ c,s'.challenges k=some c → s.challenges k=some c:=by
  intro c hc'
  rcases hc with hc | hc
  ·exact hc▸hc'
  ·rw[hc] at hc'
   cases hc'
 refine ⟨hg▸h.cap,fun hlt=>?_,fun hno c hc'=>?_,fun m hm hk he=>?_,fun m hm hk hl c hc'=>?_,fun m hm hk hs=>?_,
  fun a b m m' ha hb hm hm'=>h.sole a b m m' (hget a m ha hm) (hget b m' hb hm') hm hm',h.known_of hrep hst hacc⟩
 ·obtain ⟨hz,hnone,hno⟩:=h.unissued (hnext.trans hlt)
  exact ⟨hg.trans hz,hc.elim (fun hc=>hc.trans hnone) id,fun m hm hk=>hno m (hmem m hm hk) hk⟩
 ·rw[hg]
  refine h.idle (fun m hm hk=>?_) c (hchal c hc')
  obtain ⟨j,hj⟩:=mem_iff_getElem?.1 hm
  by_cases hji:j=i
  ·exact hon m (hji▸hj) hk
  ·exact hno m (mem_of_getElem? ((hrep.there j hji).trans hj)) hk
 ·rw[hg]
  obtain ⟨hlt,hb⟩:=h.early m (hmem m hm hk) hk he
  exact ⟨hlt,fun c hc'=>hb c (hchal c hc')⟩
 ·rw[hg]
  exact h.late m (hmem m hm hk) hk hl c (hchal c hc')
 ·have hnone:=h.gone m (hmem m hm hk) hk hs
  exact hc.elim (fun hc=>hc.trans hnone) id
lemma Stays.refl(s):Stays s s:=fun _ h=>h
lemma Counted.start(h:Counted k s ns)(e):Counted k s (ns++[Stage.first e]):=by
 have hfirst:(Stage.first e).on=none∧(Stage.first e).account=none:=by cases e<;>exact ⟨rfl,rfl⟩
 exact h.away replaces_append (by simp) (by simp[hfirst.1]) rfl (.inl rfl) le_rfl (.refl s)
  fun email he=>by simp[hfirst.2] at he
section

variable (h:Counted k s ns)

include h

section

variable (hn:ns[i]? = some n)

include hn

lemma Counted.other(hon:n.on≠some k)(hon':n'.on≠some k)
 (hg:s'.guesses k=s.guesses k)(hc:s'.challenges k=s.challenges k∨s'.challenges k=none)
 (hnext:s.nextToken ≤ s'.nextToken)(hst:Stays s s')
 (hacc:∀ email,n'.account=some email→∃ u,s'.users email=some u):Counted k s' (ns.set i n'):=
 h.away (replaces_set hn) (fun _ hm=>Option.some.inj (hn.symm.trans hm)▸hon) hon' hg hc hnext hst hacc
omit h hn in
lemma on_ne{token}(hon:n.on=some token)(hk:token≠k):n.on≠some k:=fun h=>hk (Option.some.inj (hon.symm.trans h))

def Clear(k:Token)(ns:List Stage)(i:Nat):Prop:=∀ j m,j≠i → ns[j]? = some m→m.on≠some k

omit h hn in
lemma Counted.own(h:Counted k s ns)(hclear:Clear k ns i)(hissued:k<s'.nextToken)
 (hcap:s'.guesses k ≤ maxTOTPChallengeAttempts)
 (hidle:n'.on≠some k→∀ c,s'.challenges k=some c→
  s'.guesses k ≤ c.attempts∧c.attempts < maxTOTPChallengeAttempts)
 (hearly:n'.early → s'.guesses k < maxTOTPChallengeAttempts∧
  ∀ c,s'.challenges k=some c → s'.guesses k ≤ c.attempts∧c.attempts < maxTOTPChallengeAttempts)
 (hlate:n'.late→∀ c,s'.challenges k=some c→
  s'.guesses k ≤ c.attempts+1∧c.attempts < maxTOTPChallengeAttempts)
 (hgone:n'.succeeded → s'.challenges k=none)(hst:Stays s s')(hn:ns[i]? = some n)
 (hacc:∀ email,n'.account=some email→∃ u,s'.users email=some u):Counted k s' (ns.set i n'):=by
 have hat:∀ (a:Nat) m,(ns.set i n')[a]? = some m→m.on=some k→a=i∧m=n':=by
  intro a m ha hk
  exact (set_cases ha).resolve_right fun hx=>hclear a m hx.1 hx.2 hk
 have hown:∀ m∈ns.set i n',m.on=some k→m=n':=by
  intro m hm hk
  obtain ⟨a,ha⟩:=mem_iff_getElem?.1 hm
  exact (hat a m ha hk).2
 refine ⟨hcap,fun hlt=>absurd hissued (Nat.not_lt.2 hlt),fun hno=>hidle (hno n' (List.mem_set (List.getElem?_eq_some_iff.1 hn).1 _)),fun m hm hk he=>?_,
  fun m hm hk hl=>?_,fun m hm hk hs=>?_,fun a b m m' ha hb hm hm'=>(hat a m ha hm).1.trans (hat b m' hb hm').1.symm,
  h.known_of (replaces_set hn) hst hacc⟩
 ·obtain rfl:=hown m hm hk
  exact hearly he
 ·obtain rfl:=hown m hm hk
  exact hlate hl
 ·obtain rfl:=hown m hm hk
  exact hgone hs
lemma Counted.clear(hon:n.on=some k):Clear k ns i:=
 fun j m hji hm hk=>hji (h.sole j i m n hm hn hk hon)
lemma Counted.issued(hon:n.on=some k):k<s.nextToken:=by
 by_contra hlt
 exact (h.unissued (Nat.le_of_not_lt hlt)).2.2 n (mem_of_getElem? hn) hon
omit h hn in
lemma loaded_cases(a email u):
 Stage.loaded a email u=.ended∨(∃ secret code,Stage.loaded a email u=.validating a.token email u secret code)∨
  ∃ code,Stage.loaded a email u=.matching a.token email u code:=by
 unfold Stage.loaded
 cases u.totpSecretEnc with
 | none=>exact .inl rfl
 | some secret=>?_
 dsimp only
 split_ifs
 ·unfold Stage.guessing
  split_ifs
  ·exact .inr (.inl ⟨_,_,rfl⟩)
  ·exact .inr (.inr ⟨_,rfl⟩)
  ·exact .inl rfl
 ·exact .inl rfl
omit h hn in
lemma changing_idle(email u change):
 (Stage.changing email u change).on=none∧(Stage.changing email u change).account=none:=by
 cases change with
 | confirm code=>
  unfold Stage.changing
  split_ifs
  ·exact ⟨rfl,rfl⟩
  ·cases u.totpSecretEnc<;>exact ⟨rfl,rfl⟩
 | start | regenerate=>
  unfold Stage.changing
  split_ifs<;>exact ⟨rfl,rfl⟩
 | _=>exact ⟨rfl,rfl⟩
lemma Counted.aside(hon:n.on=none)(hon':n'.on=none)
 (hacc:n'.account=none)(hg:s'.guesses=s.guesses)(hc:s'.challenges k=s.challenges k∨s'.challenges k=none)
 (hnext:s'.nextToken=s.nextToken)(hst:Stays s s'):Counted k s' (ns.set i n'):=
 h.other hn (by simp[hon]) (by simp[hon']) (by rw[hg]) hc hnext.symm.le hst fun email he=>by simp[hacc] at he
lemma Counted.before{token}(hon:n.on=some token)
 (he:n.early)(hon':n'.on=none∨n'.on=some token∧n'.early∧n'.late=false∧n'.succeeded=false)
 (hend:n'.on=none → n'.early=false∧n'.late=false∧n'.succeeded=false)
 (hacc:∀ email,n'.account=some email→∃ u,s.users email=some u):Counted k s (ns.set i n'):=by
 by_cases hk:token=k
 ·subst hk
  have hmem:=mem_of_getElem? hn
  obtain ⟨hlt,hb⟩:=h.early n hmem hon he
  have hquiet:n'.late=false∧n'.succeeded=false:=
   hon'.elim (fun hnone=>⟨(hend hnone).2.1,(hend hnone).2.2⟩) (fun hx=>⟨hx.2.2.1,hx.2.2.2⟩)
  exact h.own (h.clear hn hon) (h.issued hn hon) h.cap (fun _=>hb) (fun _=>⟨hlt,hb⟩)
   (fun hl=>by simp[hquiet.1] at hl) (fun hs=>by simp[hquiet.2] at hs) (.refl s)
   hn hacc
 ·refine h.other hn (on_ne hon hk) ?_ rfl (.inl rfl) le_rfl (.refl s) hacc
  rcases hon' with hx | ⟨hx,_⟩
  ·simp[hx]
  ·exact on_ne hx hk
lemma Counted.guess{token}(hon:n.on=some token)
 (he:n.early)(hon':n'.on=some token)(he':n'.early=false)(hs':n'.succeeded=false)
 (hacc:∀ email,n'.account=some email→∃ u,s.users email=some u):Counted k (s.guess token) (ns.set i n'):=by
 by_cases hk:token=k
 ·subst hk
  obtain ⟨hlt,hb⟩:=h.early n (mem_of_getElem? hn) hon he
  have hg:(s.guess token).guesses token=s.guesses token+1:=by simp[State.guess]
  refine h.own (h.clear hn hon) (h.issued hn hon) (by rw[hg]; exact hlt) (fun hno=>absurd hon' hno)
   (fun hx=>by simp[he'] at hx) (fun _ c hc=>?_) (fun hx=>by simp[hs'] at hx) (.refl s)
   hn hacc
  obtain ⟨hle,hatt⟩:=hb c hc
  exact ⟨by rw[hg]; exact Nat.succ_le_succ hle,hatt⟩
 ·exact h.other hn (on_ne hon hk) (on_ne hon' hk) (by simp[State.guess,update_of_ne (Ne.symm hk)]) (.inl rfl)
   le_rfl (.refl s) hacc
lemma Counted.delete{token}(hon:n.on=some token)
 (hon':n'.on=none∨n'.on=some token)(he':n'.early=false)(hacc:n'.account=none):
 Counted k (s.setChallenge token none) (ns.set i n'):=by
 have hacc':∀ email,n'.account=some email→∃ u,s.users email=some u:=fun email he=>by simp[hacc] at he
 by_cases hk:token=k
 ·subst hk
  have hnone:(s.setChallenge token none).challenges token=none:=by simp[State.setChallenge]
  exact h.own (h.clear hn hon) (h.issued hn hon) h.cap (fun _ c hc=>by simp[hnone] at hc)
   (fun hx=>by simp[he'] at hx) (fun _ c hc=>by simp[hnone] at hc) (fun _=>hnone) (.refl s)
   hn hacc'
 ·refine h.other hn (on_ne hon hk) ?_ rfl (.inl ?_) le_rfl (.refl s) hacc'
  ·rcases hon' with hx | hx
   ·simp[hx]
   ·exact on_ne hx hk
  ·simp[State.setChallenge,update_of_ne (Ne.symm hk)]
lemma Counted.after{token}(hon:n.on=some token)
 (hl:n.late)(hon':n'.on=some token)(he':n'.early=false)(hs':n'.succeeded=false)
 (hacc:n'.account=none)(hg:s'.guesses=s.guesses)(hc:s'.challenges=s.challenges)
 (hnext:s'.nextToken=s.nextToken)(hst:Stays s s'):Counted k s' (ns.set i n'):=by
 have hacc':∀ email,n'.account=some email→∃ u,s'.users email=some u:=fun email he=>by simp[hacc] at he
 by_cases hk:token=k
 ·subst hk
  have hb:=h.late n (mem_of_getElem? hn) hon hl
  refine h.own (h.clear hn hon) (hnext▸h.issued hn hon) (hg▸h.cap) (fun hno=>absurd hon' hno)
   (fun hx=>by simp[he'] at hx) (fun _ c hc'=>?_) (fun hx=>by simp[hs'] at hx) hst
   hn hacc'
  rw[hg]
  exact hb c (hc▸hc')
 ·exact h.other hn (on_ne hon hk) (on_ne hon' hk) (by rw[hg]) (.inl (by rw[hc])) hnext.symm.le hst hacc'
lemma Counted.quit(hq:n.on=none∨n.early):Counted k s (ns.set i .ended):=by
 cases hon:n.on with
 | none=>exact h.aside hn hon rfl rfl rfl (.inl rfl) rfl (.refl s)
 | some token=>
  have he:n.early:=hq.resolve_left (by simp[hon])
  exact h.before hn hon he (.inl rfl) (fun _=>⟨rfl,rfl,rfl⟩) nofun
lemma Counted.slip{token challenges}(hk:token≠k)(hon:n.on=some token)(hon':n'.on=none∨n'.on=some token)
 (hacc:n'.account=none)(hc:∀ k,k≠token→challenges k=s.challenges k∨challenges k=none):
 Counted k {s with challenges:=challenges} (ns.set i n'):=by
 refine h.other hn (on_ne hon hk) ?_ rfl (hc k (Ne.symm hk)) le_rfl (.refl s) fun email he=>by simp[hacc] at he
 rcases hon' with hx | hx
 ·simp[hx]
 ·exact on_ne hx hk

end

omit h in
lemma of_sweep{now c}(h:(s.sweep now).challenges k=some c):s.challenges k=some c:=by
 rcases sweep_cases s now k with hs | hs
 ·exact hs▸h
 ·rw[hs] at h
  cases h
lemma Counted.fetch{a c now}(hn:ns[i]? = some (.fetching a))
 (hc:(s.sweep now).challenges a.token=some c)(hfetch:a.token=k→∀ m∈ns,m.on≠some k∨m.succeeded):
 Counted k (s.sweep now) (ns.set i (.timing a c)):=by
 by_cases hk:a.token=k
 ·subst hk
  -- the challenge is there, so nobody has succeeded with it
  have hno:∀ m∈ns,m.on≠some a.token:=by
   intro m hm hon
   rcases hfetch rfl m hm with hne | hs
   ·exact hne hon
   ·cases (h.gone m hm hon hs).symm.trans (of_sweep hc)
  have hissued:a.token<s.nextToken:=by
   by_contra hlt
   cases (h.unissued (Nat.le_of_not_lt hlt)).2.1.symm.trans (of_sweep hc)
  have hb:=fun c (hc:(s.sweep now).challenges a.token=some c)=>h.idle hno c (of_sweep hc)
  obtain ⟨hle,hlt⟩:=hb c hc
  exact h.own (fun j m _ hm=>hno m (mem_of_getElem? hm)) hissued h.cap (fun _=>hb)
   (fun _=>⟨hle.trans_lt hlt,hb⟩) nofun nofun (.refl s) hn nofun
 ·exact h.other hn nofun (on_ne rfl hk) rfl (sweep_cases s now k) le_rfl (.refl s) nofun
lemma Counted.count{token c now}(hn:ns[i]? = some (.counting token))
 (hc:(s.sweep now).challenges token=some c):
 Counted k ((s.sweep now).setChallenge token (some {c with attempts:=c.attempts+1}))
  (ns.set i (if maxTOTPChallengeAttempts ≤ c.attempts+1 then .capping token else .ended)):=by
 by_cases hk:token=k
 ·subst hk
  obtain ⟨hle,_⟩:=h.late _ (mem_of_getElem? hn) rfl rfl c (of_sweep hc)
  have hissued:=h.issued (k:=token) hn rfl
  have hnew:((s.sweep now).setChallenge token (some {c with attempts:=c.attempts+1})).challenges token =
   some {c with attempts:=c.attempts+1}:=by simp[State.setChallenge]
  split_ifs with hfull
  ·exact h.own (h.clear hn rfl) hissued h.cap (fun hon=>absurd rfl hon) nofun nofun nofun (.refl s) hn nofun
  ·refine h.own (h.clear hn rfl) hissued h.cap (fun _ c' hc'=>?_) nofun nofun nofun (.refl s) hn nofun
   cases hnew.symm.trans hc'
   exact ⟨hle,Nat.lt_of_not_le hfull⟩
 ·refine h.slip hn hk rfl ?_ ?_ fun k' hk'=>?_
  ·split_ifs
   ·exact .inr rfl
   ·exact .inl rfl
  ·split_ifs<;>rfl
  ·rw[update_of_ne hk']
   exact sweep_cases s now k'
lemma Counted.lapse{token now}(hn:ns[i]? = some (.counting token))
 (hc:(s.sweep now).challenges token=none):Counted k (s.sweep now) (ns.set i .ended):=by
 by_cases hk:token=k
 ·subst hk
  exact h.own (h.clear hn rfl) (h.issued (k:=token) hn rfl) h.cap (fun _ c hc'=>by simp[hc] at hc') nofun
   nofun nofun (.refl s) hn nofun
 ·exact h.slip hn hk rfl (.inl rfl) rfl fun k' _=>sweep_cases s now k'
lemma Counted.issue{email expiresAt now}(hn:ns[i]? = some (.issuing email expiresAt)):
 Counted k (s.issue {email:=email,expiresAt:=expiresAt} now) (ns.set i .ended):=by
 by_cases hk:s.nextToken=k
 ·subst hk
  obtain ⟨hz,_,hno⟩:=h.unissued le_rfl
  have hnew:(s.issue {email:=email,expiresAt:=expiresAt} now).challenges s.nextToken =
   some {email:=email,expiresAt:=expiresAt}:=by simp[State.issue,State.setChallenge]
  refine h.own (fun j m _ hm=>hno m (mem_of_getElem? hm)) (Nat.lt_succ_self _) h.cap (fun _ c hc=>?_)
   nofun nofun nofun (.refl s) hn nofun
  cases hnew.symm.trans hc
  exact ⟨hz.le,(by decide:0 < maxTOTPChallengeAttempts)⟩
 ·refine h.other hn nofun nofun rfl ?_ (Nat.le_succ _) (.refl s) nofun
  simp only[State.issue,State.setChallenge,update_of_ne (Ne.symm hk)]
  exact sweep_cases s now k
lemma Counted.broken{fails:Bool}{token email factor}(hn:ns[i]? = some (.consuming token email factor))
 (hb:fails∨s.users email=none)(hwrite:token=k→fails=false)(hst:Stays s s')(hs:s'={s with users:=s'.users}):
 Counted k s' (ns.set i .ended):=by
 by_cases hk:token=k
 ·rcases hb with hb | hb
  ·rw[hwrite hk] at hb
   cases hb
  ·obtain ⟨u,hu⟩:=h.known _ (mem_of_getElem? hn) email rfl
   cases hb.symm.trans hu
 ·rw[hs]
  exact h.other hn (on_ne rfl hk) nofun rfl (.inl rfl) le_rfl hst nofun
lemma Counted.shift{fails}(hn:ns[i]? = some n)(hs:Shift fails s n s' n')
 (hfetch:∀ a,n=.fetching a→a.token=k→∀ m∈ns,m.on≠some k∨m.succeeded)
 (hwrite:n.on=some k→n.early=false→fails=false):Counted k s' (ns.set i n'):=by
 have hmem:=mem_of_getElem? hn
 cases hs with
 | quits hq=>exact h.quit hn hq
 | @fetches a c now hc=>exact h.fetch hn hc (hfetch a rfl)
 | @unknown a now=>exact h.aside hn rfl rfl rfl rfl (sweep_cases s now k) rfl (.refl s)
 | opens | draws | confirms | stamps=>exact h.aside hn rfl rfl rfl rfl (.inl rfl) rfl (.refl s)
 | times | expires=>
  exact h.before hn rfl rfl (.inr ⟨rfl,rfl,rfl,rfl⟩) nofun nofun
 | @loads a email u hu=>
  rcases loaded_cases a email u with hx | ⟨secret,code,hx⟩ | ⟨code,hx⟩
  ·rw[hx]
   exact h.before hn rfl rfl (.inl rfl) (fun _=>⟨rfl,rfl,rfl⟩) nofun
  ·rw[hx]
   exact h.before hn rfl rfl (.inr ⟨rfl,rfl,rfl,rfl⟩) nofun fun _ he=>by cases he; exact ⟨u,hu⟩
  ·rw[hx]
   exact h.before hn rfl rfl (.inr ⟨rfl,rfl,rfl,rfl⟩) nofun fun _ he=>by cases he; exact ⟨u,hu⟩
 | @validates token email code u secret step=>
  exact h.guess hn rfl rfl rfl rfl rfl fun _ he=>by cases he; exact h.known _ hmem email rfl
 | @redeems token email code u hash _=>
  exact h.guess hn rfl rfl rfl rfl rfl fun _ he=>by cases he; exact h.known _ hmem email rfl
 | @misses _ token hcase=>
  rcases hcase with ⟨email,u,secret,code,rfl⟩ | ⟨email,u,code,rfl⟩<;>exact h.guess hn rfl rfl rfl rfl rfl nofun
 | @consumes token email factor u u' hu hf=>
  exact h.after hn rfl rfl rfl rfl rfl rfl rfl rfl rfl (stays_put s email u')
 | @loses token email factor=>exact h.after hn rfl rfl rfl rfl rfl rfl rfl rfl rfl (.refl s)
 | @breaks token email factor _ hb hcase=>
  have hno:token=k→fails=false:=fun hk=>hwrite (congrArg some hk) rfl
  rcases hcase with rfl | ⟨u,u',_,_,rfl⟩
  ·exact h.broken hn hb hno (.refl _) rfl
  ·exact h.broken hn hb hno (stays_put s email u') rfl
 | counts hc=>exact h.count hn hc
 | uncounted hc=>exact h.lapse hn hc
 | @slips _ _ token _ hf hcase hc=>
  have hk:n.on=some token→n.early=false→token≠k:=by
   rintro hon he rfl
   cases (hwrite hon he).symm.trans hf
  rcases hcase with ⟨rfl | rfl,rfl⟩ | ⟨email,factor,rfl,rfl⟩
  ·exact h.slip hn (hk rfl rfl) rfl (.inl rfl) rfl hc
  ·exact h.slip hn (hk rfl rfl) rfl (.inl rfl) rfl hc
  ·exact h.slip hn (hk rfl rfl) rfl (.inr rfl) rfl hc
 | @wins token email factor=>exact h.delete hn rfl (.inr rfl) rfl rfl
 | @deletes _ token hcase=>
  rcases hcase with rfl | rfl<;>exact h.delete hn rfl (.inl rfl) rfl rfl
 | issues=>exact h.issue hn
 | @reads email change u hu=>
  obtain ⟨hon,hacc⟩:=changing_idle email u change
  exact h.aside hn rfl hon hacc rfl (.inl rfl) rfl (.refl s)
 | @generates email u confirm codes _ hcase=>
  rcases hcase with rfl | rfl<;>exact h.aside hn rfl rfl rfl rfl (.inl rfl) rfl (.refl s)
 | @writes email u=>exact h.aside hn rfl rfl rfl rfl (.inl rfl) rfl (stays_put s email u)

end

end Counted

abbrev initial(cfg:Config)(users:String→Option User):Pool (machine cfg):={state:={users:=users} }

abbrev aloneRuns(cfg:Config)(k:Token):Rules (machine cfg):=
 Allowed (fun _ _=>True) (fun P i _ o=>∀ n∈(standing P)[i]?,alone k (standing P) o n)

lemma counted_of_reach{cfg users k P}
 (hr:Reach (aloneRuns cfg k) (initial cfg users) P):Counted k P.state (standing P):=by
 refine (follows cfg).run_inv (A:=initial cfg users) rfl (J:=Counted k) ?_ ?_ ?_ hr
 ·exact ⟨Nat.zero_le _,fun _=>⟨rfl,rfl,by simp⟩,fun _ c hc=>(by cases hc),by simp,by simp,by simp,by simp,by simp⟩
 ·intro P e _ _ h
  exact h.start e
 ·intro P i o c n _ ha hnext hn hall h
  obtain ⟨hwrite,hfetch⟩:=Bool.and_eq_true_iff.1 (ha c hnext n hn:alone k (standing P) o n)
  refine h.shift hn (shift_of_allows hall o) (fun a hx hk m hm=>?_) fun hon he=>?_
  ·subst hx
   simp only[hk,ne_eq,not_true_eq_false,decide_false,Bool.false_or,all_eq_true,Bool.or_eq_true,
    decide_eq_true_eq] at hfetch
   exact hfetch m hm
  ·simpa[hon,he] using hwrite

/-- At most one sign-in succeeds with a challenge, and at most `maxTOTPChallengeAttempts`
 guesses are compared under it. -/
theorem challenge_used_once{cfg:Config}{users:String→Option User}{k:Token}{P:Pool (machine cfg)}
 (hr:Reach (aloneRuns cfg k) (initial cfg users) P):
 P.state.guesses k ≤ maxTOTPChallengeAttempts∧
 ∀ (i j:Nat) email factor email' factor',(standing P)[i]? = some (.passed k email factor)→
  (standing P)[j]? = some (.passed k email' factor')→i=j:=by
 have h:=counted_of_reach hr
 exact ⟨h.cap,fun i j email factor email' factor' hi hj=>h.sole i j _ _ hi hj rfl rfl⟩

def twoCodes:Config:=⟨fun _ step=>if step=1 then "one" else if step=2 then "two" else "none"⟩

def enrolled:User:=
 {totpSecretEnc:=some 7,totpEnabled:=true,totpEnrolledAt:=some 1,recoveryCodeHashes:=[⟨0,"red"⟩,⟨1,"blue"⟩]}

def onlyAnn(u:User)(email:String):Option User:=if email="ann" then some u else none

def issued:List (Action (machine twoCodes)):=[.start (.issue "ann"),.step 0 {now:=30},.step 0 {now:=30}]

def steps(i count:Nat):List (Action (machine twoCodes)):=replicate count (.step i {now:=30})

def secondGuess:Pool (machine twoCodes):=
 (initial twoCodes (onlyAnn enrolled)).after (aloneRuns twoCodes 0)
  (issued++[.start (.consume ⟨0,"none!",""⟩)]++steps 1 5++[.start (.consume ⟨0,"one",""⟩)]++steps 2 6)

lemma secondGuess_reach:Reach (aloneRuns twoCodes 0) (initial twoCodes (onlyAnn enrolled)) secondGuess:=
 reach_after (by decide +kernel)

theorem second_guess_counted:
 (standing secondGuess)[2]? = some (.passed 0 "ann" (.totp 1))∧
  secondGuess.state.guesses 0 ≤ maxTOTPChallengeAttempts:=
 ⟨by decide +kernel,(challenge_used_once secondGuess_reach).1⟩

/-- Six verifications look the challenge up before any of them goes on; two of them have
 the codes of neighbouring steps. -/
def sixGuesses:Pool (machine twoCodes):=
 (initial twoCodes (onlyAnn enrolled)).after (anyRuns (machine twoCodes))
  (issued++["w","x","y","z","one","two"].map (fun code=>.start (.consume ⟨0,code,""⟩)) ++
   (range 6).flatMap (fun i=>steps (i+1) 1)++(range 4).flatMap (fun i=>steps (i+1) 4) ++
   steps 5 5++steps 6 5)

/-- More guesses are compared than the cap allows, and two sign-ins succeed. -/
theorem concurrent_guesses_pass:
 Reach (anyRuns (machine twoCodes)) (initial twoCodes (onlyAnn enrolled)) sixGuesses∧
 maxTOTPChallengeAttempts<sixGuesses.state.guesses 0∧
 (standing sixGuesses)[5]? = some (.passed 0 "ann" (.totp 1))∧
 (standing sixGuesses)[6]? = some (.passed 0 "ann" (.totp 2)):=
 ⟨reach_after (by decide +kernel),by decide +kernel,by decide +kernel,by decide +kernel⟩

end Dazyflow.TwoFactor
