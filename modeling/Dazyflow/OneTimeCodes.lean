import Dazyflow.TwoFactorChallenges

/-!
# One-time codes

A time step or a recovery code is consumed by a conditional update of one column, while enrolling, disabling,
renewing the codes and the other handlers write back every column of the user they read.
-/
namespace Dazyflow.TwoFactor
open Interleaving List Function

def Stage.held:Stage→Option (String×User)
 | .drawing email u=>some (email,u)
 | .confirming email u _ _=>some (email,u)
 | .generating email u _=>some (email,u)
 | .stamping email u=>some (email,u)
 | .writing email u=>some (email,u)
 | _=>none

def Stage.used:Stage→Option (String×Factor)
 | .winning _ email factor=>some (email,factor)
 | .passed _ email factor=>some (email,factor)
 | _=>none

/-- Nobody is about to write back a user that it read before the consumption. -/
def calm(ns:List Stage):Stage→Bool
 | .consuming _ email _=>ns.all (fun m=>m.held.all fun p=>p.1≠email)
 | _=>true

def Drawn(salt:Nat)(u:User):Prop:=u.recoveryCodeHashes.Nodup∧∀ h∈u.recoveryCodeHashes,h.salt<salt

def Factor.spent:Factor→User→Prop
 | .totp step,u=>step ≤ u.totpLastStep
 | .recoveryCode hash,u=>hash∉u.recoveryCodeHashes

def Factor.old(salt:Nat):Factor→Prop
 | .totp _=>True
 | .recoveryCode hash=>hash.salt<salt

structure Spent(s:State)(ns:List Stage):Prop where
 stored:∀ email u,s.users email=some u→Drawn s.nextSalt u
 held:∀ n∈ns,∀ email u,n.held=some (email,u)→Drawn s.nextSalt u∧
  ∃ u',s.users email=some u'∧u.totpLastStep=u'.totpLastStep
 used:∀ n∈ns,∀ email factor,n.used=some (email,factor)→factor.old s.nextSalt∧
  (∃ u,s.users email=some u∧factor.spent u)∧∀ m∈ns,∀ u,m.held=some (email,u)→factor.spent u
 once:∀ (i j:Nat) n m x,ns[i]? = some n → ns[j]? = some m → n.used=some x→m.used=some x→i=j

section Spent

variable {s s':State}{n n':Stage}{ns:List Stage}{i:Nat}

variable {u u':User}{email:String}{factor:Factor}

lemma Drawn.mono{salt salt'}(h:Drawn salt u)(hle:salt ≤ salt'):Drawn salt' u:=
 ⟨h.1,fun x hx=>(h.2 x hx).trans_le hle⟩
lemma consume_cases{salt}(h:factor.consume u=some u')(hd:Drawn salt u):
 factor.old salt∧¬factor.spent u∧factor.spent u'∧Drawn salt u'∧∀ f:Factor,f.spent u→f.spent u':=by
 cases factor with
 | totp step=>
  simp only[Factor.consume,advance] at h
  split_ifs at h with hle
  cases h
  refine ⟨trivial,hle,Nat.le_refl step,hd,fun f hf=>?_⟩
  cases f with
  | totp step'=>exact hf.trans (Nat.le_of_not_le hle)
  | recoveryCode hash=>exact hf
 | recoveryCode hash=>
  simp only[Factor.consume,remove] at h
  split_ifs at h with hmem
  cases h
  refine ⟨hd.2 hash hmem,fun hno=>hno hmem,hd.1.not_mem_erase,⟨hd.1.erase _,fun x hx=>hd.2 x (mem_of_mem_erase hx)⟩,
   fun f hf=>?_⟩
  cases f with
  | totp step=>exact hf
  | recoveryCode hash'=>exact fun hx=>hf (mem_of_mem_erase hx)

structure Kept(s s':State)(ns:List Stage):Prop where
 salt:s.nextSalt ≤ s'.nextSalt
 stored:∀ email u,s'.users email=some u→Drawn s'.nextSalt u
 users:∀ email u,s.users email=some u→∃ u',s'.users email=some u'∧
  ((∃ m∈ns,∃ v,m.held=some (email,v))→u'.totpLastStep=u.totpLastStep)∧
  ∀ n∈ns,∀ factor,n.used=some (email,factor)→factor.spent u'

section

variable (h:Spent s ns)

include h

lemma Spent.kept:Kept s s ns:=by
 refine ⟨le_rfl,h.stored,fun email u hu=>⟨u,hu,fun _=>rfl,fun n hn factor hx=>?_⟩⟩
 obtain ⟨_,⟨u',hu',hsp⟩,_⟩:=h.used n hn email factor hx
 rw[hu] at hu'
 cases hu'
 exact hsp
omit h in
lemma Factor.old_mono{salt salt'}(h:factor.old salt)(hle:salt ≤ salt'):factor.old salt':=by
 cases factor with
 | totp step=>trivial
 | recoveryCode hash=>exact h.trans_le hle
lemma Spent.move{ns'}(hrep:Replaces ns ns' i n')(hkept:Kept s s' ns)
 (hheld:∀ email u,n'.held=some (email,u)→Drawn s'.nextSalt u∧
  (∃ u',s'.users email=some u'∧u.totpLastStep=u'.totpLastStep)∧
  ∀ m∈ns,∀ factor,m.used=some (email,factor)→factor.spent u)
 (hused:∀ x,n'.used=some x→∃ n,ns[i]? = some n∧n.used=some x):Spent s' ns':=by
 -- whoever has used a factor has done so before
 have hget:∀ (a:Nat) m,ns'[a]? = some m→∀ x,m.used=some x→∃ m',ns[a]? = some m'∧m'.used=some x:=by
  intro a m ha x hx
  rcases hrep.get ha with ⟨rfl,rfl⟩ | ⟨_,ham⟩
  ·exact hused x hx
  ·exact ⟨m,ham,hx⟩
 refine ⟨hkept.stored,fun m hm email u hx=>?_,fun m hm email factor hx=>?_,fun a b m m' x ha hb hm hm'=>?_⟩
 ·rcases hrep.mem hm with rfl | ⟨j,_,hj⟩
  ·exact ⟨(hheld email u hx).1,(hheld email u hx).2.1⟩
  ·have hmj:=mem_of_getElem? hj
   obtain ⟨hd,v,hv,hlast⟩:=h.held m hmj email u hx
   obtain ⟨v',hv',hsame,_⟩:=hkept.users email v hv
   exact ⟨hd.mono hkept.salt,v',hv',hlast.trans (hsame ⟨m,hmj,u,hx⟩).symm⟩
 ·obtain ⟨a,ha⟩:=mem_iff_getElem?.1 hm
  obtain ⟨m₀,ha₀,hx₀⟩:=hget a m ha _ hx
  have hm₀:=mem_of_getElem? ha₀
  obtain ⟨hfo,⟨v,hv,_⟩,hother⟩:=h.used m₀ hm₀ email factor hx₀
  obtain ⟨v',hv',_,hsp⟩:=hkept.users email v hv
  refine ⟨Factor.old_mono hfo hkept.salt,⟨v',hv',hsp m₀ hm₀ factor hx₀⟩,fun m' hm' u hx'=>?_⟩
  rcases hrep.mem hm' with rfl | ⟨j,_,hj⟩
  ·exact (hheld email u hx').2.2 m₀ hm₀ factor hx₀
  ·exact hother m' (mem_of_getElem? hj) u hx'
 ·obtain ⟨m₁,ha₁,hx₁⟩:=hget a m ha x hm
  obtain ⟨m₂,hb₂,hx₂⟩:=hget b m' hb x hm'
  exact h.once a b m₁ m₂ x ha₁ hb₂ hx₁ hx₂
lemma Spent.start(e):Spent s (ns++[Stage.first e]):=by
 have hfirst:(Stage.first e).held=none∧(Stage.first e).used=none:=by cases e<;>exact ⟨rfl,rfl⟩
 exact h.move replaces_append h.kept (fun email u hx=>by simp[hfirst.1] at hx) fun x hx=>by simp[hfirst.2] at hx
lemma Spent.stay(hn:ns[i]? = some n)(hheld:n'.held=none)
 (hused:∀ x,n'.used=some x → n.used=some x)(hs:s'.users=s.users)(hsalt:s'.nextSalt=s.nextSalt):
 Spent s' (ns.set i n'):=by
 have hkept:Kept s s' ns:=by
  obtain ⟨_,hst,hus⟩:=h.kept
  exact ⟨hsalt.symm.le,hs▸hsalt▸hst,hs▸hus⟩
 exact h.move (replaces_set hn) hkept (fun email u hx=>by simp[hheld] at hx) fun x hx=>⟨n,hn,hused x hx⟩
lemma Spent.rework(hn:ns[i]? = some n)(hheld:n.held=some (email,u))
 (hheld':n'.held=some (email,u'))(hused:n'.used=none)(hlast:u'.totpLastStep=u.totpLastStep)
 (hcodes:u'.recoveryCodeHashes=u.recoveryCodeHashes):Spent s (ns.set i n'):=by
 have hmem:n∈ns:=mem_of_getElem? hn
 obtain ⟨hd,v,hv,hv'⟩:=h.held n hmem email u hheld
 refine h.move (replaces_set hn) h.kept (fun email' w hx=>?_) fun x hx=>by simp[hused] at hx
 cases hheld'.symm.trans hx
 refine ⟨by unfold Drawn at hd ⊢; rwa[hcodes],⟨v,hv,hlast.trans hv'⟩,fun m hm factor hx=>?_⟩
 have hsp:=(h.used m hm email factor hx).2.2 n hmem u hheld
 cases factor with
 | totp step=>exact hsp.trans hlast.symm.le
 | recoveryCode hash=>exact fun hin=>hsp (hcodes▸hin)
omit h in
lemma changing_held{email' v change}
 (h:(Stage.changing email u change).held=some (email',v)):
 email'=email∧v.totpLastStep=u.totpLastStep∧
  (v.recoveryCodeHashes=u.recoveryCodeHashes∨v.recoveryCodeHashes=[]):=by
 cases change with
 | start | regenerate=>
  unfold Stage.changing at h
  split_ifs at h<;>cases h
  exact ⟨rfl,rfl,.inl rfl⟩
 | confirm code=>
  unfold Stage.changing at h
  split_ifs at h
  ·cases h
  cases hsec:u.totpSecretEnc with
  | none=>simp[hsec,Stage.held] at h
  | some secret=>
   simp only[hsec,Stage.held,Option.some.injEq,Prod.mk.injEq] at h
   obtain ⟨rfl,rfl⟩:=h
   exact ⟨rfl,rfl,.inl rfl⟩
 | disable=>
  cases h
  exact ⟨rfl,rfl,.inr rfl⟩
 | rewrite other=>
  cases h
  exact ⟨rfl,rfl,.inl rfl⟩
omit h in
lemma changing_used(email u change):(Stage.changing email u change).used=none:=by
 cases change with
 | confirm code=>
  unfold Stage.changing
  split_ifs
  ·rfl
  ·cases u.totpSecretEnc<;>rfl
 | start | regenerate=>
  unfold Stage.changing
  split_ifs<;>rfl
 | _=>rfl
omit h in
lemma mem_newHashes{salt codes h}(hm:h∈newHashes salt codes):
 salt ≤ h.salt∧h.salt<salt+codes.length:=by
 obtain ⟨j,hj,rfl⟩:=mem_mapIdx.1 hm
 exact ⟨Nat.le_add_right _ _,Nat.add_lt_add_left hj _⟩
omit h in
lemma nodup_newHashes(salt codes):(newHashes salt codes).Nodup:=by
 refine pairwise_iff_getElem.2 fun a b ha hb hab heq=>?_
 simp only[newHashes,getElem_mapIdx,Hash.mk.injEq] at heq
 omega
lemma kept_consume(hu:s.users email=some u)
 (hf:factor.consume u=some u')(hcalm:∀ m∈ns,∀ v,m.held≠some (email,v)):Kept s (s.putUser email u') ns:=by
 obtain ⟨_,_,_,hd,hmono⟩:=consume_cases hf (h.stored email u hu)
 refine ⟨le_rfl,fun e v hv=>?_,fun e v hv=>?_⟩
 ·by_cases he:e=email
  ·subst he
   simp only[State.putUser,update_self,Option.some.injEq] at hv
   exact hv▸hd
  ·simp only[State.putUser,update_of_ne he] at hv
   exact h.stored e v hv
 ·obtain ⟨v',hv',hlast,hsp⟩:=h.kept.users e v hv
  rw[hv] at hv'
  cases hv'
  by_cases he:e=email
  ·subst he
   rw[hu] at hv
   cases hv
   refine ⟨u',by simp[State.putUser],?_,fun m hm f hx=>hmono f (hsp m hm f hx)⟩
   rintro ⟨m,hm,w,hw⟩
   exact absurd hw (hcalm m hm w)
  ·exact ⟨v,by simp[State.putUser,update_of_ne he,hv],hlast,hsp⟩
lemma kept_write(hmem:n∈ns)(hheld:n.held=some (email,u)):
 Kept s (s.putUser email u) ns:=by
 obtain ⟨hd,v,hv,hlast⟩:=h.held n hmem email u hheld
 refine ⟨le_rfl,fun e w hw=>?_,fun e w hw=>?_⟩
 ·by_cases he:e=email
  ·subst he
   simp only[State.putUser,update_self,Option.some.injEq] at hw
   exact hw▸hd
  ·simp only[State.putUser,update_of_ne he] at hw
   exact h.stored e w hw
 ·by_cases he:e=email
  ·subst he
   rw[hv] at hw
   cases hw
   exact ⟨u,by simp[State.putUser],fun _=>hlast,fun m hm f hx=>(h.used m hm e f hx).2.2 n hmem u hheld⟩
  ·obtain ⟨w',hw',hrest⟩:=h.kept.users e w hw
   exact ⟨w',by simp[State.putUser,update_of_ne he,hw'],hrest⟩
lemma Spent.consume(hn:ns[i]? = some n){token}
 (hu:s.users email=some u)(hf:factor.consume u=some u')
 (hcalm:∀ m∈ns,∀ v,m.held≠some (email,v)):
 Spent (s.putUser email u') (ns.set i (.winning token email factor)):=by
 obtain ⟨hold,hunspent,hsp,_,_⟩:=consume_cases hf (h.stored email u hu)
 have hkept:=kept_consume h hu hf hcalm
 -- without the winner itself it is a step that authenticates nobody
 have hbase:Spent (s.putUser email u') (ns.set i .ended):=
  h.move (replaces_set hn) hkept (fun e v hx=>by cases hx) (fun x hx=>by cases hx)
 have hfresh:∀ (m:Stage),m∈ns→m.used≠some (email,factor):=by
  intro m hm hx
  obtain ⟨_,⟨v,hv,hvs⟩,_⟩:=h.used m hm email factor hx
  rw[hu] at hv
  cases hv
  exact hunspent hvs
 have hother:∀ m,m∈ns.set i (.winning token email factor)→m=.winning token email factor∨m∈ns.set i .ended:=by
  intro m hm
  rcases mem_set_cases hm with rfl | ⟨j,hji,hj⟩
  ·exact .inl rfl
  ·exact .inr (mem_of_getElem? (i:=j) (by rw[getElem?_set_ne (Ne.symm hji),hj]))
 have hheld:∀ m,m∈ns.set i (.winning token email factor)→∀ e v,m.held=some (e,v)→m∈ns.set i .ended:=by
  intro m hm e v hx
  rcases hother m hm with rfl | hm
  ·cases hx
  ·exact hm
 refine ⟨hbase.stored,fun m hm e v hx=>hbase.held m (hheld m hm e v hx) e v hx,fun m hm e f hx=>?_,
  (replaces_set hn).distinct h.once fun x hx b v _ hv=>?_⟩
 ·rcases hother m hm with rfl | hm'
  ·cases hx
   refine ⟨hold,⟨u',by simp[State.putUser],hsp⟩,fun m' hm' v hv=>?_⟩
   rcases mem_set_cases hm' with rfl | ⟨j,_,hj⟩
   ·cases hv
   ·exact absurd hv (hcalm m' (mem_of_getElem? hj) v)
  ·obtain ⟨hfo,hfu,hfh⟩:=hbase.used m hm' e f hx
   exact ⟨hfo,hfu,fun m' hm' v hv=>hfh m' (hheld m' hm' e v hv) v hv⟩
 ·cases hx
  exact hfresh v (mem_of_getElem? hv)
lemma Spent.shift{fails}(hn:ns[i]? = some n)(hs:Shift fails s n s' n')
 (hcalm:∀ token email factor,n=.consuming token email factor→∀ m∈ns,∀ v,m.held≠some (email,v)):
 Spent s' (ns.set i n'):=by
 have hmem:=mem_of_getElem? hn
 cases hs with
 | @loads a email u hu=>
  rcases loaded_cases a email u with hx | ⟨secret,code,hx⟩ | ⟨code,hx⟩
  all_goals
   rw[hx]
   exact h.stay hn rfl (fun x hx=>by cases hx) rfl rfl
 | @consumes token email factor u u' hu hf=>exact h.consume hn hu hf (hcalm token email factor rfl)
 | @breaks token email factor _ _ hcase=>
  rcases hcase with rfl | ⟨u,u',hu,hf,rfl⟩
  ·exact h.stay hn rfl (fun x hx=>by cases hx) rfl rfl
  ·exact h.move (replaces_set hn) (kept_consume h hu hf (hcalm token email factor rfl)) (fun e v hx=>by cases hx) fun x hx=>by cases hx
 | @slips _ _ token _ _ hcase _=>
  rcases hcase with ⟨rfl | rfl,rfl⟩ | ⟨email,factor,rfl,rfl⟩
  all_goals exact h.stay hn rfl (fun x hx=>hx) rfl rfl
 | @counts token c _ hc=>
  split_ifs<;>exact h.stay hn rfl (fun x hx=>by cases hx) rfl rfl
 | @wins token email factor=>exact h.stay hn rfl (fun x hx=>hx) rfl rfl
 | @reads email change u hu=>
  refine h.move (replaces_set hn) h.kept (fun email' v hx=>?_) fun x hx=>by simp[changing_used] at hx
  obtain ⟨rfl,hlast,hcodes⟩:=changing_held hx
  have hd:=h.stored email' u hu
  refine ⟨?_,⟨u,hu,hlast⟩,fun m hm factor hx=>?_⟩
  ·rcases hcodes with hc | hc
   ·unfold Drawn at hd ⊢
    rwa[hc]
   ·simp[Drawn,hc]
  ·obtain ⟨_,⟨u',hu',hsp⟩,_⟩:=h.used m hm email' factor hx
   rw[hu] at hu'
   cases hu'
   cases factor with
   | totp step=>exact hsp.trans hlast.symm.le
   | recoveryCode hash=>
    intro hin
    rcases hcodes with hc | hc
    ·exact hsp (hc▸hin)
    ·simp[hc] at hin
 | draws | confirms | stamps=>exact h.rework hn rfl rfl rfl rfl rfl
 | @generates email u confirm codes _ hcase=>
  have hheld':n'.held=some (email,{u with recoveryCodeHashes:=newHashes s.nextSalt codes})∧n'.used=none:=by
   rcases hcase with rfl | rfl<;>exact ⟨rfl,rfl⟩
  obtain ⟨hd,v,hv,hlast⟩:=h.held _ hmem email u rfl
  have hle:s.nextSalt ≤ s.nextSalt+codes.length:=Nat.le_add_right _ _
  have hkept:Kept s {s with nextSalt:=s.nextSalt+codes.length} ns:=
   ⟨hle,fun e w hw=>(h.stored e w hw).mono hle,h.kept.users⟩
  refine h.move (replaces_set hn) hkept (fun e w hx=>?_) fun x hx=>by simp[hheld'.2] at hx
  cases hheld'.1.symm.trans hx
  refine ⟨⟨nodup_newHashes _ _,fun x hx=>(mem_newHashes hx).2⟩,⟨v,hv,hlast⟩,fun m hm factor hx=>?_⟩
  obtain ⟨hold,_,hother⟩:=h.used m hm email factor hx
  have hsp:=hother _ hmem u rfl
  cases factor with
  | totp step=>exact hsp
  | recoveryCode hash=>exact fun hin=>absurd (mem_newHashes hin).1 (Nat.not_le.2 hold)
 | @writes email u=>exact h.move (replaces_set hn) (kept_write h hmem rfl) (fun e v hx=>by cases hx) (fun x hx=>by cases hx)
 | @misses _ token hcase=>
  rcases hcase with ⟨email,u,secret,code,rfl⟩ | ⟨email,u,code,rfl⟩
  all_goals exact h.stay hn rfl (fun x hx=>by cases hx) rfl rfl
 | @deletes _ token hcase=>
  rcases hcase with rfl | rfl
  all_goals exact h.stay hn rfl (fun x hx=>by cases hx) rfl rfl
 | _=>exact h.stay hn rfl (fun x hx=>by cases hx) rfl rfl

end

end Spent

abbrev calmRuns(cfg:Config):Rules (machine cfg):=
 Allowed (fun _ _=>True) (fun P i _ _=>∀ n∈(standing P)[i]?,calm (standing P) n)

abbrev accounts(cfg:Config)(users:String→Option User)(salt:Nat):Pool (machine cfg):=
 {state:={users:=users,nextSalt:=salt} }

lemma spent_of_reach{cfg users salt P}
 (h₀:∀ email u,users email=some u→Drawn salt u)(hr:Reach (calmRuns cfg) (accounts cfg users salt) P):
 Spent P.state (standing P):=by
 refine (follows cfg).run_inv (A:=accounts cfg users salt) rfl (J:=Spent) ?_ ?_ ?_ hr
 ·exact ⟨h₀,by simp,by simp,by simp⟩
 ·intro P e _ _ h
  exact h.start e
 ·intro P i o c n _ ha hnext hn hall h
  have hok:calm (standing P) n:=ha c hnext n hn
  refine h.shift hn (shift_of_allows hall o) fun token email factor hx m hm v hv=>?_
  subst hx
  have hall:=all_eq_true.1 hok m hm
  simp[hv] at hall

/-- A time step or a recovery code authenticates at most once, and stays consumed. -/
theorem one_time_codes{cfg:Config}{users:String→Option User}{salt:Nat}{P:Pool (machine cfg)}
 (h₀:∀ email u,users email=some u→Drawn salt u)(hr:Reach (calmRuns cfg) (accounts cfg users salt) P):
 (∀ (i j:Nat) token token' email factor,(standing P)[i]? = some (.passed token email factor)→
  (standing P)[j]? = some (.passed token' email factor)→i=j)∧
 ∀ token email factor,.passed token email factor∈standing P→∃ u,P.state.users email=some u∧factor.spent u:=by
 have h:=spent_of_reach h₀ hr
 exact ⟨fun i j token token' email factor hi hj=>h.once i j _ _ _ hi hj rfl rfl,
  fun token email factor hm=>(h.used _ hm email factor rfl).2.1⟩

def secondSignIn:Pool (machine twoCodes):=
 (accounts twoCodes (onlyAnn enrolled) 2).after (calmRuns twoCodes)
  (issued++[.start (.consume ⟨0,"one",""⟩)]++steps 1 6++[.start (.regenerate "ann")]++steps 2 3 ++
   [.start (.issue "ann")]++steps 3 2++[.start (.consume ⟨1,"one",""⟩)]++steps 4 5)

lemma secondSignIn_reach:Reach (calmRuns twoCodes) (accounts twoCodes (onlyAnn enrolled) 2) secondSignIn:=
 reach_after (by decide +kernel)
lemma enrolled_drawn:∀ email u,onlyAnn enrolled email=some u→Drawn 2 u:=by
 intro email u hu
 unfold onlyAnn at hu
 split_ifs at hu
 cases hu
 exact ⟨by decide,by decide⟩

theorem code_stays_consumed:∃ u,secondSignIn.state.users "ann"=some u∧(Factor.totp 1).spent u:=
 (one_time_codes enrolled_drawn secondSignIn_reach).2 0 "ann" (.totp 1) (by decide +kernel)

/-- A handler reads the account, a sign-in consumes a recovery code, the handler writes the
 account back, and the code is used again; then a renewal of the codes does the same to
 a time step. -/
def writtenBack:Pool (machine twoCodes):=
 (accounts twoCodes (onlyAnn enrolled) 2).after (anyRuns (machine twoCodes))
  (issued++[.start (.issue "ann")]++steps 1 2++[.start (.issue "ann")]++steps 2 2++[.start (.issue "ann")]++steps 3 2 ++
   [.start (.rewrite "ann" 1)]++steps 4 1++[.start (.consume ⟨0,"","red"⟩)]++steps 5 6++steps 4 1 ++
   [.start (.consume ⟨1,"","red"⟩)]++steps 6 6 ++
   [.start (.regenerate "ann")]++steps 7 1++[.start (.consume ⟨2,"one",""⟩)]++steps 8 6++steps 7 2 ++
   [.start (.consume ⟨3,"one",""⟩)]++steps 9 6)

/-- A time step and a recovery code each authenticate twice. -/
theorem consumed_codes_restored:
 Reach (anyRuns (machine twoCodes)) (accounts twoCodes (onlyAnn enrolled) 2) writtenBack∧
 (standing writtenBack)[5]? = some (.passed 0 "ann" (.recoveryCode ⟨0,"red"⟩))∧
 (standing writtenBack)[6]? = some (.passed 1 "ann" (.recoveryCode ⟨0,"red"⟩))∧
 (standing writtenBack)[8]? = some (.passed 2 "ann" (.totp 1))∧
 (standing writtenBack)[9]? = some (.passed 3 "ann" (.totp 1)):=
 ⟨reach_after (by decide +kernel),by decide +kernel,by decide +kernel,by decide +kernel,by decide +kernel⟩

end Dazyflow.TwoFactor
