import Dazyflow.ProgramStages

/-!
# Two-factor sign-in

The second leg of a sign-in, `ConsumeTOTPChallenge`, and the operations that enrol, disable and renew the
second factor.
-/
namespace Dazyflow.TwoFactor
open Interleaving

def totpPeriodSeconds:Nat:=30

def TOTPChallengeTTL:Nat:=5*60

def maxTOTPChallengeAttempts:Nat:=5

abbrev Token:=Nat

structure Hash where
 salt:Nat
 code:String
 deriving DecidableEq

structure User where
 totpSecretEnc:Option Nat:=none
 totpEnabled:Bool:=false
 totpEnrolledAt:Option Nat:=none
 recoveryCodeHashes:List Hash:=[]
 totpLastStep:Nat:=0
 other:Nat:=0
 deriving DecidableEq

structure TOTPChallenge where
 email:String
 expiresAt:Nat
 attempts:Nat:=0
 deriving DecidableEq

/-- The six digits of a secret at a time step. -/
structure Config where
 codeAt:Nat→Nat→String

def stepsAround(cur:Nat):List Nat:=(if cur=0 then [] else [cur-1])++[cur,cur+1]

def validateTOTPStep(cfg:Config)(code:String)(secret now:Nat):Option Nat:=
 if code="" then none
 else (stepsAround (now / totpPeriodSeconds)).find? (fun step=>cfg.codeAt secret step=code)

def matchRecoveryCode(hashes:List Hash)(code:String):Option Hash:=hashes.find? (fun h=>h.code=code)

/-- The user store and the rows of `EphemeralTOTPChallengeStore`. Tokens and salts are drawn from
 counters, and the guesses compared under each token are counted. -/
structure State where
 users:String→Option User:=fun _=>none
 challenges:Token→Option TOTPChallenge:=fun _=>none
 nextToken:Token:=0
 nextSalt:Nat:=0
 guesses:Token→Nat:=fun _=>0

section Machine

variable (cfg:Config)

def State.putUser(s:State)(email:String)(u:User):State:=
 {s with users:=Function.update s.users email (some u)}

def State.setChallenge(s:State)(token:Token)(c:Option TOTPChallenge):State:=
 {s with challenges:=Function.update s.challenges token c}

/-- An expired challenge reads as gone from then on, so a lookup can drop it. -/
def State.sweep(s:State)(now:Nat):State:=
 {s with challenges:=fun token=>(s.challenges token).filter fun c=>now<c.expiresAt}

def State.issue(s:State)(c:TOTPChallenge)(now:Nat):State:=
 { (s.sweep now).setChallenge s.nextToken (some c) with nextToken:=s.nextToken+1}

def State.guess(s:State)(token:Token):State:=
 {s with guesses:=Function.update s.guesses token (s.guesses token+1)}

inductive Call
 | now
 | putChallenge (c:TOTPChallenge)
 | getChallenge (token:Token)
 | deleteChallenge (token:Token)
 | incrAttempts (token:Token)
 | getByEmail (email:String)
 | putUser (email:String)(u:User)
 | advanceTOTPStep (email:String)(step:Nat)
 | removeRecoveryCode (email:String)(hash:Hash)
 | validateTOTPStep (token:Token)(code:String)(secret:Nat)
 | matchRecoveryCode (token:Token)(hashes:List Hash)(code:String)
 | newSecret
 | generateRecoveryCodes

@[reducible] def Res:Call→Type
 | .now=>Nat
 | .putChallenge _=>Token
 | .getChallenge _=>Option TOTPChallenge
 | .deleteChallenge _=>Unit
 | .incrAttempts _=>Option Nat
 | .getByEmail _=>Option User
 | .putUser _ _=>Bool
 | .advanceTOTPStep _ _=>Option Bool
 | .removeRecoveryCode _ _=>Option Bool
 | .validateTOTPStep _ _ _=>Option Nat
 | .matchRecoveryCode _ _ _=>Option Hash
 | .newSecret=>Nat
 | .generateRecoveryCodes=>List Hash

@[reducible] def sig:Sig where
 Call:=Call
 Res:=Res

abbrev ask(c:Call):Prog sig (Res c):=Prog.ask (S:=sig) c

/-- The clock, whether the store fails the call and whether a write that it reports as
 failed took place all the same, and what is drawn at random. -/
structure Oracle where
 now:Nat:=0
 fails:Bool:=false
 applied:Bool:=false
 secret:Nat:=0
 codes:List String:=[]

def Oracle.write(o:Oracle)(s s':State):State:=if o.fails&&!o.applied then s else s'

def update(o:Oracle)(s:State)(email:String)(f:User→Option User):Option Bool×State:=
 match s.users email with
 | none=>(none,s)
 | some u=>
  match f u with
  | none=>(if o.fails then none else some false,s)
  | some u'=>(if o.fails then none else some true,o.write s (s.putUser email u'))

def advance(step:Nat)(u:User):Option User:=
 if step ≤ u.totpLastStep then none else some {u with totpLastStep:=step}

def remove(hash:Hash)(u:User):Option User:=
 if hash∈u.recoveryCodeHashes then some {u with recoveryCodeHashes:=u.recoveryCodeHashes.erase hash} else none

def newHashes(salt:Nat)(codes:List String):List Hash:=codes.mapIdx (fun i code=>⟨salt+i,code⟩)

def step:(c:Call)→Oracle→State→Res c×State
 | .now,o,s=>(o.now,s)
 | .putChallenge c,o,s=>(s.nextToken,o.write s (s.issue c o.now))
 | .getChallenge token,o,s=>if o.fails then (none,s) else ((s.sweep o.now).challenges token,s.sweep o.now)
 | .deleteChallenge token,o,s=>((),o.write s (s.setChallenge token none))
 | .incrAttempts token,o,s=>
  match (s.sweep o.now).challenges token with
  | none=>(none,s.sweep o.now)
  | some c=>(if o.fails then none else some (c.attempts+1),
   o.write s ((s.sweep o.now).setChallenge token (some {c with attempts:=c.attempts+1})))
 | .getByEmail email,o,s=>(if o.fails then none else s.users email,s)
 | .putUser email u,o,s=>(!o.fails,o.write s (s.putUser email u))
 | .advanceTOTPStep email step,o,s=>update o s email (advance step)
 | .removeRecoveryCode email hash,o,s=>update o s email (remove hash)
 | .validateTOTPStep token code secret,o,s=>(validateTOTPStep cfg code secret o.now,s.guess token)
 | .matchRecoveryCode token hashes code,_,s=>(matchRecoveryCode hashes code,s.guess token)
 | .newSecret,o,s=>(o.secret,s)
 | .generateRecoveryCodes,o,s=>(newHashes s.nextSalt o.codes,{s with nextSalt:=s.nextSalt+o.codes.length})

structure Attempt where
 token:Token
 code:String:=""
 recoveryCode:String:=""
 deriving DecidableEq

/-- Each wrong guess costs an attempt, and the challenge dies at the cap. -/
def recordWrongGuess(token:Token):Prog sig Unit:=do
 match←ask (.incrAttempts token) with
 | none=>pure ()
 | some n=>
  if maxTOTPChallengeAttempts ≤ n then
   let _←ask (.deleteChallenge token)
   pure ()
  else pure ()

def settle(token:Token):Option Bool→Prog sig Unit
 | none=>pure ()
 | some false=>recordWrongGuess token
 | some true=>do
  let _←ask (.deleteChallenge token)
  pure ()

def checkTOTP(token:Token)(email:String)(u:User)(secret:Nat)(code:String):Prog sig Unit:=do
 match←ask (.validateTOTPStep token code secret) with
 | none=>recordWrongGuess token
 | some step=>
  -- a code stays valid for some time, so the step it consumed must be refused
  if u.totpLastStep≠0∧step ≤ u.totpLastStep then recordWrongGuess token
  else do
   let advanced←ask (.advanceTOTPStep email step)
   settle token advanced

def checkRecoveryCode(token:Token)(email:String)(u:User)(code:String):Prog sig Unit:=do
 match←ask (.matchRecoveryCode token u.recoveryCodeHashes code) with
 | none=>recordWrongGuess token
 | some hash=>
  let removed←ask (.removeRecoveryCode email hash)
  settle token removed

def checkGuess(a:Attempt)(email:String)(u:User)(secret:Nat):Prog sig Unit:=
 if a.code≠"" then checkTOTP a.token email u secret a.code
 else if a.recoveryCode≠"" then checkRecoveryCode a.token email u a.recoveryCode
 else pure ()

def consumeTOTPChallenge(a:Attempt):Prog sig Unit:=do
 match←ask (.getChallenge a.token) with
 | none=>pure ()
 | some c=>
  let now←ask .now
  if c.expiresAt<now then
   let _←ask (.deleteChallenge a.token)
   pure ()
  else
   match←ask (.getByEmail c.email) with
   | none=>pure ()
   | some u=>
    match u.totpSecretEnc with
    | none=>pure ()
    | some secret=>if u.totpEnabled then checkGuess a c.email u secret else pure ()

def issueTOTPChallenge(email:String):Prog sig Unit:=do
 let now←ask .now
 let _←ask (.putChallenge {email:=email,expiresAt:=now+TOTPChallengeTTL})
 pure ()

def putUser(email:String)(u:User):Prog sig Unit:=do
 let _←ask (.putUser email u)
 pure ()

def enrolStart(email:String):Prog sig Unit:=do
 match←ask (.getByEmail email) with
 | none=>pure ()
 | some u=>
  if u.totpEnabled then pure ()
  else do
   let secret←ask .newSecret
   putUser email {u with totpSecretEnc:=some secret,totpEnabled:=false,totpEnrolledAt:=none}

def enrolConfirm(email code:String):Prog sig Unit:=do
 match←ask (.getByEmail email) with
 | none=>pure ()
 | some u=>
  if u.totpEnabled then pure ()
  else
   match u.totpSecretEnc with
   | none=>pure ()
   | some secret=>
    let now←ask .now
    match validateTOTPStep cfg code secret now with
    | none=>pure ()
    | some _=>
     let hashes←ask .generateRecoveryCodes
     let now←ask .now
     -- the step of this code is left to the first sign-in
     putUser email {u with recoveryCodeHashes:=hashes,totpEnabled:=true,totpEnrolledAt:=some now}

def disableTOTP(email:String):Prog sig Unit:=do
 match←ask (.getByEmail email) with
 | none=>pure ()
 | some u=>
  putUser email {u with totpSecretEnc:=none,totpEnabled:=false,totpEnrolledAt:=none,recoveryCodeHashes:=[]}

def regenerateRecoveryCodes(email:String):Prog sig Unit:=do
 match←ask (.getByEmail email) with
 | none=>pure ()
 | some u=>
  if u.totpEnabled then do
   let hashes←ask .generateRecoveryCodes
   putUser email {u with recoveryCodeHashes:=hashes}
  else pure ()

/-- The other handlers that read a user, change other columns and write the whole row. -/
def rewriteUser(email:String)(other:Nat):Prog sig Unit:=do
 match←ask (.getByEmail email) with
 | none=>pure ()
 | some u=>putUser email {u with other:=other}

end Machine

inductive Entry
 | issue (email:String)
 | consume (a:Attempt)
 | enrolStart (email:String)
 | enrolConfirm (email code:String)
 | disable (email:String)
 | regenerate (email:String)
 | rewrite (email:String)(other:Nat)

@[reducible] def machine(cfg:Config):Machine sig where
 State:=State
 Oracle:=Oracle
 step:=step cfg
 Entry:=Entry
 entry
  | .issue email=>issueTOTPChallenge email
  | .consume a=>consumeTOTPChallenge a
  | .enrolStart email=>enrolStart email
  | .enrolConfirm email code=>enrolConfirm cfg email code
  | .disable email=>disableTOTP email
  | .regenerate email=>regenerateRecoveryCodes email
  | .rewrite email other=>rewriteUser email other

inductive Factor
 | totp (step:Nat)
 | recoveryCode (hash:Hash)
 deriving DecidableEq

inductive Change
 | start
 | confirm (code:String)
 | disable
 | regenerate
 | rewrite (other:Nat)
 deriving DecidableEq

inductive Stage
 | fetching (a:Attempt)
 | timing (a:Attempt)(c:TOTPChallenge)
 | expired (token:Token)
 | loading (a:Attempt)(email:String)
 | validating (token:Token) (email:String) (u:User) (secret:Nat) (code:String)
 | matching (token:Token) (email:String) (u:User) (code:String)
 | consuming (token:Token) (email:String) (factor:Factor)
 | counting (token:Token)
 | capping (token:Token)
 | winning (token:Token) (email:String) (factor:Factor)
 | passed (token:Token) (email:String) (factor:Factor)
 | opening (email:String)
 | issuing (email:String) (expiresAt:Nat)
 | reading (email:String) (change:Change)
 | drawing (email:String) (u:User)
 | confirming (email:String) (u:User) (secret:Nat) (code:String)
 | generating (email:String) (u:User) (confirm:Bool)
 | stamping (email:String) (u:User)
 | writing (email:String) (u:User)
 | ended
 deriving DecidableEq

def Stage.first:Entry→Stage
 | .issue email=>.opening email
 | .consume a=>.fetching a
 | .enrolStart email=>.reading email .start
 | .enrolConfirm email code=>.reading email (.confirm code)
 | .disable email=>.reading email .disable
 | .regenerate email=>.reading email .regenerate
 | .rewrite email other=>.reading email (.rewrite other)

def Stage.guessing(a:Attempt)(email:String)(u:User)(secret:Nat):Stage:=
 if a.code≠"" then .validating a.token email u secret a.code
 else if a.recoveryCode≠"" then .matching a.token email u a.recoveryCode
 else .ended

def Stage.loaded(a:Attempt)(email:String)(u:User):Stage:=
 match u.totpSecretEnc with
 | none=>.ended
 | some secret=>if u.totpEnabled then .guessing a email u secret else .ended

def Stage.changing(email:String)(u:User):Change→Stage
 | .start=>if u.totpEnabled then .ended else .drawing email u
 | .confirm code=>
  if u.totpEnabled then .ended
  else
   match u.totpSecretEnc with
   | none=>.ended
   | some secret=>.confirming email u secret code
 | .disable=>
  .writing email {u with totpSecretEnc:=none,totpEnabled:=false,totpEnrolledAt:=none,recoveryCodeHashes:=[]}
 | .regenerate=>if u.totpEnabled then .generating email u false else .ended
 | .rewrite other=>.writing email {u with other:=other}

def Stage.next(cfg:Config):Stage→(c:Call)→Res c→Stage
 | .fetching a,.getChallenge _,some c=>.timing a c
 | .timing a c,.now,now=>if c.expiresAt<now then .expired a.token else .loading a c.email
 | .loading a email,.getByEmail _,some u=>.loaded a email u
 | .validating token email u _ _,.validateTOTPStep _ _ _,some step=>
  if u.totpLastStep≠0∧step ≤ u.totpLastStep then .counting token else .consuming token email (.totp step)
 | .validating token _ _ _ _,.validateTOTPStep _ _ _,none=>.counting token
 | .matching token email _ _,.matchRecoveryCode _ _ _,some hash=>.consuming token email (.recoveryCode hash)
 | .matching token _ _ _,.matchRecoveryCode _ _ _,none=>.counting token
 | .consuming token email factor,.advanceTOTPStep _ _,some true=>.winning token email factor
 | .consuming token _ _,.advanceTOTPStep _ _,some false=>.counting token
 | .consuming token email factor,.removeRecoveryCode _ _,some true=>.winning token email factor
 | .consuming token _ _,.removeRecoveryCode _ _,some false=>.counting token
 | .counting token,.incrAttempts _,some n=>if maxTOTPChallengeAttempts ≤ n then .capping token else .ended
 | .winning token email factor,.deleteChallenge _,_=>.passed token email factor
 | .opening email,.now,now=>.issuing email (now+TOTPChallengeTTL)
 | .reading email change,.getByEmail _,some u=>.changing email u change
 | .drawing email u,.newSecret,secret=>
  .writing email {u with totpSecretEnc:=some secret,totpEnabled:=false,totpEnrolledAt:=none}
 | .confirming email u secret code,.now,now=>
  if (validateTOTPStep cfg code secret now).isSome then .generating email u true else .ended
 | .generating email u confirm,.generateRecoveryCodes,hashes=>
  if confirm then .stamping email {u with recoveryCodeHashes:=hashes}
  else .writing email {u with recoveryCodeHashes:=hashes}
 | .stamping email u,.now,now=>.writing email {u with totpEnabled:=true,totpEnrolledAt:=some now}
 | _,_,_=>.ended

def Stage.allows:Stage→Call→Prop
 | .fetching a,.getChallenge token=>token=a.token
 | .timing _ _,.now=>True
 | .expired token,.deleteChallenge token'=>token'=token
 | .loading _ email,.getByEmail email'=>email'=email
 | .validating token _ _ secret code,.validateTOTPStep token' code' secret'=>
  token'=token∧code'=code∧secret'=secret
 | .matching token _ u code,.matchRecoveryCode token' hashes code'=>
  token'=token∧hashes=u.recoveryCodeHashes∧code'=code
 | .consuming _ email factor,.advanceTOTPStep email' step=>email'=email∧factor=.totp step
 | .consuming _ email factor,.removeRecoveryCode email' hash=>email'=email∧factor=.recoveryCode hash
 | .counting token,.incrAttempts token'=>token'=token
 | .capping token,.deleteChallenge token'=>token'=token
 | .winning token _ _,.deleteChallenge token'=>token'=token
 | .opening _,.now=>True
 | .issuing email expiresAt,.putChallenge c=>c={email:=email,expiresAt:=expiresAt}
 | .reading email _,.getByEmail email'=>email'=email
 | .drawing _ _,.newSecret=>True
 | .confirming _ _ _ _,.now=>True
 | .generating _ _ _,.generateRecoveryCodes=>True
 | .stamping _ _,.now=>True
 | .writing email u,.putUser email' u'=>email'=email∧u'=u
 | _,_=>False

@[reducible] def stages(cfg:Config):Protocol (machine cfg) where
 Stage:=Stage
 first:=Stage.first
 next:=Stage.next cfg
 allowed:=Stage.allows

section Follows

open Protocol

variable {cfg:Config}

lemma obeys_recordWrongGuess(token):
 (stages cfg).Obeys (recordWrongGuess token) (.counting token) (fun _ _=>True):=by
 exact obeys_call rfl fun
  | none=>obeys_done trivial
  | some _=>obeys_ite (fun _=>obeys_end rfl) fun _=>obeys_done trivial

def settled(token:Token)(email:String)(factor:Factor):Option Bool→Stage
 | none=>.ended
 | some false=>.counting token
 | some true=>.winning token email factor

lemma obeys_settle{n token email factor r}
 (hn:n=settled token email factor r):(stages cfg).Obeys (settle token r) n (fun _ _=>True):=by
 subst hn
 match r with
 | none=>exact obeys_done trivial
 | some false=>exact obeys_recordWrongGuess token
 | some true=>exact obeys_end rfl
lemma next_advance(token email factor step r):
 Stage.next cfg (.consuming token email factor) (.advanceTOTPStep email step) r=settled token email factor r:=by
 match r with
 | none=>rfl
 | some false=>rfl
 | some true=>rfl
lemma next_remove(token email factor hash r):
 Stage.next cfg (.consuming token email factor) (.removeRecoveryCode email hash) r=settled token email factor r:=by
 match r with
 | none=>rfl
 | some false=>rfl
 | some true=>rfl
lemma obeys_checkTOTP(token email u secret code):
 (stages cfg).Obeys (checkTOTP token email u secret code) (.validating token email u secret code) (fun _ _=>True):=by
 refine obeys_call ⟨rfl,rfl,rfl⟩ fun
  | none=>obeys_recordWrongGuess token
  | some step=>obeys_ite (fun _=>obeys_recordWrongGuess token) fun _=>?_
 refine obeys_call ⟨rfl,rfl⟩ fun r=>?_
 exact obeys_settle (next_advance token email (.totp step) step r)
lemma obeys_checkRecoveryCode(token email u code):
 (stages cfg).Obeys (checkRecoveryCode token email u code) (.matching token email u code) (fun _ _=>True):=by
 refine obeys_call ⟨rfl,rfl,rfl⟩ fun
  | none=>obeys_recordWrongGuess token
  | some hash=>?_
 refine obeys_call ⟨rfl,rfl⟩ fun r=>?_
 exact obeys_settle (next_remove token email (.recoveryCode hash) hash r)
lemma obeys_checkGuess(a email u secret):
 (stages cfg).Obeys (checkGuess a email u secret) (.guessing a email u secret) (fun _ _=>True):=by
 refine obeys_ite (fun _=>obeys_checkTOTP a.token email u secret a.code) fun _=>?_
 exact obeys_ite (fun _=>obeys_checkRecoveryCode a.token email u a.recoveryCode) fun _=>obeys_done trivial
lemma obeys_consume(a):
 (stages cfg).Obeys (consumeTOTPChallenge a) (.fetching a) (fun _ _=>True):=by
 refine obeys_call rfl fun
  | none=>obeys_done trivial
  | some c=>?_
 refine obeys_call trivial fun now=>obeys_ite (fun _=>obeys_end rfl) fun _=>?_
 refine obeys_call rfl fun
  | none=>obeys_done trivial
  | some u=>?_
 obtain ⟨secretEnc,enabled,enrolledAt,hashes,lastStep,other⟩:=u
 cases secretEnc with
 | none=>exact obeys_done trivial
 | some secret=>
  cases enabled with
  | false=>exact obeys_done trivial
  | true=>exact obeys_checkGuess a c.email _ secret
lemma obeys_putUser(email u):
 (stages cfg).Obeys (putUser email u) (.writing email u) (fun _ _=>True):=
 obeys_end ⟨rfl,rfl⟩
lemma follows(cfg):(stages cfg).Follows (fun _=>True) where
 entries e:=by
  cases e with
  | issue email=>exact obeys_call trivial (fun now=>obeys_end rfl)
  | consume a=>exact obeys_consume a
  | enrolStart email=>
   refine obeys_call rfl fun
    | none=>obeys_done trivial
    | some u=>obeys_ite (fun _=>obeys_done trivial) fun _=>obeys_call trivial fun secret=>obeys_putUser email _
  | enrolConfirm email code=>
   refine obeys_call rfl fun
    | none=>obeys_done trivial
    | some u=>?_
   obtain ⟨secretEnc,enabled,enrolledAt,hashes,lastStep,other⟩:=u
   cases enabled with
   | true=>exact obeys_done trivial
   | false=>?_
   cases secretEnc with
   | none=>exact obeys_done trivial
   | some secret=>?_
   refine obeys_call trivial fun now=>?_
   change (stages cfg).Obeys (match validateTOTPStep cfg code secret now with
    | none=>pure ()
    | some _=>_) (if (validateTOTPStep cfg code secret now).isSome then Stage.generating email _ true else .ended) _
   cases validateTOTPStep cfg code secret now with
   | none=>exact obeys_done trivial
   | some _=>exact obeys_call trivial (fun hashes=>obeys_call trivial fun now=>obeys_putUser email _)
  | disable email | rewrite email other=>
   exact obeys_call rfl fun
    | none=>obeys_done trivial
    | some u=>obeys_putUser email _
  | regenerate email=>
   refine obeys_call rfl fun
    | none=>obeys_done trivial
    | some u=>obeys_ite (fun _=>obeys_call trivial fun hashes=>obeys_putUser email _) fun _=>obeys_done trivial

end Follows

def Factor.consume:Factor→User→Option User
 | .totp step=>advance step
 | .recoveryCode hash=>remove hash

/-- The token of the challenge that the request has got hold of. -/
def Stage.on:Stage→Option Token
 | .timing a _ | .loading a _=>some a.token
 | .expired token | .validating token _ _ _ _ | .matching token _ _ _ | .consuming token _ _ | .counting token
 | .capping token | .winning token _ _ | .passed token _ _=>some token
 | _=>none

def Stage.early:Stage→Bool
 | .timing _ _ | .expired _ | .loading _ _ | .validating _ _ _ _ _ | .matching _ _ _ _=>true
 | _=>false

inductive Shift(fails:Bool)(s:State):Stage→State→Stage→Prop
 | quits {n} (hn:n.on=none∨n.early):Shift fails s n s .ended
 | fetches {a c now} (hc:(s.sweep now).challenges a.token=some c):
  Shift fails s (.fetching a) (s.sweep now) (.timing a c)
 | unknown {a now}:Shift fails s (.fetching a) (s.sweep now) .ended
 | times {a c}:Shift fails s (.timing a c) s (.loading a c.email)
 | expires {a c}:Shift fails s (.timing a c) s (.expired a.token)
 | loads {a email u} (hu:s.users email=some u):
  Shift fails s (.loading a email) s (.loaded a email u)
 | validates {token email code u secret step}:
  Shift fails s (.validating token email u secret code) (s.guess token) (.consuming token email (.totp step))
 | redeems {token email code u hash} (hh:hash∈u.recoveryCodeHashes):
  Shift fails s (.matching token email u code) (s.guess token) (.consuming token email (.recoveryCode hash))
 | misses {n token}
  (hn:(∃ email u secret code,n=.validating token email u secret code)∨∃ email u code,n=.matching token email u code):
  Shift fails s n (s.guess token) (.counting token)
 | consumes {token email factor u u'} (hu:s.users email=some u)
  (hf:factor.consume u=some u'):
  Shift fails s (.consuming token email factor) (s.putUser email u') (.winning token email factor)
 | loses {token email factor}:Shift fails s (.consuming token email factor) s (.counting token)
 | breaks {token email factor s'} (hb:fails∨s.users email=none)
  (hs:s'=s∨∃ u u',s.users email=some u∧factor.consume u=some u'∧s'=s.putUser email u'):
  Shift fails s (.consuming token email factor) s' .ended
 | counts {token c now} (hc:(s.sweep now).challenges token=some c):
  Shift fails s (.counting token) ((s.sweep now).setChallenge token (some {c with attempts:=c.attempts+1}))
   (if maxTOTPChallengeAttempts ≤ c.attempts+1 then .capping token else .ended)
 | uncounted {token now} (hc:(s.sweep now).challenges token=none):
  Shift fails s (.counting token) (s.sweep now) .ended
 -- the challenge store fails a call that follows the comparison
 | slips {n n' token challenges} (hf:fails)
  (hn:(n=.counting token∨n=.capping token)∧n'=.ended∨
   ∃ email factor,n=.winning token email factor∧n'=.passed token email factor)
  (hc:∀ k,k≠token→challenges k=s.challenges k∨challenges k=none):
  Shift fails s n {s with challenges:=challenges} n'
 | wins {token email factor}:
  Shift fails s (.winning token email factor) (s.setChallenge token none) (.passed token email factor)
 | deletes {n token} (hn:n=.expired token∨n=.capping token):
  Shift fails s n (s.setChallenge token none) .ended
 | opens {email expiresAt}:Shift fails s (.opening email) s (.issuing email expiresAt)
 | issues {email expiresAt now}:
  Shift fails s (.issuing email expiresAt) (s.issue {email:=email,expiresAt:=expiresAt} now) .ended
 | reads {email change u} (hu:s.users email=some u):
  Shift fails s (.reading email change) s (.changing email u change)
 | draws {email u secret}:
  Shift fails s (.drawing email u) s
   (.writing email {u with totpSecretEnc:=some secret,totpEnabled:=false,totpEnrolledAt:=none})
 | confirms {email code u secret}:Shift fails s (.confirming email u secret code) s (.generating email u true)
 | generates {email u confirm codes n'}
  (hn:n'=.stamping email {u with recoveryCodeHashes:=newHashes s.nextSalt codes}∨
   n'=.writing email {u with recoveryCodeHashes:=newHashes s.nextSalt codes}):
  Shift fails s (.generating email u confirm) {s with nextSalt:=s.nextSalt+codes.length} n'
 | stamps {email u now}:
  Shift fails s (.stamping email u) s (.writing email {u with totpEnabled:=true,totpEnrolledAt:=some now})
 | writes {email u}:Shift fails s (.writing email u) (s.putUser email u) .ended

section Shift

variable {cfg:Config}{s s':State}{n n':Stage}

lemma shift_write{o:Oracle}{fails}(hkept:o.fails→Shift fails s n s n')(hdone:Shift fails s n s' n'):
 Shift fails s n (o.write s s') n':=by
 unfold Oracle.write
 split_ifs with h
 ·exact hkept (Bool.and_eq_true_iff.1 h).1
 ·exact hdone
lemma shift_update(o:Oracle)(token:Token)(email:String)(factor:Factor):
 Shift o.fails s (.consuming token email factor) (update o s email factor.consume).2
  (settled token email factor (update o s email factor.consume).1):=by
 unfold update
 cases hu:s.users email with
 | none=>exact .breaks (.inr hu) (.inl rfl)
 | some u=>?_
 dsimp only
 cases hf:factor.consume u with
 | none=>
  cases hfail:o.fails with
  | true=>exact .breaks (.inl rfl) (.inl rfl)
  | false=>exact .loses
 | some u'=>
  cases hfail:o.fails with
  | false=>
   simp only[Oracle.write,hfail,Bool.false_and,Bool.false_eq_true,if_false]
   exact .consumes hu hf
  | true=>
   exact shift_write (fun _=>.breaks (.inl rfl) (.inl rfl))
    (.breaks (.inl rfl) (.inr ⟨u,u',hu,hf,rfl⟩))
lemma sweep_cases(s:State)(now:Nat)(k:Token):
 (s.sweep now).challenges k=s.challenges k∨(s.sweep now).challenges k=none:=by
 simp only[State.sweep]
 cases s.challenges k with
 | none=>exact .inl rfl
 | some c=>
  rw[Option.filter_some]
  split_ifs
  ·exact .inl rfl
  ·exact .inr rfl

abbrev Moves(cfg:Config)(o:Oracle)(s:State)(n:Stage)(call:Call):Prop:=
 Shift o.fails s n (step cfg call o s).2 (n.next cfg call (step cfg call o s).1)

variable {o:Oracle}{token:Token}{email:String}{u:User}

lemma moves_getChallenge(a):Moves cfg o s (.fetching a) (.getChallenge a.token):=by
 simp only[Moves,step]
 split_ifs
 ·exact .quits (.inl rfl)
 ·cases hc:(s.sweep o.now).challenges a.token with
  | none=>exact .unknown
  | some c=>exact .fetches hc
lemma moves_getByEmail{n}(hquit:n.on=none∨n.early)(hnone:n.next cfg (.getByEmail email) none=.ended)
 (hsome:∀ u,s.users email=some u→Shift o.fails s n s (n.next cfg (.getByEmail email) (some u))):
 Moves cfg o s n (.getByEmail email):=by
 simp only[Moves,step]
 split_ifs
 ·exact hnone▸.quits hquit
 ·cases hu:s.users email with
  | none=>exact hnone▸.quits hquit
  | some u=>exact hsome u hu
lemma moves_validate(secret code):
 Moves cfg o s (.validating token email u secret code) (.validateTOTPStep token code secret):=by
 simp only[Moves,step]
 cases validateTOTPStep cfg code secret o.now with
 | none=>exact .misses (.inl ⟨_,_,_,_,rfl⟩)
 | some step=>
  simp only[Stage.next]
  split_ifs
  ·exact .misses (.inl ⟨_,_,_,_,rfl⟩)
  ·exact .validates
lemma moves_match(code):
 Moves cfg o s (.matching token email u code) (.matchRecoveryCode token u.recoveryCodeHashes code):=by
 simp only[Moves,step]
 cases hm:matchRecoveryCode u.recoveryCodeHashes code with
 | none=>exact .misses (.inr ⟨_,_,_,rfl⟩)
 | some hash=>exact .redeems (List.mem_of_find?_eq_some hm)
lemma moves_incrAttempts:Moves cfg o s (.counting token) (.incrAttempts token):=by
 simp only[Moves,step]
 cases hc:(s.sweep o.now).challenges token with
 | none=>exact .uncounted hc
 | some c=>?_
 cases hf:o.fails with
 | false=>
  simp only[Oracle.write,hf,Bool.false_and,Bool.false_eq_true,if_false]
  exact .counts hc
 | true=>
  refine shift_write (fun _=>.slips rfl (.inl ⟨.inl rfl,rfl⟩) fun _ _=>.inl rfl)
   (.slips rfl (.inl ⟨.inl rfl,rfl⟩) fun k hk=>?_)
  rw[Function.update_of_ne hk]
  exact sweep_cases s o.now k
lemma shift_of_allows{call}(hall:n.allows call)(o:Oracle):Moves cfg o s n call:=by
 cases n with
 | fetching a=>
  cases call<;>cases hall
  exact moves_getChallenge a
 | timing a c=>
  cases call<;>cases hall
  change Shift o.fails s (.timing a c) s (if c.expiresAt<o.now then .expired a.token else .loading a c.email)
  split
  ·exact .expires
  ·exact .times
 | expired token=>
  cases call<;>cases hall
  exact shift_write (fun _=>.quits (.inr rfl)) (.deletes (.inl rfl))
 | loading a email=>
  cases call<;>cases hall
  exact moves_getByEmail (.inr rfl) rfl fun u hu=>.loads hu
 | validating token email u secret code=>
  cases call<;>obtain ⟨rfl,rfl,rfl⟩:=hall
  exact moves_validate _ _
 | matching token email u code=>
  cases call<;>obtain ⟨rfl,rfl,rfl⟩:=hall
  exact moves_match _
 | consuming token email factor=>
  cases call<;>simp only[Stage.allows] at hall
  ·obtain ⟨rfl,rfl⟩:=hall
   rw[Moves,next_advance]
   exact shift_update o token _ (.totp _)
  ·obtain ⟨rfl,rfl⟩:=hall
   rw[Moves,next_remove]
   exact shift_update o token _ (.recoveryCode _)
 | counting token=>
  cases call<;>cases hall
  exact moves_incrAttempts
 | capping token=>
  cases call<;>cases hall
  exact shift_write (fun hf=>.slips hf (.inl ⟨.inr rfl,rfl⟩) fun _ _=>.inl rfl)
   (.deletes (.inr rfl))
 | winning token email factor=>
  cases call<;>cases hall
  exact shift_write (fun hf=>.slips hf (.inr ⟨_,_,rfl,rfl⟩) fun _ _=>.inl rfl) .wins
 | opening email=>
  cases call<;>cases hall
  exact .opens
 | issuing email expiresAt=>
  cases call<;>cases hall
  exact shift_write (fun _=>.quits (.inl rfl)) .issues
 | reading email change=>
  cases call<;>cases hall
  exact moves_getByEmail (.inl rfl) rfl fun u hu=>.reads hu
 | drawing email u=>
  cases call<;>cases hall
  exact .draws
 | confirming email u secret code=>
  cases call<;>cases hall
  change Shift o.fails s (.confirming email u secret code) s
   (if (validateTOTPStep cfg code secret o.now).isSome then .generating email u true else .ended)
  split
  ·exact .confirms
  ·exact .quits (.inl rfl)
 | generating email u confirm=>
  cases call<;>cases hall
  refine .generates ?_
  simp only[step,Stage.next]
  split_ifs
  ·exact .inl rfl
  ·exact .inr rfl
 | stamping email u=>
  cases call<;>cases hall
  exact .stamps
 | writing email u=>
  cases call<;>obtain ⟨rfl,rfl⟩:=hall
  exact shift_write (fun _=>.quits (.inl rfl)) .writes
 | _=>cases call<;>cases hall

end Shift

def standing{cfg}(P:Pool (machine cfg)):List Stage:=(stages cfg).stages P

end Dazyflow.TwoFactor
