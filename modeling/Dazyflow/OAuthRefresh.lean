import Mathlib

/-!
# Refreshing a stored connection

`GetOAuthToken` reads the stored token of an account and refreshes it when it is about to expire.
-/
namespace Dazyflow.OAuthRefresh

structure Token where
 (access refresh:String)
 expiresAt:Option Int
 extras:List (String×String)

def refreshSkew:Int:=60*10 ^ 9

def tokenNeedsRefresh(now:Int)(tok:Token):Bool:=tok.refresh≠""&&tok.expiresAt.any (fun t=>t<now+refreshSkew)

/-- What the provider leaves out of its answer is taken from the token that was sent. -/
def merged(current fresh:Token):Token:=
 { fresh with
  refresh:=if fresh.refresh="" then current.refresh else fresh.refresh
  extras:=if fresh.extras=[] then current.extras else fresh.extras}

/-- Where a call of `GetOAuthToken` is, with the token it read and the write it read it after. -/
inductive Phase
 | idle
 | waiting (current:Token)(seen:Nat)
 | locked (current:Token)(seen:Nat)
 | ready (current:Token)(seen:Nat)
 | sent (current:Token)(seen:Nat)
 | storing (current:Token)(seen:Nat)(fresh:Token)
 | finished (tok:Option Token)

/-- One account on one instance. The last two fields are kept for the proofs: the number of
writes and deletions so far, and the refresh tokens the provider has replaced. -/
structure State where
 now:Int
 stored:Option Token
 lock:Option Nat
 phase:Nat→Phase
 version:Nat
 spent:List String

inductive Action
 | call (i:Nat)
 | lock (i:Nat)
 | reload (i:Nat)(readable:Bool)
 | send (i:Nat)
 | answer (i:Nat)(reply:Option Token)
 | store (i:Nat)(ok:Bool)
 | reconnect (tok:Token)
 | disconnect
 | wait (d:Nat)

def State.move(s:State)(i:Nat)(ph:Phase)(lock:Option Nat):State:=
 {s with phase:=Function.update s.phase i ph,lock:=lock}

def State.write(s:State)(stored:Option Token):State:={s with stored:=stored,version:=s.version+1}

def State.replaced(s:State)(old new:Token):State:=
 {s with spent:=if new.refresh=old.refresh then s.spent else old.refresh::s.spent}

section Calls

variable (configured:Bool)(s:State)

def call(i:Nat):State:=
 match s.stored with
 | none=>s.move i (.finished none) s.lock
 | some tok=>
  if tokenNeedsRefresh s.now tok&&configured then s.move i (.waiting tok s.version) s.lock
  else s.move i (.finished (some tok)) s.lock

-- a token that cannot be read counts as one that needs the refresh
def reload(i:Nat)(current:Token)(seen:Nat)(readable:Bool):State:=
 match s.stored with
 | none=>s.move i (.ready current seen) s.lock
 | some latest=>
  if readable&&!tokenNeedsRefresh s.now latest then s.move i (.finished (some latest)) none
  else s.move i (.ready current seen) s.lock

def step:Action→Option State
 | .call i=>
  match s.phase i with
  | .idle | .finished _=>some (call configured s i)
  | _=>none
 | .lock i=>
  match s.phase i,s.lock with
  | .waiting current seen,none=>some (s.move i (.locked current seen) (some i))
  | _,_=>none
 | .reload i readable=>
  match s.phase i with
  | .locked current seen=>some (reload s i current seen readable)
  | _=>none
 | .send i=>
  match s.phase i with
  | .ready current seen=>some (s.move i (.sent current seen) s.lock)
  | _=>none
 | .answer i reply=>
  match s.phase i,reply with
  | .sent current _,none=>some (s.move i (.finished (some current)) none)
  | .sent current seen,some fresh=>
   some ((s.move i (.storing current seen (merged current fresh)) s.lock).replaced current (merged current fresh))
  | _,_=>none
 | .store i ok=>
  match s.phase i with
  | .storing current _ fresh=>
   if ok then some ((s.move i (.finished (some fresh)) none).write (some fresh))
   else some (s.move i (.finished (some current)) none)
  | _=>none
 | .reconnect tok=>some (s.write (some tok))
 | .disconnect=>some (s.write none)
 | .wait d=>some {s with now:=s.now+d}

end Calls

/-- A request carries the refresh token that is stored, and not one the provider has replaced; a
refreshed token is stored only if nothing was stored or deleted since the refresh began. -/
def Respects(s:State):Action→Prop
 | .send i=>∀ current seen,s.phase i=.ready current seen→
  (∃ tok,s.stored=some tok∧tok.refresh=current.refresh)∧current.refresh∉s.spent
 | .store i _=>∀ current seen fresh,s.phase i=.storing current seen fresh → s.version=seen
 | _=>True

/-- The store is as it was read when the request goes out, accepts what comes back, and is
written by users only while no refresh holds the lock; refresh tokens are not handed out again. -/
def Meets(s:State):Action→Prop
 | .send i=>∀ current seen,s.phase i=.ready current seen → s.version=seen
 | .answer _ reply=>∀ fresh,reply=some fresh→fresh.refresh∉s.spent
 | .store _ ok=>ok
 | .reconnect tok=>s.lock=none∧tok.refresh∉s.spent
 | .disconnect=>s.lock=none
 | _=>True

inductive Run(configured:Bool)(s:State):State→Prop
 | refl:Run configured s s
 | step {t u a} (h:Run configured s t) (hmeets:Meets t a) (hstep:step configured t a=some u):
  Run configured s u

namespace Phase

def read:Phase→Option (Token×Nat)
 | waiting current seen | locked current seen | ready current seen | sent current seen | storing current seen _=>
  some (current,seen)
 | _=>none

def inside:Phase→Bool
 | locked _ _ | ready _ _ | sent _ _ | storing _ _ _=>true
 | _=>false

def posted:Phase→Bool
 | sent _ _ | storing _ _ _=>true
 | _=>false

def fresh:Phase→Option Token
 | storing _ _ fresh=>some fresh
 | _=>none

end Phase

structure Inv(s:State):Prop where
 holder:∀ i,(s.phase i).inside → s.lock=some i
 current:∀ i current seen,(s.phase i).read=some (current,seen)→
  seen ≤ s.version∧(s.version=seen → s.stored=some current)∧((s.phase i).posted → s.version=seen)
 fresh:∀ i tok,(s.phase i).fresh=some tok→tok.refresh∉s.spent
 unspent:∀ tok,s.stored=some tok→tok.refresh∈s.spent→∃ i,(s.phase i).fresh.isSome

variable {s:State}{i seen:Nat}{ph:Phase}

lemma Inv.alone(h:Inv s){j}(hi:s.lock=some i)(hj:(s.phase j).inside):j=i:=by
 have hlock:=h.holder j hj
 rw[hi] at hlock
 exact (Option.some.inj hlock).symm

structure Fits(s:State)(i:Nat)(ph:Phase):Prop where
 holder:ph.inside → s.lock=some i
 current:∀ current seen,ph.read=some (current,seen)→
  seen ≤ s.version∧(s.version=seen → s.stored=some current)∧(ph.posted → s.version=seen)
 fresh:∀ tok,ph.fresh=some tok→tok.refresh∉s.spent

lemma State.move_phase(s:State)(i j:Nat)(ph:Phase)(lock:Option Nat):
 (s.move i ph lock).phase j=if j=i then ph else s.phase j:=Function.update_apply s.phase i ph j
open State (move_phase replaced)

lemma Inv.move(h:Inv s){lock}(hfits:Fits {s with lock:=lock} i ph)
 (hothers:∀ j,j≠i→(s.phase j).inside→lock=some j)(hspent:(s.phase i).fresh=none):
 Inv (s.move i ph lock):=by
 constructor
 ·intro j hj
  rw[move_phase] at hj
  split_ifs at hj with hji
  ·exact hji▸hfits.holder hj
  ·exact hothers j hji hj
 ·intro j current seen hj
  rw[move_phase] at hj ⊢
  split_ifs at hj ⊢
  ·exact hfits.current current seen hj
  ·exact h.current j current seen hj
 ·intro j tok hj
  rw[move_phase] at hj
  split_ifs at hj
  ·exact hfits.fresh tok hj
  ·exact h.fresh j tok hj
 ·intro tok htok hmem
  obtain ⟨j,hj⟩:=h.unspent tok htok hmem
  refine ⟨j,?_⟩
  rw[move_phase,if_neg fun hji=>?_]
  ·exact hj
  ·rw[hji,hspent] at hj
   cases hj
lemma fits_finished(s i tok):Fits s i (.finished tok):=
 ⟨(nomatch ·),fun _ _=>(nomatch ·),fun _=>(nomatch ·)⟩
lemma Inv.leave(h:Inv s)(hin:(s.phase i).inside)(hspent:(s.phase i).fresh=none)
 (tok):Inv (s.move i (.finished tok) none):=
 h.move (fits_finished _ _ _) (fun _ hji hj=>absurd (h.alone (h.holder i hin) hj) hji) hspent
lemma Inv.advance(h:Inv s)(hfits:Fits s i ph)(hspent:(s.phase i).fresh=none):
 Inv (s.move i ph s.lock):=h.move hfits (fun j _ hj=>h.holder j hj) hspent
lemma Inv.write(h:Inv s){stored}(hquiet:∀ i,(s.phase i).posted=false)
 (hstored:∀ tok,stored=some tok→tok.refresh∉s.spent):Inv (s.write stored):=by
 refine ⟨h.holder,fun i current seen hi=>?_,h.fresh,fun tok htok hmem=>absurd hmem (hstored tok htok)⟩
 have hle:seen ≤ s.version:=(h.current i current seen hi).1
 refine ⟨Nat.le_succ_of_le hle,fun heq=>?_,fun hposted=>?_⟩
 ·rw[State.write] at heq
  dsimp only at heq
  omega
 ·rw[State.write,hquiet i] at hposted
  cases hposted
lemma Inv.call(h:Inv s)(hspent:(s.phase i).fresh=none)(configured):
 Inv (call configured s i):=by
 unfold OAuthRefresh.call
 split
 next=>exact h.advance (fits_finished _ _ _) hspent
 next tok hstored=>
  split_ifs
  ·refine h.advance ⟨(nomatch ·),fun current seen hread=>?_,fun _=>(nomatch ·)⟩ hspent
   cases hread
   exact ⟨Nat.le_refl _,fun _=>hstored,(nomatch ·)⟩
  ·exact h.advance (fits_finished _ _ _) hspent
/-- A call goes on with the token it read. -/
lemma Inv.onward(h:Inv s){current lock}(hi:(s.phase i).read=some (current,seen))(hread:ph.read=some (current,seen))
 (hlock:lock=some i)(hfresh:ph.fresh=none)(hposted:ph.posted→s.version=seen):Fits {s with lock:=lock} i ph:=by
 refine ⟨fun _=>hlock,fun current' seen' hread'=>?_,fun tok htok=>?_⟩
 ·rw[hread] at hread'
  cases hread'
  obtain ⟨hle,hstored,-⟩:=h.current i current seen hi
  exact ⟨hle,hstored,hposted⟩
 ·rw[hfresh] at htok
  cases htok
lemma Inv.lock(h:Inv s){current}(hi:s.phase i=.waiting current seen)
 (hlock:s.lock=none):Inv (s.move i (.locked current seen) (some i)):=by
 refine h.move (h.onward (by rw[hi]; rfl) rfl rfl rfl (nomatch ·)) (fun j _ hj=>?_) (by rw[hi]; rfl)
 rw[h.holder j hj] at hlock
 cases hlock
lemma Inv.ready(h:Inv s){current}(hi:s.phase i=.locked current seen):
 Inv (s.move i (.ready current seen) s.lock):=
 h.advance (h.onward (by rw[hi]; rfl) rfl (h.holder i (by rw[hi]; rfl)) rfl (nomatch ·)) (by rw[hi]; rfl)
lemma Inv.reload(h:Inv s){current}(hi:s.phase i=.locked current seen)
 (readable):Inv (reload s i current seen readable):=by
 unfold OAuthRefresh.reload
 split
 next=>exact h.ready hi
 next latest=>
  split_ifs
  ·exact h.leave (by rw[hi]; rfl) (by rw[hi]; rfl) _
  ·exact h.ready hi
lemma Inv.send(h:Inv s){current}(hi:s.phase i=.ready current seen)
 (hversion:s.version=seen):Inv (s.move i (.sent current seen) s.lock):=
 h.advance (h.onward (by rw[hi]; rfl) rfl (h.holder i (by rw[hi]; rfl)) rfl fun _=>hversion) (by rw[hi]; rfl)
lemma Phase.inside_of_fresh(h:ph.fresh.isSome):ph.inside:=by
 cases ph<;>first | rfl | cases h
lemma Phase.inside_of_posted(h:ph.posted):ph.inside:=by
 cases ph<;>first | rfl | cases h
lemma Inv.stored_unspent(h:Inv s)(hin:(s.phase i).inside)(hfresh:(s.phase i).fresh=none)
 {tok}(hstored:s.stored=some tok):tok.refresh∉s.spent:=by
 intro hmem
 obtain ⟨j,hj⟩:=h.unspent tok hstored hmem
 rw[h.alone (h.holder i hin) (Phase.inside_of_fresh hj),hfresh] at hj
 cases hj
lemma Inv.answer(h:Inv s){current fresh}(hi:s.phase i=.sent current seen)
 (hfresh:fresh.refresh∉s.spent):
 Inv ((s.move i (.storing current seen (merged current fresh)) s.lock).replaced current (merged current fresh)):=by
 have hread:=h.current i current seen (by rw[hi]; rfl)
 have hlock:s.lock=some i:=h.holder i (by rw[hi]; rfl)
 have hcurrent:current.refresh∉s.spent:=
  h.stored_unspent (by rw[hi]; rfl) (by rw[hi]; rfl) (hread.2.1 (hread.2.2 (by rw[hi]; rfl)))
 have hnew:(merged current fresh).refresh∉s.spent:=by
  rw[merged]
  dsimp only
  split_ifs
  ·exact hcurrent
  ·exact hfresh
 constructor
 ·intro j hj
  rw[replaced,move_phase] at hj
  split_ifs at hj with hji
  ·exact hji▸hlock
  ·exact h.holder j hj
 ·intro j current' seen' hj
  rw[replaced,move_phase] at hj ⊢
  by_cases hji:j=i
  ·rw[if_pos hji] at hj ⊢
   cases hj
   exact ⟨hread.1,hread.2.1,fun _=>hread.2.2 (by rw[hi]; rfl)⟩
  ·rw[if_neg hji] at hj ⊢
   exact h.current j current' seen' hj
 ·intro j tok hj
  rw[replaced,move_phase] at hj
  split_ifs at hj with hji
  ·cases hj
   rw[replaced]
   dsimp only
   split_ifs with hkept
   ·exact hnew
   ·exact List.not_mem_cons_of_ne_of_not_mem hkept hnew
  ·exact absurd (h.alone hlock (Phase.inside_of_fresh (by rw[hj]; rfl))) hji
 ·intro tok _ _
  refine ⟨i,?_⟩
  rw[replaced,move_phase,if_pos rfl]
  rfl
lemma Inv.stored(h:Inv s){current fresh}
 (hi:s.phase i=.storing current seen fresh):Inv ((s.move i (.finished (some fresh)) none).write (some fresh)):=by
 have hlock:s.lock=some i:=h.holder i (by rw[hi]; rfl)
 constructor
 ·intro j hj
  rw[State.write,move_phase] at hj
  split_ifs at hj with hji
  ·cases hj
  ·exact absurd (h.alone hlock hj) hji
 ·intro j current' seen' hj
  rw[State.write,move_phase] at hj ⊢
  split_ifs at hj ⊢ with hji
  ·cases hj
  ·have hle:seen' ≤ s.version:=(h.current j current' seen' hj).1
   refine ⟨Nat.le_succ_of_le hle,fun heq=>?_,fun hposted=>?_⟩
   ·rw[←heq] at hle
    exact absurd hle (Nat.not_succ_le_self s.version)
   ·exact absurd (h.alone hlock (Phase.inside_of_posted hposted)) hji
 ·intro j tok hj
  rw[State.write,move_phase] at hj
  split_ifs at hj with hji
  ·cases hj
  ·exact h.fresh j tok hj
 ·intro tok htok hmem
  cases htok
  exact absurd hmem (h.fresh i fresh (by rw[hi]; rfl))
lemma Inv.step{t configured a}(h:Inv s)(hmeets:Meets s a)
 (hstep:step configured s a=some t):Inv t:=by
 have hquiet:s.lock=none→∀ i,(s.phase i).posted=false:=by
  intro hlock i
  by_contra hposted
  rw[h.holder i (Phase.inside_of_posted (by simpa using hposted))] at hlock
  cases hlock
 cases a with
 | call i=>
  simp only[OAuthRefresh.step] at hstep
  split at hstep
  next hi=>
   cases hstep
   exact h.call (by rw[hi]; rfl) configured
  next tok hi=>
   cases hstep
   exact h.call (by rw[hi]; rfl) configured
  next=>cases hstep
 | lock i=>
  simp only[OAuthRefresh.step] at hstep
  split at hstep
  next current seen hi hlock=>
   cases hstep
   exact h.lock hi hlock
  next=>cases hstep
 | reload i readable=>
  simp only[OAuthRefresh.step] at hstep
  split at hstep
  next current seen hi=>
   cases hstep
   exact h.reload hi readable
  next=>cases hstep
 | send i=>
  simp only[OAuthRefresh.step] at hstep
  split at hstep
  next current seen hi=>
   cases hstep
   exact h.send hi (hmeets current seen hi)
  next=>cases hstep
 | answer i reply=>
  simp only[OAuthRefresh.step] at hstep
  split at hstep
  next current seen hi=>
   cases hstep
   exact h.leave (by rw[hi]; rfl) (by rw[hi]; rfl) _
  next current seen fresh hi=>
   cases hstep
   exact h.answer hi (hmeets fresh rfl)
  next=>cases hstep
 | store i ok=>
  simp only[OAuthRefresh.step] at hstep
  split at hstep
  next current seen fresh hi=>
   rw[if_pos (show ok from hmeets)] at hstep
   cases hstep
   exact h.stored hi
  next=>cases hstep
 | reconnect tok=>
  cases hstep
  exact h.write (hquiet hmeets.1) fun tok' htok=>Option.some.inj htok▸hmeets.2
 | disconnect=>
  cases hstep
  exact h.write (hquiet hmeets) fun _=>(nomatch ·)
 | wait d=>
  cases hstep
  exact ⟨h.holder,h.current,h.fresh,h.unspent⟩
lemma Inv.respects(h:Inv s){a}(hmeets:Meets s a):Respects s a:=by
 cases a with
 | send i=>
  intro current seen hi
  have hstored:s.stored=some current:=
   (h.current i current seen (by rw[hi]; rfl)).2.1 (hmeets current seen hi)
  exact ⟨⟨current,hstored,rfl⟩,h.stored_unspent (by rw[hi]; rfl) (by rw[hi]; rfl) hstored⟩
 | store i ok=>
  intro current seen fresh hi
  exact (h.current i current seen (by rw[hi]; rfl)).2.2 (by rw[hi]; rfl)
 | _=>trivial

def start(stored:Option Token)(now:Int):State:=⟨now,stored,none,fun _=>.idle,0,[]⟩

lemma inv_of_run{configured stored now}
 (h:Run configured (start stored now) s):Inv s:=by
 induction h with
 | refl=>exact ⟨fun _=>(nomatch ·),fun _ _ _=>(nomatch ·),fun _ _=>(nomatch ·),fun _ _=>(nomatch ·)⟩
 | step _ hmeets hstep ih=>exact ih.step hmeets hstep

/-- In every run whose steps meet the condition, every step respects the stored connection. -/
theorem refresh_respects_connection(configured:Bool)(stored:Option Token)(now:Int)(s:State)(a:Action)
  (hrun:Run configured (start stored now) s)(hmeets:Meets s a):Respects s a:=(inv_of_run hrun).respects hmeets

def expired:Token:=⟨"a0","r0",some 0,[]⟩

def renewed:Token:=⟨"a1","r1",some 0,[]⟩

def runs(configured:Bool)(s:State):List Action→Option State
 | []=>some s
 | a::rest=>(step configured s a).bind (fun t=>runs configured t rest)

/-- The first of two calls refreshes the token while the second waits for the lock. -/
theorem first_refresh_respects:∃ s,runs true (start (some expired) 0) [.call 0,.call 1,.lock 0,.reload 0 true,.send 0,
  .answer 0 (some renewed)]=some s∧
 Run true (start (some expired) 0) s∧s.phase 1=.waiting expired 0∧(step true s (.store 0 true)).isSome∧
 Respects s (.store 0 true):=by
 refine ⟨_,rfl,?run,rfl,rfl,refresh_respects_connection true (some expired) 0 _ (.store 0 true) ?run rfl⟩
 exact .step (a:=.answer 0 (some renewed)) (.step (a:=.send 0) (.step (a:=.reload 0 true) (.step (a:=.lock 0)
  (.step (a:=.call 1) (.step (a:=.call 0) .refl trivial rfl) trivial rfl) trivial rfl) trivial rfl)
  (fun _ _ hi=>by cases hi; rfl) rfl) (fun _ _=>List.not_mem_nil) rfl

/-- A second call sends the refresh token the first has used up, and a refresh that was on its way
connects the account again after the user has disconnected it. -/
theorem refresh_ignores_connection:
 (∃ s,runs true (start (some expired) 0) [.call 0,.call 1,.lock 0,.reload 0 true,.send 0,.answer 0 (some renewed),
   .store 0 true,.lock 1,.reload 1 true]=some s∧
  s.phase 1=.ready expired 0∧s.stored=some renewed∧(step true s (.send 1)).isSome∧
  ¬Respects s (.send 1))∧
 ∃ s t,runs true (start (some expired) 0) [.call 0,.lock 0,.reload 0 true,.send 0,.answer 0 (some renewed),
   .disconnect]=some s∧
  s.stored=none∧step true s (.store 0 true)=some t∧t.stored=some renewed∧¬Respects s (.store 0 true):=by
 refine ⟨⟨_,rfl,rfl,rfl,rfl,fun h=>?_⟩,_,_,rfl,rfl,rfl,rfl,fun h=>?_⟩
 ·obtain ⟨⟨tok,htok,hsame⟩,-⟩:=h expired 0 rfl
  cases htok
  exact absurd hsame (by decide)
 ·exact absurd (h expired 0 renewed rfl) (by decide)

end Dazyflow.OAuthRefresh
