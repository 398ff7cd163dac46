import Dazyflow.RunnerTasks

/-!
# Handing a task over at most once

A task goes from queued to running to done or failed, or from queued to failed, and never back; only `Claim`
starts it.
-/
namespace Dazyflow.RunnerTasks
open Interleaving KeyedTable List

def RunnerTask.Reported(t:RunnerTask):Prop:=t.result.isSome=t.state.terminal

structure Onward(took:Prop)(t t':RunnerTask):Prop where
 tenant:t'.tenant=t.tenant
 tags:t'.tags=t.tags
 frozen:t.state.terminal→t'=t
 passed:t.state≠.queued→t'.state≠.queued∧t'.claimedBy=t.claimedBy
 runs:t'.state=.running→t.state=.running∨took
 reported:t.Reported→t'.Reported

structure Evolves(took added:String→Prop)(s s':Tasks):Prop where
 old:∀ id t,s.find? id=some t→∃ t',s'.find? id=some t'∧Onward (took id) t t'
 new:∀ id t',s.find? id=none → s'.find? id=some t'→added id∧t'.state=.queued∧t'.result=none

section Evolves

variable {took added:String→Prop}{s s':Tasks}

lemma Onward.refl{P:Prop}(t):Onward P t t:=
 ⟨rfl,rfl,fun _=>rfl,fun h=>⟨h,rfl⟩,.inl,fun h=>h⟩
lemma Evolves.refl(s):Evolves took added s s:=
 ⟨fun _ t ht=>⟨t,ht,.refl t⟩,fun _ t h h'=>by rw[h] at h'; cases h'⟩
lemma Evolves.same(s):Evolves (fun _=>False) (fun _=>False) s s:=.refl s

variable {t:RunnerTask}{now:Time}{id tenant:String}{r:Runner}

lemma evolves_modify{f}(keep:∀ t,(f t).id=t.id)
 (ht:s.find? id=some t)(hf:Onward (took id) t (f t)):Evolves took added s (s.modify id f keep):=by
 refine ⟨fun id' t' ht'=>?_,fun id' t' hnone hsome=>?_⟩
 ·rw[find?_modify]
  by_cases hid:id'=id
  ·subst hid
   rw[ht] at ht'
   cases ht'
   exact ⟨f t,by simp[ht],hf⟩
  ·exact ⟨t',by simp[hid,ht'],.refl t'⟩
 ·rw[find?_modify] at hsome
  by_cases hid:id'=id
  ·subst hid
   rw[ht] at hnone
   cases hnone
  ·simp[hid,hnone] at hsome
lemma evolves_enqueue(hnone:s.find? t.id=none)(hst:t.state=.queued)(hres:t.result=none):
 Evolves took (·=t.id) s (enqueue s t):=by
 refine ⟨fun id t' ht'=>?_,fun id t' hid ht'=>?_⟩
 ·have hne:id≠t.id:=by
   rintro rfl
   rw[hnone] at ht'
   cases ht'
  exact ⟨t',by simp[enqueue,find?_upsert,hne,ht'],.refl t'⟩
 ·by_cases hne:id=t.id
  ·simp only[enqueue,find?_upsert,hne,if_true,Option.some.injEq] at ht'
   exact ⟨hne,ht' ▸ hst,ht' ▸ hres⟩
  ·simp[enqueue,find?_upsert,hne,hid] at ht'
lemma heldBy_iff:
 heldBy t r↔t.tenant=r.tenant∧t.claimedBy=r.name∧t.state=.running:=by
 simp[heldBy,and_assoc]
lemma evolves_byHolder{f keep}
 (hf:∀ t,t.state=.running→Onward False t (f t)):
 Evolves (fun _=>False) added s (byHolder s r id f keep).2:=by
 unfold byHolder
 cases ht:s.find? id with
 | none=>exact .refl s
 | some t=>
  dsimp only
  split_ifs with hh
  ·exact evolves_modify keep ht (hf t (heldBy_iff.1 hh).2.2)
  ·exact .refl s
lemma onward_extended{untilTime message}(h:t.state=.running):
 Onward False t (extended untilTime message t):=
 ⟨rfl,rfl,fun ht=>by simp[h,TaskState.terminal] at ht,fun hq=>⟨hq,rfl⟩,.inl,fun hr=>hr⟩
lemma onward_completed{res}(h:t.state=.running):
 Onward False t (completed res now t):=by
 refine ⟨rfl,rfl,fun ht=>by simp[h,TaskState.terminal] at ht,fun _=>⟨?_,rfl⟩,fun _=>.inl h,fun _=>?_⟩
 ·simp only[completed]
  split_ifs<;>simp
 ·simp only[RunnerTask.Reported,completed]
  split_ifs<;>rfl
lemma onward_failed{res}(h:t.state.terminal=false):
 Onward False t (failed res now t):=
 ⟨rfl,rfl,fun ht=>by simp[h] at ht,fun _=>⟨by simp[failed],rfl⟩,fun hr=>by simp[failed] at hr,fun _=>rfl⟩
lemma evolves_failIf{cond res}
 (hc:∀ t,cond t→t.state.terminal=false):
 Evolves (fun _=>False) added s (failIf s tenant id cond res now).2:=by
 unfold failIf
 cases ht:s.find? id with
 | none=>exact .refl s
 | some t=>
  dsimp only
  split_ifs with _ hcond
  ·exact .refl s
  ·exact evolves_modify (f:=failed res now) (fun _=>rfl) ht (onward_failed (hc t hcond))
  ·exact .refl s
lemma evolves_failAbandoned:
 Evolves (fun _=>False) added s (failAbandoned s tenant id now).2:=by
 refine evolves_failIf fun t h=>?_
 simp only[abandoned,Bool.and_eq_true,decide_eq_true_eq] at h
 rw[h.1]
 rfl
lemma evolves_cancelQueued{res}:
 Evolves (fun _=>False) added s (cancelQueued s tenant id res now).2:=by
 refine evolves_failIf fun t h=>?_
 rw[of_decide_eq_true h]
 rfl
lemma claim_cases(cfg s tie r now lease):
 claim cfg tie s r now lease=(none,s)∨∃ t,s.find? t.id=some t∧eligible cfg t r∧t.state=.queued∧
  claim cfg tie s r now lease =
   (some (claimed r now lease t),s.modify t.id (claimed r now lease) fun _=>rfl):=by
 unfold claim
 cases hh:(heads cfg s r)[tie % (heads cfg s r).length]? with
 | none=>exact .inl rfl
 | some t=>
  have hmem:=(mem_filter.1 (mem_of_getElem? hh)).1
  obtain ⟨hrow,hcond⟩:=mem_filter.1 hmem
  simp only[Bool.and_eq_true,decide_eq_true_eq] at hcond
  exact .inr ⟨t,(mem_rows_iff s t).1 hrow,hcond.1,hcond.2,rfl⟩
lemma onward_claimed{lease}(h:t.state=.queued):
 Onward True t (claimed r now lease t):=by
 refine ⟨rfl,rfl,fun ht=>by simp[h,TaskState.terminal] at ht,fun hq=>absurd h hq,fun _=>.inr trivial,fun hr=>?_⟩
 simpa[RunnerTask.Reported,claimed,h,TaskState.terminal] using hr

end Evolves

def Stage.chosen:Stage→Option String
 | .dispatching w=>if w.queued then none else w.id
 | _=>none

def Stage.got:Stage→Option String
 | .received _ t=>some t.id
 | _=>none

def Taken(ns:List Stage)(id:String):Prop:=∃ n∈ns,n.got=some id

structure Waiting.Sound(s:Tasks)(taken:String→Prop)(w:Waiting):Prop where
 queued:w.queued→∃ id t,w.id=some id∧s.find? id=some t∧t.tenant=w.req.tenant
 seen:∀ t,w.seen=some t→w.id=some t.id∧(t.state.terminal → s.find? t.id=some t)
 closed:∀ r,w.closing=some r → r≠.ok false→
  ∃ id t,w.id=some id∧s.find? id=some t∧t.state.terminal∧¬taken id
 outcome:∀ o,w.outcome=some o→w.Justifies o

structure Holds(cfg:Config)(s:Tasks)(r:Runner)(t:RunnerTask):Prop where
 fits:eligible cfg t r
 kept:∃ t',s.find? t.id=some t'∧t'.tenant=t.tenant∧t'.tags=t.tags∧t'.state≠.queued∧t'.claimedBy=r.name

def Stage.Sound(cfg:Config)(s:Tasks)(taken:String→Prop):Stage→Prop
 | .dispatching w=>w.Sound s taken
 | .received r t=>Holds cfg s r t
 | _=>True

structure Handed(cfg:Config)(s:Tasks)(ns:List Stage):Prop where
 reported:∀ id t,s.find? id=some t→t.Reported
 sound:∀ n∈ns,n.Sound cfg s (Taken ns)
 unused:∀ n∈ns,∀ id,n.chosen=some id → s.find? id=none
 distinct:∀ (i j:Nat) n m id,ns[i]? = some n → ns[j]? = some m → n.chosen=some id→m.chosen=some id→i=j
 once:∀ (i j:Nat) n m id,ns[i]? = some n → ns[j]? = some m → n.got=some id→m.got=some id→i=j
 held:∀ id t,s.find? id=some t→t.state=.running→Taken ns id

section Handed

variable {cfg:Config}{s s':Tasks}{ns:List Stage}{n n':Stage}{i:Nat}{took added:String→Prop}

variable {w:Waiting}{id tenant:String}{t:RunnerTask}{taken taken':String→Prop}

lemma Waiting.Sound.mono(h:w.Sound s taken)(he:Evolves took added s s')
 (ht:∀ id t,s.find? id=some t→t.state.terminal→taken' id→taken id):w.Sound s' taken':=by
 refine ⟨fun hq=>?_,fun t hs=>?_,fun r hr hne=>?_,h.outcome⟩
 ·obtain ⟨id,t,hid,hf,htn⟩:=h.queued hq
  obtain ⟨t',hf',ho⟩:=he.old id t hf
  exact ⟨id,t',hid,hf',ho.tenant.trans htn⟩
 ·obtain ⟨hid,hf⟩:=h.seen t hs
  refine ⟨hid,fun hterm=>?_⟩
  obtain ⟨t',hf',ho⟩:=he.old t.id t (hf hterm)
  rwa[ho.frozen hterm] at hf'
 ·obtain ⟨id,t,hid,hf,hterm,hno⟩:=h.closed r hr hne
  obtain ⟨t',hf',ho⟩:=he.old id t hf
  rw[ho.frozen hterm] at hf'
  exact ⟨id,t,hid,hf',hterm,fun hx=>hno (ht id t hf hterm hx)⟩
lemma Holds.mono{r}(h:Holds cfg s r t)(he:Evolves took added s s'):Holds cfg s' r t:=by
 obtain ⟨t',hf,htn,htg,hq,hc⟩:=h.kept
 obtain ⟨t'',hf',ho⟩:=he.old t.id t' hf
 exact ⟨h.fits,t'',hf',ho.tenant.trans htn,ho.tags.trans htg,(ho.passed hq).1,(ho.passed hq).2.trans hc⟩
lemma Stage.Sound.mono(h:n.Sound cfg s taken)(he:Evolves took added s s')
 (ht:∀ id t,s.find? id=some t→t.state.terminal→taken' id→taken id):n.Sound cfg s' taken':=by
 cases n with
 | dispatching w=>exact Waiting.Sound.mono h he ht
 | received r t=>exact Holds.mono h he
 | claiming r | other=>trivial
lemma Handed.not_queued(h:Handed cfg s ns)(hf:s.find? id=some t)
 (ht:Taken ns id):t.state≠.queued:=by
 obtain ⟨m,hm,hg⟩:=ht
 cases m with
 | received r t'=>
  cases hg
  obtain ⟨t'',hf',_,_,hq,_⟩:=(h.sound _ hm).kept
  rw[hf] at hf'
  cases hf'
  exact hq
 | dispatching w | claiming r | other=>cases hg
lemma Handed.move(h:Handed cfg s ns)(hn:ns[i]? = some n)(he:Evolves took added s s')
 (hchosen:∀ id,n'.chosen=some id → s'.find? id=none∧∀ (j) m,ns[j]? = some m→m.chosen=some id→j=i)
 (hadded:∀ id,added id → n.chosen=some id∧n'.chosen≠some id)
 (hgot:∀ id,n.got=some id → n'.got=some id)
 (hgot':∀ id,n'.got=some id → n.got=some id∨took id)
 (htook:∀ id,took id → n'.got=some id∧∃ t,s.find? id=some t∧t.state=.queued)
 (hsound:n'.Sound cfg s' (Taken (ns.set i n'))):Handed cfg s' (ns.set i n'):=by
 have hi:=(List.getElem?_eq_some_iff.1 hn).1
 have hmem:=mem_of_getElem? hn
 have hget:(ns.set i n')[i]? = some n':=by simp[hi]
 have htaken:∀ id,Taken ns id→Taken (ns.set i n') id:=by
  rintro id ⟨m,hm,hg⟩
  obtain ⟨j,hj⟩:=mem_iff_getElem?.1 hm
  by_cases hji:j=i
  ·subst hji
   rw[hn] at hj
   cases hj
   exact ⟨n',mem_of_getElem? hget,hgot id hg⟩
  ·exact ⟨m,mem_of_getElem? (i:=j) (by rw[getElem?_set_ne (Ne.symm hji),hj]),hg⟩
 have htaken':∀ id,Taken (ns.set i n') id→Taken ns id∨took id:=by
  rintro id ⟨m,hm,hg⟩
  rcases mem_set_cases hm with rfl | ⟨j,_,hj⟩
  ·exact (hgot' id hg).imp (fun hg=>⟨n,hmem,hg⟩) fun ht=>ht
  ·exact .inl ⟨m,mem_of_getElem? hj,hg⟩
 have hpast:∀ id,Taken ns id→¬took id:=by
  intro id hx ht
  obtain ⟨_,t,hf,hq⟩:=htook id ht
  exact h.not_queued hf hx hq
 refine ⟨fun id t' hf'=>?_,fun m hm=>?_,fun m hm id hc=>?_,
  (replaces_set hn).distinct h.distinct fun id hc b v hbi hb hv=>hbi ((hchosen id hc).2 b v hb hv),
  (replaces_set hn).distinct h.once fun id hg b v hbi hb hv=>?_,fun id t' hf' hrun=>?_⟩
 ·cases hf:s.find? id with
  | none=>
   obtain ⟨_,hst,hres⟩:=he.new id t' hf hf'
   simp[RunnerTask.Reported,hst,hres,TaskState.terminal]
  | some t=>
   obtain ⟨t'',hf'',ho⟩:=he.old id t hf
   rw[hf'] at hf''
   cases hf''
   exact ho.reported (h.reported id t hf)
 ·rcases mem_set_cases hm with rfl | ⟨j,_,hj⟩
  ·exact hsound
  refine (h.sound m (mem_of_getElem? hj)).mono he fun id t hf hterm hx=>?_
  rcases htaken' id hx with hx | hx
  ·exact hx
  ·obtain ⟨_,t',hf',hq⟩:=htook id hx
   rw[hf] at hf'
   cases hf'
   simp[hq,TaskState.terminal] at hterm
 ·rcases mem_set_cases hm with rfl | ⟨j,hji,hj⟩
  ·exact (hchosen id hc).1
  have hnone:=h.unused m (mem_of_getElem? hj) id hc
  cases hf':s'.find? id with
  | none=>rfl
  | some t'=>
   obtain ⟨hadd,_⟩:=he.new id t' hnone hf'
   exact absurd (h.distinct j i m n id hj hn hc (hadded id hadd).1) hji
 ·rcases hgot' id hg with hg | ht
  ·exact hbi (h.once b i v n id hb hn hv hg)
  ·exact hpast id ⟨v,mem_of_getElem? hb,hv⟩ ht
 ·cases hf:s.find? id with
  | none=>
   obtain ⟨_,hst,_⟩:=he.new id t' hf hf'
   rw[hst] at hrun
   cases hrun
  | some t=>
   obtain ⟨t'',hf'',ho⟩:=he.old id t hf
   rw[hf'] at hf''
   cases hf''
   rcases ho.runs hrun with hr | ht
   ·exact htaken id (h.held id t hf hr)
   ·exact ⟨n',mem_of_getElem? hget,(htook id ht).1⟩
lemma Handed.start(h:Handed cfg s ns)(e):Handed cfg s (ns++[Stage.first e]):=by
 have hfirst:(Stage.first e).chosen=none∧(Stage.first e).got=none:=by cases e<;>exact ⟨rfl,rfl⟩
 have htaken:∀ id,Taken (ns++[Stage.first e]) id→Taken ns id:=by
  rintro id ⟨m,hm,hg⟩
  rcases mem_append.1 hm with hm | hm
  ·exact ⟨m,hm,hg⟩
  ·simp[mem_singleton.1 hm,hfirst.2] at hg
 refine ⟨h.reported,fun m hm=>?_,fun m hm id hc=>?_,replaces_append.distinct h.distinct (by simp[hfirst.1]),
  replaces_append.distinct h.once (by simp[hfirst.2]),fun id t hf hrun=>?_⟩
 ·rcases mem_append.1 hm with hm | hm
  ·exact (h.sound m hm).mono (Evolves.same s) fun id _ _ _ hx=>htaken id hx
  ·rw[mem_singleton.1 hm]
   cases e with
   | dispatch req=>exact ⟨nofun,nofun,nofun,nofun⟩
   | _=>trivial
 ·rcases mem_append.1 hm with hm | hm
  ·exact h.unused m hm id hc
  ·simp[mem_singleton.1 hm,hfirst.1] at hc
 ·obtain ⟨m,hm,hg⟩:=h.held id t hf hrun
  exact ⟨m,mem_append_left _ hm,hg⟩
lemma taken_of_set{id}(hg:n'.got=none)(h:Taken (ns.set i n') id):Taken ns id:=by
 obtain ⟨m,hm,hm'⟩:=h
 rcases mem_set_cases hm with rfl | ⟨j,_,hj⟩
 ·cases hg.symm.trans hm'
 ·exact ⟨m,mem_of_getElem? hj,hm'⟩
lemma Handed.act(h:Handed cfg s ns)(hn:ns[i]? = some .other)
 (he:Evolves (fun _=>False) (fun _=>False) s s'):Handed cfg s' (ns.set i .other):=
 h.move hn he nofun nofun (fun _ hg=>hg) (fun _ hg=>.inl hg) nofun trivial
lemma cancelQueued_cases(hf:s.find? id=some t)(ht:t.tenant=tenant)
 (res now):
 t.state=.queued∧(cancelQueued s tenant id res now).1=.ok true∧
   (cancelQueued s tenant id res now).2.find? id=some (failed (fun _=>res) now t)∨
  cancelQueued s tenant id res now=(.ok false,s):=by
 unfold cancelQueued failIf
 by_cases hq:t.state=.queued
 ·refine .inl ⟨hq,?_,?_⟩
  ·simp[hf,ht,hq]
  ·simpa[hf,ht,hq] using find?_modify_self (failed (fun _=>res) now) (fun _=>rfl) hf
 ·exact .inr (by simp[hf,ht,hq])

section Dispatching

variable (h:Handed cfg s ns)(hn:ns[i]? = some (.dispatching w))

include h hn

lemma Handed.wait{w'}
 (he:Evolves (fun _=>False) (fun _=>False) s s')(hid:w'.id=w.id)(hq:w'.queued=w.queued)
 (hsound:∀ taken,(∀ id,taken id→Taken ns id)→w.Sound s' taken→w'.Sound s' taken):
 Handed cfg s' (ns.set i (.dispatching w')):=by
 have hc:(Stage.dispatching w').chosen=(Stage.dispatching w).chosen:=by simp[Stage.chosen,hid,hq]
 have hmem:=mem_of_getElem? hn
 have htaken:∀ id,Taken (ns.set i (.dispatching w')) id→Taken ns id:=fun _=>taken_of_set rfl
 refine h.move hn he (fun id hx=>⟨?_,fun j m hj hm=>h.distinct j i m _ id hj hn hm (hc▸hx)⟩) nofun (fun _ hg=>hg)
  nofun nofun ?_
 ·have hnone:=h.unused _ hmem id (hc▸hx)
  cases hf':s'.find? id with
  | none=>rfl
  | some t'=>exact (he.new id t' hnone hf').1.elim
 ·exact hsound _ htaken ((h.sound _ hmem).mono he fun id _ _ _ hx=>htaken id hx)
lemma Handed.polled(hon:w.On tenant id):∃ t,s.find? id=some t∧t.tenant=tenant:=by
 obtain ⟨id',t,hid,hf,ht⟩:=(h.sound _ (mem_of_getElem? hn)).queued hon.queued
 rw[hon.id] at hid
 cases hid
 exact ⟨t,hf,ht.trans hon.tenant⟩
lemma Handed.close(hon:w.On tenant id)(res now):
 Handed cfg (cancelQueued s tenant id res now).2
  (ns.set i (.dispatching {w with closing:=some (cancelQueued s tenant id res now).1})):=by
 obtain ⟨t,hf,ht⟩:=h.polled hn hon
 refine h.wait hn evolves_cancelQueued rfl rfl fun taken htaken hs=>⟨hs.queued,hs.seen,fun r hr hne=>?_,fun o ho=>?_⟩
 ·cases hr
  rcases cancelQueued_cases hf ht res now with ⟨hq,_,hf'⟩ | hno
  ·exact ⟨id,_,hon.id,hf',rfl,fun hx=>h.not_queued hf (htaken id hx) hq⟩
  ·rw[hno] at hne
   exact absurd rfl hne
 ·rw[hon.waiting] at ho
  cases ho
lemma Handed.read(hon:w.On tenant id):Handed cfg s (ns.set i ((Stage.dispatching w).next (.get tenant id) (get s tenant id))):=by
 obtain ⟨t,hf,ht⟩:=h.polled hn hon
 have hget:get s tenant id=.ok t:=by simp[get,hf,ht]
 rw[hget]
 change Handed cfg s (ns.set i (.dispatching {w with seen:=some t}))
 refine h.wait hn (.refl s) rfl rfl
  fun taken _ hs=>⟨hs.queued,fun t' ht'=>?_,hs.closed,fun o ho=>?_⟩
 ·cases ht'
  obtain rfl:=key_of_find? hf
  exact ⟨hon.id,fun _=>hf⟩
 ·rw[hon.waiting] at ho
  cases ho
lemma Handed.reply{o}
 (hj:w.Justifies o):Handed cfg s (ns.set i (.dispatching {w with outcome:=some o})):=by
 refine h.wait hn (.refl s) rfl rfl fun taken _ hs=>⟨hs.queued,hs.seen,hs.closed,fun o' ho=>?_⟩
 cases ho
 cases o with
 | ok res | error e=>exact hj
lemma Handed.choose(hid:w.id=none)(hnew:s.find? id=none)(hns:∀ m∈ns,m.chosen≠some id):
 Handed cfg s (ns.set i (.dispatching {w with id:=some id})):=by
 have hs:w.Sound s (Taken ns):=h.sound _ (mem_of_getElem? hn)
 have hq:w.queued=false:=by
  cases hq:w.queued with
  | false=>rfl
  | true=>
   obtain ⟨id',_,hid',_⟩:=hs.queued hq
   rw[hid] at hid'
   cases hid'
 refine h.move hn (Evolves.same s) (fun id' hx=>?_) nofun
  (fun _ hg=>hg) nofun nofun ?_
 ·simp only[Stage.chosen,hq,Bool.false_eq_true,if_false,Option.some.injEq] at hx
  subst hx
  exact ⟨hnew,fun j m hj hm=>absurd hm (hns m (mem_of_getElem? hj))⟩
 ·refine ⟨fun hq'=>by simp[hq] at hq',fun t ht=>?_,fun r hr hne=>?_,hs.outcome⟩
  ·have:=(hs.seen t ht).1
   rw[hid] at this
   cases this
  ·obtain ⟨id',_,hid',_⟩:=hs.closed r hr hne
   rw[hid] at hid'
   cases hid'
lemma Handed.queue(hid:w.id=some t.id)(hq:w.queued=false)(htn:t.tenant=w.req.tenant)(hst:t.state=.queued)
 (hres:t.result=none):Handed cfg (enqueue s t) (ns.set i (.dispatching {w with queued:=true})):=by
 have hmem:=mem_of_getElem? hn
 have hs:w.Sound s (Taken ns):=h.sound _ hmem
 have hc:(Stage.dispatching w).chosen=some t.id:=by simp[Stage.chosen,hq,hid]
 have hnone:=h.unused _ hmem _ hc
 have he:Evolves (fun _=>False) (·=t.id) s (enqueue s t):=evolves_enqueue hnone hst hres
 refine h.move hn he (fun _ hx=>by simp[Stage.chosen] at hx) (fun id hx=>⟨hx▸hc,by simp[Stage.chosen]⟩)
  (fun _ hg=>hg) nofun nofun ?_
 have hs':w.Sound _ (Taken (ns.set i (.dispatching {w with queued:=true}))):=
  hs.mono he fun _ _ _ _=>taken_of_set rfl
 exact ⟨fun _=>⟨t.id,t,hid,by simp[enqueue,find?_upsert],htn⟩,hs'.seen,hs'.closed,hs'.outcome⟩

end Dispatching

lemma Handed.claim{r now lease tie}(h:Handed cfg s ns)(hn:ns[i]? = some (.claiming r)):
 Handed cfg (RunnerTasks.claim cfg tie s r now lease).2
  (ns.set i ((Stage.claiming r).next (.claim r now lease) (RunnerTasks.claim cfg tie s r now lease).1)):=by
 rcases claim_cases cfg s tie r now lease with hno | ⟨t,hf,hel,hq,hc⟩
 ·rw[hno]
  exact h.move hn (Evolves.same s) nofun nofun
   (fun _ hg=>hg) (fun _ hg=>.inl hg) nofun trivial
 ·rw[hc]
  have he:Evolves (·=t.id) (fun _=>False) s (s.modify t.id (claimed r now lease) fun _=>rfl):=by
   refine evolves_modify (f:=claimed r now lease) (fun _=>rfl) hf ?_
   simpa using onward_claimed hq
  change Handed cfg _ (ns.set i (.received r (claimed r now lease t)))
  refine h.move hn he nofun nofun
   nofun (fun id hg=>.inr (by cases hg; rfl)) (fun id hx=>⟨by rw[hx]; rfl,t,hx▸hf,hq⟩) ?_
  exact ⟨hel,claimed r now lease t,find?_modify_self (claimed r now lease) (fun _=>rfl) hf,rfl,rfl,
   by simp[claimed],rfl⟩
lemma Handed.call{c o}(h:Handed cfg s ns)(hn:ns[i]? = some n)(hall:n.allows c)
 (hfresh:c=.newID → s.find? o.id=none∧∀ m∈ns,m.chosen≠some o.id):
 Handed cfg (step cfg c o s).2 (ns.set i (n.next c (step cfg c o s).1)):=by
 have hsame:∀ w,n=.dispatching w→Handed cfg s (ns.set i (.dispatching w)):=
  fun w hw=>h.wait (hw▸hn) (.refl s) rfl rfl (fun _ _ hs=>hs)
 cases n with
 | dispatching w=>
  cases c with
  | now | done | listRunners tenant=>exact hsame w rfl
  | newID=>exact h.choose hn hall (hfresh rfl).1 (hfresh rfl).2
  | enqueue t=>exact h.queue hn hall.1 hall.2.1 hall.2.2.1 hall.2.2.2.1 hall.2.2.2.2
  | failAbandoned tenant id now=>exact h.wait hn evolves_failAbandoned rfl rfl (fun _ _ hs=>hs)
  | cancelQueued tenant id res now=>exact h.close hn hall res now
  | get tenant id=>exact h.read hn hall
  | reply o=>exact h.reply hn hall
  | claim r now lease | extend r id untilTime message | complete r id res now=>exact hall.elim
 | claiming r=>
  cases c with
  | claim r' now lease=>
   obtain rfl:r'=r:=hall
   exact h.claim hn
  | _=>cases hall
 | received r t=>cases c<;>cases hall
 | other=>
  cases c with
  | extend r id untilTime message=>exact h.act hn (evolves_byHolder fun _=>onward_extended)
  | complete r id res now=>exact h.act hn (evolves_byHolder fun _=>onward_completed)
  | failAbandoned tenant id now=>exact h.act hn evolves_failAbandoned
  | cancelQueued tenant id res now=>exact h.act hn evolves_cancelQueued
  | _=>cases hall
lemma Handed.evolves{c}(h:Handed cfg s ns)(hn:ns[i]? = some n)(hall:n.allows c)(o):
 ∃ took added,Evolves took added s (step cfg c o s).2:=by
 cases c with
 | enqueue t=>
  cases n with
  | dispatching w=>
   obtain ⟨hid,hq,_,hst,hres⟩:=hall
   have hnone:=h.unused _ (mem_of_getElem? hn) t.id (by simp[Stage.chosen,hq,hid])
   exact ⟨fun _=>False,_,evolves_enqueue hnone hst hres⟩
  | _=>cases hall
 | claim r now lease=>
  rcases claim_cases cfg s o.tie r now lease with hno | ⟨t,hf,_,hq,hc⟩
  ·exact ⟨fun _=>False,fun _=>False,by simp only[step]; rw[hno]; exact .refl s⟩
  ·refine ⟨(·=t.id),fun _=>False,?_⟩
   simp only[step]
   rw[hc]
   exact evolves_modify (f:=claimed r now lease) (fun _=>rfl) hf (by simpa using onward_claimed hq)
 | extend r id untilTime message=>exact ⟨_,fun _=>False,evolves_byHolder fun _=>onward_extended⟩
 | complete r id res now=>exact ⟨_,fun _=>False,evolves_byHolder fun _=>onward_completed⟩
 | failAbandoned tenant id now=>exact ⟨_,fun _=>False,evolves_failAbandoned⟩
 | cancelQueued tenant id res now=>exact ⟨_,fun _=>False,evolves_cancelQueued⟩
 | _=>exact ⟨fun _=>False,fun _=>False,.refl s⟩

end Handed

def standing{cfg}(P:Pool (machine cfg)):List Stage:=(stages cfg).stages P

/-- A new id is the id of no task, and no other dispatch has just drawn it. -/
def freshID{cfg}(P:Pool (machine cfg)):Call→Oracle→Bool
 | .newID,o=>(P.state.find? o.id).isNone&&(standing P).all (fun m=>m.chosen≠some o.id)
 | _,_=>true

abbrev freshRuns(cfg:Config):Rules (machine cfg):=
 Allowed (fun _ _=>True) (fun P _ c o=>freshID P c o)

abbrev noTasks(cfg:Config):Pool (machine cfg):={state:=empty}

section Runs

variable {cfg:Config}{P:Pool (machine cfg)}

lemma fresh_of_allowed{i o c}(ha:freshRuns cfg P (.step i o))(hnext:P.next i=some c):
 c=.newID→P.state.find? o.id=none∧∀ m∈standing P,m.chosen≠some o.id:=by
 rintro rfl
 have hf:freshID P .newID o:=ha .newID hnext
 simpa[freshID] using hf
lemma handed_of_reach(hr:Reach (freshRuns cfg) (noTasks cfg) P):Handed cfg P.state (standing P):=by
 refine (follows cfg).run_inv (A:=noTasks cfg) rfl (J:=Handed cfg) ?_ ?_ ?_ hr
 ·have hnone:∀ id t,(noTasks cfg).state.find? id≠some t:=fun id t h=>by cases h
  exact ⟨fun id t h=>absurd h (hnone id t),by simp,by simp,by simp,by simp,fun id t h=>absurd h (hnone id t)⟩
 ·intro P e _ _ h
  exact h.start e
 ·intro P i o c n _ ha hnext hn hall h
  exact h.call hn hall (fresh_of_allowed ha hnext)
lemma ended_stays{Q}(hr:Reach (freshRuns cfg) (noTasks cfg) P)(hQ:Reach (freshRuns cfg) P Q)
 {id t}(hf:P.state.find? id=some t)(ht:t.state.terminal):
 Q.state.find? id=some t:=by
 refine (follows cfg).pool_inv_since (A:=noTasks cfg) rfl hr (J:=fun (s:Tasks) _=>s.find? id=some t) hf
  (fun _ _ _ _ h=>h) ?_ hQ
 intro P' i o c n hP' ha hnext hn hall hf'
 obtain ⟨took,added,he⟩:=(handed_of_reach (hr.trans hP')).evolves hn hall o
 obtain ⟨t',hf'',ho⟩:=he.old id t hf'
 rw[ho.frozen ht] at hf''
 exact hf''
lemma byHolder_changes{s r id f keep}
 (h:(byHolder s r id f keep).2≠s):
 ∃ t,s.find? id=some t∧t.tenant=r.tenant∧t.claimedBy=r.name∧t.state=.running:=by
 unfold byHolder at h
 cases ht:s.find? id with
 | none=>simp[ht] at h
 | some t=>
  simp only[ht] at h
  split_ifs at h with hh
  ·exact ⟨t,rfl,heldBy_iff.1 hh⟩
  ·exact absurd rfl h

def Call.asHolder:Call→Option (Runner×String)
 | .extend r id _ _=>some (r,id)
 | .complete r id _ _=>some (r,id)
 | _=>none

lemma asHolder_changes{s c o r id}(hc:c.asHolder=some (r,id))
 (h:(step cfg c o s).2≠s):
 ∃ t,s.find? id=some t∧t.tenant=r.tenant∧t.claimedBy=r.name∧t.state=.running:=by
 cases c with
 | extend r' id' untilTime message | complete r' id' res now=>
  cases hc
  exact byHolder_changes h
 | _=>cases hc

/-- A task is handed out at most once, and to a runner of its tenant with all its tags; what
 has ended stays as it is; only the runner that holds a task extends or completes it; and
 a dispatch tells the truth about its task. -/
theorem runner_task_once(hr:Reach (freshRuns cfg) (noTasks cfg) P):
 (∀ (i j:Nat) r r' t t',(standing P)[i]? = some (.received r t)→(standing P)[j]? = some (.received r' t')→
  t.id=t'.id→i=j)∧
 (∀ r t,.received r t∈standing P→t.tenant=r.tenant∧t.tags≠[]∧(∀ w∈t.tags,w∈r.tags cfg)∧
  ∃ t',P.state.find? t.id=some t'∧t'.tenant=t.tenant∧t'.tags=t.tags)∧
 (∀ Q id t,Reach (freshRuns cfg) P Q→P.state.find? id=some t→t.state.terminal∨t.result≠none→
  Q.state.find? id=some t)∧
 (∀ i o c P' r id,freshRuns cfg P (.step i o)→P.exec (.step i o)=some P'→P.next i=some c→
  c.asHolder=some (r,id)→P'.state≠P.state→
   ∃ r' t t',.received r' t∈standing P∧t.id=id∧r'.tenant=r.tenant∧r'.name=r.name∧
    P.state.find? id=some t'∧t'.state=.running)∧
 (∀ w res,.dispatching w∈standing P→w.outcome=some (.ok res)→
  ∃ id t,w.id=some id∧P.state.find? id=some t∧t.result=some res)∧
 ∀ w e,.dispatching w∈standing P→w.outcome=some (.error e)→e.unpicked→
  ∃ id,w.id=some id∧∀ r t,.received r t∈standing P→t.id≠id:=by
 have h:=handed_of_reach hr
 refine ⟨fun i j r r' t t' hi hj hid=>?_,fun r t hm=>?_,fun Q id t hQ hf ht=>?_,?_,fun w res hm ho=>?_,
  fun w e hm ho hu=>?_⟩
 ·exact h.once i j _ _ t.id hi hj rfl (by rw[hid]; rfl)
 ·obtain ⟨hel,t',hf,htn,htg,_⟩:=h.sound _ hm
  simp only[eligible,Runner.hasTags,Bool.and_eq_true,decide_eq_true_eq,all_eq_true] at hel
  exact ⟨hel.1,hel.2.1,hel.2.2,t',hf,htn,htg⟩
 ·have hrep:=h.reported id t hf
  refine ended_stays hr hQ hf (ht.elim (fun ht=>ht) fun hres=>?_)
  rw[←hrep]
  exact Option.isSome_iff_ne_none.2 hres
 ·intro i o c P' r id ha he hnext hc hne
  have hstate:P'.state=(step cfg c o P.state).2:=by
   obtain ⟨e,k,log,hp⟩:=Pool.call_of_next hnext
   simp only[Pool.exec,hp,Option.some.injEq] at he
   rw[←he]
  obtain ⟨t',hf,htn,hcb,hrun⟩:=asHolder_changes hc (hstate▸hne)
  obtain ⟨m,hm,hg⟩:=h.held id t' hf hrun
  cases m with
  | received r' t=>
   cases hg
   obtain ⟨hel,t'',hf',htn',_,_,hcb'⟩:=h.sound _ hm
   rw[hf] at hf'
   cases hf'
   simp only[eligible,Bool.and_eq_true,decide_eq_true_eq] at hel
   exact ⟨r',t,t',hm,rfl,hel.1.symm.trans (htn'.symm.trans htn),hcb'.symm.trans hcb,hf,hrun⟩
  | dispatching w | claiming r' | other=>cases hg
 ·have hs:w.Sound P.state _:=h.sound _ hm
  obtain ⟨t,hseen,hterm,hres⟩:=hs.outcome _ ho
  obtain ⟨hid,hf⟩:=hs.seen t hseen
  exact ⟨t.id,t,hid,hf hterm,hres⟩
 ·have hs:w.Sound P.state _:=h.sound _ hm
  obtain ⟨r,hr,hne⟩:=hs.outcome _ ho hu
  obtain ⟨id,t,hid,_,_,hno⟩:=hs.closed r hr hne
  exact ⟨id,hid,fun r' t' hm' hx=>hno ⟨_,hm',congrArg some hx⟩⟩

end Runs

def plain:Config:={runners:=false,toLower:=id,showDuration:=fun _=>"1s" }

def box:Runner:={tenant:="acme",name:="box" }

def finishedTask:Pool (machine plain):=
 (noTasks plain).after (freshRuns plain)
  ([.start (.dispatch {tenant:="acme",tags:=["box"]}),.step 0 {id:="t1" },.step 0 {},.step 0 {},.step 0 {},
   .start (.claim box 1 120),.step 1 {},.start (.complete box "t1" {stdout:="hello" } 2),.step 2 {},
   .step 0 {},.step 0 {},.step 0 {},.step 0 {},.step 0 {}])

lemma finishedTask_reach:Reach (freshRuns plain) (noTasks plain) finishedTask:=reach_after (by decide +kernel)

def Stage.told:Stage→Option Outcome
 | .dispatching w=>w.outcome
 | _=>none

theorem finished_task_reported:∃ id t,finishedTask.state.find? id=some t∧t.result=some {stdout:="hello" }:=by
 have h:∃ n∈standing finishedTask,n.told=some (.ok {stdout:="hello" }):=by decide +kernel
 obtain ⟨n,hn,ho⟩:=h
 cases n with
 | dispatching w=>
  obtain ⟨id,t,_,hf,hres⟩:=(runner_task_once finishedTask_reach).2.2.2.2.1 w _ hn ho
  exact ⟨id,t,hf,hres⟩
 | _=>cases ho

end Dazyflow.RunnerTasks
