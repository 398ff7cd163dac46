import Dazyflow.ExclusiveSections
import Dazyflow.PopulatingPrograms
import Dazyflow.RunOutcomes
import Dazyflow.SeededRuns

/-!
# Starting a queued run

A submission that is not admitted inserts its graph record as queued and then its seeds, and a promoter may
mark the run as running in between.
-/
namespace Dazyflow.QueuedRuns
open FlowGraph JobRecords MemoryStore StoreOperations
open Daemon RunRecords DaemonContract SeededRuns Interleaving Interleaving.Contract
open Memory (enqueueAll matchesNodeRecord startRunning startRunning_id)

variable {env:Env}{run:String}

def view(run:String)(m:Memory)(id:String):Option JobRecord:=m.get (nodeJobID run id)

def Foreign(run k:String):Prop:=k≠run∧∀ id,k≠nodeJobID run id

/-- Operations of submissions and promotions on the records of other runs. -/
def Apart(run:String):StoreOp→Prop
 | .enqueue rec=>Foreign run rec.id
 | .enqueueNodes recs=>∀ rec∈recs,Foreign run rec.id
 | .complete id _ _=>Foreign run id
 | .markGraphRunning id=>Foreign run id
 | .markGraphRunningCapped id _ _=>Foreign run id
 | op=>reads op

lemma foreign_run{run'}(h:SimpleID run')(hne:run'≠run):Foreign run run':=
 ⟨hne,fun id he=>nodeJobID_not_simple run id (he▸h)⟩
lemma foreign_node{run' id}(hs:SimpleID run)(h:SimpleID run')(hne:run'≠run):
 Foreign run (nodeJobID run' id):=by
 refine ⟨fun he=>nodeJobID_not_simple run' id (he▸hs),fun id' he=>?_⟩
 exact hne ((nodeJobID_eq_iff h hs).1 he).1
lemma node_ne_run(hs:SimpleID run)(id):nodeJobID run id≠run:=by
 intro he
 refine nodeJobID_not_simple run id ?_
 rw[he]
 exact hs
lemma Apart.frame{op}(h:Apart run op)(now tie m){k}
 (hk:¬Foreign run k):(apply now tie m op).2.get k=m.get k:=by
 have hd:∀ tenant,op≠.deleteByTenant tenant:=by
  rintro tenant rfl
  cases h
 rcases apply_get_cases now tie m op hd k with he | ⟨_,rec,hrec,hid,_⟩ | ⟨r,r',hr,_,ht⟩
 ·exact he
 ·cases op with
  | enqueue rec'=>
   rw[List.mem_singleton.1 hrec] at hid
   exact absurd (hid▸h) hk
  | enqueueNodes recs=>exact absurd (hid▸h rec hrec) hk
  | completeAndEnqueue id worker status result deps=>cases h
  | _=>cases hrec
 ·have hid:=get_id hr
  cases ht with
  | claim hop _ | renew hop _ _ | park hop _ _ | unpark hop _ _=>subst hop; cases h
  | requeue hop _ _=>cases op<;>first | cases hop; done | cases h
  | complete hop _ _ _ _=>
   cases op with
   | complete id status result=>
    cases hop
    exact absurd (hid▸h) hk
   | completeOwned id worker status result | completeAndEnqueue id worker status result deps=>cases h
   | _=>cases hop
  | start hop _ _=>
   rcases hop with rfl | ⟨tenant,limit,rfl⟩<;>exact absurd (hid▸h) hk
lemma Apart.view{op}(h:Apart run op)(now tie m):
 view run (apply now tie m op).2=view run m:=
 funext fun id=>h.frame now tie m (fun hf=>hf.2 id rfl)
lemma Apart.record{op}(h:Apart run op)(now tie m):
 (apply now tie m op).2.get run=m.get run:=
 h.frame now tie m (fun hf=>hf.1 rfl)

abbrev OnSteps(run:String):Call→Prop:=Populates run fun rec=>∃ id,rec.id=nodeJobID run id

lemma enqueueLocked_sees{rec}(now){m m'}(hrec:∃ id,rec.id=nodeJobID run id)
 (h:view run m=view run m'):
 (m.enqueueLocked now rec).1=(m'.enqueueLocked now rec).1∧
  view run (m.enqueueLocked now rec).2=view run (m'.enqueueLocked now rec).2:=by
 obtain ⟨id,hid⟩:=hrec
 have hget:m.get rec.id=m'.get rec.id:=by
  rw[hid]
  exact congrFun h id
 rcases enqueueLocked_cases now m rec with ⟨r,hr,he⟩ | ⟨hn,ho,hg⟩
 ·rcases enqueueLocked_cases now m' rec with ⟨r',_,he'⟩ | ⟨hn',_,_⟩
  ·rw[he,he']
   exact ⟨rfl,h⟩
  ·rw[hget,hn'] at hr
   cases hr
 ·rcases enqueueLocked_cases now m' rec with ⟨r',hr',_⟩ | ⟨_,ho',hg'⟩
  ·rw[hget,hr'] at hn
   cases hn
  ·refine ⟨ho.trans ho'.symm,funext fun x=>?_⟩
   have hx:m.get (nodeJobID run x)=m'.get (nodeJobID run x):=congrFun h x
   rw[QueuedRuns.view,QueuedRuns.view,hg,hg',hx]
lemma enqueueAll_sees{recs}(now){m m'}
 (hrec:∀ rec∈recs,∃ id,rec.id=nodeJobID run id)(h:view run m=view run m'):
 (m.enqueueAll now recs).1=(m'.enqueueAll now recs).1∧
  view run (m.enqueueAll now recs).2=view run (m'.enqueueAll now recs).2:=by
 induction recs generalizing m m' with
 | nil=>exact ⟨rfl,h⟩
 | cons rec rest ih=>
  obtain ⟨hres,hview⟩:=enqueueLocked_sees now (hrec rec List.mem_cons_self) h
  rw[enqueueAll,enqueueAll,←hres]
  cases (m.enqueueLocked now rec).1 with
  | ok u=>exact ih (fun r hr=>hrec r (List.mem_cons_of_mem _ hr)) hview
  | error e=>exact ⟨rfl,hview⟩
lemma batchClash_sees{recs m m'}(seen)
 (hrec:∀ rec∈recs,∃ id,rec.id=nodeJobID run id)(h:view run m=view run m'):
 m.batchClash recs seen=m'.batchClash recs seen:=by
 induction recs generalizing seen with
 | nil=>rfl
 | cons rec rest ih=>
  obtain ⟨id,hid⟩:=hrec rec List.mem_cons_self
  have hget:m.get rec.id=m'.get rec.id:=by
   rw[hid]
   exact congrFun h id
  simp only[Memory.batchClash,hget,ih _ fun r hr=>hrec r (List.mem_cons_of_mem _ hr)]
lemma enqueueNodes_sees{recs now m m'}
 (hrec:∀ rec∈recs,∃ id,rec.id=nodeJobID run id)(h:view run m=view run m'):
 (m.enqueueNodes now recs).1=(m'.enqueueNodes now recs).1∧
  view run (m.enqueueNodes now recs).2=view run (m'.enqueueNodes now recs).2:=by
 obtain ⟨hres,hview⟩:=enqueueAll_sees now hrec h
 unfold Memory.enqueueNodes
 rw[batchClash_sees [] hrec h]
 split_ifs
 ·exact ⟨rfl,h⟩
 ·exact ⟨rfl,h⟩
 generalize m.enqueueAll now recs=x at hres hview
 generalize m'.enqueueAll now recs=y at hres hview
 obtain ⟨rx,mx⟩:=x
 obtain ⟨ry,my⟩:=y
 simp only at hres hview
 subst hres
 cases rx<;>exact ⟨rfl,hview⟩
lemma sees_steps:Sees (M:=daemon env) (fun w=>view run w.store) (OnSteps run):=by
 intro c hc o s t h
 cases c with
 | store site op=>
  cases site with
  | plain=>
   cases op with
   | get k=>
    obtain ⟨id,rfl⟩:=hc
    refine ⟨?_,h⟩
    have hget:s.store.get (nodeJobID run id)=t.store.get (nodeJobID run id):=congrFun h id
    simp only[stepWorld,apply,hget]
   | enqueue rec=>exact enqueueLocked_sees o.now hc h
   | enqueueNodes recs=>exact enqueueNodes_sees hc h
   | _=>exact hc.elim
  | enqueueReady=>
   cases op with
   | enqueue rec=>exact enqueueLocked_sees o.now hc h
   | enqueueNodes recs=>exact enqueueNodes_sees hc h
   | _=>exact hc.elim
  | _=>exact hc.elim
 | _=>exact hc.elim

/-- Submissions, whose seeds are a map, and promotions. -/
def queueing:Entry→Prop
 | .submit _ _ opts=>(opts.seeds.map Prod.fst).Nodup
 | .promote _=>True
 | _=>False

instance (e:Entry):Decidable (queueing e):=
 match e with
 | .submit _ _ opts=>inferInstanceAs (Decidable (opts.seeds.map Prod.fst).Nodup)
 | .promote _=>inferInstanceAs (Decidable True)
 | .worker _ | .renew .. | .approve .. | .cancel .. | .reap | .resume .. =>inferInstanceAs (Decidable False)

def notAdmitted:Call→Bool
 | .store _ (.enqueue rec)=>rec.kind != .graph||rec.status==.queued
 | _=>true

/-- Submissions that are not admitted beside any number of promotions. -/
abbrev queuedRuns(env:Env):Rules (daemon env):=
 Allowed (fun _ e=>queueing e) (fun _ _ c o=>Lawful c o∧notAdmitted c)

def marked:Call→Option String
 | .store _ (.markGraphRunning id)=>some id
 | .store _ (.markGraphRunningCapped id _ _)=>some id
 | _=>none

def inserted(run:String)(p:Proc (daemon env)):Bool:=
 p.log.any (fun e=>match e with
  | ⟨_,.store _ (.enqueue rec),.ok _,_⟩=>rec.id==run
  | _=>false)

abbrev Submitted(run:String)(P:Pool (daemon env)):Prop:=
 ∀ p∈P.procs,inserted run p→p.prog.finished

/-- Promoters start a run only once its submission has returned. -/
abbrev handedOver(env:Env):Rules (daemon env):=
 Allowed (fun _ e=>queueing e)
  fun P _ c o=>Lawful c o∧notAdmitted c∧∀ run∈marked c,Submitted run P

/-- Where an operation stands with the run. -/
inductive Stage
 | clear (e:Entry)
 /-- its record is in, and these of its seeds are not yet -/
 | seeding (g:Graph) (seeds left:Seeds)
 | handed (g:Graph) (seeds:Seeds)
 /-- won by this promoter: the view it found, and the view its last call left -/
 | starting (found last:String→Option JobRecord)
 | lost

def Stage.opened(g:Graph)(seeds:Seeds):Seeds→Stage
 | []=>.handed g seeds
 | s::left=>.seeding g seeds (s::left)

def wins(run:String):Event (daemon env)→Bool
 | ⟨_,.store _ (.markGraphRunning id),.ok true,_⟩=>id==run
 | ⟨_,.store _ (.markGraphRunningCapped id _ _),.ok (true,_),_⟩=>id==run
 | _=>false

def inserts(k:String):Event (daemon env)→Option Bool
 | ⟨_,.store _ (.enqueue rec),.ok _,_⟩=>if rec.id=k then some true else none
 | ⟨_,.store _ (.enqueue rec),.error _,_⟩=>if rec.id=k then some false else none
 | _=>none

def Seeded(v:String→Option JobRecord):Prop:=∀ id r,v id=some r → r.status=.succeeded

open Classical in
noncomputable def Stage.after(run:String):Stage→Event (daemon env)→Stage
 | .clear e,ev=>
  if wins run ev then
   if Seeded (view run ev.before.store) then .starting (view run ev.before.store) (view run ev.after.store)
   else .lost
  else if inserts run ev=some true then
   match e with
   | .submit _ g opts=>.opened g opts.seeds opts.seeds
   | _=>.lost
  else .clear e
 | .seeding g seeds left,ev=>
  match left.head?.bind (fun s=>inserts (nodeJobID run s.1) ev) with
  | some true=>.opened g seeds left.tail
  | some false=>.lost
  | none=>if wins run ev then .lost else .seeding g seeds left
 | .handed g seeds,ev=>if wins run ev then .lost else .handed g seeds
 | .starting found last,ev=>
  if view run ev.before.store=last∧wins run ev=false∧inserts run ev≠some true then
   .starting found (view run ev.after.store)
  else .lost
 | .lost,_=>.lost

def May(run:String):Stage→StoreOp→Prop
 | .clear (.submit _ g opts),.enqueue rec=>
  rec=submittedRecord g run false opts∧g.nodes≠[]∧(opts.seeds.map Prod.fst).Nodup
 | .clear (.promote _),.markGraphRunning id=>id=run
 | .clear (.promote _),.markGraphRunningCapped id _ _=>id=run
 | .seeding g _ (s::_),.enqueue rec=>rec=seedRecord g run s.1 s.2
 | .starting ..,.complete id status _=>id=run∧status≠.failed
 | .starting ..,.enqueue _=>True
 | .starting ..,.enqueueNodes _=>True
 | .lost,_=>True
 | _,_=>False

def Owes(run:String)(stage:Stage):Call→Prop
 | .store site op=>notAdmitted (.store site op)→Apart run op∨May run stage op
 | _=>True

noncomputable def riding(env:Env)(run:String):Rider (contract env) where
 Note:=Stage
 blank:=.clear
 note n e:=n.after run e
 sure c _ _:=notAdmitted c
 guar n c _:=Owes run n c
 pre _ n _:=n=.lost
 post _ _ _ _ n' _:=n'=.lost

def Elsewhere(run:String):Call→Prop
 | .store _ op=>Apart run op
 | _=>True

variable {ev:Event (daemon env)}

lemma marked_of_wins(h:wins run ev):marked ev.call=some run:=by
 obtain ⟨w,c,res,w'⟩:=ev
 cases c with
 | store site op=>
  cases op with
  | markGraphRunning id=>
   match res,h with
   | .ok true,h=>exact congrArg some (beq_iff_eq.1 h)
  | markGraphRunningCapped id _ _=>
   match res,h with
   | .ok (true,_),h=>exact congrArg some (beq_iff_eq.1 h)
  | _=>cases h
 | _=>cases h
lemma not_wins(h:marked ev.call≠some run):wins run ev=false:=by
 by_contra hw
 exact h (marked_of_wins (by simpa using hw))
lemma Elsewhere.not_marked{c}(h:Elsewhere run c):marked c≠some run:=by
 intro hm
 unfold marked at hm
 split at hm
 ·exact h.1 (Option.some.inj hm)
 ·exact h.1 (Option.some.inj hm)
 ·cases hm
lemma Elsewhere.not_inserts(h:Elsewhere run ev.call){k:String}
 (hk:¬Foreign run k):inserts k ev=none:=by
 obtain ⟨w,c,res,w'⟩:=ev
 cases c with
 | store site op=>
  cases op with
  | enqueue rec=>
   have hne:rec.id≠k:=fun hid=>hk (hid▸h)
   cases res<;>exact if_neg hne
  | _=>rfl
 | _=>rfl
lemma not_foreign_run:¬Foreign run run:=fun h=>h.1 rfl
lemma not_foreign_node(id):¬Foreign run (nodeJobID run id):=fun h=>h.2 id rfl

variable {e:Entry}

lemma Stage.after_clear(hw:wins run ev=false)
 (hn:inserts run ev≠some true):Stage.after run (.clear e) ev=.clear e:=
 (if_neg (Bool.eq_false_iff.1 hw)).trans (if_neg hn)
lemma Stage.after_seeding{g:Graph}{seeds left:Seeds}:
 Stage.after run (.seeding g seeds left) ev =
  match left.head?.bind (fun s=>inserts (nodeJobID run s.1) ev) with
  | some true=>.opened g seeds left.tail
  | some false=>.lost
  | none=>if wins run ev then .lost else .seeding g seeds left:=rfl

variable {found last:String→Option JobRecord}

lemma Stage.after_kept(hv:view run ev.before.store=last)(hw:wins run ev=false)(hi:inserts run ev≠some true):
 Stage.after run (.starting found last) ev=.starting found (view run ev.after.store):=
 if_pos ⟨hv,hw,hi⟩
lemma Stage.after_missed(hv:view run ev.before.store≠last):Stage.after run (.starting found last) ev=.lost:=
 if_neg (fun h=>hv h.1)
open Stage (after after_clear after_kept after_missed)

lemma Stage.after_elsewhere(stage:Stage)(h:Elsewhere run ev.call)
 (hview:view run ev.after.store=view run ev.before.store):
 stage.after run ev=stage∨stage.after run ev=.lost∧
  ∃ found last,stage=.starting found last∧view run ev.before.store≠last:=by
 have hw:wins run ev=false:=not_wins h.not_marked
 cases stage with
 | clear e=>
  refine .inl (after_clear hw ?_)
  rw[h.not_inserts not_foreign_run]
  nofun
 | seeding g seeds left=>
  refine .inl ?_
  have hn:left.head?.bind (fun s=>inserts (nodeJobID run s.1) ev)=none:=by
   cases left with
   | nil=>rfl
   | cons s rest=>exact h.not_inserts (not_foreign_node s.1)
  rw[Stage.after_seeding,hn]
  exact if_neg (Bool.eq_false_iff.1 hw)
 | handed g seeds=>exact .inl (if_neg (Bool.eq_false_iff.1 hw))
 | starting found last=>
  by_cases hl:view run ev.before.store=last
  ·refine .inl ((after_kept hl hw ?_).trans ?_)
   ·rw[h.not_inserts not_foreign_run]
    nofun
   ·rw[hview,hl]
  ·exact .inr ⟨after_missed hl,found,last,rfl,hl⟩
 | lost=>exact .inl rfl

section Programs

variable (env run) in
noncomputable abbrev K:Contract (daemon env):=(riding env run).contract

variable {α β:Type}

lemma absorbing:(K env run).Absorbing Stage.lost where
 guar c t:=by
  cases c with
  | store site op=>exact fun _=>Or.inr trivial
  | _=>trivial
 note e:=rfl
 pre f t:=rfl
 post f t a n u h:=h
lemma view_elsewhere{c}(h:Elsewhere run c)(o w):
 view run (stepWorld env c o w).2.store=view run w.store:=by
 cases c with
 | store site op=>exact Apart.view h o.now o.tie w.store
 | _=>rfl
lemma owes_elsewhere{c}(h:Elsewhere run c)(stage):Owes run stage c:=by
 cases c with
 | store site op=>exact fun _=>Or.inl h
 | _=>trivial
lemma note_elsewhere{c:Call}(hc:Elsewhere run c)(o:Oracle)(n:Stage)(w:World):
 (K env run).note n ⟨w,c,(stepWorld env c o w).1,(stepWorld env c o w).2⟩=n∨
  (K env run).note n ⟨w,c,(stepWorld env c o w).1,(stepWorld env c o w).2⟩=Stage.lost:=
 (n.after_elsewhere hc (view_elsewhere hc o w)).imp_right And.left

variable {p:Daemon.Prog α}{I:Stage→World→Prop}

lemma triple_elsewhere(hp:p.Only (Elsewhere run))
 (hI:(K env run).Stable I)(hlost:∀ w,I .lost w):(K env run).Keeps I p:=by
 refine triple_only hp hI (fun c hc n t _ _=>owes_elsewhere hc n) ?_
 intro c hc n t o hi hIt ho hr hinv
 have hstable:=hI n t _ hr hinv hIt
 rcases note_elsewhere hc o n t with he | he
 ·exact he.symm▸hstable
 ·exact he.symm▸hlost _
lemma elsewhere_quiet(h:p.Only Quiet):p.Only (Elsewhere run):=by
 refine Prog.within_mono ?_ (fun _ h=>h) h
 intro c hc
 cases c with
 | store site op=>cases op<;>first | exact hc.1 | cases hc.1
 | _=>trivial
lemma elsewhere_steps{other:String}(hs:SimpleID run)(ho:SimpleID other)
 (hne:other≠run)(h:p.Only (OnSteps other)):p.Only (Elsewhere run):=by
 refine Prog.within_mono ?_ (fun _ h=>h) h
 intro c hc
 cases c with
 | store site op=>
  cases site with
  | plain | enqueueReady=>
   cases op with
   | get k=>exact rfl
   | enqueue rec=>
    obtain ⟨id,hid⟩:=hc
    exact (hid▸foreign_node hs ho hne:Foreign run rec.id)
   | enqueueNodes recs=>
    intro rec hrec
    obtain ⟨id,hid⟩:=hc rec hrec
    exact hid▸foreign_node hs ho hne
   | _=>exact hc.elim
  | _=>exact hc.elim
 | _=>trivial

open Interleaving.Prog (only_bind only_ask only_pure)

variable {g:Graph}

lemma onSteps_dispatchRoots(seeded):(dispatchRoots g run seeded).Only (OnSteps run):=
 populates_dispatchRoots (fun id=>⟨id,rfl⟩) seeded
lemma stable_stage(φ:Stage→Prop):(K env run).Stable (fun n _=>φ n):=fun _ _ _ _ _ h=>h

def Idle(n:Stage):Prop:=n=.lost∨(∃ e,n=.clear e)∨∃ g seeds,n=.handed g seeds

lemma inserts_enqueue{w w' site rec res}:
 inserts rec.id (⟨w,.store site (.enqueue rec),res,w'⟩:Event (daemon env))=some res.isOk:=by
 cases res<;>exact if_pos rfl
lemma inserts_other{w w' site rec res k}
 (h:rec.id≠k):inserts k (⟨w,.store site (.enqueue rec),res,w'⟩:Event (daemon env))=none:=by
 cases res<;>exact if_neg h
lemma triple_storeAt{site op k}
 {Q:α→Stage→World→Prop}(hI:(K env run).Stable I)
 (hg:∀ n w,(K env run).inv w→I n w→Owes run n (.store site op))
 (hk:∀ n w now tie,(K env run).inv w→I n w → notAdmitted (.store site op)→
  Flows w.store (apply now tie w.store op).2→
  (K env run).inv {w with store:=(apply now tie w.store op).2}→
  (K env run).wp (k (apply now tie w.store op).1) Q
   (after run n (⟨w,.store site op,(apply now tie w.store op).1,
    {w with store:=(apply now tie w.store op).2}⟩:Event (daemon env)))
   {w with store:=(apply now tie w.store op).2}):
 (K env run).Triple I (storeAt site op>>=k) Q:=
 triple_call (S:=sig) (c:=Call.store site op) hI hg
  fun n w o hi hIw ho hr hinv=>hk n w o.now o.tie hi hIw ho.1.2 hr hinv

variable {w w':World}{rec:JobRecord}{res:Except StoreError Unit}{site:Site}

lemma Stage.after_opened{seeds left:Seeds}{s:String×Result}
 (hid:rec.id=nodeJobID run s.1):
 after run (.opened g seeds (s::left)) (⟨w,.store site (.enqueue rec),res,w'⟩:Event (daemon env)) =
  if res.isOk then .opened g seeds left else .lost:=by
 have hins:inserts (nodeJobID run s.1) (⟨w,.store site (.enqueue rec),res,w'⟩:Event (daemon env)) =
  some res.isOk:=hid▸inserts_enqueue
 rw[Stage.opened,Stage.after_seeding,List.head?_cons,Option.bind_some,hins]
 cases res<;>rfl

variable {opts:SubmitOpts}

lemma Stage.after_insert{p:Principal}
 (hid:rec.id=run):
 after run (.clear (.submit p g opts)) (⟨w,.store site (.enqueue rec),res,w'⟩:Event (daemon env)) =
  if res.isOk then .opened g opts.seeds opts.seeds else .clear (.submit p g opts):=by
 have hins:inserts run (⟨w,.store site (.enqueue rec),res,w'⟩:Event (daemon env)) =
  some res.isOk:=hid▸inserts_enqueue
 cases res with
 | ok v=>exact if_pos hins
 | error e=>exact after_clear rfl (hins▸nofun)
lemma triple_persistSeedsOnly(seeds left):
 (K env run).Triple (fun n _=>n=.opened g seeds left) (persistSeedsOnly g run left)
  (fun errs n _=>n=.lost∨n=.handed g seeds∧errs=[]):=by
 induction left with
 | nil=>exact triple_done (stable_stage _) (fun n _ _ h=>.inr ⟨h,rfl⟩)
 | cons s left ih=>
  refine triple_storeAt (stable_stage _) ?_ ?_
  ·rintro n w-rfl
   exact fun _=>.inr rfl
  ·rintro n w now tie-rfl - - hinv
   rw[Stage.after_opened rfl]
   cases (apply now tie w.store (.enqueue (seedRecord g run s.1 s.2))).1 with
   | ok _=>exact ih _ _ hinv rfl
   | error e=>exact absorbing.wp hinv (fun _ _=>.inl rfl)
lemma elsewhere_store{site op}(h:Apart run op):(storeAt site op).Only (Elsewhere run):=
 only_ask (S:=sig) h
lemma elsewhere_persistSeedsOnly{other:String}(hs:SimpleID run)(ho:SimpleID other)(hne:other≠run)
 (seeds):(persistSeedsOnly g other seeds).Only (Elsewhere run):=
 elsewhere_steps hs ho hne (populates_persistSeedsOnly (fun id _=>⟨id,rfl⟩) seeds)
lemma elsewhere_failRun{other code message}(ho:SimpleID other)(hne:other≠run):
 (failRun other code message).Only (Elsewhere run):=
 only_bind (elsewhere_store (foreign_run ho hne)) (fun _=>only_pure _)
lemma elsewhere_succeedRun{other}(ho:SimpleID other)(hne:other≠run):
 (succeedRun other).Only (Elsewhere run):=
 only_bind (elsewhere_store (foreign_run ho hne)) (fun _=>only_pure _)
lemma triple_seeding:
 (K env run).Triple (fun n _=>n=.opened g opts.seeds opts.seeds) (do
  let errs←persistSeedsOnly g run opts.seeds
  if errs≠[] then
   failRun run "enqueue_failed" (joinErrors errs)
   pure ({runID:=run,error:=some "persist seeds" }:Daemon.Submitted)
  else pure {runID:=run}) (fun _ n _=>Idle n):=by
 refine triple_bind (triple_persistSeedsOnly opts.seeds opts.seeds) fun errs=>?_
 refine absorbing.or_lost (triple_known (P:=errs=[]) (fun _ _ _ h=>h.2) ?_) fun _ _=>.inl rfl
 rintro rfl
 exact triple_done (stable_stage _) fun n _ _ h=>.inr (.inr ⟨g,opts.seeds,h.1⟩)

def Before(e:Entry)(n:Stage):Prop:=n=.lost∨n=.clear e

lemma Before.idle{e n}(h:Before e n):Idle n:=
 h.imp (fun h=>h) (fun h=>.inl ⟨e,h⟩)
lemma triple_before(hp:p.Only (Elsewhere run)):
 (K env run).Triple (fun n _=>Before e n) p (fun _ n _=>Before e n):=
 triple_elsewhere (I:=fun n _=>Before e n) hp (stable_stage _) (fun _=>.inl rfl)
lemma triple_newID{e}:
 (K env run).Triple (fun n _=>Before e n) (query .newID) (fun id n _=>SimpleID id∧Before e n):=by
 refine triple_ask (S:=sig) (stable_stage _) (fun _=>stable_stage fun n=>_∧Before e n)
  (fun _ _ _ _=>trivial) ?_
 intro n w o _ h ho _ _
 refine ⟨ho.1.1.1,?_⟩
 rcases h with rfl | rfl
 ·exact .inl rfl
 ·exact .inr rfl
lemma triple_submitGraphOpts(hs:SimpleID run){p:Principal}
 (hseeds:(opts.seeds.map Prod.fst).Nodup):
 (K env run).Triple (fun n _=>Before (.submit p g opts) n) (submitGraphOpts p g opts)
  (fun _ n _=>Idle n):=by
 have hdone:∀ a:Daemon.Submitted,(K env run).Triple (fun n _=>Before (.submit p g opts) n) (pure a)
  (fun _ n _=>Idle n):=
  fun a=>triple_done (stable_stage _) (fun _ _ _ h=>h.idle)
 refine triple_bind (triple_before (elsewhere_quiet (quiet_refuseGraph p g opts.seeds))) fun
  | some msg=>hdone _
  | none=>?_
 simp only
 by_cases hdepth:maxTriggerChainDepth ≤ opts.triggerDepth
 ·rw[if_pos hdepth]
  exact hdone _
 rw[if_neg hdepth]
 refine triple_bind triple_newID fun id=>triple_given (fun hid=>?_)
 have hrest:∀ admitted:Bool,(admitted=false → g.nodes≠[])→
  (K env run).Triple (fun n _=>Before (.submit p g opts) n) (submitReserved g opts id admitted)
   (fun _ n _=>Idle n):=by
  intro admitted hnodes
  refine triple_bind (triple_before (elsewhere_quiet (quiet_query trivial))) fun reserved=>?_
  cases reserved with
  | false=>exact hdone _
  | true=>?_
  cases admitted with
  | true=>
   -- an admitted run is inserted as running, which is not considered here
   refine triple_storeAt (stable_stage _) (fun _ _ _ _ h=>by cases h) ?_
   intro n w now tie _ _ h
   cases h
  | false=>
   by_cases hrun:id=run
   ·subst hrun
    refine absorbing.or_lost (triple_storeAt (I:=fun n _=>n=Stage.clear (.submit p g opts))
     (stable_stage _) ?_ ?_) (fun _ _=>Or.inl rfl)
    ·rintro n w-rfl
     exact fun _=>Or.inr ⟨rfl,hnodes rfl,hseeds⟩
    ·rintro n w now tie-rfl - - hinv
     have hown:(submittedRecord g id false opts).id=id:=rfl
     rw[Stage.after_insert hown]
     cases (apply now tie w.store (.enqueue (submittedRecord g id false opts))).1 with
     | ok _=>exact triple_seeding _ _ hinv rfl
     | error e=>exact hdone _ _ _ hinv (Or.inr rfl)
   · -- the whole submission is about another run
    refine triple_mono (triple_before (e:=.submit p g opts) ?_) (fun _ _ _ h=>h)
     fun _ _ _ _ h=>h.idle
    refine only_bind (elsewhere_store (foreign_run hid hrun)) fun r=>?_
    cases r with
    | error e=>exact only_pure _
    | ok _=>?_
    refine only_bind (elsewhere_persistSeedsOnly hs hid hrun _) fun errs=>?_
    split_ifs
    ·exact only_bind (elsewhere_failRun hid hrun) fun _=>only_pure _
    ·exact only_pure _
 by_cases hempty:g.nodes=[]
 ·simp only[if_pos hempty]
  exact hrest true fun h=>by cases h
 ·simp only[if_neg hempty]
  exact triple_bind (triple_before (elsewhere_quiet (quiet_admitGraphRun g.tenant)))
   fun admitted=>hrest admitted (fun _=>hempty)

def Begun(run:String)(g:Graph)(found last:String→Option JobRecord):Prop:=
 g.nodes≠[]→∃ m₀ m seeded,view run m₀=found∧view run m=last∧SeedsOnly run seeded m₀∧
  Adds (((roots g seeded).map Node.id++seedDependents g seeded seeded).map (dependentRecord g run)) m₀ m

def Holds(run:String)(φ:Graph→(found last:String→Option JobRecord)→Prop)(n:Stage)
 (w:World):Prop:=
 n=.lost∨∃ found last g,n=.starting found last∧Started w.store run g∧φ g found last

def Promoting(run:String)(n:Stage)(w:World):Prop:=
 (∃ tenant,n=.clear (.promote tenant))∨Holds run (Begun run) n w

lemma stable_holds(φ:Graph→(found last:String→Option JobRecord)→Prop):
 (K env run).Stable (Holds run φ):=by
 rintro n s t hr _ (h | ⟨found,last,g,hn,hst,hφ⟩)
 ·exact .inl h
 ·exact .inr ⟨found,last,g,hn,hst.later hr,hφ⟩
lemma stable_promoting:(K env run).Stable (Promoting run):=by
 rintro n s t hr hi (h | h)
 ·exact .inl h
 ·exact .inr (stable_holds _ n s t hr hi h)
lemma promoting_lost(w):Promoting run .lost w:=.inr (.inl rfl)
lemma view_complete(hs:SimpleID run){status result}(now tie)
 (m):view run (apply now tie m (.complete run status result)).2=view run m:=by
 funext id
 change (m.completeLocked now run "" status result).2.get (nodeJobID run id)=m.get (nodeJobID run id)
 rcases completeLocked_cases now m run "" status result with ⟨e,he⟩ | ⟨r,_,_,_,_,_,ho⟩
 ·rw[he]
 ·rw[ho]
  exact (get_update m run _ _ _).trans (if_neg (node_ne_run hs id))
lemma triple_succeedRun(hs:SimpleID run){φ:Graph→(found last:String→Option JobRecord)→Prop}:
 (K env run).Keeps (Holds run φ) (succeedRun run):=by
 refine absorbing.or_lost (triple_storeAt (I:=fun n w=>∃ found last g,n=Stage.starting found last∧
  Started (World.store w) run g∧φ g found last) ?_ ?_ ?_) (fun _ _=>.inl rfl)
 ·rintro n s t hr _ ⟨found,last,g,hn,hst,hφ⟩
  exact ⟨found,last,g,hn,hst.later hr,hφ⟩
 ·rintro n w-⟨found,last,g,rfl,-,-⟩
  exact fun _=>.inr ⟨rfl,nofun⟩
 ·rintro n w now tie-⟨found,last,g,rfl,hst,hφ⟩-hflow hinv
  refine triple_done (stable_holds φ) (fun _ _ _ h=>h) _ _ hinv ?_
  by_cases hv:view run w.store=last
  ·rw[after_kept hv rfl (by nofun),view_complete hs,hv]
   exact .inr ⟨found,last,g,rfl,hst.later hflow,hφ⟩
  ·rw[after_missed hv]
   exact .inl rfl
lemma mem_seeded{m}(hm:WellKept m)(hr:RunOf m run g)(id):
 id∈(m.listNodeRecords {graphRunID:=run,status:=.succeeded,limit:=(g.nodes.length:Int)+1}).map
  JobRecord.nodeID↔succeededIn m run id:=by
 have hname:run≠"":=by
  obtain ⟨r,hget,hk,_⟩:=hr
  exact get_id hget▸(hm.graph hget hk).named
 have hmatch:∀ r,matchesNodeRecord
  {graphRunID:=run,status:=.succeeded,limit:=(g.nodes.length:Int)+1} r↔
  r.kind=.node∧r.status=.succeeded∧r.graphRunID=run:=by
  intro r
  simp[matchesNodeRecord,hname,and_assoc]
 have hlen:=run_rows_length hm hr (p:=matchesNodeRecord
  {graphRunID:=run,status:=.succeeded,limit:=(g.nodes.length:Int)+1})
  fun r h=>⟨((hmatch r).1 h).1,((hmatch r).1 h).2.2⟩
 simp only[List.mem_map,mem_listNodeRecords_of_fits rfl (Int.le_add_one (Int.ofNat_le.2 hlen))
  (Int.lt_add_one_of_le (Int.natCast_nonneg _)),hmatch]
 constructor
 ·rintro ⟨r,⟨hget,hk,hst,hrun⟩,rfl⟩
  have hid:=(hm.node hget hk).id
  rw[hrun] at hid
  simp[succeededIn,←hid,hget,hst]
 ·intro h
  obtain ⟨r,hget,hst⟩:=(Option.any_eq_true _ _).1 h
  obtain ⟨hk,hrun,hn⟩:=hm.node_at (hm.runOf_simple hr) hget
  exact ⟨r,⟨(get_id hget).symm▸hget,hk,by simpa using hst,hrun⟩,hn⟩

def Won(found last:String→Option JobRecord):Prop:=found=last∧Seeded found

def Read(run:String)(seeded:List String)(g:Graph)(found last:String→Option JobRecord):Prop:=
 ∃ m,view run m=found∧view run m=last∧SeedsOnly run seeded m∧
  (∀ n∈roots g seeded,m.get (nodeJobID run n.id)=none)∧g.nodeIDs.Nodup

lemma read_listing{m}(hm:WellKept m)(hr:RunOf m run g)(hseeded:Seeded (view run m)):
 Read run ((m.listNodeRecords {graphRunID:=run,status:=.succeeded,limit:=(g.nodes.length:Int)+1}).map
  JobRecord.nodeID) g (view run m) (view run m):=by
 refine ⟨m,rfl,rfl,fun id=>?_,fun n hn=>?_,(hm.accepted hr).wellFormed.ids⟩
 ·rw[Bool.eq_iff_iff,List.contains_iff_mem]
  exact (mem_seeded hm hr id).symm
 · -- a root with a record would be one of the seeds
  simp only[roots,List.mem_filter,Bool.and_eq_true,Bool.not_eq_true'] at hn
  cases hget:m.get (nodeJobID run n.id) with
  | none=>rfl
  | some r=>
   have hsucc:succeededIn m run n.id:=by simp[succeededIn,hget,hseeded n.id r hget]
   have hmem:=(mem_seeded hm hr n.id).2 hsucc
   rw[List.contains_iff_mem.2 hmem] at hn
   cases hn.2.2
lemma triple_seededNodes{g:Graph}:
 (K env run).Triple (Holds run fun g' found last=>g'=g∧Won found last) (seededNodes run g.nodes.length)
  (fun seeded=>Holds run fun g' found last=>g'=g∧Read run seeded g found last):=by
 refine absorbing.or_lost (triple_storeAt (I:=fun n w=>∃ found last g',n=Stage.starting found last∧
  Started (World.store w) run g'∧g'=g∧Won found last) ?_ ?_ ?_) (fun _ _=>.inl rfl)
 ·rintro n s t hr _ ⟨found,last,g',hn,hst,hφ⟩
  exact ⟨found,last,g',hn,hst.later hr,hφ⟩
 ·rintro n w - -
  exact fun _=>.inl rfl
 ·rintro n w now tie hi ⟨found,_,_,rfl,hst,rfl,rfl,hseeded⟩ - - hinv
  refine triple_done (stable_holds _) (fun _ _ _ h=>h) _ _ hinv ?_
  by_cases hv:view run w.store=found
  ·rw[after_kept hv rfl fun h=>by cases h]
   subst hv
   exact .inr ⟨_,_,_,rfl,hst,rfl,read_listing hi.1 hst.runOf hseeded⟩
  ·rw[after_missed hv]
   exact .inl rfl
lemma onSteps_call(hs:SimpleID run)(hc:OnSteps run ev.call):
 marked ev.call≠some run∧inserts run ev=none:=by
 obtain ⟨w,c,res,w'⟩:=ev
 cases c with
 | store site op=>
  cases site with
  | plain | enqueueReady=>
   cases op with
   | get k | enqueueNodes recs=>exact ⟨nofun,rfl⟩
   | enqueue rec=>
    obtain ⟨id,hid⟩:=hc
    exact ⟨nofun,inserts_other (hid▸node_ne_run hs id)⟩
   | _=>exact hc.elim
  | _=>exact hc.elim
 | _=>exact hc.elim
lemma holding(hs:SimpleID run){found}:
 Holding (K:=K env run) (fun w=>view run w.store) (OnSteps run) (Stage.starting found) .lost where
 absorbing:=absorbing
 guar c hc v t:=by
  cases c with
  | store site op=>
   cases site with
   | plain | enqueueReady=>
    cases op with
    | get k=>exact fun _=>.inl rfl
    | enqueue rec | enqueueNodes recs=>exact fun _=>.inr trivial
    | _=>exact hc.elim
   | _=>exact hc.elim
  | _=>exact hc.elim
 kept v e hc hv:=by
  have hout:=onSteps_call hs hc
  exact after_kept hv (not_wins hout.1) (hout.2▸nofun)
 missed v e hv:=after_missed hv
lemma triple_dispatchRoots(hs:SimpleID run){g seeded}:
 (K env run).Triple (Holds run fun g' found last=>g'=g∧Read run seeded g found last)
  (dispatchRoots g run seeded)
  (fun out=>Holds run fun g' found last=>g'=g∧Begun run g found last∧out.2=[]):=by
 refine absorbing.or_lost ?_ fun _ _=>.inl rfl
 rintro n w hi ⟨found,_,_,rfl,hst,rfl,m,hfound,rfl,hseeds,hfree,hids⟩
 have hsolo:Solo (daemon env) (dispatchRoots _ run seeded) {w with store:=m} _:=
  (solo_dispatchRoots {w with store:=m} hseeds).and
   (solo_dispatchRoots_free {w with store:=m} hseeds hids hfree)
 refine wp_mono ?_ (wp_solo (holding hs) sees_steps (onSteps_dispatchRoots seeded) hsolo hi)
 rintro out n' t hr-(h | ⟨s',hn,hadds,herr⟩)
 ·exact .inl h
 ·exact .inr ⟨found,_,_,hn,hst.later hr,rfl,fun _=>⟨m,s'.store,seeded,hfound,rfl,hseeds,hadds⟩,herr⟩
lemma holds_mono{φ ψ:Graph→(found last:String→Option JobRecord)→Prop}{n w}
 (h:Holds run φ n w)(hφ:∀ g found last,φ g found last→ψ g found last):Holds run ψ n w:=by
 rcases h with h | ⟨found,last,g,hn,hst,h⟩
 ·exact .inl h
 ·exact .inr ⟨found,last,g,hn,hst,hφ g found last h⟩
lemma triple_startPendingRun(hs:SimpleID run){rec g}(hid:rec.id=run)
 (hp:rec.graphPayload=some g):
 (K env run).Triple (Holds run fun g' found last=>g'=g∧Won found last) (startPendingRun rec)
  (fun _=>Holds run (Begun run)):=by
 unfold startPendingRun
 rw[hp,hid]
 simp only
 by_cases hempty:g.nodes=[]
 ·rw[if_pos hempty]
  refine triple_mono (triple_succeedRun hs) (fun _ _ _ h=>h)
   fun _ n w _ h=>holds_mono h (fun g' found last h'=>?_)
  obtain ⟨rfl,_⟩:=h'
  exact fun hne=>absurd hempty hne
 rw[if_neg hempty]
 refine triple_bind triple_seededNodes fun seeded=>triple_bind (triple_dispatchRoots hs) (fun ⟨queued,errs⟩=>?_)
 have hend:(K env run).Keeps (Holds run (Begun run)) (do
  if←allNodesAccountedFor g run then succeedRun run else pure ()):=by
  refine triple_bind (triple_elsewhere (elsewhere_quiet (quiet_accountedFor g run g.nodes)) (stable_holds _)
   (fun _=>.inl rfl)) (fun b=>?_)
  cases b with
  | true=>exact triple_succeedRun hs
  | false=>exact triple_done (stable_holds _) (fun _ _ _ h=>h)
 refine absorbing.or_lost (triple_known (P:=errs=[]) ?_ ?_) fun _ _=>.inl rfl
 ·rintro n w-⟨found,last,g',-,-,-,-,herr⟩
  exact herr
 ·rintro rfl
  refine triple_mono (I:=Holds run (Begun run)) (Q:=fun _=>Holds run (Begun run)) ?_ ?_
   fun _ _ _ _ h=>h
  ·simp only
   split_ifs
   ·exact hend
   ·exact triple_done (stable_holds _) fun _ _ _ h=>h
  ·rintro n w-⟨found,last,g',hn,hst,rfl,hb,-⟩
   exact .inr ⟨found,last,g',hn,hst,hb⟩
lemma triple_getRun:
 (K env run).Triple (Holds run fun _=>Won) (getRecord run)
  (fun r n w=>n=.lost∨∃ rec g,r=some rec∧rec.id=run∧rec.graphPayload=some g∧
   Holds run (fun g' found last=>g'=g∧Won found last) n w):=by
 refine absorbing.or_lost (triple_storeAt (I:=fun n w=>∃ found last g,n=Stage.starting found last∧
  Started (World.store w) run g∧Won found last) ?_ ?_ ?_) (fun _ _=>.inl rfl)
 ·rintro n s t hr _ ⟨found,last,g,hn,hst,hφ⟩
  exact ⟨found,last,g,hn,hst.later hr,hφ⟩
 ·rintro n w - -
  exact fun _=>.inl rfl
 ·rintro n w now tie hi ⟨found,_,g,rfl,hst,rfl,hseeded⟩ - - hinv
  obtain ⟨rec,hrec,hk,hp,hq⟩:=hst
  have hstable:(K env run).Stable (fun n w=>n=Stage.lost∨∃ rec' g,some rec=some rec'∧rec'.id=run∧
   rec'.graphPayload=some g∧Holds run (fun g' found last=>g'=g∧Won found last) n w):=by
   rintro n s t hr hi (h | ⟨rec',g,he,hid,hp,h⟩)
   ·exact .inl h
   ·exact .inr ⟨rec',g,he,hid,hp,stable_holds _ n s t hr hi h⟩
  simp only[apply,hrec]
  refine triple_done hstable (fun _ _ _ h=>h) _ _ hinv ?_
  by_cases hv:view run w.store=found
  ·rw[after_kept hv rfl fun h=>by cases h]
   exact .inr ⟨rec,g,rfl,get_id hrec,hp,.inr ⟨found,_,g,rfl,⟨rec,hrec,hk,hp,hq⟩,rfl,
    hv.symm,hseeded⟩⟩
  ·rw[after_missed hv]
   exact .inl rfl
lemma markGraphRunning_cases(run:String)(now:Time)(m:Memory):
 (m.markGraphRunning now run).2=m∧(m.markGraphRunning now run).1≠.ok true∨
 (∃ r,m.get run=some r∧r.kind=.graph∧r.status=.queued)∧m.markGraphRunning now run =
  (.ok true,m.update run (startRunning now) (startRunning_id now)):=by
 unfold Memory.markGraphRunning
 cases hr:m.get run with
 | none=>exact .inl ⟨rfl,nofun⟩
 | some r=>
  simp only
  split_ifs with h
  ·exact .inl ⟨rfl,by simp⟩
  ·push Not at h
   exact .inr ⟨⟨r,rfl,h.1,h.2⟩,rfl⟩
lemma markGraphRunningCapped_cases(run:String)(now:Time)(m:Memory)(tenant:String)(limit:Int):
 (m.markGraphRunningCapped now run tenant limit).2=m∧
  (∀ c,(m.markGraphRunningCapped now run tenant limit).1≠.ok (true,c))∨
 (∃ r,m.get run=some r∧r.kind=.graph∧r.status=.queued)∧
  m.markGraphRunningCapped now run tenant limit =
   (.ok (true,false),m.update run (startRunning now) (startRunning_id now)):=by
 unfold Memory.markGraphRunningCapped
 cases hr:m.get run with
 | none=>exact .inl ⟨rfl,nofun⟩
 | some r=>?_
 simp only
 split_ifs with hcap h
 ·exact .inl ⟨rfl,by simp⟩
 ·exact .inl ⟨rfl,by simp⟩
 ·push Not at h
  exact .inr ⟨⟨r,rfl,h.1,h.2⟩,rfl⟩
lemma view_start(hs:SimpleID run)(now m):
 view run (m.update run (startRunning now) (startRunning_id now))=view run m:=by
 funext id
 exact (get_update m run _ _ _).trans (if_neg (node_ne_run hs id))
lemma started_start{m}(hm:WellKept m)(now)
 (h:∃ r,m.get run=some r∧r.kind=.graph∧r.status=.queued):
 ∃ g,Started (m.update run (startRunning now) (startRunning_id now)) run g:=by
 obtain ⟨r,hr,hk,_⟩:=h
 obtain ⟨g,hp,_⟩:=(hm.graph hr hk).payload
 exact ⟨g,_,get_update_self hr,hk,hp,by simp[startRunning]⟩

def Marked(run:String)(r:Option Bool)(n:Stage)(w:World):Prop:=
 if r=some true then Holds run (fun _=>Won) n w else Promoting run n w

lemma stable_marked(r):(K env run).Stable (Marked run r):=by
 unfold Marked
 split_ifs
 ·exact stable_holds _
 ·exact stable_promoting
lemma Stage.after_won(hw:wins run ev):
 after run (.clear e) ev=.lost∨Seeded (view run ev.before.store)∧
  after run (.clear e) ev=.starting (view run ev.before.store) (view run ev.after.store):=by
 by_cases hseeded:Seeded (view run ev.before.store)
 ·exact .inr ⟨hseeded,(if_pos hw).trans (if_pos hseeded)⟩
 ·exact .inl ((if_pos hw).trans (if_neg hseeded))
lemma holds_won(hs:SimpleID run){now:Time}
 (hbefore:ev.before=w)(hafter:ev.after=w')(hw:wins run ev)(hm:WellKept w.store)
 (hq:∃ r,w.store.get run=some r∧r.kind=.graph∧r.status=.queued)
 (hstore:w'.store=w.store.update run (startRunning now) (startRunning_id now)):
 Holds run (fun _=>Won) (after run (.clear e) ev) w':=by
 subst hbefore hafter
 obtain ⟨g,hst⟩:=started_start hm now hq
 rcases Stage.after_won (e:=e) hw with hlost | ⟨hseeded,hheld⟩
 ·exact .inl hlost
 ·refine .inr ⟨_,_,g,hheld,?_,?_,hseeded⟩
  ·rw[hstore]
   exact hst
  ·rw[hstore,view_start hs]
lemma triple_mark(hs:SimpleID run)(op)(won:Except StoreError op.Val→Prop)
 (hmay:∀ t,May run (.clear (.promote t)) op)
 (hins:∀ w res w',inserts run (⟨w,.store .plain op,res,w'⟩:Event (daemon env))=none)
 (hcases:∀ now tie m w w',
  wins run (⟨w,.store .plain op,(apply now tie m op).1,w'⟩:Event (daemon env))=false∧
   ¬won (apply now tie m op).1∨
  (∃ r,m.get run=some r∧r.kind=.graph∧r.status=.queued)∧won (apply now tie m op).1∧
   wins run (⟨w,.store .plain op,(apply now tie m op).1,w'⟩:Event (daemon env))∧
   (apply now tie m op).2=m.update run (startRunning now) (startRunning_id now)):
 (K env run).Triple (fun n _=>∃ tenant,n=Stage.clear (.promote tenant)) (storeAt .plain op)
  (fun res n w=>won res∧Holds run (fun _=>Won) n w∨¬won res∧Promoting run n w):=by
 have hstable:∀ res,(K env run).Stable
  (fun n w=>won res∧Holds run (fun _=>Won) n w∨¬won res∧Promoting run n w):=by
  rintro res n s t hr hi (⟨h,h'⟩ | ⟨h,h'⟩)
  ·exact .inl ⟨h,stable_holds _ n s t hr hi h'⟩
  ·exact .inr ⟨h,stable_promoting n s t hr hi h'⟩
 refine triple_ask (S:=sig) (stable_stage _) hstable ?_ ?_
 ·rintro n w-⟨t,rfl⟩
  exact fun _=>.inr (hmay t)
 ·rintro n w o hi ⟨t,rfl⟩ - - hinv
  rcases hcases o.now o.tie w.store w (stepWorld env (.store .plain op) o w).2 with
   ⟨hlose,hno⟩ | ⟨hq,hwon,hwin,hstore⟩
  ·refine .inr ⟨hno,.inl ⟨t,after_clear hlose ?_⟩⟩
   rw[hins]
   nofun
  ·exact .inl ⟨hwon,holds_won hs rfl rfl hwin hi.1 hq hstore⟩
lemma triple_answer{won:Prop}{r}(hr:won↔r=some true):
 (K env run).Triple (fun n w=>won∧Holds run (fun _=>Won) n w∨¬won∧Promoting run n w) (pure r)
  (Marked run):=by
 refine triple_mono (I:=Marked run r) (triple_done (stable_marked r) fun _ _ _ h=>h) ?_
  fun _ _ _ _ h=>h
 rintro n w-(⟨h,h'⟩ | ⟨h,h'⟩)
 ·unfold Marked
  rw[if_pos (hr.1 h)]
  exact h'
 ·unfold Marked
  rw[if_neg fun h₁=>h (hr.2 h₁)]
  exact h'
lemma triple_markRunning(hs:SimpleID run){limit tenant}:
 (K env run).Triple (fun n _=>∃ tenant,n=Stage.clear (.promote tenant)) (markRunning limit run tenant)
  (Marked run):=by
 unfold markRunning
 split
 ·refine triple_bind (triple_mark hs (.markGraphRunningCapped run tenant limit)
   (fun res=>res=.ok (true,false)) (fun _=>rfl) (fun _ _ _=>rfl) ?_) (fun res=>?_)
  ·intro now tie m w w'
   simp only[apply]
   rcases markGraphRunningCapped_cases run now m tenant limit with ⟨_,hno⟩ | ⟨hq,hwon⟩
   ·refine .inl ⟨?_,hno false⟩
    cases hres:(m.markGraphRunningCapped now run tenant limit).1 with
    | error e=>rfl
    | ok out=>
     obtain ⟨won,atCap⟩:=out
     cases won with
     | true=>exact absurd hres (hno atCap)
     | false=>rfl
   ·rw[hwon]
    exact .inr ⟨hq,rfl,beq_self_eq_true run,rfl⟩
  ·cases res with
   | error e=>exact triple_answer (by simp)
   | ok out=>
    obtain ⟨won,atCap⟩:=out
    cases won<;>cases atCap<;>exact triple_answer (by simp)
 ·refine triple_bind (triple_mark hs (.markGraphRunning run) (fun res=>res=.ok true) (fun _=>rfl)
   (fun _ _ _=>rfl) ?_) (fun res=>?_)
  ·intro now tie m w w'
   simp only[apply]
   rcases markGraphRunning_cases run now m with ⟨_,hno⟩ | ⟨hq,hwon⟩
   ·refine .inl ⟨?_,hno⟩
    cases hres:(m.markGraphRunning now run).1 with
    | error e=>rfl
    | ok won=>
     cases won with
     | true=>exact absurd hres hno
     | false=>rfl
   ·rw[hwon]
    exact .inr ⟨hq,rfl,beq_self_eq_true run,rfl⟩
  ·cases res with
   | error e=>exact triple_answer (by simp)
   | ok won=>cases won<;>exact triple_answer (by simp)
lemma elsewhere_markRunning{other}(ho:SimpleID other)(hne:other≠run)(limit)
 (tenant):(markRunning limit other tenant).Only (Elsewhere run):=by
 unfold markRunning
 split_ifs<;>(exact only_bind (elsewhere_store (foreign_run ho hne)) fun r=>by cases r<;>exact only_pure _)
lemma elsewhere_startPendingRun(hs:SimpleID run){rec}(ho:SimpleID rec.id)
 (hne:rec.id≠run):(startPendingRun rec).Only (Elsewhere run):=by
 unfold startPendingRun
 cases rec.graphPayload with
 | none=>exact elsewhere_failRun ho hne
 | some g=>?_
 simp only
 split_ifs
 ·exact elsewhere_succeedRun ho hne
 refine only_bind (elsewhere_quiet (quiet_seededNodes _ _)) fun seeded=>?_
 refine only_bind (elsewhere_steps hs ho hne (onSteps_dispatchRoots seeded)) fun ⟨queued,errs⟩=>?_
 cases errs with
 | cons err _=>exact elsewhere_failRun ho hne
 | nil=>?_
 simp only
 split_ifs
 ·exact only_bind (elsewhere_quiet (quiet_accountedFor _ _ _)) fun
   | true=>elsewhere_succeedRun ho hne
   | false=>only_pure _
 ·exact only_pure _
lemma triple_read(op)(hop:Apart run op)(hI:(K env run).Stable I)
 (hlost:∀ w,I .lost w){φ:Except StoreError op.Val→Stage→Prop}
 (hφ:∀ n w now tie,(K env run).inv w→I n w→φ (apply now tie w.store op).1 n∧
  φ (apply now tie w.store op).1 .lost):
 (K env run).Triple I (storeAt .plain op) (fun r n w=>I n w∧φ r n):=by
 refine triple_ask (S:=sig) hI (fun r n s t hr hi h=>⟨hI n s t hr hi h.1,h.2⟩) (fun n w _ _ _=>.inl hop) ?_
 intro n w o hi hIw _ hr hinv
 obtain ⟨hkept,hmiss⟩:=hφ n w o.now o.tie hi hIw
 have hstable:=hI n w _ hr hinv hIw
 rcases note_elsewhere (c:=.store .plain op) hop o n w with he | he
 ·exact he.symm▸⟨hstable,hkept⟩
 ·exact he.symm▸⟨hlost _,hmiss⟩

def Waiting(run:String)(r:Option String)(n:Stage):Prop:=
 ∀ id∈r,SimpleID id∧((∃ found last,n=.starting found last)→id≠run)

def Listed(run:String)(r:Except StoreError (List JobRecord))(n:Stage):Prop:=
 ∀ rec rest,r=.ok (rec::rest)→Waiting run (some rec.id) n

lemma listed_oldest{m}(hm:WellKept m){opts}(hq:opts.status=.queued)
 {n}(hn:∀ found last,n=.starting found last→∃ g,Started m run g):
 Listed run (.ok (m.listGraphRunsOldest opts)) n:=by
 rintro rec rest hl _ ⟨⟩
 have hrec:rec∈m.listGraphRunsOldest opts:=Except.ok.inj hl▸List.mem_cons_self
 obtain ⟨hget,hmatch⟩:=mem_listGraphRunsOldest hrec
 have hwait:rec.kind=.graph∧rec.status=.queued:=by
  simp only[Memory.matchesGraphRun,hq,Bool.and_eq_true,beq_iff_eq] at hmatch
  exact ⟨hmatch.1.1.1.1.1.1,by simpa using hmatch.1.1.2⟩
 refine ⟨(hm.simple_iff hget).2 hwait.1,?_⟩
 rintro ⟨found,last,hst⟩ rfl
 -- a run this promoter has started is not queued any more
 obtain ⟨g,r,hr,_,_,hs⟩:=hn found last hst
 rw[hget] at hr
 exact hs (Option.some.inj hr▸hwait.2)
lemma Promoting.started{n w}(h:Promoting run n w)(found last:String→Option JobRecord)
 (hn:n=.starting found last):∃ g,Started w.store run g:=by
 rcases h with ⟨t,rfl⟩ | rfl | ⟨_,_,g,_,hst,_⟩
 ·cases hn
 ·cases hn
 ·exact ⟨g,hst⟩
lemma triple_oldestPendingRun{tenant}:
 (K env run).Triple (Promoting run) (oldestPendingRun tenant)
  (fun r n w=>Promoting run n w∧Waiting run r n):=by
 have hstable:∀ r:Option String,(K env run).Stable (fun n w=>Promoting run n w∧Waiting run r n):=
  fun r n s t hr hi h=>⟨stable_promoting n s t hr hi h.1,h.2⟩
 have hnone:(K env run).Triple (Promoting run) (pure none)
  (fun r n w=>Promoting run n w∧Waiting run r n):=
  triple_done stable_promoting (fun _ _ _ h=>⟨h,nofun⟩)
 have hlist:(K env run).Triple (Promoting run)
  (storeAt .plain (.listGraphRunsOldest {tenant:=tenant,status:=.queued,limit:=1}))
  (fun r n w=>Promoting run n w∧Listed run r n):=
  triple_read (.listGraphRunsOldest _) rfl stable_promoting promoting_lost
   fun n w now tie hi hp=>⟨listed_oldest hi.1 rfl hp.started,listed_oldest hi.1 rfl (by nofun)⟩
 refine triple_bind hlist fun
  | .error e=>triple_mono hnone (fun _ _ _ h=>h.1) (fun _ _ _ _ h=>h)
  | .ok runs=>?_
 cases runs with
 | nil=>exact triple_mono hnone (fun _ _ _ h=>h.1) (fun _ _ _ _ h=>h)
 | cons rec rest=>
  refine triple_mono (triple_done (hstable (some rec.id)) fun _ _ _ h=>h) ?_ fun _ _ _ _ h=>h
  exact fun n w _ h=>⟨h.1,h.2 rec rest rfl⟩
lemma triple_getOther{id}:
 (K env run).Triple (Promoting run) (getRecord id)
  (fun r n w=>Promoting run n w∧∀ rec∈r,rec.id=id):=by
 have hid:∀ now tie (m:Memory) rec,(apply now tie m (.get id)).1=.ok rec → rec.id=id:=by
  intro now tie m rec hrec
  simp only[apply] at hrec
  cases hget:m.get id with
  | none=>
   rw[hget] at hrec
   cases hrec
  | some r=>
   rw[hget] at hrec
   cases hrec
   exact get_id hget
 have hread:(K env run).Triple (Promoting run) (storeAt .plain (.get id))
  (fun r n w=>Promoting run n w∧∀ rec:JobRecord,r=.ok rec → rec.id=id):=
  triple_read (.get id) rfl stable_promoting promoting_lost (fun _ w now tie _ _=>⟨hid now tie w.store,hid now tie w.store⟩)
 refine triple_bind hread fun r=>?_
 have hI:(K env run).Stable (fun n w=>Promoting run n w∧∀ rec:JobRecord,r=.ok rec → rec.id=id):=
  fun n s t hr hi h=>⟨stable_promoting n s t hr hi h.1,h.2⟩
 cases r with
 | error e=>exact triple_done hI (fun _ _ _ h=>⟨h.1,fun _ hr=>by cases hr⟩)
 | ok rec=>
  refine triple_done hI fun _ _ _ h=>⟨h.1,?_⟩
  rintro _ ⟨⟩
  exact h.2 rec rfl
lemma triple_promoting(hp:p.Only (Elsewhere run)):
 (K env run).Keeps (Promoting run) p:=
 triple_elsewhere hp stable_promoting promoting_lost
lemma triple_promoteLoop(hs:SimpleID run){limit:Int}{tenant:String}(fuel):
 (K env run).Keeps (Promoting run) (promoteLoop limit tenant fuel):=by
 have hstop:(K env run).Keeps (Promoting run) (pure ()):=
  triple_done stable_promoting (fun _ _ _ h=>h)
 induction fuel with
 | zero=>exact hstop
 | succ fuel ih=>
  refine triple_bind triple_oldestPendingRun fun
   | none=>triple_mono hstop (fun _ _ _ h=>h.1) (fun _ _ _ _ h=>h)
   | some id=>?_
  simp only
  by_cases hrun:id=run
  ·subst hrun
   refine triple_mono (absorbing.or_lost (triple_bind (triple_markRunning hs) fun won=>?_)
    (fun _=>promoting_lost)) ?_ (fun _ _ _ _ h=>h)
   ·cases won with
    | none=>exact hstop
    | some won=>?_
    cases won with
    | false=>exact ih
    | true=>
     refine triple_bind triple_getRun fun r=>absorbing.or_lost ?_ (fun _=>promoting_lost)
     rintro n w hi ⟨rec,g,rfl,hid,hpay,hh⟩
     refine triple_bind (triple_mono (triple_startPendingRun hs hid hpay) (fun _ _ _ h=>h)
      (fun _ _ _ _ h=>.inr h)) (fun _=>ih) n w hi hh
   ·rintro n w-⟨hp | rfl | ⟨found,last,_,rfl,_⟩,hwait⟩
    ·exact .inr hp
    ·exact .inl rfl
    ·exact absurd rfl ((hwait _ rfl).2 ⟨found,last,rfl⟩)
  ·refine triple_known (P:=SimpleID id) (fun _ _ _ h=>(h.2 id rfl).1) fun ho=>?_
   refine triple_mono (I:=Promoting run) (Q:=fun _=>Promoting run) ?_ (fun _ _ _ h=>h.1)
    fun _ _ _ _ h=>h
   refine triple_bind (triple_promoting (elsewhere_markRunning ho hrun limit tenant)) fun
    | none=>hstop
    | some won=>?_
   cases won with
   | false=>exact ih
   | true=>?_
   refine triple_bind triple_getOther fun r=>?_
   cases r with
   | none=>
    exact triple_mono (triple_promoting (elsewhere_failRun ho hrun)) (fun _ _ _ h=>h.1)
     fun _ _ _ _ h=>h
   | some rec=>
    refine triple_known (P:=rec.id=id) (fun _ _ _ h=>h.2 rec rfl) ?_
    rintro rfl
    exact triple_mono (triple_bind (triple_promoting (elsewhere_startPendingRun hs ho hrun)) fun _=>ih)
     (fun _ _ _ h=>h.1) (fun _ _ _ _ h=>h)

def Ended(run:String)(n:Stage)(w:World):Prop:=Idle n∨Promoting run n w

lemma entry_ended(hs:SimpleID run)(he:queueing e){w:World}(hw:(K env run).inv w):
 (K env run).wp (e.prog env) (fun _ n t=>Ended run n t) (.clear e) w:=by
 cases e with
 | submit p g opts=>
  refine triple_bind (triple_submitGraphOpts hs he) (fun _=>triple_done (stable_stage _) fun _ _ _ h=>?_)
   _ w hw (.inr rfl)
  exact .inl h
 | promote tenant=>
  have hsweep:(K env run).Keeps (Promoting run) (promotePendingRuns tenant):=
   triple_bind (triple_promoting (elsewhere_quiet (quiet_query (q:=.concurrencyLimit tenant) trivial)))
    fun _=>triple_promoteLoop hs _
  exact wp_mono (fun _ _ _ _ _ h=>.inr h) (hsweep _ w hw (.inl ⟨tenant,rfl⟩))
 | _=>exact he.elim
lemma riding_verified:(K env run).Verified:=by
 rintro f n w hw rfl
 exact absorbing.wp hw fun _ _=>rfl

end Programs

lemma handedOver_holds{w₀}(hw:WellKept w₀.store∧Sound w₀.store):
 (contract env).Holds (fun _ _=>True) (handedOver env) {state:=w₀}:=
 holds (fun _ _ _ _ _ _ _ ha hp=>(Allowed.call ha hp).1) hw
lemma riding_holds(hs:SimpleID run){w₀}(hw:WellKept w₀.store∧Sound w₀.store):
 (K env run).Holds (Ended run) (handedOver env) {state:=w₀}:=
 Rider.holds (handedOver_holds hw) rfl riding_verified
  (fun _ _ _ _ _ _ _ _ ha hp=>(Allowed.call ha hp).2.1) (fun _ _ _ ha hi=>entry_ended hs ha hi)

end Dazyflow.QueuedRuns
