import Dazyflow.ParkedSubflows

/-!
# Runs with sub-flow steps

Workers and submissions under the contract of `ParkedSubflows`.
-/
namespace Dazyflow.ParkedSubflows
open FlowGraph JobRecords MemoryStore StoreOperations StoreRuns List
open Daemon RunRecords DaemonContract ReadSpecs RunOutcomes Interleaving Interleaving.Contract

variable {env:Env}

section Submission

variable {x:Option String}{φ:Memory→Prop}(hφ:Lasts φ){g:Graph}{run:String}
include hφ

lemma calm_populateSeededRun(seeds):
 (K env).Keeps (Calm x φ) (populateSeededRun g run seeds):=by
 refine calm_only hφ (Prog.within_mono (fun _=>populates_harmless) (fun _ h=>h)
  (populates_populateSeededRun ?_ ?_ seeds))
 ·exact nofun
 ·exact nofun
lemma calm_persistSeedsOnly(seeds):
 (K env).Keeps (Calm x φ) (persistSeedsOnly g run seeds):=
 calm_only hφ (Prog.within_mono (fun _=>populates_harmless) (fun _ h=>h)
  (populates_persistSeedsOnly (fun _ _ h=>by cases h) seeds))
lemma calm_endRun{status result}(hst:isTerminalStatus status)
 (hown:∀ m r,φ m→m.get run=some r → r.parentNodeRecID=""):
 (K env).Keeps (Calm x φ) (do let _←storeAt .plain (.complete run status result); pure ()):=
 triple_bind (calm_complete hφ rfl hst (fun _ h=>by cases h) fun m r h hr _=>hown m r h hr)
  fun _=>calm_return hφ
lemma calm_startSubmitted{seeds}(hown:∀ m r,φ m→m.get run=some r → r.parentNodeRecID=""):
 (K env).Keeps (Calm x φ) (startSubmitted g run seeds):=by
 unfold startSubmitted
 split
 ·exact triple_bind (calm_endRun hφ rfl hown) fun _=>calm_return hφ
 refine triple_bind (calm_populateSeededRun hφ seeds) fun ⟨queued,errs⟩=>?_
 dsimp only
 split
 ·exact triple_bind (calm_endRun hφ rfl hown) fun _=>calm_return hφ
 split
 ·exact calm_then hφ (quiet_accountedFor _ _ _) fun
   | true=>triple_bind (calm_endRun hφ rfl hown) (fun _=>calm_return hφ)
   | false=>calm_return hφ
 ·exact calm_return hφ

end Submission

def OwnRun(run:String)(m:Memory):Prop:=∃ r,m.get run=some r∧r.parentNodeRecID=""

lemma lasts_ownRun(run):Lasts (OwnRun run):=by
 rintro m m' hf ⟨r,hr,hp⟩
 obtain ⟨r',hr',hj⟩:=hf.job run r hr
 exact ⟨r',hr',hj.parentNodeRecID.trans hp⟩
lemma OwnRun.parent{run m}(h:OwnRun run m){r}(hr:m.get run=some r):
 r.parentNodeRecID="":=by
 obtain ⟨r',hr',hp⟩:=h
 rw[hr,Option.some.injEq] at hr'
 exact hr' ▸ hp
lemma calm_insertRun{x g run admitted opts}:
 (K env).Triple (Calm x fun _=>True) (storeAt .plain (.enqueue (submittedRecord g run admitted opts)))
  (fun r=>Calm x fun m=>r.isOk→OwnRun run m):=by
 have hT:Lasts (fun _=>True):=fun _ _ _ _=>trivial
 have hins:Harmless (.store .plain (.enqueue (submittedRecord g run admitted opts))):=
  harmless_enqueue rfl (fun h=>by cases admitted<;>cases h)
 refine triple_noted (stable_calm hT) (fun r=>stable_calm fun m m' hf h hk=>?_) ?_ ?_
 ·exact lasts_ownRun run m m' hf (h hk)
 ·exact fun n w _ _=>hins.orderly
 ·rintro n w now tie _ ⟨rfl,_⟩ _
  refine ⟨hins.store _,fun hk=>?_⟩
  cases hres:(apply now tie w.store (.enqueue (submittedRecord g run admitted opts))).1 with
  | ok v=>exact ⟨_,(enqueue_ok hres).2,rfl⟩
  | error e=>simp[hres,Except.isOk,Except.toBool] at hk
lemma calm_submitGraphOpts{x p g opts}:
 (K env).Keeps (Calm x fun _=>True) (submitGraphOpts p g opts):=by
 have hT:Lasts (fun _=>True):=fun _ _ _ _=>trivial
 refine calm_then hT (quiet_refuseGraph p g opts.seeds) fun
  | some msg=>calm_return hT
  | none=>?_
 dsimp only
 split
 ·exact calm_return hT
 refine calm_then hT (quiet_query trivial) fun run=>?_
 have hrest:∀ admitted,(K env).Keeps (Calm x fun _=>True) (submitReserved g opts run admitted):=by
  intro admitted
  refine calm_then hT (quiet_query trivial) fun reserved=>?_
  cases reserved with
  | false=>exact calm_return hT
  | true=>?_
  refine triple_bind calm_insertRun fun r=>?_
  have hdrop:∀ {p:Daemon.Prog Submitted} {ψ:Memory→Prop},
   (K env).Keeps (Calm x ψ) p→
   (K env).Triple (Calm x ψ) p (fun _=>Calm x fun _=>True):=
   fun h=>triple_mono h (fun _ _ _ h=>h) (fun _ _ _ _ h=>⟨h.1,trivial⟩)
  have hown:Lasts (fun m=>r.isOk→OwnRun run m):=
   fun m m' hf h hk=>lasts_ownRun run m m' hf (h hk)
  refine hdrop ?_
  cases r with
  | error e=>exact calm_return hown
  | ok v=>?_
  cases admitted with
  | true=>exact calm_startSubmitted hown (fun m r h hr=>(h rfl).parent hr)
  | false=>
   refine triple_bind (calm_persistSeedsOnly hown opts.seeds) fun errs=>?_
   split
   ·exact triple_bind (calm_endRun hown rfl fun m r h hr=>(h rfl).parent hr)
     fun _=>calm_return hown
   ·exact calm_return hown
 split
 ·exact hrest true
 ·exact calm_then hT (quiet_admitGraphRun _) hrest

def Tried(step:String)(φ:Memory→Prop)(out:Submitted)(n:Note)(w:World):Prop:=
 Calm none φ n w∨Calm (some step) φ n w∧out.error.isSome

section Child

variable {φ:Memory→Prop}(hφ:Lasts φ){g:Graph}{step:String}
include hφ

lemma tried_refused{msg runID}:
 (K env).Triple (Calm (some step) φ) (pure ({runID:=runID,error:=some msg}:Submitted)) (Tried step φ):=
 triple_done (stable_calm hφ) (fun _ _ _ h=>.inr ⟨h,rfl⟩)
lemma tried_submitGraphWithParent{p seeds depth}:
 (K env).Triple (Calm (some step) φ) (submitGraphWithParent p g seeds step depth) (Tried step φ):=by
 refine calm_then hφ (quiet_refuseGraph p g seeds) fun
  | some msg=>tried_refused hφ
  | none=>?_
 refine calm_then hφ (quiet_query trivial) fun run=>?_
 have hQ:∀ r:Except StoreError Unit,(K env).Stable (Calm (if r.isOk then none else some step) φ):=
  fun _=>stable_calm hφ
 refine triple_bind (triple_noted (stable_calm hφ) hQ ?_ ?_) fun r=>?_
 ·rintro n w _ ⟨rfl,_⟩
  refine ⟨fun _ h=>(by cases h),?_,fun _ _ _ h=>(by cases h),fun _ _ _ _ _ h=>(by cases h),
   fun h=>(by cases h),fun _ _ _ h=>(by cases h),?_,fun h=>(by cases h)⟩
  ·intro rec hrec
   rw[mem_singleton.1 hrec]
   exact nofun
  ·intro _ rec hrec
   cases hrec
   exact ⟨rfl,rfl,rfl⟩
 ·rintro n w now tie _ ⟨rfl,hw⟩ hf
  cases hres:(apply now tie w.store (.enqueue (childRecord g run step depth))).1 with
  | ok v | error e=>exact ⟨rfl,hφ _ _ hf hw⟩
 ·have hdone:∀ {p:Daemon.Prog Submitted},(K env).Keeps (Calm none φ) p→
   (K env).Triple (Calm none φ) p (Tried step φ):=
   fun h=>triple_mono h (fun _ _ _ h=>h) (fun _ _ _ _ h=>.inl h)
  cases r with
  | error e=>exact tried_refused hφ
  | ok v=>?_
  refine hdone (triple_bind (calm_populateSeededRun hφ seeds) fun ⟨queued,errs⟩=>?_)
  dsimp only
  split
  ·exact calm_return hφ
  split
  ·exact calm_then hφ (quiet_accountedFor _ _ _) fun
    | false=>calm_return hφ
    | true=>triple_bind (calm_maybeCompleteGraph hφ) (fun _=>calm_return hφ)
  ·exact calm_return hφ
lemma tried_submitChild{parent graphID seeds}:
 (K env).Triple (Calm (some parent.id) φ) (submitChild parent graphID seeds) (Tried parent.id φ):=by
 refine calm_then hφ (quiet_childCheck _) fun parentRun=>?_
 split
 ·exact tried_refused hφ
 refine calm_then hφ (quiet_query trivial) fun
  | .error msg=>tried_refused hφ
  | .ok child=>?_
 refine calm_then hφ (quiet_lineage _ _ _ _) fun ⟨depth,root⟩=>?_
 dsimp only
 split
 ·exact tried_refused hφ
 exact calm_then hφ (quiet_query trivial) fun
  | false=>tried_refused hφ
  | true=>calm_then hφ (quiet_runTriggerDepth _) (fun d=>tried_submitGraphWithParent hφ)

end Child

def Ordinary(env:Env)(m:Memory)(id:String):Prop:=
 ∃ r g node,m.get id=some r∧RunOf m r.graphRunID g∧g.node r.nodeID=some node∧
  ∀ manifest,env.resolve r.tenant node.module=some manifest→manifest.submitsChildGraph=false

def Settled(env:Env)(n:Note)(w:World):Prop:=
 n.owed=none∧∀ id,n.parked=some id→Ordinary env w.store id

variable {φ:Memory→Prop}

lemma Calm.settled{n w}(h:Calm none φ n w):Settled env n w:=by
 obtain ⟨rfl,_⟩:=h
 exact ⟨rfl,nofun⟩
lemma settled_of_calm{α:Type}{p:Daemon.Prog α}
 (h:(K env).Keeps (Calm none φ) p):
 (K env).Triple (Calm none φ) p (fun _=>Settled env):=
 triple_mono h (fun _ _ _ h=>h) (fun _ _ _ _ h=>Calm.settled h)
lemma held_no_child{rec m}(h:Held rec m){r}(hr:m.get rec.id=some r)
 (hk:r.kind=.graph):r.parentNodeRecID="":=by
 obtain ⟨r',hr',hj,hn⟩:=h
 rw[hr,Option.some.injEq] at hr'
 rw[hr',hj.kind,hn] at hk
 cases hk
lemma held_run{rec m}(h:Held rec m)(hm:WellKept m):
 ∃ r g,m.get rec.graphRunID=some r∧r.graphPayload=some g∧RunOf m rec.graphRunID g:=by
 obtain ⟨r,hr,hj,hk⟩:=h
 obtain ⟨run,g,hrun,hkind,hpay,_⟩:=(hm.node hr (hj.kind.trans hk)).run
 rw[hj.graphRunID] at hrun
 exact ⟨run,g,hrun,hpay,run,hrun,hkind,hpay⟩

section Worker

variable {α:Type}{x:Option String}{φ:Memory→Prop}(hφ:Lasts φ){rec:JobRecord}{worker:String}
 (hheld:∀ m,φ m→Held rec m)
include hφ

lemma calm_unlessLeaseLost{rest}{Q:Unit→Note→World→Prop}
 (hQ:∀ n w,Calm x φ n w→Q () n w)(h:(K env).Triple (Calm x φ) rest Q):
 (K env).Triple (Calm x φ) (unlessLeaseLost worker rec rest) Q:=by
 exact calm_then hφ (quiet_query trivial) fun
  | true=>triple_done (stable_calm hφ) (fun n w _ h=>hQ n w h)
  | false=>h
lemma calm_terminalRunStatus{run}:
 (K env).Keeps (Calm x φ) (terminalRunStatus run):=by
 refine calm_only hφ (Prog.only_bind (Prog.only_bind (Prog.only_ask (S:=sig) ?_) fun r=>?_) fun r=>?_)
 ·exact ⟨rfl,rfl,fun _ h=>(by cases h),fun _ h=>(by cases h)⟩
 ·cases r<;>exact Prog.only_pure _
 ·cases r<;>exact Prog.only_pure _
lemma calm_requeueNode{availableAt}:
 (K env).Keeps (Calm x φ) (requeueNode worker rec.id availableAt):=
 calm_store hφ ⟨rfl,rfl,fun _ h=>(by cases h),fun _ h=>(by cases h)⟩

include hheld

variable {result:Result}{status:JobStatus}

lemma calm_completeNode(hst:isTerminalStatus status):
 (K env).Keeps (Calm x φ) (completeNode worker rec.id status result):=
 calm_complete hφ rfl hst (fun _ h=>by cases h) (fun m _ h hr hk=>held_no_child (hheld m h) hr hk)
lemma calm_runRecord:
 (K env).Triple (Calm x φ) (getRecord rec.graphRunID) (fun o n w=>∃ r g,o=some r∧
  r.graphPayload=some g∧Calm x (fun m=>φ m∧RunOf m rec.graphRunID g) n w):=by
 refine triple_getRecord regular_parking (stable_calm hφ) ?_ ?_
 ·rintro o n s t hr hi ⟨r,g,ho,hg,h⟩
  exact ⟨r,g,ho,hg,stable_calm (hφ.and (lasts_runOf _ g)) n s t hr hi h⟩
 ·rintro n w hi ⟨rfl,hw⟩
  obtain ⟨r,g,hr,hg,hrun⟩:=held_run (hheld w.store hw) hi.1
  exact ⟨r,g,hr,hg,rfl,hw,hrun⟩

variable {R:α→Note→World→Prop}

lemma calm_withRun{k}
 (hok:∀ c:CachedRun,(K env).Triple (Calm x fun m=>φ m∧RunOf m rec.graphRunID c.graph) (k (.ok c)) R):
 (K env).Triple (Calm x φ) (fetchRun rec.graphRunID>>=k) R:=by
 unfold fetchRun
 rw[Interleaving.Prog.bind_assoc]
 refine triple_bind (calm_runRecord hφ hheld) fun o=>?_
 rintro n w hi ⟨r,g,rfl,hg,h⟩
 simp only[hg]
 exact hok ⟨g,r.manual⟩ n w hi h
lemma calm_withGraph{k}
 (hok:∀ g,(K env).Triple (Calm x fun m=>φ m∧RunOf m rec.graphRunID g) (k (some g)) R):
 (K env).Triple (Calm x φ) (fetchGraph rec.graphRunID>>=k) R:=by
 unfold fetchGraph
 rw[Interleaving.Prog.bind_assoc]
 refine triple_bind (calm_runRecord hφ hheld) fun o=>?_
 rintro n w hi ⟨r,g,rfl,hg,h⟩
 simp only[hg]
 exact hok g n w hi h
lemma calm_failNode{code message g}:
 (K env).Keeps (Calm x φ) (failNode worker rec code message (some g)):=by
 exact triple_bind (calm_completeNode hφ hheld rfl) fun
  | .error e=>calm_return hφ
  | .ok v=>calm_advance hφ
lemma calm_recoverPanic:(K env).Keeps (Calm x φ) (recoverPanic worker rec):=by
 exact triple_bind (calm_completeNode hφ hheld rfl) fun
  | .error e=>calm_return hφ
  | .ok v=>calm_fetchAndAdvance hφ
lemma calm_childRefused{message}(hx:x=none∨x=some rec.id):
 (K env).Triple (Calm x φ) (childRefused rec message) (fun _=>Calm none φ):=by
 refine triple_bind (Q:=fun _=>Calm none φ) (triple_noted (stable_calm hφ) (fun _=>stable_calm hφ) ?_ ?_)
  fun _=>calm_fetchAndAdvance hφ
 ·rintro n w _ ⟨rfl,hw⟩
  refine ⟨fun _ h=>(by cases h),fun _ h=>(by cases h),fun _ _ _ h=>(by cases h),?_,
   nofun,?_,nofun,?_⟩
  ·intro id worker status result r h hr hk hpar
   cases h
   exact absurd (held_no_child (hheld w.store hw) hr hk) hpar
  ·intro id status result h
   cases h
   rfl
  ·intro _ id status result h
   cases h
   exact hx
 ·rintro n w now tie _ ⟨rfl,hw⟩ hf
  exact ⟨rfl,hφ _ _ hf hw⟩
lemma settled_launchChild{manifest}
 (hord:manifest.submitsChildGraph=false→∀ m,WellKept m→φ m→Ordinary env m rec.id)
 (hlaunch:manifest.submitsChildGraph→env.subGraphRunner∧(pendingChild env result).isSome):
 (K env).Triple (Calm (some rec.id) φ) (launchChild env rec result manifest) (fun _=>Settled env):=by
 unfold launchChild
 by_cases hsub:manifest.submitsChildGraph=false
 ·rw[if_pos (.inl hsub)]
  refine triple_done (stable_calm hφ) ?_
  rintro n w hi ⟨rfl,hw⟩
  refine ⟨rfl,fun id hid=>?_⟩
  cases hid
  exact hord hsub w.store hi.1 hw
 ·obtain ⟨hrunner,hpend⟩:=hlaunch (by simpa using hsub)
  rw[if_neg (by simp[hsub,hrunner])]
  obtain ⟨⟨childGraphID,seeds⟩,hpend⟩:=Option.isSome_iff_exists.1 hpend
  rw[hpend]
  refine triple_bind (tried_submitChild hφ) fun submitted=>?_
  rintro n w hi (h | ⟨h,herr⟩)
  ·cases submitted.error with
   | none=>exact triple_done (stable_calm hφ) (fun _ _ _ h=>Calm.settled h) n w hi h
   | some message=>
    exact triple_mono (calm_childRefused hφ hheld (.inl rfl)) (fun _ _ _ h=>h)
     (fun _ _ _ _ h=>Calm.settled h) n w hi h
  ·obtain ⟨message,hmsg⟩:=Option.isSome_iff_exists.1 herr
   simp only[hmsg]
   exact triple_mono (calm_childRefused hφ hheld (.inr rfl)) (fun _ _ _ h=>h)
    (fun _ _ _ _ h=>Calm.settled h) n w hi h
lemma settled_maybeSubmitChild{g}(hrun:∀ m,φ m→RunOf m rec.graphRunID g)
 (hlaunch:launches env g rec result):
 (K env).Triple (Calm (some rec.id) φ) (maybeSubmitChild env rec result) (fun _=>Settled env):=by
 refine calm_withGraph hφ hheld fun g'=>?_
 refine triple_known (P:=g'=g) (fun n w _ h=>runOf_unique h.2.2 (hrun _ h.2.1)) ?_
 rintro rfl
 refine triple_known (P:=(g'.node rec.nodeID).isSome) (fun n w hi h=>?_) fun hsome=>?_
 ·obtain ⟨node,hn,hid⟩:=mem_map.1 ((hheld _ h.2.1).node_mem hi.1 h.2.2)
  exact find?_isSome.2 ⟨node,hn,by simp[hid]⟩
 obtain ⟨node,hnode⟩:=Option.isSome_iff_exists.1 hsome
 have hψ:Lasts (fun m=>φ m∧RunOf m rec.graphRunID g'):=hφ.and (lasts_runOf _ g')
 simp only[hnode]
 refine triple_bind (Q:=fun fails n w=>fails=false∧
  Calm (some rec.id) (fun m=>φ m∧RunOf m rec.graphRunID g') n w) (triple_query regular_parking trivial
  (stable_calm hψ) (fun _ n s t hr hi h=>⟨h.1,stable_calm hψ n s t hr hi h.2⟩) ?_) (fun fails=>?_)
 ·intro n w o _ h hlegal
  exact ⟨by simpa[parking,untroubled] using hlegal.1.2,h⟩
 refine triple_given fun hfails=>?_
 subst hfails
 have hord:(∀ manifest,env.resolve rec.tenant node.module=some manifest→manifest.submitsChildGraph=false)→
  ∀ m,φ m∧RunOf m rec.graphRunID g'→Ordinary env m rec.id:=by
  rintro hman m ⟨hm,hrun'⟩
  obtain ⟨r,hr,hj,_⟩:=hheld m hm
  exact ⟨r,g',node,hr,hj.graphRunID▸hrun',hj.nodeID▸hnode,hj.tenant▸hman⟩
 cases hres:env.resolve rec.tenant node.module with
 | none=>
  refine triple_done (stable_calm hψ) ?_
  rintro n w _ ⟨rfl,hw⟩
  refine ⟨rfl,fun id hid=>?_⟩
  cases hid
  exact hord (fun _ h=>by rw[hres] at h; cases h) _ hw
 | some manifest=>
  refine settled_launchChild hψ (fun m h=>hheld m h.1) (fun hsub m _ hm=>hord (fun man h=>?_) m hm)
   fun hsub=>?_
  ·rw[hres,Option.some.injEq] at h
   exact h▸hsub
  ·simpa[launches,hnode,hres,hsub] using hlaunch

variable {c:CachedRun}

lemma calm_completeStep(hst:isTerminalStatus status):
 (K env).Keeps (Calm x φ) (completeStep worker c rec status result):=by
 refine calm_then hφ (quiet_planAdvance c.graph rec.graphRunID rec.nodeID status (some result) c.manual)
  fun plan=>?_
 refine triple_bind (calm_complete hφ rfl hst ?_ fun m _ h hr hk=>held_no_child (hheld m h) hr hk) fun r=>?_
 ·intro d hd
  obtain ⟨d',_,rfl⟩:=mem_map.1 hd
  exact nofun
 ·cases r with
  | ok adv=>exact calm_finishAdvance hφ
  | error e=>cases e<;>first | exact calm_return hφ | exact calm_finishAdvance hφ
lemma calm_retryOrComplete(hst:isTerminalStatus status):
 (K env).Keeps (Calm x φ) (retryOrComplete env worker c rec status result):=by
 have hcomplete:(K env).Keeps (Calm x φ) (completeStep worker c rec status result):=
  calm_completeStep hφ hheld hst
 unfold retryOrComplete
 split_ifs
 ·refine calm_then hφ (quiet_maybeScheduleRetry env c.graph rec) fun
   | none=>hcomplete
   | some availableAt=>?_
  refine triple_bind (calm_requeueNode hφ) fun
   | .ok _=>calm_return hφ
   | .error e=>?_
  cases e<;>first | exact calm_return hφ | exact hcomplete
 ·exact hcomplete
lemma calm_park:
 (K env).Triple (Calm none φ) (completeNode worker rec.id .awaiting result)
  (fun r=>Calm (if r.isOk then some rec.id else none) φ):=by
 refine triple_noted (stable_calm hφ) (fun _=>stable_calm hφ) ?_ ?_
 ·rintro n w _ ⟨rfl,hw⟩
  refine ⟨fun _ h=>(by cases h),fun _ h=>(by cases h),?_,?_,fun _=>rfl,fun _ _ _ h=>(by cases h),
   nofun,nofun⟩
  ·intro id worker result h
   cases h
   exact ⟨rfl,rfl⟩
  ·intro id worker status result r h hr hk hpar
   cases h
   exact absurd (held_no_child (hheld w.store hw) hr hk) hpar
 ·rintro n w now tie _ ⟨rfl,hw⟩ hf
  cases hres:(apply now tie w.store (.completeOwned rec.id worker .awaiting (some result))).1 with
  | ok v | error e=>exact ⟨rfl,hφ _ _ hf hw⟩

variable (hrun:∀ m,φ m→RunOf m rec.graphRunID c.graph)
include hrun

lemma settled_parkStep(hlaunch:launches env c.graph rec result):
 (K env).Triple (Calm none φ) (parkStep env worker c rec result) (fun _=>Settled env):=by
 refine triple_bind (calm_park hφ hheld) fun
  | .error e=>triple_done (stable_calm hφ) (fun _ _ _ h=>Calm.settled h)
  | .ok v=>?_
 have hrest:(K env).Triple (Calm (some rec.id) φ) (do
  advanceAfterCompletion c.graph rec.graphRunID rec.nodeID .awaiting none
  maybeSubmitChild env rec result) (fun _=>Settled env):=
  triple_bind (calm_advance hφ) (fun _=>settled_maybeSubmitChild hφ hheld hrun hlaunch)
 have hflag:(K env).Keeps (Calm (some rec.id) φ) (setRunParked rec.graphRunID true):=
  triple_bind (calm_store hφ ⟨rfl,rfl,fun _ h=>(by cases h),fun _ h=>(by cases h)⟩)
   fun _=>calm_return hφ
 by_cases happroval:isApprovalPause result
 ·simp only[if_pos happroval]
  exact triple_bind hflag fun _=>hrest
 ·simp only[if_neg happroval]
  exact hrest
lemma settled_settleStep{err:Bool}
 (hlaunch:err=false → result.status=.awaiting→launches env c.graph rec result):
 (K env).Triple (Calm none φ) (settleStep env worker c rec result err) (fun _=>Settled env):=by
 unfold settleStep
 cases (if err then none else resumeAt env result) with
 | some at_=>exact settled_of_calm (triple_bind (calm_requeueNode hφ) fun _=>calm_return hφ)
 | none=>?_
 dsimp only
 by_cases hpark:err=false∧result.status=.awaiting
 ·rw[if_pos hpark]
  exact settled_parkStep hφ hheld hrun (hlaunch hpark.1 hpark.2)
 rw[if_neg hpark]
 split
 ·exact settled_of_calm (calm_retryOrComplete hφ hheld rfl)
 refine triple_bind (calm_only hφ (Prog.only_ask (S:=sig) trivial)) fun ⟨total,fits⟩=>?_
 cases fits with
 | true=>
  change (K env).Triple (Calm none φ) (retryOrComplete env worker c rec .succeeded result) _
  exact settled_of_calm (calm_retryOrComplete hφ hheld rfl)
 | false=>
  change (K env).Triple (Calm none φ) (retryOrComplete env worker c rec .failed
   (runStateTooLarge env rec.id total)) _
  exact settled_of_calm (calm_retryOrComplete hφ hheld rfl)
lemma settled_executeStep{prior:List (String×Result)}:
 (K env).Triple (Calm none φ) (executeStep env worker c rec prior) (fun _=>Settled env):=by
 have hask:(K env).Triple (Calm none φ) (query (.runNode c.graph rec prior)) (fun out n w=>
  (∀ result,out=.returned result false → result.status=.awaiting→
   launches env c.graph rec result)∧Calm none φ n w):=by
  refine triple_ask (S:=sig) (stable_calm hφ) (fun _ n s t hr hi h=>⟨h.1,stable_calm hφ n s t hr hi h.2⟩)
   (fun _ _ _ _=>trivial) ?_
  intro n w o _ h hlegal _ _
  refine ⟨fun result hout hs=>?_,h⟩
  have hsure:untroubled env (.ask (.runNode c.graph rec prior)) o:=hlegal.1.2
  change o.answer (.runNode c.graph rec prior)=_ at hout
  simpa[untroubled,hout,hs] using hsure
 refine triple_bind hask fun out=>triple_given (fun hout=>?_)
 cases out with
 | panicked=>
  exact settled_of_calm (calm_recoverPanic hφ hheld)
 | returned result err=>
  refine calm_unlessLeaseLost hφ (fun _ _ h=>Calm.settled h) (settled_settleStep hφ hheld hrun fun he hs=>?_)
  subst he
  exact hout result rfl hs
lemma settled_prepareStep:(K env).Triple (Calm none φ) (prepareStep env worker c rec) (fun _=>Settled env):=by
 refine calm_then hφ (quiet_fetchPredecessors c.graph rec) fun r=>?_
 cases r with
 | error message=>
  refine calm_unlessLeaseLost hφ (fun _ _ h=>Calm.settled h) ?_
  exact settled_of_calm (calm_failNode hφ hheld)
 | ok wired=>
  exact calm_then hφ (quiet_addTemplateResults _ _ _) fun prior=>settled_executeStep hφ hheld hrun

end Worker

lemma settled_processNodeJob{rec:JobRecord}{worker:String}:
 (K env).Triple (Calm none (Held rec)) (processNodeJob env worker rec) (fun _=>Settled env):=by
 refine calm_withRun (lasts_held rec) (fun _ h=>h) fun c=>?_
 have hψ:Lasts (fun m=>Held rec m∧RunOf m rec.graphRunID c.graph):=(lasts_held rec).and (lasts_runOf _ _)
 have hheld:∀ m,Held rec m∧RunOf m rec.graphRunID c.graph→Held rec m:=fun _ h=>h.1
 refine triple_bind (calm_terminalRunStatus hψ) fun r=>?_
 cases r with
 | some status=>
  refine calm_unlessLeaseLost hψ (fun _ _ h=>Calm.settled h) (settled_of_calm ?_)
  exact triple_bind (calm_completeNode hψ hheld rfl) fun _=>calm_return hψ
 | none=>
  refine calm_then hψ (quiet_skipCode c.graph rec) fun skip=>?_
  split_ifs
  ·refine calm_unlessLeaseLost hψ (fun _ _ h=>Calm.settled h) (settled_of_calm ?_)
   exact triple_bind (calm_completeNode hψ hheld rfl) fun
    | .error e=>calm_return hψ
    | .ok v=>triple_bind (calm_dispatchReady hψ) (fun _=>calm_maybeCompleteGraph hψ)
  ·exact settled_prepareStep hψ hheld fun _ h=>h.2
lemma settled_workerTurn{worker}:
 (K env).Triple (Calm none fun _=>True) (workerTurn env worker) (fun _=>Settled env):=by
 have hT:Lasts (fun _=>True):=fun _ _ _ _=>trivial
 have hclaim:Harmless (.store .plain (.claim worker env.leaseDuration)):=
  ⟨rfl,rfl,fun _ h=>(by cases h),fun _ h=>(by cases h)⟩
 have hQ:∀ r:Except StoreError JobRecord,(K env).Stable (Calm none fun m=>∀ rec,r=.ok rec→Held rec m):=
  fun r=>stable_calm (fun m m' hf h rec hr=>lasts_held rec m m' hf (h rec hr))
 refine triple_bind (triple_noted (stable_calm hT) hQ (fun _ _ _ _=>hclaim.orderly) ?_) fun r=>?_
 ·rintro n w now tie _ ⟨rfl,_⟩ _
  refine ⟨hclaim.store _,fun rec hr=>?_⟩
  obtain ⟨r,_,hc,hrec,hget⟩:=claim_ok hr
  refine ⟨rec,hget,.refl rec,?_⟩
  rw[hrec]
  exact (claimable_status hc).1
 ·cases r with
  | error e=>exact triple_done (hQ _) (fun _ _ _ h=>Calm.settled h)
  | ok rec=>
   exact triple_mono settled_processNodeJob (fun _ _ _ h=>⟨h.1,h.2 rec rfl⟩) fun _ _ _ _ h=>h
lemma verified_parking:(K env).Verified:=by
 have hT:Lasts (fun _=>True):=fun _ _ _ _=>trivial
 intro f n w hi hpre
 obtain ⟨x,o⟩:=n
 cases f with
 | dispatchReady g run id ix=>
  obtain rfl:o=none:=hpre
  refine wp_mono ?_ (calm_dispatchLoop hT (g.outgoing id) 0 ix ⟨x,none⟩ w hi ⟨rfl,trivial⟩)
  rintro a n' t _ _ ⟨rfl,_⟩
  exact ⟨rfl,rfl⟩
 | maybeResumeParent child failed err=>
  refine wp_mono ?_ (calm_maybeResumeParent ⟨x,o⟩ w hi ⟨rfl,hpre⟩)
  rintro a n' t _ _ ⟨rfl,_⟩
  exact ⟨rfl,rfl⟩
 | cancelGraphRun p run code reason=>exact hpre.elim

def launching:Entry→Bool
 | .worker _ | .renew .. | .submit .. =>true
 | _=>false

/-- Interleavings of workers and submissions in which no lookup fails and every
 sub-flow step that parks names a child. -/
abbrev launchRun(env:Env):Rules (daemon env):=
 Allowed (fun _ e=>launching e) (fun _ _ c o=>Lawful c o∧untroubled env c o)

lemma launchRun_holds(env):(K env).Holds (Settled env) (launchRun env) (idleDaemon env):=by
 have hT:Lasts (fun _=>True):=fun _ _ _ _=>trivial
 have hbase:(contract env).Holds (fun _ _=>True) (launchRun env) (idleDaemon env):=
  holds (fun _ _ _ _ _ _ _ ha hp=>(Allowed.call ha hp).1) empty_kept
 refine Rider.holds hbase rfl verified_parking ?_ ?_
 ·exact fun _ _ _ _ _ _ _ _ ha hp=>(Allowed.call ha hp).2
 intro P e _ ha hi
 have hend:∀ {p:Daemon.Prog Unit},
  (K env).Triple (Calm none fun _=>True) p (fun _=>Settled env)→
  (K env).wp p (fun _ n s=>Settled env n s) {} P.state:=fun h=>h {} P.state hi ⟨rfl,trivial⟩
 cases e with
 | worker id=>exact hend settled_workerTurn
 | renew id jobID=>
  refine hend (settled_of_calm (triple_bind (calm_store hT ?_) fun _=>calm_return hT))
  exact ⟨rfl,rfl,fun _ h=>(by cases h),fun _ h=>(by cases h)⟩
 | submit p g opts=>
  exact hend (settled_of_calm (triple_bind calm_submitGraphOpts fun _=>calm_return hT))
 | _=>cases ha
lemma covered{P}(hr:Reach (launchRun env) (idleDaemon env) P):
 Covered P.state.store ((K env).notes P):=by
 have hholds:=launchRun_holds env
 refine pool_inv (K:=K env) (J:=fun w ns=>Covered (World.store w) ns) rfl (fun _ _ h=>by cases h) ?_ ?_ hr
 ·intro P e _ _ h id r hr hk hs
  exact (h id r hr hk hs).imp_right fun ⟨n,hn,hhas⟩=>⟨n,mem_append_left _ hn,hhas⟩
 ·intro P i o e c k log hr' _ hp h
  have hsup:=hholds.supported hr'
  cases c with
  | store site op=>
   exact h.step hsup.inv.1 (notes_get hp) (hsup.guar_of_call hp)
  | _=>
   -- nothing moves but the process itself
   obtain ⟨hi,hget⟩:=List.getElem?_eq_some_iff.1 (notes_get (K:=K env) hp)
   have hset:((K env).notes P).set i ((K env).noteOf e log)=(K env).notes P:=by
    rw[←hget]
    exact set_getElem_self hi
   exact (congrArg (Covered P.state.store) hset).mpr h

def Subflow(env:Env)(m:Memory)(id:String):Prop:=
 ∃ r g node manifest,m.get id=some r∧r.kind=.node∧RunOf m r.graphRunID g∧g.node r.nodeID=some node∧
  env.resolve r.tenant node.module=some manifest∧manifest.submitsChildGraph

lemma Ordinary.not_subflow{m id}(h:Ordinary env m id):¬Subflow env m id:=by
 rintro ⟨r,g,node,manifest,hr,_,hrun,hnode,hman,hsub⟩
 obtain ⟨r',g',node',hr',hrun',hnode',hord⟩:=h
 obtain rfl:=Option.some.inj (hr.symm.trans hr')
 obtain rfl:=runOf_unique hrun hrun'
 obtain rfl:=Option.some.inj (hnode.symm.trans hnode')
 rw[hord manifest hman] at hsub
 cases hsub

def standing(p:Proc (daemon env)):Note:=(K env).noteOf p.entry p.log

/-- In every such run, a sub-flow step that waits has a child run that is not
 terminal, unless a process stopped after it had parked the step or after it had
 ended the child. -/
theorem parked_subflow_alive{P:Pool (daemon env)}(hr:Reach (launchRun env) (idleDaemon env) P){id:String}
 {r:JobRecord}(hget:P.state.store.get id=some r)(hs:r.status=.awaiting)
 (hsub:Subflow env P.state.store id)
 (hstop:∀ p∈P.procs,p.prog.finished∨
  (standing p).parked≠some id∧(standing p).owed≠some id):
 Alive P.state.store id:=by
 have hk:r.kind=.node:=by
  obtain ⟨r',_,_,_,hr',hk,_⟩:=hsub
  exact Option.some.inj (hget.symm.trans hr')▸hk
 rcases covered hr id r hget hk hs with ha | ⟨n,hn,hhas⟩
 ·exact ha
 obtain ⟨p,hp,rfl⟩:=mem_map.1 hn
 rcases hstop p hp with hf | ⟨hparked,howed⟩
 ·obtain ⟨howed,hord⟩:=((launchRun_holds env).supported hr).final_of_finished hp hf
  rcases hhas with h | h
  ·exact absurd hsub (hord id h).not_subflow
  ·rw[howed] at h
   cases h
 ·exact (hhas.elim hparked howed).elim

instance (m:Memory)(id:String):Decidable (Alive m id):=
 decidable_of_iff (∃ r∈m.records.rows,r.kind=.graph∧r.parentNodeRecID=id∧r.terminal=false) (by
  constructor
  ·rintro ⟨r,hr,h⟩
   exact ⟨r.id,r,mem_rows_get.1 hr,h⟩
  ·rintro ⟨c,r,hr,h⟩
   exact ⟨r,mem_rows_get.2 ((get_id hr).symm▸hr),h⟩)

def childFlow:Graph:=
 {id:="c",tenant:="t",workspace:="w",nodes:=[{id:="b",module:="m" }],edges:=[]}

def parksForFlow:(q:Query)→q.Answer
 | .childGraph .. =>.ok childFlow
 | .newID=>"child"
 | q=>parksForChild q

def lookupLost:(q:Query)→q.Answer
 | .lookupFails .. =>true
 | q=>parksForFlow q

/-- The flow is submitted, and a worker comes this far with its step. -/
def parkedFor(n:Nat)(answer:(q:Query)→q.Answer):List (Action (daemon subflowEnv)):=
 [.start (.submit owner subflow {})]++steps 0 6 bareAnswer++[.start (.worker "w1")]++steps 1 n answer

def waiting(P:Pool (daemon subflowEnv)):Bool:=
 (P.state.store.get "run:a").any (fun r=>r.status==.awaiting&&r.kind==.node&&r.graphRunID== "run" &&
  r.nodeID== "a") &&
 (P.state.store.get "run").any (fun r=>r.kind==.graph&&r.graphPayload==some subflow&&!r.terminal)

lemma waiting_spec{P}(h:waiting P):
 (∃ r,P.state.store.get "run:a"=some r∧r.status=.awaiting)∧
  (∃ r,P.state.store.get "run"=some r∧r.terminal=false)∧Subflow subflowEnv P.state.store "run:a":=by
 simp only[waiting,Bool.and_eq_true,Option.any_eq_true,beq_iff_eq,Bool.not_eq_true'] at h
 obtain ⟨⟨r,hr,⟨⟨hs,hk⟩,hrun⟩,hnode⟩,run,hget,⟨hkind,hpay⟩,hlive⟩:=h
 refine ⟨⟨r,hr,hs⟩,⟨run,hget,hlive⟩,r,subflow,{id:="a",module:="sub" },{submitsChildGraph:=true},
  hr,hk,?_,?_,rfl,rfl⟩
 ·rw[hrun]
  exact ⟨run,hget,hkind,hpay⟩
 ·rw[hnode]
  rfl

/-- A worker that returns has put the child under the step. -/
theorem parked_step_has_child:∃ P,Reach (launchRun subflowEnv) (idleDaemon subflowEnv) P∧
 waiting P∧Alive P.state.store "run:a":=by
 obtain ⟨P,hr,hc⟩:=reach_of_check (launchRun subflowEnv) (idleDaemon subflowEnv) (parkedFor 20 parksForFlow)
  (fun P=>waiting P&&P.procs.all fun p=>p.prog.finished) (by decide +kernel)
 simp only[Bool.and_eq_true,all_eq_true] at hc
 obtain ⟨⟨r,hget,hs⟩,_,hsub⟩:=waiting_spec hc.1
 exact ⟨P,hr,hc.1,parked_subflow_alive hr hget hs hsub fun p hp=>.inl (hc.2 p hp)⟩

/-- The step waits with no child: its worker stopped between the park and the
 child, or its worker returned because the lookup of its module failed. -/
theorem parked_step_left_alone:
 (∃ P,Reach (launchRun subflowEnv) (idleDaemon subflowEnv) P∧
  (∃ r,P.state.store.get "run:a"=some r∧r.status=.awaiting)∧
  (∃ r,P.state.store.get "run"=some r∧r.terminal=false)∧Subflow subflowEnv P.state.store "run:a"∧
  ¬Alive P.state.store "run:a")∧
 ∃ P,Reach (anyRun subflowEnv) (idleDaemon subflowEnv) P∧(∀ p∈P.procs,p.prog.finished)∧
  (∃ r,P.state.store.get "run:a"=some r∧r.status=.awaiting)∧
  (∃ r,P.state.store.get "run"=some r∧r.terminal=false)∧Subflow subflowEnv P.state.store "run:a"∧
  ¬Alive P.state.store "run:a":=by
 constructor
 ·obtain ⟨P,hr,hc⟩:=reach_of_check (launchRun subflowEnv) (idleDaemon subflowEnv) (parkedFor 10 parksForFlow)
   (fun P=>waiting P&&!decide (Alive P.state.store "run:a")) (by decide +kernel)
  simp only[Bool.and_eq_true,Bool.not_eq_true',decide_eq_false_iff_not] at hc
  obtain ⟨hstep,hrun,hsub⟩:=waiting_spec hc.1
  exact ⟨P,hr,hstep,hrun,hsub,hc.2⟩
 ·obtain ⟨P,hr,hc⟩:=reach_of_check (anyRun subflowEnv) (idleDaemon subflowEnv) (parkedFor 11 lookupLost)
   (fun P=>(waiting P&&!decide (Alive P.state.store "run:a"))&&P.procs.all fun p=>p.prog.finished)
   (by decide +kernel)
  simp only[Bool.and_eq_true,Bool.not_eq_true',decide_eq_false_iff_not,all_eq_true] at hc
  obtain ⟨hstep,hrun,hsub⟩:=waiting_spec hc.1.1
  exact ⟨P,hr,hc.2,hstep,hrun,hsub,hc.1.2⟩

end Dazyflow.ParkedSubflows
