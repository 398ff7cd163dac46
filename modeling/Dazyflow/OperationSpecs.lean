import Dazyflow.DispatcherSpecs

/-!
# The daemon's operations under the contract

Submission, promotion, the worker, approval and cancel keep the contract, so every pool of the daemon's
operations is supported by it (`holds`).
-/
namespace Dazyflow.DaemonContract
open FlowGraph JobRecords MemoryStore StoreOperations StoreRuns LoopBodies
open List hiding rec
open Daemon RunRecords ReadSpecs Interleaving Interleaving.Contract
open Interleaving.Prog (yields_bind yields_true)

variable {env:Env}{I:Note→World→Prop}{g:Graph}{run:String}{α:Type}

lemma triple_drop{J:Note→World→Prop}{p:Daemon.Prog α}
 (h:(contract env).Keeps I p)(hJ:∀ n w,J n w→I n w):
 (contract env).Triple J p (fun _=>I):=
 triple_mono h (fun n w _=>hJ n w) (fun _ _ _ _ h=>h)

def StepsOf(g:Graph)(run:String)(recs:List JobRecord):Prop:=
 ∀ rec∈recs,∃ id∈g.nodeIDs,SameJob (dependentRecord g run id) rec

lemma growing_stepDone(id):Growing (fun _ w=>StepDone w.store g run id):=by
 rintro _ _ _ _ _ hf _ ⟨r,hr,ht,hp⟩
 exact ⟨r,hf.frozen _ r hr ht,ht,hp⟩
lemma triple_failRun{code message}(hI:Growing I):
 (contract env).Keeps I (failRun run code message):=
 triple_bind (triple_store_any hI fun _ _ _ _=>.of_complete rfl rfl rfl nofun)
  fun _=>triple_return hI
lemma triple_succeedRun(hI:Growing I)
 (hrun:Under env I fun _ w=>RunOf w.store run g)
 (hdone:Under env I fun _ w=>AllDone w.store g run):
 (contract env).Keeps I (succeedRun run):=by
 refine triple_bind (triple_store_any hI fun n w hi hIw=>.of_complete rfl rfl rfl fun _ g' hg'=>?_)
  fun _=>triple_return hI
 exact runOf_unique (hrun n w hi hIw) hg' ▸ hdone n w hi hIw
lemma triple_accountedFor(nodes)(hI:Growing I):
 (contract env).Triple I (accountedFor g run nodes) (fun b n w=>I n w∧
  (b→∀ x∈nodes,bodyOwned g x.id=false→StepDone w.store g run x.id)):=by
 induction nodes generalizing I with
 | nil=>exact triple_done hI.stable (fun _ _ _ h=>⟨h,nofun⟩)
 | cons node rest ih=>
  unfold accountedFor
  by_cases hb:bodyOwned g node.id
  ·rw[if_pos hb]
   refine triple_mono (ih hI) (fun _ _ _ h=>h) fun b n w _ h=>⟨h.1,fun ht x hx hbo=>?_⟩
   rcases mem_cons.1 hx with rfl | hx
   ·rw[hb] at hbo
    cases hbo
   ·exact h.2 ht x hx hbo
  ·rw[if_neg hb]
   have hfalse:(contract env).Triple I (pure false) (fun b n w=>I n w∧(b→
    ∀ x∈node::rest,bodyOwned g x.id=false→StepDone w.store g run x.id)):=
    triple_done hI.stable (fun _ _ _ h=>⟨h,by simp⟩)
   refine triple_lookup (regular env)
    (fun r _ w=>r.status=.succeeded→StepDone w.store g run node.id) hI.stable ?_ ?_ hfalse ?_
   ·exact fun r n s t hr hi h hs=>(growing_stepDone node.id).stable n s t hr hi (h hs)
   ·intro n w r hi _ hr hs
    refine ⟨r,hr,by simp[JobRecord.terminal,hs,isTerminalStatus],fun hf=>?_⟩
    rw[hs] at hf
    cases hf.1
   ·intro r
    simp only
    by_cases hs:r.status=.succeeded
    ·rw[if_pos hs]
     -- the rest is judged while this step stays done
     refine triple_mono (ih (hI.and (growing_stepDone node.id))) (fun _ _ _ h=>⟨h.1,h.2 hs⟩) ?_
     refine fun b n w _ h=>⟨h.1.1,fun ht x hx hbo=>?_⟩
     rcases mem_cons.1 hx with rfl | hx
     ·exact h.1.2
     ·exact h.2 ht x hx hbo
    ·rw[if_neg hs]
     exact triple_mono hfalse (fun _ _ _ h=>h.1) fun _ _ _ _ h=>h
section Start

variable (hI:Growing I)
 (hrun:Under env I fun _ w=>RunOf w.store run g)
include hI hrun

lemma triple_settleStart{a:α}:
 (contract env).Keeps I (do
  if←allNodesAccountedFor g run then do
   succeedRun run
   pure a
  else pure a):=by
 refine triple_bind (triple_accountedFor g.nodes hI) fun
  | false=>triple_drop (triple_return hI) (fun _ _ h=>h.1)
  | true=>?_
 have hJ:Growing (fun n w=>I n w∧AllDone w.store g run):=hI.and (growing_allDone g run)
 refine triple_mono (triple_bind (triple_succeedRun hJ (fun n w hi h=>hrun n w hi h.1)
  (fun _ _ _ h=>h.2)) fun _=>triple_return hJ) ?_ (fun _ _ _ _ h=>h.1)
 intro n w _ h
 refine ⟨h.1,fun id hid hb=>?_⟩
 obtain ⟨x,hx,rfl⟩:=mem_map.1 hid
 exact h.2 rfl x hx hb

/-- Nothing is asked of an insert of `dispatchRoots`; what `enqueueReadyDependents` inserts is ready. -/
def Insertable(I:Note→World→Prop)(env:Env)(site:Site)(recs:List JobRecord):Prop:=
 Under env I fun _ w=>site=.plain∨site=.enqueueReady∧∀ rec∈recs,Ready w.store rec

def AllReady(I:Note→World→Prop)(ready:List JobRecord)(n:Note)(w:World):Prop:=
 I n w∧∀ rec∈ready,Ready w.store rec

lemma triple_enqueueSteps{site op recs}(hop:op.additions=recs)
 (hc:op.completion=none)(hq:op.requeuing=none)(hd:∀ tenant,op≠.deleteByTenant tenant)
 (hrecs:StepsOf g run recs)(hins:Insertable I env site recs):(contract env).Keeps I (storeAt site op):=by
 subst hop
 refine triple_store_any hI fun n w hi hIw=>?_
 have hplain:Sanctioned n w.store .plain op:=by
  refine .of_free rfl hd (fun rec hrec=>?_) (fun _ _ _ h=>?_) fun _ _ _ h=>?_
  ·obtain ⟨id,hid,hj⟩:=hrecs rec hrec
   refine ⟨wellMade_step hi.1 (hrun n w hi hIw) hid hj,fun hk=>?_⟩
   rw[hj.kind] at hk
   cases hk
  ·rw[hq] at h
   cases h
  ·rw[hc] at h
   cases h
 rcases hins n w hi hIw with rfl | ⟨rfl,hready⟩
 ·exact hplain
 ·exact hplain.ready hready
lemma triple_tryEnqueueNodes{site recs}(hrecs:StepsOf g run recs)(hins:Insertable I env site recs):
 (contract env).Keeps I (tryEnqueueNodes site recs):=by
 unfold tryEnqueueNodes
 split
 ·split_ifs
  ·refine triple_bind (triple_enqueueSteps hI hrun rfl rfl rfl nofun hrecs hins)
    fun r=>?_
   cases r<;>exact triple_return hI
  ·exact triple_return hI
 ·exact triple_return hI
lemma triple_enqueueEach{site recs}(hrecs:StepsOf g run recs)(hins:Insertable I env site recs)(queued)
 (failed):(contract env).Keeps I (enqueueEach site recs queued failed):=by
 induction recs generalizing queued failed with
 | nil=>exact triple_return hI
 | cons rec rest ih=>
  have hone:∀ x∈[rec],x∈rec::rest:=fun x hx=>mem_singleton.1 hx▸mem_cons_self
  have hrest:=ih (fun x hx=>hrecs x (mem_cons_of_mem _ hx))
   fun n w hi hIw=>(hins n w hi hIw).imp_right (And.imp_right fun h x hx=>h x (mem_cons_of_mem _ hx))
  refine triple_bind (triple_enqueueSteps hI hrun rfl rfl rfl nofun (fun x hx=>hrecs x (hone x hx))
   fun n w hi hIw=>(hins n w hi hIw).imp_right (And.imp_right fun h x hx=>h x (hone x hx))) fun r=>?_
  cases r<;>exact hrest _ _
omit hrun in
lemma triple_allPredsSucceeded(edges):
 (contract env).Triple I (allPredsSucceeded run edges) (fun b n w=>I n w∧
  (b→∀ e∈edges,succeededIn (World.store w) run e.source)):=by
 induction edges generalizing I with
 | nil=>exact triple_done hI.stable (fun _ _ _ h=>⟨h,nofun⟩)
 | cons e rest ih=>
  have hfalse:(contract env).Triple I (pure false) (fun b n w=>I n w∧(b→
   ∀ x∈e::rest,succeededIn (World.store w) run x.source)):=
   triple_done hI.stable (fun _ _ _ h=>⟨h,by simp⟩)
  have hgrow:∀ P:Prop,Growing (fun _ w=>P→succeededIn w.store run e.source):=
   fun P _ _ _ _ _ hf _ h hP=>succeededIn_later (h hP) hf.toEvolves
  refine triple_lookup (regular env) (fun r _ w=>r.status=.succeeded→succeededIn w.store run e.source)
   hI.stable (fun r=>(hgrow _).stable) ?_ hfalse fun pred=>?_
  ·exact fun n w r _ _ hr hs=>by simp[succeededIn,hr,hs]
  simp only
  split_ifs with hs
  ·refine triple_mono (ih (hI.and (hgrow True))) (fun _ _ _ h=>⟨h.1,fun _=>h.2 hs⟩) ?_
   refine fun b n w _ h=>⟨h.1.1,fun hb x hx=>?_⟩
   rcases mem_cons.1 hx with rfl | hx
   ·exact h.1.2 trivial
   ·exact h.2 hb x hx
  ·exact triple_mono hfalse (fun _ _ _ h=>h.1) fun _ _ _ _ h=>h
omit hrun in
lemma Growing.allReady(ready):Growing (AllReady I ready):=
 hI.and (fun _ _ _ _ _ hf _ h rec hrec=>(h rec hrec).later hf.toEvolves)
lemma triple_readyDependents(ids ready):
 (contract env).Triple (AllReady I ready) (readyDependents g run ids ready) (AllReady I):=by
 induction ids generalizing ready with
 | nil=>exact triple_done (hI.allReady ready).stable (fun _ _ _ h=>h)
 | cons id rest ih=>
  unfold readyDependents
  split_ifs
  ·exact ih ready
  refine triple_bind (triple_allPredsSucceeded (hI.allReady ready) (g.incoming id)) fun all=>?_
  cases all with
  | false=>exact triple_mono (ih ready) (fun _ _ _ h=>h.1) (fun _ _ _ _ h=>h)
  | true=>
   refine triple_mono (ih _) (fun n w hi h=>⟨h.1.1,fun rec hrec=>?_⟩) (fun _ _ _ _ h=>h)
   rcases mem_append.1 hrec with hrec | hrec
   ·exact h.1.2 rec hrec
   ·rw[mem_singleton.1 hrec]
    exact ⟨g,hrun n w hi h.1.1,h.2 rfl⟩
lemma triple_enqueueReadyDependents{id}(hid:∀ t∈g.outgoing id,t∈g.nodeIDs):
 (contract env).Keeps I (enqueueReadyDependents g run id):=by
 have hsteps:(readyDependents g run (g.outgoing id) []).Yields (StepsOf g run):=
  readyDependents_all _ [] (fun id h=>⟨id,hid id h,.refl _⟩) (by simp)
 refine triple_bind (triple_mono (triple_yields (triple_readyDependents hI hrun _ []) hsteps)
  (fun _ _ _ h=>⟨h,fun _ hr=>by cases hr⟩) fun _ _ _ _ h=>h) (fun ready=>triple_given fun hready=>?_)
 have hJ:Growing (AllReady I ready):=hI.allReady ready
 have hrun':Under env (AllReady I ready) fun _ w=>RunOf w.store run g:=fun n w hi h=>hrun n w hi h.1
 have hins:Insertable (AllReady I ready) env .enqueueReady ready:=fun _ _ _ h=>.inr ⟨rfl,h.2⟩
 refine triple_mono (Q:=fun _=>AllReady I ready) ?_ (fun _ _ _ h=>h) fun _ _ _ _ h=>h.1
 exact triple_bind (triple_tryEnqueueNodes hJ hrun' hready hins) fun
  | some n=>triple_return hJ
  | none=>triple_bind (triple_enqueueEach hJ hrun' hready hins 0 []) (fun _=>triple_return hJ)
section

variable (hout:∀ id,∀ t∈g.outgoing id,t∈g.nodeIDs)

include hout

lemma triple_fanOutSeeds(seeded)
 (queued):(contract env).Keeps I (fanOutSeeds g run seeded queued):=by
 induction seeded generalizing queued with
 | nil=>exact triple_return hI
 | cons id rest ih=>
  exact triple_bind (triple_enqueueReadyDependents hI hrun (hout id)) fun _=>ih _
lemma triple_dispatchRoots(seeded):
 (contract env).Keeps I (dispatchRoots g run seeded):=by
 have hroots:StepsOf g run ((roots g seeded).map fun n=>dependentRecord g run n.id):=by
  intro rec hrec
  obtain ⟨n,hn,rfl⟩:=mem_map.1 hrec
  exact ⟨n.id,mem_map_of_mem (mem_filter.1 hn).1,.refl _⟩
 refine triple_bind (triple_tryEnqueueNodes hI hrun hroots fun _ _ _ _=>.inl rfl) fun
  | some n=>triple_bind (triple_fanOutSeeds hI hrun hout seeded n) (fun _=>triple_return hI)
  | none=>?_
 refine triple_bind (triple_enqueueEach hI hrun hroots (fun _ _ _ _=>.inl rfl) 0 []) fun out=>?_
 exact triple_bind (triple_fanOutSeeds hI hrun hout seeded _) fun _=>triple_return hI
omit hout in
lemma triple_persistSeedsOnly(seeds)(hseeds:∀ s∈seeds,s.1∈g.nodeIDs):
 (contract env).Keeps I (persistSeedsOnly g run seeds):=by
 induction seeds with
 | nil=>exact triple_return hI
 | cons s rest ih=>
  obtain ⟨id,result⟩:=s
  have hrest:=ih fun x hx=>hseeds x (mem_cons_of_mem _ hx)
  refine triple_bind (triple_enqueueSteps hI hrun rfl rfl rfl nofun ?_ fun _ _ _ _=>.inl rfl) fun r=>?_
  ·intro x hx
   rw[mem_singleton.1 hx]
   exact ⟨id,hseeds _ mem_cons_self,(by constructor<;>rfl)⟩
  ·cases r with
   | ok _=>exact hrest
   | error e=>exact triple_bind hrest (fun _=>triple_return hI)
lemma triple_populateSeededRun(seeds)
 (hseeds:∀ s∈seeds,s.1∈g.nodeIDs):
 (contract env).Keeps I (populateSeededRun g run seeds):=by
 refine triple_bind (triple_persistSeedsOnly hI hrun seeds hseeds) fun errs=>?_
 exact triple_bind (triple_dispatchRoots hI hrun hout _) fun _=>triple_return hI
lemma triple_startSubmitted(seeds)
 (hseeds:∀ s∈seeds,s.1∈g.nodeIDs):
 (contract env).Keeps I (startSubmitted g run seeds):=by
 unfold startSubmitted
 by_cases hempty:g.nodes=[]
 ·rw[if_pos hempty]
  refine triple_bind (triple_succeedRun hI hrun fun n w _ _ id hid=>?_) fun _=>triple_return hI
  simp[Graph.nodeIDs,hempty] at hid
 ·rw[if_neg hempty]
  refine triple_bind (triple_populateSeededRun hI hrun hout seeds hseeds) ?_
  rintro ⟨queued,errs⟩
  simp only
  split
  ·exact triple_bind (triple_failRun hI) fun _=>triple_return hI
  split
  ·exact triple_settleStart hI hrun
  ·exact triple_return hI

end

end Start

lemma outgoing_inside(h:Accepted g):∀ id,∀ t∈g.outgoing id,t∈g.nodeIDs:=by
 intro id t ht
 obtain ⟨e,he,_,rfl⟩:=(g.mem_outgoing id t).1 ht
 exact h.wellFormed.target e he
lemma refuseGraph_yields(p g seeds):
 (refuseGraph p g seeds).Yields (fun r=>r=none→Accepted g∧∀ s∈seeds,s.1∈g.nodeIDs):=by
 refine yields_bind (yields_true _) fun b _=>?_
 cases b with
 | false=>exact nofun
 | true=>?_
 refine yields_bind (yields_true _) fun r _=>?_
 cases r with
 | some msg=>exact nofun
 | none=>?_
 simp only
 split_ifs with hv hl
 ·exact nofun
 ·exact nofun
 cases hf:seeds.find? (fun s=>(g.node s.1).isNone) with
 | some s=>exact nofun
 | none=>
  refine fun _=>⟨⟨by simpa using hv,by simpa using hl⟩,fun s hs=>?_⟩
  have hnone:=find?_eq_none.1 hf s hs
  rw[←g.node_isSome]
  simpa[Option.isNone_iff_eq_none,Option.isSome_iff_ne_none] using hnone

variable {rec:JobRecord}{p:Principal}{seeds:Seeds}

lemma triple_refuseGraph(hI:Growing I):
 (contract env).Triple I (refuseGraph p g seeds)
  (fun r n w=>(r=none→Accepted g∧∀ s∈seeds,s.1∈g.nodeIDs)∧I n w):=
 triple_yields (triple_quiet (regular env) (quiet_refuseGraph p g seeds) hI.stable)
  (refuseGraph_yields p g seeds)
lemma triple_newID(hI:Growing I):
 (contract env).Triple I (query .newID) (fun id n w=>(SimpleID id∧id≠"")∧I n w):=
 triple_query (regular env) trivial hI.stable (fun _=>stable_and (fun _ _ _ _ _ h=>h) hI.stable)
  fun _ _ _ _ hIw hl=>⟨hl,hIw⟩
lemma enqueue_ok{now tie m v}
 (h:(apply now tie m (.enqueue rec)).1=.ok v):
 m.get rec.id=none∧(apply now tie m (.enqueue rec)).2.get rec.id=some (Memory.stamp now rec):=by
 rcases enqueueLocked_cases now m rec with ⟨_,_,he⟩ | ⟨hn,_,hg⟩
 ·cases (congrArg Prod.fst he).symm.trans h
 ·exact ⟨hn,(hg rec.id).trans (if_pos rfl)⟩

def InRun(I:Note→World→Prop)(run:String)(g:Graph)(n:Note)(w:World):Prop:=
 I n w∧RunOf w.store run g

lemma Growing.inRun(hI:Growing I):Growing (InRun I run g):=
 hI.and (growing_run run g)

variable {R:α→Note→World→Prop}

lemma triple_insertRun{site k}
 (hsite:freeSite site)(hk:rec.kind=.graph)
 (hp:rec.graphPayload=some g)(hst:rec.status=.running∨rec.status=.queued)
 (hI:Growing I)(hrec:Under env I fun _ _=>GraphKept rec)
 (herr:∀ e,(contract env).Triple I (k (.error e)) R)
 (hok:(contract env).Triple (InRun I rec.id g) (k (.ok ())) R):
 (contract env).Triple I (storeAt site (.enqueue rec)>>=k) R:=by
 refine triple_bind (triple_store site (.enqueue rec) (Q:=fun r _ w=>r=.ok ()→RunOf (World.store w) rec.id g)
  hI ?_ ?_ ?_) (fun r=>?_)
 ·exact fun r n n' s t hle hf hi h hr=>growing_run rec.id g n n' s t hle hf hi (h hr)
 ·exact fun n w hi hIw=>.of_enqueue hsite (.inl ⟨hk,hrec n w hi hIw⟩) fun _=>hst
 ·intro n w now tie hi hIw hr
  exact ⟨_,(enqueue_ok hr).2,by simp[Memory.stamp,hk],hp⟩
 ·cases r with
  | error e=>exact triple_mono (herr e) (fun _ _ _ h=>h.1) (fun _ _ _ _ h=>h)
  | ok _=>exact triple_mono hok (fun _ _ _ h=>⟨h.1,h.2 rfl⟩) (fun _ _ _ _ h=>h)
lemma graphKept_submitted(hg:Accepted g)(hid:SimpleID run∧run≠"")(admitted)
 (opts):GraphKept (submittedRecord g run admitted opts):=
 ⟨hid.1,hid.2,⟨g,rfl,hg,rfl,rfl⟩,.inl rfl,rfl⟩
lemma graphKept_child(hg:Accepted g)(hid:SimpleID run∧run≠""){parent}
 (hpar:¬SimpleID parent)(depth):GraphKept (childRecord g run parent depth):=
 ⟨hid.1,hid.2,⟨g,rfl,hg,rfl,rfl⟩,.inr hpar,rfl⟩
section

variable (hI:Growing I)

include hI

lemma triple_submitGraphOpts{opts}:
 (contract env).Keeps I (submitGraphOpts p g opts):=by
 refine triple_bind (triple_refuseGraph hI) fun r=>triple_given (fun hr=>?_)
 cases r with
 | some msg=>exact triple_return hI
 | none=>?_
 obtain ⟨hg,hseeds⟩:=hr rfl
 simp only
 split
 ·exact triple_return hI
 refine triple_bind (triple_newID hI) fun id=>triple_given (fun hid=>?_)
 have hrest:∀ admitted,(contract env).Keeps I (submitReserved g opts id admitted):=by
  intro admitted
  refine triple_then (regular env) (quiet_query trivial) hI.stable fun reserved=>?_
  cases reserved with
  | false=>exact triple_return hI
  | true=>?_
  refine triple_insertRun (g:=g) rfl rfl rfl (by cases admitted<;>simp[submittedRecord,graphRecord])
   hI (fun _ _ _ _=>graphKept_submitted hg hid admitted opts) (fun _=>triple_return hI) ?_
  have hJ:Growing (InRun I id g):=hI.inRun
  refine triple_mono (Q:=fun _=>InRun I id g) ?_ (fun _ _ _ h=>h) fun _ _ _ _ h=>h.1
  cases admitted with
  | true=>
   exact triple_startSubmitted hJ (fun _ _ _ h=>h.2) (outgoing_inside hg) _ hseeds
  | false=>
   refine triple_bind (triple_persistSeedsOnly hJ (fun _ _ _ h=>h.2) _ hseeds) (fun errs=>?_)
   split_ifs
   ·exact triple_bind (triple_failRun hJ) fun _=>triple_return hJ
   ·exact triple_return hJ
 split
 ·exact hrest true
 ·exact triple_then (regular env) (quiet_admitGraphRun g.tenant) hI.stable hrest
lemma triple_submitGraphWithParent{parent depth}
 (hpar:Under env I fun _ _=>¬SimpleID parent):
 (contract env).Keeps I (submitGraphWithParent p g seeds parent depth):=by
 refine triple_bind (triple_refuseGraph hI) fun r=>triple_given (fun hr=>?_)
 cases r with
 | some msg=>exact triple_return hI
 | none=>?_
 obtain ⟨hg,hseeds⟩:=hr rfl
 refine triple_bind (triple_newID hI) fun id=>triple_given (fun hid=>?_)
 refine triple_insertRun (g:=g) rfl rfl rfl (.inl rfl) hI
  (fun n w hi hIw=>graphKept_child hg hid (hpar n w hi hIw) depth) (fun _=>triple_return hI) ?_
 have hJ:Growing (InRun I id g):=hI.inRun
 refine triple_mono (Q:=fun _=>InRun I id g) ?_ (fun _ _ _ h=>h) fun _ _ _ _ h=>h.1
 refine triple_bind (triple_populateSeededRun hJ (fun _ _ _ h=>h.2) (outgoing_inside hg) seeds hseeds)
  (fun out=>?_)
 obtain ⟨queued,errs⟩:=out
 simp only
 split
 ·exact triple_return hJ
 split
 ·refine triple_bind (triple_mono (triple_accountedFor g.nodes hJ) (fun _ _ _ h=>h)
   (fun _ _ _ _ h=>h.1)) (fun b=>?_)
  cases b with
  | false=>exact triple_return hJ
  | true=>
   exact triple_bind (triple_maybeCompleteGraph hJ (fun _ _ _ h=>h.2)
    (fun _ _ _ _ h=>by cases h)) (fun _=>triple_return hJ)
 ·exact triple_return hJ
lemma triple_submitChild{parent graphID}
 (hheld:Under env I fun _ w=>Held parent w.store):
 (contract env).Keeps I (submitChild parent graphID seeds):=by
 have hpar:Under env I fun _ _=>¬SimpleID parent.id:=by
  intro n w hi hIw
  rw[((hheld n w hi hIw).kept hi.1).1]
  exact nodeJobID_not_simple _ _
 refine triple_then (regular env) (quiet_childCheck _) hI.stable fun parentRun=>?_
 split
 ·exact triple_return hI
 refine triple_then (regular env) (quiet_query trivial) hI.stable fun
  | .error msg=>triple_return hI
  | .ok child=>?_
 refine triple_then (regular env) (quiet_lineage _ _ _ _) hI.stable fun ⟨depth,root⟩=>?_
 simp only
 split
 ·exact triple_return hI
 refine triple_then (regular env) (quiet_query trivial) hI.stable fun
  | false=>triple_return hI
  | true=>?_
 refine triple_then (regular env) (quiet_runTriggerDepth _) hI.stable fun d=>?_
 exact triple_submitGraphWithParent hI hpar
lemma triple_startPendingRun(hrun:Under env I fun _ w=>∀ g,rec.graphPayload=some g→RunOf w.store rec.id g):
 (contract env).Keeps I (startPendingRun rec):=by
 unfold startPendingRun
 cases hp:rec.graphPayload with
 | none=>exact triple_failRun hI
 | some g=>?_
 have hrun':Under env I fun _ w=>RunOf w.store rec.id g:=
  fun n w hi hIw=>hrun n w hi hIw g hp
 simp only
 by_cases hempty:g.nodes=[]
 ·rw[if_pos hempty]
  refine triple_succeedRun hI hrun' fun n w _ _ id hid=>?_
  simp[Graph.nodeIDs,hempty] at hid
 rw[if_neg hempty]
 -- the flow of a stored run is accepted, so its wires end in it
 refine triple_known (fun n w hi hIw=>outgoing_inside (hi.1.accepted (hrun' n w hi hIw))) fun hout=>?_
 refine triple_then (regular env) (quiet_seededNodes _ _) hI.stable fun seeded=>?_
 refine triple_bind (triple_dispatchRoots hI hrun' hout seeded) ?_
 rintro ⟨queued,errs⟩
 cases errs with
 | cons err _=>exact triple_failRun hI
 | nil=>
  simp only
  split
  ·exact triple_settleStart (a:=()) hI hrun'
  ·exact triple_return hI
lemma triple_markRunning{limit tenant}:
 (contract env).Keeps I (markRunning limit run tenant):=by
 unfold markRunning
 split
 ·refine triple_bind (triple_store_any hI fun _ _ _ _=>.of_idle rfl rfl) fun r=>?_
  cases r<;>exact triple_return hI
 ·refine triple_bind (triple_store_any hI fun _ _ _ _=>.of_idle rfl rfl) fun r=>?_
  cases r<;>exact triple_return hI
omit hI in
lemma triple_promoteLoop{limit:Int}{tenant:String}(fuel)(hI:Growing I):
 (contract env).Keeps I (promoteLoop limit tenant fuel):=by
 induction fuel with
 | zero=>exact triple_return hI
 | succ fuel ih=>
  refine triple_then (regular env) (quiet_oldestPendingRun tenant) hI.stable fun
   | none=>triple_return hI
   | some runID=>?_
  refine triple_bind (triple_markRunning hI) fun
   | none=>triple_return hI
   | some won=>?_
  cases won with
  | false=>exact ih
  | true=>?_
  refine triple_lookup (regular env) (fun rec _ w=>rec.id=runID∧
   ∀ g,rec.graphPayload=some g→RunOf w.store runID g) hI.stable ?_ ?_ (triple_failRun hI) (fun rec=>?_)
  ·exact fun rec=>stable_and (fun _ _ _ _ _ h=>h)
    fun n s t hr hi h g hg=>stable_runOf (regular env) runID g n s t hr hi (h g hg)
  ·exact fun n w rec hi _ hrec=>⟨get_id hrec,fun g hg=>hi.1.runOf hrec hg⟩
  refine triple_known (P:=rec.id=runID) (fun _ _ _ h=>h.2.1) fun hid=>?_
  subst hid
  have hJ:Growing (fun n w=>I n w∧∀ g,rec.graphPayload=some g→RunOf w.store rec.id g):=
   hI.and (fun n n' s t hle hf hi h g hg=>
    growing_run rec.id g n n' s t hle hf hi (h g hg))
  refine triple_bind (triple_mono (triple_startPendingRun hJ (fun _ _ _ h=>h.2))
   (fun _ _ _ h=>⟨h.1,h.2.2⟩) fun _ _ _ _ h=>h.1) (fun _=>ih)

def Failing(I:Note→World→Prop)(rec:JobRecord)(n:Note)(w:World):Prop:=
 I n w∧Excused rec n w

lemma Growing.failing:Growing (Failing I rec):=
 hI.and (growing_excused rec)

end

section Worker

variable {rec:JobRecord}{worker:String}(hI:Growing I)
 (hheld:Under env I fun _ w=>Held rec w.store)
include hI

lemma triple_unlessLeaseLost{rest}(h:(contract env).Keeps I rest):
 (contract env).Keeps I (unlessLeaseLost worker rec rest):=by
 exact triple_then (regular env) (quiet_query trivial) hI.stable fun
  | true=>triple_return hI
  | false=>h

include hheld

variable {result:Result}{status:JobStatus}

lemma triple_completeNode{k}
 (hst:isTerminalStatus status∨status=.awaiting)
 (herr:(contract env).Triple I (k (.error .conflict)) R)
 (hok:(contract env).Triple (fun n w=>I n w∧(status=.failed→StepFailed rec w.store)) (k (.ok ())) R):
 (contract env).Triple I (completeNode worker rec.id status result>>=k) R:=
 triple_completion rec hI rfl hst hheld
  (fun n w hi hIw=>sanctioned_complete_held rfl rfl rfl (hheld n w hi hIw)) herr (fun _=>hok)
lemma triple_requeueNode{availableAt}:
 (contract env).Keeps I (requeueNode worker rec.id availableAt):=by
 refine triple_store_any hI fun n w hi hIw=>.of_requeue rfl (fun r hr=>?_)
 obtain ⟨r',hr',hj,hk⟩:=hheld n w hi hIw
 rw[hr,Option.some.injEq] at hr'
 rw[hr',hj.kind,hk]
lemma triple_failNode{code message graph}
 (hrun:Under env I fun _ w=>∀ g,graph=some g→RunOf w.store rec.graphRunID g):
 (contract env).Keeps I (failNode worker rec code message graph):=by
 refine triple_completeNode hI hheld (.inl rfl) (triple_return hI) ?_
 have hJ:Growing (Failing I rec):=hI.failing
 refine triple_mono (I:=Failing I rec) (Q:=fun _=>Failing I rec) ?_
  (fun n w _ h=>⟨h.1,.inl (h.2 rfl)⟩) (fun _ _ _ _ h=>h.1)
 cases graph with
 | none=>exact triple_failRun hJ
 | some g=>
  exact triple_advanceHeld hJ (fun n w hi h=>hheld n w hi h.1) (fun n w hi h=>hrun n w hi h.1 g rfl)
   (fun _ _ _ h _=>h.2)
lemma triple_recoverPanic:(contract env).Keeps I (recoverPanic worker rec):=by
 refine triple_completeNode hI hheld (.inl rfl) (triple_return hI) ?_
 have hJ:Growing (Failing I rec):=hI.failing
 refine triple_mono (triple_fetchAndAdvance hJ (fun n w hi h=>hheld n w hi h.1)
  (fun _ _ _ h _=>h.2)) ?_ (fun _ _ _ _ h=>h.1)
 exact fun n w _ h=>⟨h.1,.inl (h.2 rfl)⟩
lemma triple_childRefused{message}:
 (contract env).Keeps I (childRefused rec message):=by
 -- either the failure goes on record, or the run is over, or the operation has slipped
 refine triple_bind (triple_store .submitChildFailed _ (Q:=fun _=>Excused rec) hI (fun _=>growing_excused rec)
  (fun n w hi hIw=>sanctioned_complete_held rfl rfl rfl (hheld n w hi hIw)) ?_) (fun r=>?_)
 ·intro n w now tie hi hIw
  have hh:=hheld n w hi hIw
  cases hres:(apply now tie w.store (.complete rec.id .failed
   (some (errorResult "" "subgraph_submit" message)))).1 with
  | ok v=>exact .inl (stepFailed_of_completion rfl hres)
  | error e=>
   by_cases hover:runOver w.store rec.graphRunID
   ·refine .inr (.inl ?_)
    have hsame:=apply_error_unchanged hres
    simp only[hsame]
    exact hover
   ·refine .inr (.inr ?_)
    have hover':runOver w.store rec.graphRunID=false:=by simpa using hover
    simp[Note.store,slips,hh.nodeRun,hover']
 ·have hJ:Growing (fun n w=>I n w∧Excused rec n w):=hI.and (growing_excused rec)
  exact triple_mono (triple_fetchAndAdvance hJ (fun n w hi h=>hheld n w hi h.1)
   fun _ _ _ h _=>h.2) (fun _ _ _ h=>h) (fun _ _ _ _ h=>h.1)
lemma triple_launchChild{manifest}:
 (contract env).Keeps I (launchChild env rec result manifest):=by
 unfold launchChild
 split_ifs
 ·exact triple_return hI
 cases pendingChild env result with
 | none=>exact triple_return hI
 | some pending=>
  obtain ⟨childGraphID,seeds⟩:=pending
  refine triple_bind (triple_submitChild hI hheld) fun submitted=>?_
  cases submitted.error with
  | none=>exact triple_return hI
  | some message=>exact triple_childRefused hI hheld
lemma triple_maybeSubmitChild:
 (contract env).Keeps I (maybeSubmitChild env rec result):=by
 refine triple_withGraph (regular env) hI.stable (triple_return hI) fun g=>?_
 refine triple_drop ?_ fun _ _ h=>h.1
 simp only
 cases g.node rec.nodeID with
 | none=>exact triple_return hI
 | some node=>?_
 refine triple_then (regular env) (quiet_query trivial) hI.stable fun fails=>?_
 cases fails with
 | true=>exact triple_return hI
 | false=>?_
 cases env.resolve rec.tenant node.module with
 | none=>exact triple_return hI
 | some manifest=>exact triple_launchChild hI hheld

variable {c:CachedRun}
 (hrun:Under env I fun _ w=>RunOf w.store rec.graphRunID c.graph)
include hrun

lemma triple_completeStep(hst:isTerminalStatus status):
 (contract env).Keeps I (completeStep worker c rec status result):=by
 refine triple_bind (triple_yields (triple_quiet (regular env)
  (quiet_planAdvance c.graph rec.graphRunID rec.nodeID status (some result) c.manual) hI.stable)
  planAdvance_yields) (fun plan=>triple_given fun hplan=>?_)
 refine triple_completion rec hI rfl (.inl hst) hheld ?_ (triple_return hI) fun adv=>?_
 ·intro n w hi hIw
  refine .of_free rfl nofun ?_ nofun ?_
  ·intro d hd
   obtain ⟨d',hd',rfl⟩:=mem_map.1 hd
   obtain ⟨t,ht,_,rfl⟩:=hplan d' hd'
   have hmem:=outgoing_mem hi.1 (hrun n w hi hIw) ht
   exact ⟨wellMade_step hi.1 (hrun n w hi hIw) hmem (sameJob_dependent c.graph _ t),nofun⟩
  ·intro _ _ _ hc g hg
   cases hc
   exact absurd hg (hheld n w hi hIw).not_run
 ·have hJ:Growing (fun n w=>I n w∧(status=.failed→Excused rec n w)):=
   hI.and (fun n n' s t hle hf hi h hs=>growing_excused rec n n' s t hle hf hi (h hs))
  refine triple_mono (triple_finishAdvance hJ (fun n w hi h=>hrun n w hi h.1) fun n w hi h hs hp=>?_)
   (fun _ _ _ h=>⟨h.1,fun hs=>.inl (h.2 hs)⟩) (fun _ _ _ _ h=>h.1)
  exact (h.2 hs).blame (hheld n w hi h.1) hi.1 (hrun n w hi h.1) hp
lemma triple_retryOrComplete(hst:isTerminalStatus status):
 (contract env).Keeps I (retryOrComplete env worker c rec status result):=by
 have hcomplete:(contract env).Keeps I (completeStep worker c rec status result):=
  triple_completeStep hI hheld hrun hst
 unfold retryOrComplete
 split_ifs
 ·refine triple_then (regular env) (quiet_maybeScheduleRetry env c.graph rec) hI.stable fun
   | none=>hcomplete
   | some availableAt=>?_
  refine triple_bind (triple_requeueNode hI hheld) fun
   | .ok _=>triple_return hI
   | .error e=>?_
  cases e<;>first | exact triple_return hI | exact hcomplete
 ·exact hcomplete
lemma triple_parkStep:
 (contract env).Keeps I (parkStep env worker c rec result):=by
 refine triple_completeNode hI hheld (.inr rfl) (triple_return hI) ?_
 refine triple_drop ?_ fun _ _ h=>h.1
 have hrest:(contract env).Keeps I (do
  advanceAfterCompletion c.graph rec.graphRunID rec.nodeID .awaiting none
  maybeSubmitChild env rec result):=
  triple_bind (triple_advance hI hrun nofun)
   fun _=>triple_maybeSubmitChild hI hheld
 have hpark:(contract env).Keeps I (setRunParked rec.graphRunID true):=
  triple_bind (triple_store_any hI fun _ _ _ _=>.of_idle rfl rfl) (fun _=>triple_return hI)
 by_cases happroval:isApprovalPause result
 ·simp only[if_pos happroval]
  exact triple_bind hpark fun _=>hrest
 ·simp only[if_neg happroval]
  exact hrest
lemma triple_settleStep{err}:
 (contract env).Keeps I (settleStep env worker c rec result err):=by
 unfold settleStep
 cases (if err then none else resumeAt env result) with
 | some at_=>exact triple_bind (triple_requeueNode hI hheld) (fun _=>triple_return hI)
 | none=>?_
 simp only
 split
 ·exact triple_parkStep hI hheld hrun
 split
 ·exact triple_retryOrComplete hI hheld hrun rfl
 refine triple_bind (triple_open hI fun _ _=>trivial) fun ⟨total,fits⟩=>?_
 cases fits with
 | true=>
  change (contract env).Keeps I (retryOrComplete env worker c rec .succeeded result)
  exact triple_retryOrComplete hI hheld hrun rfl
 | false=>
  change (contract env).Keeps I (retryOrComplete env worker c rec .failed
   (runStateTooLarge env rec.id total))
  exact triple_retryOrComplete hI hheld hrun rfl
lemma triple_skipStep{skip:String}:
 (contract env).Keeps I (skipStep worker c rec skip):=by
 refine triple_unlessLeaseLost hI (triple_completeNode hI hheld (Or.inl rfl) (triple_return hI) ?_)
 refine triple_drop (triple_bind (triple_dispatchReady hI hrun) fun _=>?_) fun _ _ h=>h.1
 exact triple_maybeCompleteGraph hI hrun nofun
lemma triple_prepareStep:(contract env).Keeps I (prepareStep env worker c rec):=by
 refine triple_then (regular env) (quiet_fetchPredecessors c.graph rec) hI.stable fun r=>?_
 cases r with
 | error message=>
  refine triple_unlessLeaseLost hI (triple_failNode hI hheld fun n w hi hIw g hg=>?_)
  cases hg
  exact hrun n w hi hIw
 | ok wired=>
  refine triple_then (regular env) (quiet_addTemplateResults _ _ _) hI.stable fun prior=>?_
  exact triple_bind (triple_open hI fun _ _=>trivial) fun
   | .panicked=>triple_recoverPanic hI hheld
   | .returned result err=>triple_unlessLeaseLost hI (triple_settleStep hI hheld hrun)

end Worker

lemma triple_terminalRunStatus(hI:Growing I):
 (contract env).Keeps I (terminalRunStatus run):=by
 have hget:(contract env).Keeps I (getRecordAt .runCheck run):=
  triple_bind (triple_store_any hI fun _ _ _ _=>.of_idle rfl rfl)
   fun r=>by cases r<;>exact triple_return hI
 exact triple_bind hget fun r=>by cases r<;>exact triple_return hI
lemma triple_processNodeJob{rec:JobRecord}{worker:String}(hI:Growing I)
 (hheld:Under env I fun _ w=>Held rec w.store):
 (contract env).Keeps I (processNodeJob env worker rec):=by
 refine triple_withRun (regular env) hI.stable (fun message=>?_) fun c=>?_
 ·exact triple_unlessLeaseLost hI (triple_failNode hI hheld fun _ _ _ _ _ hg=>by cases hg)
 have hJ:Growing (InRun I rec.graphRunID c.graph):=hI.inRun
 have hheld':∀ n w,(contract env).inv w→InRun I rec.graphRunID c.graph n w→Held rec w.store:=
  fun n w hi h=>hheld n w hi h.1
 refine triple_mono (I:=InRun I rec.graphRunID c.graph) (Q:=fun _=>InRun I rec.graphRunID c.graph)
  (triple_bind (triple_terminalRunStatus hJ) fun r=>?_)
  (fun n w hi h=>h) (fun _ _ _ _ h=>h.1)
 cases r with
 | some status=>
  exact triple_unlessLeaseLost hJ (triple_completeNode hJ hheld' (.inl rfl) (triple_return hJ)
   (triple_drop (triple_return hJ) fun _ _ h=>h.1))
 | none=>
  refine triple_then (regular env) (quiet_skipCode c.graph rec) hJ.stable fun skip=>?_
  split_ifs
  ·exact triple_skipStep hJ hheld' fun _ _ _ h=>h.2
  ·exact triple_prepareStep hJ hheld' fun _ _ _ h=>h.2
lemma triple_workerTurn{worker:String}(hI:Growing I):
 (contract env).Keeps I (workerTurn env worker):=by
 refine triple_bind (triple_store .plain (.claim worker env.leaseDuration) (Q:=fun r _ w=>∀ rec,r=.ok rec→
  Held rec (World.store w)) hI ?_ (fun _ _ _ _=>.of_idle rfl rfl) ?_) (fun r=>?_)
 ·exact fun r n n' s t hle hf hi h rec hr=>growing_held rec n n' s t hle hf hi (h rec hr)
 ·intro n w now tie hi hIw rec hr
  obtain ⟨r,_,hc,hrec,hget⟩:=claim_ok hr
  refine ⟨rec,hget,.refl rec,?_⟩
  rw[hrec]
  exact (claimable_status hc).1
 ·cases r with
  | error e=>exact triple_drop (triple_return hI) (fun _ _ h=>h.1)
  | ok rec=>
   exact triple_mono (triple_processNodeJob (I:=fun n w=>I n w∧Held rec w.store) (hI.and (growing_held rec))
    (fun _ _ _ h=>h.2)) (fun _ _ _ h=>⟨h.1,h.2 rec rfl⟩) (fun _ _ _ _ h=>h.1)
lemma triple_setRunParked{parked}(hI:Growing I):
 (contract env).Keeps I (setRunParked run parked):=
 triple_bind (triple_store_any hI fun _ _ _ _=>.of_idle rfl rfl) (fun _=>triple_return hI)
lemma triple_approve{id:String}{decision:ApprovalDecision}(hI:Growing I):
 (contract env).Keeps I (approve run id decision):=by
 unfold approve
 split
 ·exact triple_return hI
 refine triple_lookup (regular env) (fun rec _ w=>rec.id=nodeJobID run id∧Held rec w.store) hI.stable
  (fun rec=>stable_and (fun _ _ _ _ _ h=>h) (growing_held rec).stable) ?_ (triple_return hI) (fun rec=>?_)
 ·intro n w rec hi _ hrec
  refine ⟨get_id hrec,rec,(get_id hrec).symm▸hrec,.refl rec,?_⟩
  rcases hi.1 _ rec hrec with ⟨hg,_⟩ | ⟨hn,_⟩
  ·exact absurd ((hi.1.simple_iff hrec).2 hg) (nodeJobID_not_simple run id)
  ·exact hn
 refine triple_known (P:=rec.id=nodeJobID run id) (fun _ _ _ h=>h.2.1) fun hid=>?_
 simp only
 by_cases hawait:rec.status≠.awaiting
 ·rw[if_pos hawait]
  exact triple_drop (triple_return hI) fun _ _ h=>h.1
 rw[if_neg hawait,←hid]
 have hJ:Growing (fun n w=>I n w∧Held rec w.store):=hI.and (growing_held rec)
 refine triple_mono (I:=fun n w=>I n w∧Held rec (World.store w)) (Q:=fun _=>I) ?_
  (fun _ _ _ h=>⟨h.1,h.2.2⟩) (fun _ _ _ _ h=>h)
 refine triple_completion rec hJ rfl (.inl rfl) (fun _ _ _ h=>h.2)
  (fun n w _ h=>sanctioned_complete_held rfl rfl rfl h.2)
  (triple_drop (triple_return hI) fun _ _ h=>h.1) (fun _=>?_)
 refine triple_mono (I:=fun n w=>I n w∧Held rec (World.store w)) (Q:=fun _=>I) ?_ (fun _ _ _ h=>h.1) fun _ _ _ _ h=>h
 refine triple_withGraph (regular env) hJ.stable (triple_drop (triple_return hI) fun _ _ h=>h.1) fun g=>?_
 -- the run has a record, so its id holds no colon and the node id splits in one way
 refine triple_known (P:=rec.graphRunID=run) (fun n w hi h=>?_) fun hrun=>?_
 ·obtain ⟨hkept,hsimple⟩:=h.1.2.kept hi.1
  exact ((nodeJobID_eq_iff hsimple (hi.1.runOf_simple h.2)).1 (hkept.symm.trans hid)).1
 refine triple_mono (I:=InRun I run g) (Q:=fun _=>InRun I run g) ?_
  (fun _ _ _ h=>⟨h.1.1,h.2⟩) (fun _ _ _ _ h=>h.1)
 have hK:Growing (InRun I run g):=hI.inRun
 refine triple_bind (triple_advance hK (fun _ _ _ h=>h.2) (fun _ _ _ _ h=>by cases h)) (fun _=>?_)
 exact triple_then (regular env) (quiet_runHasParkedApproval run id) hK.stable fun
  | true=>triple_return hK
  | false=>triple_setRunParked hK

section Cancel

variable (hI:Growing I)
include hI

variable {reason:String}{p:Principal}

lemma triple_cancelListed{parent}(runs):
 (contract env).Keeps I (cancelListed p parent reason runs):=by
 induction runs with
 | nil=>exact triple_return hI
 | cons r rest ih=>
  unfold cancelListed
  split_ifs
  ·exact ih
  ·exact triple_bind (triple_function hI fun _ _ _ _=>trivial) fun _=>ih
lemma triple_cancelChildRuns{tenant workspace child parent}(statuses):
 (contract env).Keeps I (cancelChildRuns tenant workspace child parent reason statuses):=by
 induction statuses with
 | nil=>exact triple_return hI
 | cons st rest ih=>
  exact triple_bind (triple_store_any hI fun _ _ _ _=>.of_idle rfl rfl) fun
   | .error e=>ih
   | .ok runs=>triple_bind (triple_cancelListed hI runs) (fun _=>ih)
lemma triple_cancelSweep{rec err}(nodes):
 (contract env).Keeps I (cancelSweep rec err reason nodes):=by
 induction nodes with
 | nil=>exact triple_return hI
 | cons node rest ih=>
  refine triple_then (regular env) (quiet_getRecord _) hI.stable fun
   | none=>ih
   | some nrec=>?_
  simp only
  split
  ·exact ih
  refine triple_bind (triple_store_any hI fun _ _ _ _=>.of_complete rfl rfl rfl nofun)
   fun _=>?_
  split
  ·exact triple_bind (triple_cancelChildRuns hI _) fun _=>ih
  ·exact ih
lemma triple_cancelAuthorized{rec code}:
 (contract env).Keeps I (cancelAuthorized rec g code reason):=by
 refine triple_bind (triple_open hI fun _ _=>trivial) fun _=>?_
 refine triple_bind (triple_store_any hI fun _ _ _ _=>.of_complete rfl rfl rfl nofun)
  fun r=>?_
 cases r with
 | error e=>exact triple_return hI
 | ok _=>
  refine triple_bind (triple_cancelSweep hI g.nodes) fun _=>?_
  split
  ·exact triple_bind (triple_function hI fun _ _ _ _=>trivial) fun _=>triple_return hI
  ·exact triple_return hI
lemma triple_cancelGraphRun{code}:
 (contract env).Keeps I (cancelGraphRun p run code reason):=by
 refine triple_then (regular env) (quiet_getRecord run) hI.stable fun
  | none=>triple_return hI
  | some rec=>?_
 simp only
 by_cases hk:rec.kind≠.graph
 ·rw[if_pos hk]
  exact triple_return hI
 by_cases ht:requireTenant p rec.tenant=false
 ·rw[if_neg hk,if_pos ht]
  exact triple_return hI
 by_cases hover:rec.terminal
 ·rw[if_neg hk,if_neg ht,if_pos hover]
  exact triple_return hI
 rw[if_neg hk,if_neg ht,if_neg hover]
 exact triple_then (regular env) (quiet_authorizeGraphRun p _) hI.stable fun
  | true=>triple_cancelAuthorized hI
  | false=>triple_return hI
lemma triple_resumeGraphRun{step:Bool}:
 (contract env).Keeps I (resumeGraphRun p run step):=by
 refine triple_lookup (regular env) (fun rec _ w=>rec.kind=.graph→
  RunOf w.store run (rec.graphPayload.getD zeroGraph)) hI.stable ?_ ?_ (triple_return hI) (fun rec=>?_)
 ·exact fun rec n s t hr hi h hk=>stable_runOf (regular env) run _ n s t hr hi (h hk)
 ·intro n w rec hi _ hrec hk
  obtain ⟨g,hp,_⟩:=(hi.1.graph hrec hk).payload
  exact ⟨rec,hrec,hk,by rw[hp]; rfl⟩
 simp only
 by_cases hno:rec.kind≠.graph∨requireTenant p rec.tenant=false∨rec.terminal
 ·rw[if_pos hno]
  exact triple_drop (triple_return hI) fun _ _ h=>h.1
 rw[if_neg hno]
 have hk:rec.kind=.graph:=by
  by_contra hk
  exact hno (.inl hk)
 generalize rec.graphPayload.getD zeroGraph=g
 have hJ:Growing (fun n w=>I n w∧RunOf w.store run g):=hI.and (growing_run run g)
 refine triple_mono (I:=fun n w=>I n w∧RunOf (World.store w) run g) (Q:=fun _=>I) ?_
  (fun _ _ _ h=>⟨h.1,h.2 hk⟩) (fun _ _ _ _ h=>h)
 refine triple_then (regular env) (quiet_authorizeGraphRun p g) hJ.stable fun
  | false=>triple_drop (triple_return hI) (fun _ _ h=>h.1)
  | true=>?_
 refine triple_mono (Q:=fun _ n w=>I n w∧RunOf (World.store w) run g)
  (triple_bind (triple_open hJ fun _ _=>trivial) fun paused=>?_) (fun _ _ _ h=>h) (fun _ _ _ _ h=>h.1)
 split_ifs
 ·exact triple_return hJ
 ·exact triple_bind (triple_open hJ fun _ _=>trivial) fun _=>triple_resumeFrom hJ (fun _ _ _ h=>h.2) paused

end Cancel

lemma verified(env):(contract env).Verified:=by
 intro f n w hi hpre
 have hle:Growing (fun n' _=>n.Le n'):=growing_le n
 cases f with
 | dispatchReady g run id ix=>
  refine wp_mono (fun _ _ _ _ _ h=>h.1) (triple_dispatchLoop (I:=InRun (fun n' _=>n.Le n') run g)
   hle.inRun (fun _ _ _ h=>h.2) (g.outgoing id) ?_ 0 ix n w hi ⟨.refl n,hpre⟩)
  exact fun t ht=>outgoing_mem hi.1 hpre ht
 | maybeResumeParent child failed err=>exact triple_maybeResumeParent hle n w hi (.refl n)
 | cancelGraphRun p run code reason=>exact triple_cancelGraphRun hle n w hi (.refl n)
lemma entry_safe(e:Entry)(w)(hw:(contract env).inv w):
 (contract env).wp (e.prog env) (fun _ _ _=>True) {} w:=by
 have hI:Growing (fun _ _=>True):=fun _ _ _ _ _ _ _ h=>h
 suffices h:(contract env).Keeps (fun _ _=>True) (e.prog env) from h {} w hw trivial
 cases e with
 | worker id=>exact triple_workerTurn hI
 | renew id jobID=>
  exact triple_bind (triple_store_any hI fun _ _ _ _=>.of_idle rfl rfl) fun _=>triple_return hI
 | submit p g opts=>exact triple_bind (triple_submitGraphOpts hI) (fun _=>triple_return hI)
 | approve run id decision=>exact triple_approve hI
 | cancel p run code reason=>
  exact triple_bind (triple_function hI fun _ _ _ _=>trivial) fun _=>triple_return hI
 | promote tenant=>
  exact triple_then (regular env) (quiet_query trivial) hI.stable fun _=>triple_promoteLoop _ hI
 | reap=>exact triple_bind (triple_reapStuckGraphRuns hI) (fun _=>triple_return hI)
 | resume p run step=>exact triple_resumeGraphRun hI
lemma holds{ok:Rules (daemon env)}{w}
 (hlaw:∀ P i o e c k log,ok P (.step i o)→P.procs[i]? = some ⟨e,.call c k,log⟩→Lawful c o)
 (hw:WellKept w.store∧Sound w.store):
 (contract env).Holds (fun _ _=>True) ok {state:=w} where
 verified:=verified env
 init:=⟨hw,nofun⟩
 fresh _ h:=by cases h
 legal P i o e c k log _ ha hp:=hlaw P i o e c k log ha hp
 start P e _ _ hi:=entry_safe e P.state hi

end Dazyflow.DaemonContract
