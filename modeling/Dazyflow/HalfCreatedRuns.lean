import Dazyflow.ProgramRuns
import Dazyflow.QuietPrograms
import Dazyflow.SeededRuns

/-!
# Half-created runs

The submissions of `seed.go` and `subgraph.go` while inserts of node records fail and the caller's context is
cancelled.
-/
namespace Dazyflow.HalfCreatedRuns
open FlowGraph JobRecords MemoryStore StoreOperations Daemon SeededRuns List
open Interleaving (Machine Runs Ends)

/-- Which of the calls on the store fail, by their number: for a cancelled context, and for
 an insert of node records whose context is alive. -/
structure Faults where
 (cancelled refused:Nat→Option StoreError)

/-- A call on the store and how it went. -/
structure StoreCall where
 op:StoreOp
 /-- the flow of the run whose step it inserts -/
 flow:Option Graph
 (cancelled failed:Bool)

structure Faulty where
 world:World
 /-- the calls made so far, the last one first -/
 calls:List StoreCall:=[]

abbrev untouched(w:World):Faulty:={world:=w}

def nodeInsert:StoreOp→Bool
 | .enqueue rec=>rec.kind==.node
 | .enqueueNodes _=>true
 | _=>false

def Faults.fault(F:Faults)(n:Nat)(op:StoreOp):Option StoreError:=
 (F.cancelled n).or (if nodeInsert op then F.refused n else none)

def initialStep(g:Graph)(rec:JobRecord):Bool:=
 rec.status==.succeeded||!g.edges.any (fun e=>e.target==rec.nodeID)

def completes:StoreOp→Bool
 | .complete .. =>true
 | _=>false

/-- The seed or root that the call inserts. -/
def StoreCall.start(c:StoreCall):List String:=
 match c.op with
 | .enqueue rec=>if rec.kind=.node∧c.flow.any (fun g=>initialStep g rec) then [rec.nodeID] else []
 | _=>[]

def ended(calls:List StoreCall):Bool:=calls.any (fun c=>completes c.op)

/-- The seeds and roots whose insert failed before anything was completed. -/
def refused:List StoreCall→List String
 | []=>[]
 | c::earlier=>if c.failed∧ended earlier=false then c.start++refused earlier else refused earlier

/-- The last call found its context cancelled. -/
def cut(calls:List StoreCall):Bool:=calls.head?.any StoreCall.cancelled

namespace Faulty

def flow(s:Faulty):StoreOp→Option Graph
 | .enqueue rec=>(s.world.store.get rec.graphRunID).bind JobRecord.graphPayload
 | _=>none

def note(s:Faulty)(F:Faults)(op:StoreOp)(failed:Bool)(w:World):Faulty where
 world:=w
 calls:=⟨op,s.flow op,(F.cancelled s.calls.length).isSome,failed⟩::s.calls

end Faulty

def stepFaulty(env:Env)(F:Faults):(c:Call)→Oracle→Faulty→c.Res×Faulty
 | .store site op,o,s=>
  match F.fault s.calls.length op with
  | some e=>(.error e,s.note F op true s.world)
  | none=>
   let r:=stepWorld env (.store site op) o s.world
   (r.1,s.note F op (!r.1.isOk) r.2)
 | .pause op,o,s=>
  let r:=stepWorld env (.pause op) o s.world
  (r.1,{s with world:=r.2})
 | .charge worker runID bytes,o,s=>
  let r:=stepWorld env (.charge worker runID bytes) o s.world
  (r.1,{s with world:=r.2})
 | .ask q,o,s=>(o.answer q,s)

@[reducible] def faulty(env:Env)(F:Faults):Machine sig where
 State:=Faulty
 Oracle:=Oracle
 step:=stepFaulty env F
 body:=Fn.body env
 Entry:=Entry
 entry:=Entry.prog env

section Calls

variable {env:Env}{F:Faults}{s t:Faulty}

lemma store_cases(env F site op o s):
 (∃ e,F.fault s.calls.length op=some e∧stepFaulty env F (.store site op) o s=(.error e,s.note F op true s.world))∨
 F.fault s.calls.length op=none∧stepFaulty env F (.store site op) o s =
  ((apply o.now o.tie s.world.store op).1,
   s.note F op (!(apply o.now o.tie s.world.store op).1.isOk) {s.world with store:=(apply o.now o.tie s.world.store op).2}):=by
 cases h:F.fault s.calls.length op with
 | some e=>exact .inl ⟨e,rfl,by simp[stepFaulty,h]⟩
 | none=>exact .inr ⟨rfl,by simp[stepFaulty,h,stepWorld]⟩
lemma ends_store{site op}{Q:Except StoreError op.Val→Faulty→Prop}
 (hfail:∀ e,F.fault s.calls.length op=some e→Q (.error e) (s.note F op true s.world))
 (hdone:∀ (o:Oracle) w,F.fault s.calls.length op=none→w.store=(apply o.now o.tie s.world.store op).2→
  Q (apply o.now o.tie s.world.store op).1 (s.note F op (!(apply o.now o.tie s.world.store op).1.isOk) w)):
 Ends (faulty env F) (storeAt site op) s Q:=by
 refine Ends.call fun o=>Ends.done ?_
 change Q (stepFaulty env F (.store site op) o s).1 (stepFaulty env F (.store site op) o s).2
 rcases store_cases env F site op o s with ⟨e,hf,he⟩ | ⟨hf,he⟩
 ·rw[he]
  exact hfail e hf
 ·rw[he]
  exact hdone o _ hf rfl

structure Alike(s t:Faulty):Prop where
 store:t.world.store=s.world.store
 ended:ended t.calls=ended s.calls
 refused:refused t.calls=refused s.calls

lemma Alike.refl(s):Alike s s:=⟨rfl,rfl,rfl⟩
lemma Alike.trans{u}(h:Alike s t)(h':Alike t u):Alike s u:=
 ⟨h'.store.trans h.store,h'.ended.trans h.ended,h'.refused.trans h.refused⟩
lemma note_reads{op}(h:reads op)(s:Faulty)(failed:Bool){w}(hw:w.store=s.world.store):
 Alike s (s.note F op failed w):=by
 refine ⟨hw,?_,?_⟩
 ·cases op<;>first | rfl | cases h
 ·cases op<;>first | exact ite_self _ | cases h
lemma alike_quiet{c}(hc:Quiet c)(o)(h:Alike s t):Alike s (stepFaulty env F c o t).2:=by
 have hone:Alike t (stepFaulty env F c o t).2:=by
  cases c with
  | store site op=>
   rcases store_cases env F site op o t with ⟨e,_,he⟩ | ⟨_,he⟩
   ·rw[he]
    exact note_reads hc.1 t true rfl
   ·rw[he]
    exact note_reads hc.1 t _ (apply_reads hc.1)
  | pause op=>exact ⟨rfl,rfl,rfl⟩
  | charge worker run bytes=>exact absurd hc id
  | ask q=>exact .refl t
 exact h.trans hone
lemma ends_quiet{α:Type}{p:Prog α}(hp:p.Only Quiet)(s):
 Ends (faulty env F) p s (fun _ t=>Alike s t):=
 Ends.only (fun _ o _ hc h=>alike_quiet hc o h) hp (.refl s)
lemma refused_of_ended{l:List String}{α:Type}{p:Prog α}{a:α}(h:Runs (faulty env F) p s a t)
 (hs:ended s.calls∧refused s.calls=l):ended t.calls∧refused t.calls=l:=by
 refine h.inv (I:=fun s:Faulty=>ended s.calls∧refused s.calls=l) (fun c o (s:Faulty) hs=>?_) hs
 have hnote:∀ op failed w,ended (s.note F op failed w).calls∧refused (s.note F op failed w).calls=l:=by
  intro op failed w
  exact ⟨(congrArg (completes op||·) hs.1).trans (Bool.or_true _),by simp[Faulty.note,refused,hs.1,hs.2]⟩
 cases c with
 | store site op=>
  rcases store_cases env F site op o s with ⟨e,_,he⟩ | ⟨_,he⟩
  ·exact (congrArg Prod.snd he)▸hnote op true _
  ·exact (congrArg Prod.snd he)▸hnote op _ _
 | pause op | charge worker run bytes | ask q=>exact hs

end Calls

section Populate

variable {env:Env}{F:Faults}{g:Graph}{run:String}{rec:JobRecord}{s t:Faulty}

/-- The run's record is as it was inserted, and nothing has been completed. -/
structure Populating(run:String)(rec:JobRecord)(s:Faulty):Prop where
 stored:s.world.store.get run=some rec
 ended:ended s.calls=false

lemma Populating.alike(h:Populating run rec s)(ha:Alike s t):Populating run rec t:=
 ⟨by rw[ha.store]; exact h.stored,by rw[ha.ended]; exact h.ended⟩
lemma Populating.note(h:Populating run rec s){op failed w}(hop:completes op=false)
 (hw:w.store.get run=some rec):Populating run rec (s.note F op failed w):=
 ⟨hw,(congrArg (·||_) hop).trans h.ended⟩
lemma Populating.get_enqueueNodes(h:Populating run rec s)(o:Oracle)(recs:List JobRecord):
 (apply o.now o.tie s.world.store (.enqueueNodes recs)).2.get run=some rec:=by
 cases hres:(apply o.now o.tie s.world.store (.enqueueNodes recs)).1 with
 | ok n=>exact (adds_enqueueNodes hres).keeps h.stored
 | error e=>
  rw[StoreRuns.apply_error_unchanged hres]
  exact h.stored

variable (hg:rec.graphPayload=some g)
include hg

lemma ends_enqueueStep{site}(step:JobRecord)(hstep:step.kind=.node∧step.graphRunID=run)(hs:Populating run rec s):
 Ends (faulty env F) (storeAt site (.enqueue step)) s (fun r t=>Populating run rec t∧
  refused t.calls=if r.isOk=false∧initialStep g step then step.nodeID::refused s.calls else refused s.calls):=by
 have hnote:∀ failed w,refused (s.note F (.enqueue step) failed w).calls =
  if failed∧initialStep g step then step.nodeID::refused s.calls else refused s.calls:=by
  intro failed w
  have hflow:s.flow (.enqueue step)=some g:=by simp[Faulty.flow,hstep.2,hs.stored,hg]
  cases failed<;>simp[Faulty.note,refused,StoreCall.start,hflow,hstep.1,hs.ended]
  split_ifs<;>rfl
 refine ends_store (fun e _=>⟨hs.note rfl hs.stored,?_⟩) fun o w _ hw=>⟨hs.note rfl ?_,?_⟩
 ·exact (hnote true _).trans (by simp[Except.isOk,Except.toBool])
 ·rw[hw]
  exact (adds_enqueueLocked o.now s.world.store step).keeps hs.stored
 ·exact (hnote _ _).trans (by simp)

structure Fills(run:String)(rec:JobRecord)(s:Faulty)(errs:List String)(t:Faulty):Prop where
 populating:Populating run rec t
 refused:refused t.calls=errs.reverse++refused s.calls

omit hg in
lemma Fills.nil(hs:Populating run rec s):Fills run rec s [] s:=⟨hs,rfl⟩

omit hg in
lemma Fills.append{errs errs' u}(h:Fills run rec s errs t)(h':Fills run rec t errs' u):
 Fills run rec s (errs++errs') u:=
 ⟨h'.populating,by rw[h'.refused,h.refused,reverse_append,append_assoc]⟩
lemma ends_persistSeedsOnly(seeds)(hs:Populating run rec s):
 Ends (faulty env F) (persistSeedsOnly g run seeds) s (fun errs t=>Fills run rec s errs t):=by
 induction seeds generalizing s with
 | nil=>exact Ends.done (.nil hs)
 | cons seed rest ih=>
  obtain ⟨nodeID,result⟩:=seed
  refine Ends.bind (ends_enqueueStep hg (seedRecord g run nodeID result) ⟨rfl,rfl⟩ hs) ?_
  rintro r t ⟨ht,href⟩
  cases r with
  | ok u=>
   have hone:Fills run rec s [] t:=⟨ht,by simpa[Except.isOk,Except.toBool] using href⟩
   exact (ih ht).mono fun errs t' h=>hone.append h
  | error e=>
   have hone:Fills run rec s [nodeID] t:=
    ⟨ht,by simpa[Except.isOk,Except.toBool,initialStep,seedRecord,dependentRecord] using href⟩
   exact Ends.bind (ih ht) fun errs t' h=>Ends.done (hone.append h)

omit hg in
lemma ends_tryEnqueueNodes{site}(recs:List JobRecord)(hs:Populating run rec s):
 Ends (faulty env F) (tryEnqueueNodes site recs) s (fun _ t=>Fills run rec s [] t):=by
 have hbatch:Ends (faulty env F) (storeAt site (.enqueueNodes recs)) s (fun _ t=>Fills run rec s [] t):=by
  refine ends_store (fun e _=>⟨hs.note rfl hs.stored,?_⟩) fun o w _ hw=>⟨hs.note rfl ?_,?_⟩
  ·exact ite_self _
  ·rw[hw]
   exact hs.get_enqueueNodes o recs
  ·exact ite_self _
 unfold tryEnqueueNodes
 split
 ·split_ifs with hb
  ·refine Ends.bind hbatch fun res t h=>?_
   cases res<;>exact Ends.done h
  ·exact Ends.done (.nil hs)
 ·exact Ends.done (.nil hs)

def StepsOf(g:Graph)(run:String)(initial:Bool)(recs:List JobRecord):Prop:=
 ∀ step∈recs,step.kind=.node∧step.graphRunID=run∧initialStep g step=initial

lemma ends_enqueueEach{site initial}(recs)(hrecs:StepsOf g run initial recs)(queued)
 (failed)(hs:Populating run rec s):
 Ends (faulty env F) (enqueueEach site recs queued failed) s (fun r t=>∃ l,r.2=failed++l∧
  Fills run rec s (if initial then l else []) t):=by
 induction recs generalizing s queued failed with
 | nil=>exact Ends.done ⟨[],by simp,by simpa using Fills.nil hs⟩
 | cons step rest ih=>
  have hrest:StepsOf g run initial rest:=fun x hx=>hrecs x (mem_cons_of_mem _ hx)
  obtain ⟨hkind,hrun,hinit⟩:=hrecs step mem_cons_self
  refine Ends.bind (ends_enqueueStep hg _ ⟨hkind,hrun⟩ hs) ?_
  rintro r t ⟨ht,href⟩
  cases r with
  | ok u=>
   have hone:Fills run rec s [] t:=⟨ht,by simpa[Except.isOk,Except.toBool] using href⟩
   refine (ih hrest (queued+1) failed ht).mono ?_
   rintro r t' ⟨l,hl,hfill⟩
   exact ⟨l,hl,hone.append hfill⟩
  | error e=>
   have hone:Fills run rec s (if initial then [step.nodeID] else []) t:=by
    refine ⟨ht,?_⟩
    cases initial<;>simpa[Except.isOk,Except.toBool,hinit] using href
   refine (ih hrest queued (failed++[step.nodeID]) ht).mono ?_
   rintro r t' ⟨l,hl,hfill⟩
   refine ⟨step.nodeID::l,by simpa using hl,?_⟩
   have hboth:=hone.append hfill
   cases initial<;>simpa using hboth

omit hg in
lemma target_of_outgoing{id nodeID}(h:nodeID∈g.outgoing id):g.edges.any (fun e=>e.target==nodeID):=by
 simp only[Graph.outgoing,mem_eraseDups,mem_map,mem_filter] at h
 obtain ⟨e,⟨he,_⟩,rfl⟩:=h
 exact any_eq_true.2 ⟨e,he,by simp⟩

omit hg in
lemma Fills.alike(hs:Populating run rec s)(h:Alike s t):Fills run rec s [] t:=⟨hs.alike h,h.refused⟩
lemma ends_enqueueReadyDependents(id)(hs:Populating run rec s):
 Ends (faulty env F) (enqueueReadyDependents g run id) s (fun _ t=>Fills run rec s [] t):=by
 have hready:(readyDependents g run (g.outgoing id) []).Yields (StepsOf g run false):=
  readyDependents_all _ [] (fun id h=>⟨rfl,rfl,by simp[initialStep,dependentRecord,target_of_outgoing h]⟩) (by simp)
 refine Ends.bind ((ends_quiet (only_readyDependents (fun _=>quiet_getRecord _) g _ []) s).and (Ends.yields (M:=faulty env F) hready s)) ?_
 rintro ready t ⟨halike,hsteps⟩
 have ht:=Fills.alike hs halike
 refine Ends.bind (ends_tryEnqueueNodes ready ht.populating) fun r t' ht'=>?_
 cases r with
 | some n=>exact Ends.done (ht.append ht')
 | none=>
  refine Ends.bind (ends_enqueueEach hg ready hsteps 0 [] ht'.populating) ?_
  rintro r u ⟨l,_,hu⟩
  exact Ends.done ((ht.append ht').append hu)
lemma ends_fanOutSeeds(ids queued)(hs:Populating run rec s):
 Ends (faulty env F) (fanOutSeeds g run ids queued) s (fun _ t=>Fills run rec s [] t):=by
 induction ids generalizing s queued with
 | nil=>exact Ends.done (.nil hs)
 | cons id rest ih=>
  refine Ends.bind (ends_enqueueReadyDependents hg id hs) fun n t ht=>?_
  exact (ih (queued+n) ht.populating).mono fun _ u hu=>ht.append hu
lemma ends_dispatchRoots(seeded)(hs:Populating run rec s):
 Ends (faulty env F) (dispatchRoots g run seeded) s (fun r t=>Fills run rec s r.2 t):=by
 have hroots:StepsOf g run true ((roots g seeded).map fun n=>dependentRecord g run n.id):=by
  intro step hstep
  obtain ⟨n,hn,rfl⟩:=mem_map.1 hstep
  have hno:=(mem_filter.1 hn).2
  simp only[Bool.and_eq_true,Bool.not_eq_true'] at hno
  exact ⟨rfl,rfl,by simp[initialStep,dependentRecord,hno.1]⟩
 refine Ends.bind (ends_tryEnqueueNodes _ hs) fun r t ht=>?_
 cases r with
 | some n=>
  exact Ends.bind (ends_fanOutSeeds hg seeded n ht.populating) fun queued u hu=>Ends.done (ht.append hu)
 | none=>
  refine Ends.bind (ends_enqueueEach hg _ hroots 0 [] ht.populating) ?_
  rintro ⟨n,errs⟩ u ⟨l,hl,hu⟩
  cases hl
  refine Ends.bind (ends_fanOutSeeds hg seeded n hu.populating) fun queued v hv=>Ends.done ?_
  simpa using (ht.append hu).append hv
lemma ends_populateSeededRun(seeds)(hs:Populating run rec s):
 Ends (faulty env F) (populateSeededRun g run seeds) s (fun r t=>Fills run rec s r.2 t):=by
 refine Ends.bind (ends_persistSeedsOnly hg seeds hs) fun errs t ht=>?_
 refine Ends.bind (ends_dispatchRoots hg _ ht.populating) ?_
 rintro ⟨queued,errs'⟩ u hu
 exact Ends.done (ht.append hu)

end Populate

section Submit

variable {env:Env}{F:Faults}{g:Graph}{run:String}{rec:JobRecord}{s t:Faulty}{w:World}

def Created(w:World)(t:Faulty)(run:String):Prop:=
 w.store.get run=none∧(t.world.store.get run).isSome

def Over(t:Faulty)(run:String):Prop:=∀ rec,t.world.store.get run=some rec → rec.terminal

lemma ends_complete{site status result}(hs:Populating run rec s)
 (hrec:rec.terminal=false)(hstatus:isTerminalStatus status):
 Ends (faulty env F) (storeAt site (.complete run status result)) s (fun _ t=>
  refused t.calls=refused s.calls∧(t.world.store.get run).isSome∧(Over t run↔cut t.calls=false)):=by
 refine ends_store (fun e he=>?_) fun o w hf hw=>?_
 · -- the only call of its kind that fails is one on a cancelled context
  have hcut:(F.cancelled s.calls.length).isSome:=by
   cases hc:F.cancelled s.calls.length with
   | some e=>rfl
   | none=>simp[Faults.fault,hc,nodeInsert] at he
  refine ⟨ite_self _,by simp[Faulty.note,hs.stored],?_⟩
  simp only[Over,Faulty.note,cut,head?_cons,Option.any_some,hs.stored,Option.some.injEq,forall_eq',hrec,hcut]
  simp
 ·have hcut:(F.cancelled s.calls.length).isSome=false:=by
   cases hc:F.cancelled s.calls.length with
   | some e=>simp[Faults.fault,hc] at hf
   | none=>rfl
  have hget:w.store.get run=some (Memory.completed o.now status result rec):=by
   have hok:s.world.store.completeLocked o.now run "" status result =
    (.ok (),s.world.store.update run (Memory.completed o.now status result) (Memory.completed_id o.now status result)):=by
    have hrec':isTerminalStatus rec.status=false:=hrec
    have hne:status≠.awaiting:=by
     rintro rfl
     cases hstatus
    simp[Memory.completeLocked,hs.stored,hstatus,hrec',hne]
   rw[hw]
   change (s.world.store.completeLocked o.now run "" status result).2.get run=_
   rw[hok]
   exact get_update_self hs.stored
  refine ⟨ite_self _,by simp[Faulty.note,hget],?_⟩
  simp only[Over,Faulty.note,cut,head?_cons,Option.any_some,hget,Option.some.injEq,forall_eq',hcut,iff_true]
  exact hstatus

/-- What a submission comes to: where its run was created and it returns an error, the run is
 over unless the clean-up found the context cancelled. -/
def Verdict(w:World)(r:Submitted)(t:Faulty):Prop:=
 (r.error.isSome→Created w t r.runID→Over t r.runID)↔(refused t.calls=[]∨cut t.calls=false)

lemma verdict_of_ok{r}(hr:r.error=none)(ht:refused t.calls=[]):Verdict w r t:=by
 simp[Verdict,hr,ht]
lemma unborn{run}(hr:t.world.store=w.store):¬Created w t run:=by
 intro hc
 rw[Created,hr] at hc
 simp[hc.1] at hc
lemma verdict_of_unborn{r}(hr:t.world.store=w.store)(ht:refused t.calls=[]):Verdict w r t:=
 ⟨fun _=>.inl ht,fun _ _ hc=>absurd hc (unborn hr)⟩
lemma ends_succeedRun(hs:Populating run rec s)(hrec:rec.terminal=false)(href:refused s.calls=[]):
 Ends (faulty env F) (succeedRun run) s (fun _ t=>refused t.calls=[]):=
 Ends.bind (ends_complete hs hrec rfl) (fun _ _ h=>Ends.done (h.1.trans href))
lemma ends_failRun(hs:Populating run rec s)(hrec:rec.terminal=false)(hw:w.store.get run=none)
 (href:refused s.calls≠[])(code message text):
 Ends (faulty env F) (do
  failRun run code message
  pure ({runID:=run,error:=some text}:Submitted)) s (Verdict w):=by
 refine Ends.bind (Q:=fun _ (t:Faulty)=>refused t.calls≠[]∧(t.world.store.get run).isSome∧(Over t run↔cut t.calls=false)) ?_ ?_
 ·exact Ends.bind (ends_complete hs hrec rfl) fun _ _ h=>Ends.done ⟨h.1▸href,h.2⟩
 ·rintro u t ⟨hne,hsome,hover⟩
  refine Ends.done ⟨fun h=>.inr (hover.1 (h rfl ⟨hw,hsome⟩)),fun h _ _=>hover.2 (h.resolve_left hne)⟩
lemma ends_startSubmitted(hg:rec.graphPayload=some g)(hs:Populating run rec s)(hrec:rec.terminal=false)
 (hw:w.store.get run=none)(href:refused s.calls=[])(seeds):
 Ends (faulty env F) (startSubmitted g run seeds) s (Verdict w):=by
 unfold startSubmitted
 split_ifs with hnodes
 ·exact Ends.bind (ends_succeedRun hs hrec href) fun _ t ht=>Ends.done (verdict_of_ok rfl ht)
 refine Ends.bind (ends_populateSeededRun hg seeds hs) ?_
 rintro ⟨queued,errs⟩ t ht
 by_cases herrs:errs=[]
 ·subst herrs
  have hnone:refused t.calls=[]:=by rw[ht.refused,href]; rfl
  dsimp only
  rw[if_neg fun h=>h rfl]
  split_ifs with hq
  ·refine Ends.bind (ends_quiet (quiet_accountedFor g run g.nodes) t) fun done u hu=>?_
   cases done with
   | false=>exact Ends.done (verdict_of_ok rfl (hu.refused.trans hnone))
   | true=>
    exact Ends.bind (ends_succeedRun (ht.populating.alike hu) hrec (hu.refused.trans hnone))
     fun _ v hv=>Ends.done (verdict_of_ok rfl hv)
  ·exact Ends.done (verdict_of_ok rfl hnone)
 ·dsimp only
  rw[if_pos herrs]
  refine ends_failRun ht.populating hrec hw ?_ _ _ _
  rw[ht.refused]
  simp[herrs]
lemma ends_insertRun{site}(hk:rec.kind=.graph)(hrec:rec.terminal=false∧rec.status≠.unset)(hs:Alike (untouched w) s):
 Ends (faulty env F) (storeAt site (.enqueue rec)) s (fun r t=>refused t.calls=[]∧
  match r with
  | .error _=>t.world.store=w.store
  | .ok _=>w.store.get rec.id=none∧∃ rec',Populating rec.id rec' t∧rec'.graphPayload=rec.graphPayload∧
   rec'.terminal=false):=by
 have hrefused:∀ failed w',refused (s.note F (.enqueue rec) failed w').calls=[]:=by
  intro failed w'
  simpa[Faulty.note,refused,StoreCall.start,hk] using hs.refused
 refine ends_store (fun e _=>⟨hrefused _ _,hs.store⟩) fun o w' _ hw=>⟨hrefused _ _,?_⟩
 rcases enqueueLocked_cases o.now s.world.store rec with ⟨_,_,he⟩ | ⟨hn,hok,hget⟩
 ·have he':apply o.now o.tie s.world.store (.enqueue rec)=(.error .conflict,s.world.store):=he
  rw[he'] at hw ⊢
  exact hw.trans hs.store
 ·have hok':(apply o.now o.tie s.world.store (.enqueue rec)).1=.ok ():=hok
  rw[hok']
  refine ⟨hs.store▸hn,Memory.stamp o.now rec,⟨?_,hs.ended⟩,rfl,?_⟩
  ·change w'.store.get rec.id=_
   rw[hw]
   exact (hget rec.id).trans (if_pos rfl)
  ·have hst:(Memory.stamp o.now rec).status=rec.status:=by simp[Memory.stamp,hrec.2]
   rw[JobRecord.terminal,hst]
   exact hrec.1

lemma verdict_of_alike{r}(h:Alike (untouched w) t):Verdict w r t:=verdict_of_unborn h.store h.refused
lemma ends_reserved(g opts run admitted)(hs:Alike (untouched w) s):
 Ends (faulty env F) (submitReserved g opts run admitted) s (Verdict w):=by
 refine Ends.bind (ends_quiet (quiet_query (q:=.reserveRun g.tenant) trivial) s) fun reserved t₁ h₁=>?_
 cases reserved with
 | false=>exact Ends.done (verdict_of_alike (hs.trans h₁))
 | true=>?_
 have hrec:(submittedRecord g run admitted opts).terminal=false∧(submittedRecord g run admitted opts).status≠.unset:=by
  cases admitted<;>exact ⟨rfl,nofun⟩
 refine Ends.bind (ends_insertRun rfl hrec (hs.trans h₁)) ?_
 rintro r t₂ ⟨hnone,hins⟩
 cases r with
 | error e=>exact Ends.done (verdict_of_unborn hins hnone)
 | ok u=>?_
 obtain ⟨hw,rec',hpop,hpay,hterm⟩:=hins
 cases admitted with
 | true=>exact ends_startSubmitted hpay hpop hterm hw hnone opts.seeds
 | false=>?_
 refine Ends.bind (ends_persistSeedsOnly hpay opts.seeds hpop) fun errs t₃ h₃=>?_
 by_cases herrs:errs=[]
 ·subst herrs
  rw[if_neg fun h=>h rfl]
  exact Ends.done (verdict_of_ok rfl (by rw[h₃.refused,hnone]; rfl))
 ·rw[if_pos herrs]
  refine ends_failRun h₃.populating hterm hw ?_ _ _ _
  rw[h₃.refused]
  simp[herrs]
lemma ends_submitGraphOpts(p g opts w):
 Ends (faulty env F) (submitGraphOpts p g opts) (untouched w) (Verdict w):=by
 refine Ends.bind (ends_quiet (quiet_refuseGraph p g opts.seeds) _) fun refusal t ht=>?_
 cases refusal with
 | some msg=>exact Ends.done (verdict_of_alike ht)
 | none=>?_
 by_cases hdepth:maxTriggerChainDepth ≤ opts.triggerDepth
 ·dsimp only
  rw[if_pos hdepth]
  exact Ends.done (verdict_of_alike ht)
 ·dsimp only
  rw[if_neg hdepth]
  refine Ends.bind (ends_quiet (quiet_query (q:=.newID) trivial) t) fun run t₁ h₁=>?_
  split
  ·exact ends_reserved g opts run true (ht.trans h₁)
  ·refine Ends.bind (ends_quiet (quiet_admitGraphRun g.tenant) t₁) fun admitted t₂ h₂=>?_
   exact ends_reserved g opts run admitted ((ht.trans h₁).trans h₂)

end Submit

section Child

variable {env:Env}{F:Faults}{g:Graph}{run:String}{rec parent:JobRecord}{s t:Faulty}{w:World}

def Executable(m:Memory)(rec:JobRecord):Prop:=
 rec.kind=.node∧(rec.status=.queued∨rec.status=.running)∧
  ∀ run,m.get rec.graphRunID=some run → run.terminal=false

/-- Once the error has become a failed parent node, no step of the child can be executed. -/
def Stopped(env:Env)(F:Faults)(parent:JobRecord)(r:Submitted)(t:Faulty):Prop:=
 ∀ message u,r.error=some message→Runs (faulty env F) (childRefused parent message) t () u→
  (∃ node,u.world.store.get parent.id=some node∧node.status=.failed)→
  ∀ id rec,u.world.store.get id=some rec → rec.graphRunID=r.runID→¬Executable u.world.store rec

def ChildVerdict(env:Env)(F:Faults)(parent:JobRecord)(w:World)(r:Submitted)(t:Faulty):Prop:=
 (r.error.isSome→Created w t r.runID→Over t r.runID∧Stopped env F parent r t)↔refused t.calls=[]

lemma childVerdict_of_ok{r}(hr:r.error=none)(ht:refused t.calls=[]):ChildVerdict env F parent w r t:=by
 simp[ChildVerdict,hr,ht]
lemma childVerdict_of_unborn{r}(hr:t.world.store=w.store)(ht:refused t.calls=[]):
 ChildVerdict env F parent w r t:=⟨fun _=>ht,fun _ _ hc=>absurd hc (unborn hr)⟩
lemma childVerdict_of_alike{r}(h:Alike (untouched w) t):ChildVerdict env F parent w r t:=
 childVerdict_of_unborn h.store h.refused
lemma childVerdict_of_error{r}(hr:r.runID=run)(herr:r.error.isSome)(hw:w.store.get run=none)
 (ht:Populating run rec t)(hrec:rec.terminal=false)(href:refused t.calls≠[]):ChildVerdict env F parent w r t:=by
 subst hr
 refine ⟨fun h=>?_,fun h=>absurd h href⟩
 have hover:=(h herr ⟨hw,by rw[ht.stored]; rfl⟩).1 rec ht.stored
 rw[hrec] at hover
 cases hover
lemma ends_finalizeGraph(status result failed err s):
 Ends (faulty env F) (finalizeGraph run status result failed err) s (fun _ t=>refused t.calls=refused s.calls):=by
 refine Ends.bind (Q:=fun _ (t:Faulty)=>ended t.calls∧refused t.calls=refused s.calls) ?_ ?_
 ·refine ends_store (fun e _=>?_) fun o w _ _=>?_<;>exact ⟨rfl,ite_self _⟩
 · -- whatever the resumed parents do comes after the end of this run
  intro r t ht a u hr
  exact (refused_of_ended hr ht).2
lemma ends_maybeCompleteGraph(s):
 Ends (faulty env F) (maybeCompleteGraph g run "" .succeeded none) s (fun _ t=>refused t.calls=refused s.calls):=by
 unfold maybeCompleteGraph
 rw[if_neg fun h=>by cases h.1]
 refine Ends.bind (ends_quiet (quiet_storeAt rfl) s) fun r t ht=>?_
 cases r with
 | error e=>exact Ends.done ht.refused
 | ok recs=>
  dsimp only
  cases runVerdict g recs g.nodes with
  | unfinished=>exact Ends.done ht.refused
  | failed nodeID cause | complete=>exact (ends_finalizeGraph _ _ _ _ t).mono (fun _ u hu=>hu.trans ht.refused)
lemma ends_submitGraphWithParent(p g seeds triggerDepth)
 (hs:Alike (untouched w) s):
 Ends (faulty env F) (submitGraphWithParent p g seeds parent.id triggerDepth) s (ChildVerdict env F parent w):=by
 refine Ends.bind (ends_quiet (quiet_refuseGraph p g seeds) s) fun refusal t₁ h₁=>?_
 cases refusal with
 | some msg=>exact Ends.done (childVerdict_of_alike (hs.trans h₁))
 | none=>?_
 refine Ends.bind (ends_quiet (quiet_query (q:=.newID) trivial) t₁) fun run t₂ h₂=>?_
 refine Ends.bind (ends_insertRun rfl ⟨rfl,nofun⟩ ((hs.trans h₁).trans h₂)) ?_
 rintro r t₃ ⟨hnone,hins⟩
 cases r with
 | error e=>exact Ends.done (childVerdict_of_unborn hins hnone)
 | ok u=>?_
 obtain ⟨hw,rec',hpop,hpay,hterm⟩:=hins
 refine Ends.bind (ends_populateSeededRun hpay seeds hpop) ?_
 rintro ⟨queued,errs⟩ t₄ h₄
 dsimp only
 by_cases herrs:errs=[]
 ·subst herrs
  have href:refused t₄.calls=[]:=by rw[h₄.refused,hnone]; rfl
  rw[if_neg fun h=>h rfl]
  split_ifs with hq
  ·refine Ends.bind (ends_quiet (quiet_accountedFor g run g.nodes) t₄) fun done t₅ h₅=>?_
   cases done with
   | false=>exact Ends.done (childVerdict_of_ok rfl (h₅.refused.trans href))
   | true=>
    refine Ends.bind (ends_maybeCompleteGraph t₅) fun _ t₆ h₆=>Ends.done ?_
    exact childVerdict_of_ok rfl ((h₆.trans h₅.refused).trans href)
  ·exact Ends.done (childVerdict_of_ok rfl href)
 ·rw[if_pos herrs]
  refine Ends.done (childVerdict_of_error rfl rfl hw h₄.populating hterm ?_)
  rw[h₄.refused]
  simp[herrs]
lemma ends_submitChild(parent graphID seeds w):
 Ends (faulty env F) (submitChild parent graphID seeds) (untouched w) (ChildVerdict env F parent w):=by
 refine Ends.bind (ends_quiet (quiet_childCheck parent.graphRunID) _) fun parentRun t₁ h₁=>?_
 split_ifs with hover
 ·exact Ends.done (childVerdict_of_alike h₁)
 refine Ends.bind (ends_quiet (quiet_query (q:=.childGraph parent.tenant parent.workspace graphID) trivial) t₁)
  fun loaded t₂ h₂=>?_
 cases loaded with
 | error msg=>exact Ends.done (childVerdict_of_alike (h₁.trans h₂))
 | ok loaded=>?_
 refine Ends.bind (ends_quiet (quiet_lineage _ _ _ _) t₂) ?_
 rintro ⟨depth,root⟩ t₃ h₃
 have h₁₃:=(h₁.trans h₂).trans h₃
 dsimp only
 split_ifs with hdepth
 ·exact Ends.done (childVerdict_of_alike h₁₃)
 refine Ends.bind (ends_quiet (quiet_query (q:=.chargeSubtree root) trivial) t₃) fun charged t₄ h₄=>?_
 cases charged with
 | false=>exact Ends.done (childVerdict_of_alike (h₁₃.trans h₄))
 | true=>
  refine Ends.bind (ends_quiet (quiet_runTriggerDepth parent.graphRunID) t₄) fun depth t₅ h₅=>?_
  exact ends_submitGraphWithParent _ _ seeds depth ((h₁₃.trans h₄).trans h₅)

end Child

/-- A half-created run is terminal. `SubmitGraphOpts` keeps this as long as its last call does
 not find the context cancelled after a seed or a root was refused; `SubmitChild` keeps it,
 with a child that can no longer run, only if none was refused. -/
theorem half_created_run_over(env:Env)(F:Faults):
 (∀ p g opts w r t,Runs (faulty env F) (submitGraphOpts p g opts) (untouched w) r t→
  ((r.error.isSome→Created w t r.runID→Over t r.runID)↔(refused t.calls=[]∨cut t.calls=false)))∧
 ∀ parent graphID seeds w r t,Runs (faulty env F) (submitChild parent graphID seeds) (untouched w) r t→
  ((r.error.isSome→Created w t r.runID→Over t r.runID∧Stopped env F parent r t)↔refused t.calls=[]):=
 ⟨fun p g opts w r t h=>ends_submitGraphOpts p g opts w r t h,
  fun parent graphID seeds w r t h=>ends_submitChild parent graphID seeds w r t h⟩

def pair:Graph:=
 {id:="pair",tenant:="t",workspace:="w",nodes:=[{id:="a",module:="m" },{id:="b",module:="m" }],edges:=[]}

def failing(inserts:List Nat)(cancelled:Option Nat):Faults where
 cancelled n:=if cancelled.any (· ≤ n) then some .conflict else none
 refused n:=if n∈inserts then some .conflict else none

/-- The run's record is inserted by call 0, the two steps by calls 1, 2 and 3. -/
def submitPair(F:Faults):Submitted×Faulty:=
 ((submitGraphOpts {subject:="ann",tenant:="t",runner:=true} pair {}).execute (faulty bareEnv F) bareOracle 50
  (untouched {})).getD ({},untouched {})

lemma submitPair_runs{F}(h:((submitGraphOpts {subject:="ann",tenant:="t",runner:=true} pair {}).execute
 (faulty bareEnv F) bareOracle 50 (untouched {})).isSome):
 Runs (faulty bareEnv F) (submitGraphOpts {subject:="ann",tenant:="t",runner:=true} pair {}) (untouched {})
  (submitPair F).1 (submitPair F).2:=
 Interleaving.runs_executed h

/-- Refused inserts with a live context. -/
theorem refused_pair_over:(submitPair (failing [1,3] none)).1.error.isSome∧
 Over (submitPair (failing [1,3] none)).2 "run":=by
 have h:=((half_created_run_over bareEnv (failing [1,3] none)).1 _ pair {} {} _ _
  (submitPair_runs (by decide +kernel))).2 (.inr (by decide +kernel))
 have herr:(submitPair (failing [1,3] none)).1.error.isSome:=by decide +kernel
 have hrun:(submitPair (failing [1,3] none)).1.runID="run":=by decide +kernel
 refine ⟨herr,?_⟩
 rw[←hrun]
 exact h herr ⟨rfl,by decide +kernel⟩

lemma not_over{t run}(h:(t.world.store.get run).any fun rec=>!rec.terminal):¬Over t run:=by
 intro hover
 obtain ⟨rec,hrec,hno⟩:=(Option.any_eq_true _ _).1 h
 simp[hover rec hrec] at hno

def parkedNode:JobRecord:=
 {id:="p:sub",kind:=.node,graphRunID:="p",graphID:="g",nodeID:="sub",tenant:="t",workspace:="w",status:=.awaiting}

def parkedWorld:World where
 store:=(((({}:Memory).enqueueLocked 0 (graphRecord {pair with id:="g",nodes:=[{id:="sub",module:="m" }]} "p" .running)).2).enqueueLocked
  0 parkedNode).2

def childOracle:Oracle where
 answer
  | .childGraph .. =>.ok pair
  | q=>bareAnswer q

/-- The child's record is inserted by call 3, the two steps by calls 4, 5 and 6; the second
 of them fails. -/
def submitPairChild:Submitted×Faulty:=
 ((submitChild parkedNode "pair" []).execute (faulty bareEnv (failing [4,6] none)) childOracle 50 (untouched parkedWorld)).getD
  ({},untouched {})

def failedParent:Unit×Faulty:=
 ((childRefused parkedNode (submitPairChild.1.error.getD "")).execute (faulty bareEnv (failing [4,6] none)) childOracle 50
  submitPairChild.2).getD ((),untouched {})

lemma pairChild_not_stopped:¬Stopped bareEnv (failing [4,6] none) parkedNode submitPairChild.1 submitPairChild.2:=by
 intro hstop
 have hnode:∃ node,failedParent.2.world.store.get parkedNode.id=some node∧node.status=.failed:=by
  have h:(failedParent.2.world.store.get parkedNode.id).any (fun node=>node.status=.failed):=by decide +kernel
  simpa using (Option.any_eq_true _ _).1 h
 have hleft:(failedParent.2.world.store.get "run:a").any (fun rec=>rec.kind=.node∧rec.status=.queued∧
  rec.graphRunID=submitPairChild.1.runID∧(failedParent.2.world.store.get rec.graphRunID).all fun run=>!run.terminal) =
  true:=by decide +kernel
 obtain ⟨rec,hrec,hleft⟩:=(Option.any_eq_true _ _).1 hleft
 obtain ⟨hkind,hstatus,hrun,hall⟩:=of_decide_eq_true hleft
 refine hstop "enqueue child roots: b" failedParent.2 (by decide +kernel) (Interleaving.runs_executed (by decide +kernel)) hnode "run:a"
  rec hrec hrun ⟨hkind,.inl hstatus,fun run hrun=>?_⟩
 simpa[hrun] using hall

/-- A context that is cancelled after the insert of the run's record leaves the run running;
 a refused step of a child leaves the child running below a failed parent node. -/
theorem half_created_runs_left:
 (Runs (faulty bareEnv (failing [] (some 1))) (submitGraphOpts {subject:="ann",tenant:="t",runner:=true} pair {})
   (untouched {}) (submitPair (failing [] (some 1))).1 (submitPair (failing [] (some 1))).2∧
  (submitPair (failing [] (some 1))).1={runID:="run",error:=some "enqueue roots" }∧
  Created {} (submitPair (failing [] (some 1))).2 "run"∧¬Over (submitPair (failing [] (some 1))).2 "run")∧
 (Runs (faulty bareEnv (failing [4,6] none)) (submitChild parkedNode "pair" []) (untouched parkedWorld) submitPairChild.1
   submitPairChild.2∧
  submitPairChild.1={runID:="run",error:=some "enqueue child roots: b" }∧
  Created parkedWorld submitPairChild.2 "run"∧¬Over submitPairChild.2 "run"∧
  ¬Stopped bareEnv (failing [4,6] none) parkedNode submitPairChild.1 submitPairChild.2):=
 ⟨⟨submitPair_runs (by decide +kernel),by decide +kernel,⟨rfl,by decide +kernel⟩,not_over (by decide +kernel)⟩,
  Interleaving.runs_executed (by decide +kernel),by decide +kernel,⟨by decide +kernel,by decide +kernel⟩,
  not_over (by decide +kernel),pairChild_not_stopped⟩

end Dazyflow.HalfCreatedRuns
