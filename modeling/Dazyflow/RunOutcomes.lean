import Dazyflow.OperationSpecs

/-!
# What a run's outcome says about its steps

A run is recorded as succeeded only when all its steps are done.
-/
namespace Dazyflow.RunOutcomes
open FlowGraph JobRecords MemoryStore StoreOperations StoreRuns EdgeClassification LoopBodies List Bool
open Daemon RunRecords DaemonContract Interleaving

def idleDaemon(env:Env):Pool (daemon env):={state:={} }

instance (id:String):Decidable (SimpleID id):=inferInstanceAs (Decidable (':' ∉ id.toList))

instance (c:Call)(o:Oracle):Decidable (Lawful c o):=
 match c with
 | .ask .newID=>inferInstanceAs (Decidable (_∧_))
 | .ask (.runNode ..) | .ask (.leaseLost ..) | .ask (.nextAttempt _) | .ask .clock | .ask (.permitted ..)
 | .ask (.refusal _) | .ask (.concurrencyLimit _) | .ask (.reserveRun _) | .ask (.childGraph ..)
 | .ask (.chargeSubtree _) | .ask (.lookupFails ..)=>inferInstanceAs (Decidable True)
 | .store .. | .pause _ | .charge .. =>inferInstanceAs (Decidable True)

abbrev anyRun(env:Env):Rules (daemon env):=
 Allowed (fun _ _=>True) (fun _ _ c o=>Lawful c o)

/-- A step that is to fail for a refused child has not ended yet, or its run is over. -/
def refusalLands(m:Memory):Call→Bool
 | .store .submitChildFailed (.complete id .failed _)=>
  (m.get id).all (fun r=>!r.terminal||runOver m r.graphRunID)
 | _=>true

abbrev settledRun(env:Env):Rules (daemon env):=
 Allowed (fun _ _=>True) (fun P _ c o=>Lawful c o∧refusalLands P.state.store c)

def finalisedFailed{env}(run:String)(e:Event (daemon env)):Bool:=
 match e.call with
 | .store .finalize (.complete id .failed _)=>
  id==run&&!runOver e.before.store run&&runOver e.after.store run
 | _=>false

variable {env:Env}{P:Pool (daemon env)}

lemma empty_kept:WellKept ({}:Memory)∧Sound ({}:Memory):=
 ⟨fun _ _ h=>(by cases h),fun _ _ _ h=>(by cases h)⟩
lemma anyRun_holds(env):(contract env).Holds (fun _ _=>True) (anyRun env) (idleDaemon env):=
 holds (fun _ _ _ _ _ _ _ ha hp=>Allowed.call ha hp) empty_kept
lemma settledRun_holds(env):(contract env).Holds (fun _ _=>True) (settledRun env) (idleDaemon env):=
 holds (fun _ _ _ _ _ _ _ ha hp=>(Allowed.call ha hp).1) empty_kept
lemma not_slips{m site op res now}
 {tie}(hres:(apply now tie m op).1=res)(h:refusalLands m (.store site op)):
 slips m site op res=false:=by
 cases site<;>try rfl
 cases op<;>try rfl
 case submitChildFailed.complete id status result=>
  cases res with
  | ok v=>cases status<;>rfl
  | error e=>?_
  cases status<;>try rfl
  simp only[slips,nodeRun]
  cases hr:m.get id with
  | none=>rfl
  | some r=>?_
  simp only[refusalLands,hr,Option.all_some,or_eq_true,not_eq_true'] at h
  have hover:runOver m r.graphRunID:=by
   rcases (completion_error rfl hres hr (.inl rfl)).2 with hw | ht | ha
   ·exact absurd rfl hw.1
   ·exact h.resolve_left (by simp[ht])
   ·cases ha.1
  simp[hover]
lemma settled_not_slipped(h:Reach (settledRun env) (idleDaemon env) P):
 ∀ p∈P.procs,∀ newer older,p.log=newer++older→
  ((contract env).noteOf p.entry older).slipped=false:=by
 intro p hp newer older
 induction older generalizing newer with
 | nil=>exact fun _=>rfl
 | cons e older ih=>
  intro hlog
  have hold:=ih (newer++[e]) (by simp[hlog])
  obtain ⟨Q,i,o,hmade⟩:=h.made nofun p hp newer e older hlog
  obtain ⟨before,c,res,after⟩:=e
  change (Note.after env _ _).slipped=false
  cases c with
  | store site op=>
   obtain ⟨k,hproc⟩:=hmade.proc
   have hland:=(Allowed.call hmade.allowed hproc).2
   rw[hmade.before] at hland
   have hres:(apply o.now o.tie before.store op).1=res:=congrArg Prod.fst hmade.effect
   change (_||_)=false
   rw[not_slips hres hland,Bool.or_false]
   exact hold
  | pause op=>cases op<;>exact hold
  | charge worker run bytes | ask q=>exact hold

variable {e:Event (daemon env)}

lemma finalised_before{run:String}{o:Oracle}
 (heff:stepWorld env e.call o e.before=(e.res,e.after))(h:finalisedFailed run e):
 ∃ result r,e.call=.store .finalize (.complete run .failed result)∧
  e.before.store.get run=some r∧runOver e.before.store run=false:=by
 obtain ⟨before,c,res,after⟩:=e
 unfold finalisedFailed at h
 split at h
 case h_2=>cases h
 case h_1 id result hc=>
  simp only at hc
  subst hc
  simp only[and_eq_true,beq_iff_eq,not_eq_true'] at h
  obtain ⟨⟨rfl,hb⟩,ha⟩:=h
  cases hr:before.store.get id with
  | some r=>exact ⟨result,r,rfl,rfl,hb⟩
  | none=>?_
  -- without a record the call is refused and nothing ends
  have hstore:(apply o.now o.tie before.store (.complete id .failed result)).2=after.store:=
   congrArg (fun x=>World.store x.2) heff
  have hsame:(apply o.now o.tie before.store (.complete id .failed result)).2=before.store:=by
   simp only[apply,Memory.completeLocked,hr]
  rw[hsame] at hstore
  rw[←hstore,hb] at ha
  cases ha
lemma finalised_failed_step(h:Reach (settledRun env) (idleDaemon env) P){p:Proc (daemon env)}
 (hp:p∈P.procs)(he:e∈p.log){run:String}
 (hf:finalisedFailed run e){g:Graph}(hg:RunOf P.state.store run g):
 FailedStep P.state.store g run:=by
 have hholds:=settledRun_holds env
 obtain ⟨newer,older,hlog⟩:=append_of_mem he
 obtain ⟨Q,i,o,hmade⟩:=h.made nofun p hp newer e older hlog
 obtain ⟨hguar,hinv,_⟩:=hholds.guar_of_made hmade
 obtain ⟨result,r,hcall,hr,hover⟩:=finalised_before hmade.effect hf
 have hslip:=settled_not_slipped h p hp (newer++[e]) older (by simp[hlog])
 have hlater:Flows e.before.store P.state.store:=
  ((hholds.rely_of_made hmade).1).trans (hholds.since h p hp e he)
 -- the flow of the run is the one its record has now
 have hk:r.kind=.graph:=
  (hinv.1.simple_iff hr).1 ((hholds.supported h).inv.1.runOf_simple hg)
 obtain ⟨g',hpay,_⟩:=(hinv.1.graph hr hk).payload
 have hrun:RunOf e.before.store run g':=⟨r,hr,hk,hpay⟩
 obtain rfl:=runOf_unique (hrun.later hlater.toEvolves) hg
 rw[hcall] at hguar
 rcases hguar.finalizes rfl run result rfl g' hrun with hfail | hfail | hfail
 ·exact hfail.later hlater.toEvolves
 ·rw[hover] at hfail
  cases hfail
 ·rw[hslip] at hfail
  cases hfail

/-- In every interleaving a run recorded as succeeded has all its steps done; and
 where every refusal of a child lands, a run that the dispatcher finalised as
 failed has a step whose failure ends it. -/
theorem run_outcome_sound(env:Env)(P:Pool (daemon env)):
 (Reach (anyRun env) (idleDaemon env) P→
  ∀ run g r,P.state.store.get run=some r → r.kind=.graph → r.graphPayload=some g→
   r.status=.succeeded→∀ id∈g.nodeIDs,bodyOwned g id=false→
    ∃ s,P.state.store.get (nodeJobID run id)=some s∧s.terminal∧
     ¬(s.status=.failed∧failurePropagates g id))∧
 (Reach (settledRun env) (idleDaemon env) P→
  ∀ p∈P.procs,∀ e∈p.log,∀ run,finalisedFailed run e→
   ∀ g,RunOf P.state.store run g→
    ∃ id∈g.nodeIDs,∃ s,P.state.store.get (nodeJobID run id)=some s∧s.status=.failed∧
     failurePropagates g id):=by
 constructor
 ·intro h run g r hr hk hp hs
  exact ((anyRun_holds env).supported h).inv.2 run g r hr hk hp hs
 ·intro h p hp e he run hf g hg
  exact finalised_failed_step h hp he hf hg

def subflow:Graph:=
 {id:="g",tenant:="t",workspace:="w",nodes:=[{id:="a",module:="sub" }],edges:=[]}

def subflowEnv:Env:={bareEnv with resolve:=fun _ _=>some {submitsChildGraph:=true} }

/-- The step parks for the flow `c`, which cannot be loaded. -/
def parksForChild:(q:Query)→q.Answer
 | .runNode .. =>
  .returned {status:=.awaiting,output:=[("pending_child_graph_id",textRef "c")]} false
 | q=>bareAnswer q

def owner:Principal:={subject:="u",tenant:="t",runner:=true}

def steps{env}(i n:Nat)(answer:(q:Query)→q.Answer):List (Action (daemon env)):=
 replicate n (.step i {now:=1,answer:=answer})

def parkedSubflow(n:Nat):List (Action (daemon subflowEnv)):=
 [.start (.submit owner subflow {})]++steps 0 6 bareAnswer++[.start (.worker "w1")] ++
  steps 1 n parksForChild

def endedAsFailed(P:Pool (daemon subflowEnv)):Bool:=
 P.procs.any (fun p=>p.log.any (finalisedFailed "run")) &&
  (P.state.store.get "run").any (fun r=>r.kind==.graph&&r.graphPayload==some subflow)

lemma endedAsFailed_spec{P}(h:endedAsFailed P):
 (∃ p∈P.procs,∃ e∈p.log,finalisedFailed "run" e)∧RunOf P.state.store "run" subflow:=by
 simp only[endedAsFailed,and_eq_true,any_eq_true,Option.any_eq_true,beq_iff_eq] at h
 obtain ⟨⟨p,hp,e,he,hf⟩,r,hr,hk,hpay⟩:=h
 exact ⟨⟨p,hp,e,he,hf⟩,r,hr,hk,hpay⟩

/-- The step is approved after its child was refused and before that is recorded:
 the run ends as failed although its only step succeeded. -/
theorem approved_step_fails_run:
 ∃ P,Reach (anyRun subflowEnv) (idleDaemon subflowEnv) P∧
  (∃ p∈P.procs,∃ e∈p.log,finalisedFailed "run" e)∧RunOf P.state.store "run" subflow∧
  ∀ id∈subflow.nodeIDs,∀ s,P.state.store.get (nodeJobID "run" id)=some s → s.status=.succeeded:=by
 obtain ⟨P,hr,hc⟩:=reach_of_check (anyRun subflowEnv) (idleDaemon subflowEnv)
  (parkedSubflow 13++[.start (.approve "run" "a" {decision:="approve" })] ++
   steps 2 2 bareAnswer++steps 1 4 parksForChild)
  (fun P=>endedAsFailed P&&subflow.nodeIDs.all
   (fun id=>(P.state.store.get (nodeJobID "run" id)).all fun s=>s.status==.succeeded))
  (by decide +kernel)
 simp only[Bool.and_eq_true,all_eq_true] at hc
 obtain ⟨hev,hrun⟩:=endedAsFailed_spec hc.1
 refine ⟨P,hr,hev,hrun,fun id hid s hs=>?_⟩
 simpa[hs] using hc.2 id hid

theorem refused_step_fails_run:
 ∃ P,Reach (settledRun subflowEnv) (idleDaemon subflowEnv) P∧
  (∃ p∈P.procs,∃ e∈p.log,finalisedFailed "run" e)∧
  ∃ id∈subflow.nodeIDs,∃ s,P.state.store.get (nodeJobID "run" id)=some s∧s.status=.failed∧
   failurePropagates subflow id:=by
 obtain ⟨P,hr,hc⟩:=reach_of_check (settledRun subflowEnv) (idleDaemon subflowEnv)
  (parkedSubflow 17) endedAsFailed (by decide +kernel)
 obtain ⟨⟨p,hp,e,he,hf⟩,hrun⟩:=endedAsFailed_spec hc
 exact ⟨P,hr,⟨p,hp,e,he,hf⟩,
  (run_outcome_sound subflowEnv P).2 hr p hp e he "run" hf subflow hrun⟩

/-- In every interleaving the records fit together: a step's record belongs to a step of its run's flow and to
the run's tenant and workspace. From any state on, none is lost, moved to another job or rewritten after it ended,
no run goes back to the queue, and only a further attempt hands a step to another worker. -/
theorem records_kept(env:Env)(P P':Pool (daemon env))(h:Reach (anyRun env) (idleDaemon env) P)
 (h':Reach (anyRun env) P P'):WellKept P.state.store∧Flows P.state.store P'.state.store:=by
 have hholds:=anyRun_holds env
 refine ⟨(hholds.supported h).inv.1,?_⟩
 induction h' with
 | init=>exact .refl _
 | step hreach ha he ih=>exact ih.trans (hholds.step_rely (h.trans hreach) ha he)

theorem parked_records_kept:
 ∃ P P',Reach (anyRun subflowEnv) (idleDaemon subflowEnv) P∧Reach (anyRun subflowEnv) P P'∧
  P.state.store.get "run:a"≠P'.state.store.get "run:a"∧WellKept P.state.store∧
  Flows P.state.store P'.state.store:=by
 obtain ⟨P,hr,hc⟩:=reach_of_check (anyRun subflowEnv) (idleDaemon subflowEnv) (parkedSubflow 13)
  (fun P=>(P.follow (anyRun subflowEnv) (steps 1 4 parksForChild)).any fun (P':Pool (daemon subflowEnv))=>
   decide (P.state.store.get "run:a"≠P'.state.store.get "run:a")) (by decide +kernel)
 obtain ⟨P',hP',hne⟩:=(Option.any_eq_true _ _).1 hc
 have hr':=reach_of_follow (anyRun subflowEnv) .init hP'
 exact ⟨P,P',hr,hr',of_decide_eq_true hne,records_kept subflowEnv P P' hr hr'⟩

end Dazyflow.RunOutcomes
