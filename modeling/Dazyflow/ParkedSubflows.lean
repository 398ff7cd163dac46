import Dazyflow.PopulatingPrograms
import Dazyflow.RunOutcomes

/-!
# The children of parked sub-flow steps

A sub-flow step is parked first and its child run inserted afterwards, and a child run is finished first and
its parent resumed afterwards.
-/
namespace Dazyflow.ParkedSubflows
open FlowGraph JobRecords MemoryStore StoreOperations StoreRuns EdgeClassification
open Daemon RunRecords DaemonContract ReadSpecs Interleaving Interleaving.Contract
open JobRecord (terminal)

variable {env:Env}

structure Note where
 /-- the step it has parked, until its child run is in or the step has failed -/
 parked:Option String:=none
 /-- the parent step of the run it has ended, until that step is seen to be over -/
 owed:Option String:=none

def parentLink(r:JobRecord):Option String:=
 if r.parentNodeRecID="" then none else some r.parentNodeRecID

def stillAwaits:Except StoreError JobRecord→Bool
 | .ok r=>r.status==.awaiting
 | .error _=>false

def Note.store(n:Note)(m:Memory):Site→(op:StoreOp)→Except StoreError op.Val→Note
 | _,.completeOwned id _ .awaiting _,.ok _=>{n with parked:=some id}
 | .childInsert,.enqueue _,.ok _=>{n with parked:=none}
 | .submitChildFailed,.complete ..,_=>{n with parked:=none}
 | .finalize,.complete run _ _,.ok _=>{n with owed:=(m.get run).bind parentLink}
 | _,.complete id _ _,_=>if n.owed=some id then {n with owed:=none} else n
 | .resumeCheck,.get id,res=>if n.owed=some id∧stillAwaits res=false then {n with owed:=none} else n
 | _,_,_=>n

def Note.after(n:Note):Event (daemon env)→Note
 | ⟨w,.store site op,res,_⟩=>n.store w.store site op res
 | _=>n

structure Orderly(n:Note)(m:Memory)(site:Site)(op:StoreOp):Prop where
 keeps:∀ tenant,op≠.deleteByTenant tenant
 adds:∀ rec∈op.additions,rec.status≠.awaiting
 parks:∀ id worker result,op.completion=some (id,worker,.awaiting,result)→
  op=.completeOwned id worker .awaiting result∧n.parked=none
 /-- a child run is ended in `finalizeGraph` only -/
 ends:∀ id worker status result r,op.completion=some (id,worker,status,result)→
  m.get id=some r → r.kind=.graph → r.parentNodeRecID≠""→
   site=.finalize∧op=.complete id status result
 closes:site=.finalize → n.owed=none
 settles:∀ id status result,op=.complete id status result→isTerminalStatus status
 inserts:site=.childInsert→∀ rec,op=.enqueue rec→
  n.parked=some rec.parentNodeRecID∧rec.kind=.graph∧rec.status=.running
 fails:site=.submitChildFailed→∀ id status result,op=.complete id status result→
  n.parked=none∨n.parked=some id

def Alive(m:Memory)(id:String):Prop:=
 ∃ c r,m.get c=some r∧r.kind=.graph∧r.parentNodeRecID=id∧r.terminal=false

/-- A step that waits without a child is in the hands of an operation. -/
def Covered(m:Memory)(ns:List Note):Prop:=
 ∀ id r,m.get id=some r → r.kind=.node → r.status=.awaiting→
  Alive m id∨∃ n∈ns,n.parked=some id∨n.owed=some id

section Step

variable {n:Note}{m:Memory}{site:Site}{op:StoreOp}{now:Time}{tie:Nat}{id:String}

lemma Orderly.awaits(h:Orderly n m site op){r'}(hr':(apply now tie m op).2.get id=some r')
 (hk:r'.kind=.node)(hs:r'.status=.awaiting):
 m.get id=some r'∨
  ∃ worker result,op=.completeOwned id worker .awaiting result∧(apply now tie m op).1.isOk:=by
 rcases apply_get_cases now tie m op h.keeps id with he | ⟨_,rec,hrec,_,hget⟩ | ⟨r,r₁,hr,hget,ht⟩
 ·exact .inl (he.symm.trans hr')
 ·rw[hget,Option.some.injEq] at hr'
  rw[←hr'] at hs
  simp only[Memory.stamp] at hs
  split_ifs at hs
  exact absurd hs (h.adds rec hrec)
 ·rw[hget,Option.some.injEq] at hr'
  subst hr'
  obtain rfl:=get_id hr
  cases ht with
  | claim _ _ | requeue _ _ _ | unpark _ hg _ | start _ hg _=>cases hs
  | renew _ _ hrun=>
   rw[Memory.renewed,hrun] at hs
   cases hs
  | complete hop hw hst hterm hna=>
   rw[Memory.completed_status] at hs
   subst hs
   obtain ⟨rfl,_⟩:=h.parks _ _ _ hop
   refine .inr ⟨_,_,rfl,?_⟩
   cases hres:(apply now tie m (.completeOwned r.id _ .awaiting _)).1 with
   | ok v=>rfl
   | error e=>
    -- a refused completion would have left the record as it was
    rw[apply_error_unchanged hres,hr,Option.some.injEq] at hget
    have hs:=congrArg JobRecord.status hget
    rw[Memory.completed_status] at hs
    exact absurd ⟨rfl,hs⟩ hna
  | park _ hg _=>exact absurd (hg.symm.trans hk) (by decide)
lemma Orderly.alive(h:Orderly n m site op)(hid:id≠"")(ha:Alive m id):
 Alive (apply now tie m op).2 id∨(n.store m site op (apply now tie m op).1).owed=some id:=by
 obtain ⟨c,r,hr,hk,hpar,hlive⟩:=ha
 rcases apply_get_cases now tie m op h.keeps c with he | ⟨hnone,_⟩ | ⟨r₀,r',hr₀,hget,ht⟩
 ·exact .inl ⟨c,r,he.trans hr,hk,hpar,hlive⟩
 ·rw[hr] at hnone
  cases hnone
 ·rw[hr,Option.some.injEq] at hr₀
  subst hr₀
  obtain rfl:=get_id hr
  have hj:=ht.same_job
  have hstill:r'.terminal=false→Alive (apply now tie m op).2 id:=
   fun hl=>⟨r.id,r',hget,hj.kind.trans hk,hj.parentNodeRecID.trans hpar,hl⟩
  cases ht with
  | claim _ _ | requeue _ _ _ | park _ _ _ | unpark _ _ _ | start _ _ _=>exact .inl (hstill rfl)
  | renew _ _ hrun=>exact .inl (hstill hlive)
  | complete hop _ hst _ _=>
   rcases hst with hterm | rfl
   ·obtain ⟨rfl,rfl⟩:=h.ends _ _ _ _ r hop hr hk (hpar▸hid)
    right
    cases hres:(apply now tie m (.complete r.id _ _)).1 with
    | ok v=>simp[Note.store,hr,parentLink,hpar,hid]
    | error e=>
     rw[apply_error_unchanged hres,hr,Option.some.injEq] at hget
     have hs:=congrArg terminal hget
     rw[hlive,terminal,Memory.completed_status,hterm] at hs
     cases hs
   ·exact .inl (hstill rfl)
lemma complete_settles{status result r'}
 (hst:isTerminalStatus status)(hr':(apply now tie m (.complete id status result)).2.get id=some r'):
 r'.terminal:=by
 cases hres:(apply now tie m (.complete id status result)).1 with
 | ok v=>
  obtain ⟨r,_,_,_,_,hget⟩:=completion_ok rfl hres
  rw[hget,Option.some.injEq] at hr'
  rw[←hr',terminal,Memory.completed_status,hst]
 | error e=>
  rw[apply_error_unchanged hres] at hr'
  rcases (completion_error rfl hres hr' (.inl hst)).2 with ⟨hw,_⟩ | hterm | ⟨rfl,_⟩
  ·exact absurd rfl hw
  ·exact hterm
  ·cases hst
lemma awaiting_not_terminal{r:JobRecord}(h:r.status=.awaiting):r.terminal=false:=by
 simp[terminal,h,isTerminalStatus]
lemma Orderly.parked(h:Orderly n m site op){r':JobRecord}
 (hr':(apply now tie m op).2.get id=some r')(hs:r'.status=.awaiting)(hp:n.parked=some id):
 (n.store m site op (apply now tie m op).1).parked=some id∨Alive (apply now tie m op).2 id:=by
 unfold Note.store
 split
 ·next hres=>
  have hfree:=(h.parks _ _ _ rfl).2
  rw[hp] at hfree
  cases hfree
 ·next rec _ hres=>
  right
  obtain ⟨hpar,hk,hrun⟩:=h.inserts rfl rec rfl
  rw[hp,Option.some.injEq] at hpar
  refine ⟨rec.id,Memory.stamp now rec,(enqueue_ok hres).2,?_,hpar.symm,?_⟩
  ·simp[Memory.stamp,hk]
  ·simp[Memory.stamp,terminal,hrun,isTerminalStatus]
 ·next id' status result=>
  rcases h.fails rfl id' status result rfl with hn | hn
  ·rw[hp] at hn
   cases hn
  ·rw[hp,Option.some.injEq] at hn
   subst hn
   have hterm:=complete_settles (h.settles _ _ _ rfl) hr'
   rw[awaiting_not_terminal hs] at hterm
   cases hterm
 ·exact .inl hp
 ·split_ifs<;>exact .inl hp
 ·split_ifs<;>exact .inl hp
 ·exact .inl hp
lemma Orderly.owed(h:Orderly n m site op){r':JobRecord}
 (hr':(apply now tie m op).2.get id=some r')(hs:r'.status=.awaiting)(ho:n.owed=some id):
 (n.store m site op (apply now tie m op).1).owed=some id:=by
 unfold Note.store
 split
 ·exact ho
 ·exact ho
 ·exact ho
 ·rw[h.closes rfl] at ho
  cases ho
 ·next id' status result _ _=>
  split_ifs with he
  ·rw[ho,Option.some.injEq] at he
   subst he
   have hterm:=complete_settles (h.settles _ _ _ rfl) hr'
   rw[awaiting_not_terminal hs] at hterm
   cases hterm
  ·exact ho
 ·next id' _=>
  split_ifs with he
  ·obtain ⟨he,hread⟩:=he
   rw[ho,Option.some.injEq] at he
   subst he
   have hget:m.get id=some r':=hr'
   simp[apply,hget,stillAwaits,hs] at hread
  ·exact ho
 ·exact ho
lemma Covered.step{ns i}(hJ:Covered m ns)(hm:WellKept m)(hn:ns[i]? = some n)
 (h:Orderly n m site op):
 Covered (apply now tie m op).2 (ns.set i (n.store m site op (apply now tie m op).1)):=by
 have hmover:n.store m site op (apply now tie m op).1∈ns.set i (n.store m site op (apply now tie m op).1):=
  List.mem_set (List.getElem?_eq_some_iff.1 hn).1 _
 intro id r' hr' hk hs
 rcases h.awaits hr' hk hs with hr | ⟨worker,result,rfl,hok⟩
 ·have hid:id≠"":=by
   rintro rfl
   have hsimple:SimpleID (nodeJobID r'.graphRunID r'.nodeID):=by
    rw[←(hm.node hr hk).id,get_id hr]
    simp[SimpleID]
   exact nodeJobID_not_simple _ _ hsimple
  rcases hJ id r' hr hk hs with ha | ⟨n',hn',hhas⟩
  ·exact (h.alive hid ha).imp_right fun ho=>⟨_,hmover,.inr ho⟩
  obtain ⟨j,hj⟩:=List.mem_iff_getElem?.1 hn'
  by_cases hij:i=j
  ·subst hij
   rw[hn,Option.some.injEq] at hj
   subst hj
   rcases hhas with hp | ho
   ·rcases h.parked hr' hs hp with hp' | ha
    ·exact .inr ⟨_,hmover,.inl hp'⟩
    ·exact .inl ha
   ·exact .inr ⟨_,hmover,.inr (h.owed hr' hs ho)⟩
  ·have hmem:n'∈ns.set i (n.store m site op (apply now tie m op).1):=
    List.mem_iff_getElem?.2 ⟨j,by rw[List.getElem?_set_ne hij]; exact hj⟩
   exact .inr ⟨n',hmem,hhas⟩
 ·refine .inr ⟨_,hmover,.inl ?_⟩
  cases hres:(apply now tie m (.completeOwned id worker .awaiting result)).1 with
  | ok v=>rfl
  | error e=>simp[hres,Except.isOk,Except.toBool] at hok

end Step

/-- A step of a sub-flow module that parks names a child that can be submitted. -/
def launches(env:Env)(g:Graph)(rec:JobRecord)(result:Result):Bool:=
 match (g.node rec.nodeID).bind (fun node=>env.resolve rec.tenant node.module) with
 | none=>true
 | some manifest=>!manifest.submitsChildGraph||(env.subGraphRunner&&(pendingChild env result).isSome)

/-- No lookup of a module fails, and what a module parks on can be launched. -/
def untroubled(env:Env):Call→Oracle→Bool
 | .ask (.lookupFails tenant module),o=>!o.answer (.lookupFails tenant module)
 | .ask (.runNode g rec prior),o=>
  match o.answer (.runNode g rec prior) with
  | .returned result false=>result.status != .awaiting||launches env g rec result
  | _=>true
 | _,_=>true

def Owes(run:String)(n:Note)(w:World):Prop:=
 ∃ r,w.store.get run=some r∧n.owed=parentLink r

def Entering:Fn→Note→World→Prop
 | .dispatchReady ..,n,_=>n.owed=none
 | .maybeResumeParent child _ _,n,w=>Owes child n w
 | .cancelGraphRun ..,_,_=>False

def parking(env:Env):Rider (contract env) where
 Note:=Note
 blank _:={}
 note n e:=n.after e
 sure c o _:=untroubled env c o
 guar n c w:=match c with
  | .store site op=>Orderly n w.store site op
  | _=>True
 pre:=Entering
 post _ n _ _ n' _:=n'.parked=n.parked∧n'.owed=none

@[reducible] def K(env:Env):Contract (daemon env):=(parking env).contract

def markedSite:Site→Bool
 | .finalize | .childInsert | .submitChildFailed | .resumeCheck=>true
 | _=>false

def Harmless:Call→Prop
 | .store site op=>markedSite site=false∧op.completion=none∧(∀ tenant,op≠.deleteByTenant tenant)∧
  ∀ rec∈op.additions,rec.status≠.awaiting
 | _=>True

section Calls

variable {n:Note}{m:Memory}{site:Site}{op:StoreOp}

lemma Harmless.orderly(h:Harmless (.store site op)):Orderly n m site op:=by
 obtain ⟨hsite,hop,hd,hadd⟩:=h
 have hnone:∀ {x},op.completion≠some x:=fun he=>by cases hop.symm.trans he
 refine ⟨hd,hadd,fun _ _ _ h=>absurd h hnone,fun _ _ _ _ _ h=>absurd h hnone,?_,?_,?_,?_⟩
 ·rintro rfl
  cases hsite
 ·rintro _ _ _ rfl
  cases hop
 ·rintro rfl
  cases hsite
 ·rintro rfl
  cases hsite
lemma Harmless.store(h:Harmless (.store site op))(res):
 n.store m site op res=n:=by
 obtain ⟨hsite,hop,_,_⟩:=h
 unfold Note.store
 split
 ·cases hop
 ·cases hsite
 ·cases hsite
 ·cases hsite
 ·cases hop
 ·cases hsite
 ·rfl
lemma harmless_enqueue{rec}(hsite:markedSite site=false)(h:rec.status≠.awaiting):
 Harmless (.store site (.enqueue rec)):=
 ⟨hsite,rfl,nofun,fun _ hr=>List.mem_singleton.1 hr▸h⟩
lemma quiet_harmless{c}(h:Quiet c):Harmless c:=by
 cases c with
 | store site op=>
  obtain ⟨hop,hsite⟩:=h
  refine ⟨by rcases hsite with rfl | rfl<;>rfl,?_,?_,?_⟩
  ·cases op<;>first | rfl | cases hop
  ·rintro tenant rfl
   cases hop
  ·intro rec hrec
   cases op<;>first | cases hrec; done | cases hop
 | _=>trivial
lemma populates_harmless{run c}(h:Populates run (fun rec=>rec.status≠.awaiting) c):
 Harmless c:=by
 cases c with
 | store site op=>
  cases site with
  | plain | enqueueReady=>
   cases op with
   | get k=>exact ⟨rfl,rfl,fun _ h=>(by cases h),fun _ h=>(by cases h)⟩
   | enqueue rec=>exact harmless_enqueue rfl h
   | enqueueNodes recs=>exact ⟨rfl,rfl,fun _ h=>(by cases h),h⟩
   | _=>exact h.elim
  | _=>exact h.elim
 | _=>exact h.elim
lemma orderly_complete{id worker status result}
 (hsite:markedSite site=false)(hop:op.completion=some (id,worker,status,result))
 (hst:isTerminalStatus status)(hadd:∀ rec∈op.additions,rec.status≠.awaiting)
 (hchild:∀ r,m.get id=some r → r.kind=.graph → r.parentNodeRecID=""):
 Orderly n m site op:=by
 refine ⟨?_,hadd,?_,?_,?_,?_,?_,?_⟩
 ·rintro tenant rfl
  cases hop
 ·intro id' worker' result' h
  cases hop.symm.trans h
  cases hst
 ·intro id' worker' status' result' r h hr hk hpar
  cases hop.symm.trans h
  exact absurd (hchild r hr hk) hpar
 ·rintro rfl
  cases hsite
 ·rintro id' status' result' rfl
  cases hop
  exact hst
 ·rintro rfl
  cases hsite
 ·rintro rfl
  cases hsite
lemma store_complete{x id worker status result}
 (hsite:markedSite site=false)(hop:op.completion=some (id,worker,status,result))
 (hst:isTerminalStatus status)(res):
 Note.store ⟨x,none⟩ m site op res=⟨x,none⟩:=by
 unfold Note.store
 split
 ·cases hop
  cases hst
 ·cases hsite
 ·cases hsite
 ·cases hsite
 ·rfl
 ·cases hsite
 ·rfl

end Calls

lemma regular_parking:Regular (K env) where
 kept _ h:=h.1
 flows _ _ h:=h
 free n c w h:=by
  cases c with
  | store site op=>exact (quiet_harmless h).orderly
  | _=>trivial
 still n e h:=by
  obtain ⟨w,c,res,w'⟩:=e
  cases c with
  | store site op=>exact (quiet_harmless h).store res
  | _=>rfl

def Lasts(φ:Memory→Prop):Prop:=∀ m m',Flows m m'→φ m→φ m'

lemma Lasts.and{φ ψ:Memory→Prop}(hφ:Lasts φ)(hψ:Lasts ψ):Lasts (fun m=>φ m∧ψ m):=
 fun m m' hf h=>⟨hφ m m' hf h.1,hψ m m' hf h.2⟩
lemma lasts_runOf(run g):Lasts (fun m=>RunOf m run g):=
 fun _ _ hf h=>h.later hf.toEvolves
lemma lasts_held(rec):Lasts (Held rec):=fun _ _ hf h=>h.later hf.toEvolves

/-- The operation has parked `x` and owes no parent anything. -/
def Calm(x:Option String)(φ:Memory→Prop)(n:Note)(w:World):Prop:=n=⟨x,none⟩∧φ w.store

def Dispatches:Fn→Prop
 | .dispatchReady .. =>True
 | _=>False

lemma triple_noted{site op}{I:Note→World→Prop}
 {Q:Except StoreError op.Val→Note→World→Prop}(hI:(K env).Stable I)(hQ:∀ r,(K env).Stable (Q r))
 (hg:∀ n w,(K env).inv w→I n w→Orderly n w.store site op)
 (h:∀ n w now tie,(K env).inv w→I n w→Flows w.store (apply now tie w.store op).2→
  Q (apply now tie w.store op).1 (n.store w.store site op (apply now tie w.store op).1)
   {w with store:=(apply now tie w.store op).2}):
 (K env).Triple I (storeAt site op) Q:=
 triple_ask (S:=sig) hI hQ hg (fun n w o hi hIw _ hr _=>h n w o.now o.tie hi hIw hr)

section Calm

variable {α β:Type}{x:Option String}{φ:Memory→Prop}(hφ:Lasts φ)
include hφ

lemma stable_calm:(K env).Stable (Calm x φ):=fun _ s t hr _ h=>⟨h.1,hφ s.store t.store hr h.2⟩

variable {id:String}{status:JobStatus}{p:Daemon.Prog α}{err:Option JobError}

lemma calm_within(hp:p.Within Harmless Dispatches):
 (K env).Keeps (Calm x φ) p:=by
 refine triple_within hp (stable_calm hφ) ?_ ?_ ?_ ?_
 ·intro c hc n w _ _
  cases c with
  | store site op=>exact Harmless.orderly hc
  | _=>trivial
 ·intro c hc n w o _ hI _ hr _
  have hn:(K env).note n ⟨w,c,((daemon env).step c o w).1,((daemon env).step c o w).2⟩=n:=by
   cases c with
   | store site op=>exact Harmless.store hc _
   | _=>rfl
  exact ⟨hn.trans hI.1,hφ _ _ hr hI.2⟩
 ·rintro f hf n w _ ⟨rfl,_⟩
  cases f with
  | dispatchReady g run id ix=>rfl
  | _=>exact hf.elim
 ·rintro f _ n w a n' u _ ⟨rfl,hw⟩ hr _ ⟨hp,ho⟩
  refine ⟨?_,hφ _ _ hr hw⟩
  obtain ⟨p',o'⟩:=n'
  simp only at hp ho
  rw[hp,ho]
lemma calm_only(hp:p.Only Harmless):(K env).Keeps (Calm x φ) p:=
 calm_within hφ (Prog.within_mono (fun _ h=>h) (fun _ h=>h.elim) hp)
lemma calm_quiet(hp:p.Only Quiet):(K env).Keeps (Calm x φ) p:=
 triple_quiet regular_parking hp (stable_calm hφ)
lemma calm_then{k}{R:β→Note→World→Prop}(hp:p.Only Quiet)
 (hk:∀ a,(K env).Triple (Calm x φ) (k a) R):(K env).Triple (Calm x φ) (p>>=k) R:=
 triple_bind (calm_quiet hφ hp) hk
lemma calm_return{a:α}:(K env).Keeps (Calm x φ) (pure a):=
 triple_done (stable_calm hφ) (fun _ _ _ h=>h)
lemma calm_store{op}(hop:Harmless (.store .plain op)):
 (K env).Keeps (Calm x φ) (storeAt .plain op):=
 calm_only hφ (Prog.only_ask (S:=sig) hop)
lemma calm_complete{op worker result}
 (hop:op.completion=some (id,worker,status,result))(hst:isTerminalStatus status)
 (hadd:∀ rec∈op.additions,rec.status≠.awaiting)
 (hchild:∀ m r,φ m→m.get id=some r → r.kind=.graph → r.parentNodeRecID=""):
 (K env).Keeps (Calm x φ) (storeAt .plain op):=by
 refine triple_noted (stable_calm hφ) (fun _=>stable_calm hφ) ?_ ?_
 ·rintro n w _ ⟨rfl,hw⟩
  exact orderly_complete rfl hop hst hadd fun r=>hchild w.store r hw
 ·rintro n w now tie _ ⟨rfl,hw⟩ hf
  exact ⟨store_complete rfl hop hst _,hφ _ _ hf hw⟩
lemma calm_finalizeGraph{run:String}{result:Result}{failed:Bool}
 (hst:isTerminalStatus status):
 (K env).Keeps (Calm x φ) (finalizeGraph run status result failed err):=by
 have howes:(K env).Stable (fun n w=>n.parked=x∧Owes run n w∧φ w.store):=by
  rintro n s t hr _ ⟨hx,⟨r,hget,ho⟩,hs⟩
  obtain ⟨r',hget',hj⟩:=hr.job run r hget
  refine ⟨hx,⟨r',hget',ho.trans ?_⟩,hφ _ _ hr hs⟩
  simp only[parentLink,hj.parentNodeRecID]
 have hQ:∀ r:Except StoreError Unit,(K env).Stable (fun n w=>
  (r.isOk → n.parked=x∧Owes run n w∧φ w.store)∧(r.isOk=false→Calm x φ n w)):=
  fun r n s t hr hi h=>⟨fun hk=>howes n s t hr hi (h.1 hk),fun hk=>stable_calm hφ n s t hr hi (h.2 hk)⟩
 refine triple_bind (triple_noted (stable_calm hφ) hQ ?_ ?_) fun r=>?_
 ·rintro n w _ ⟨rfl,_⟩
  refine ⟨fun _ h=>(by cases h),fun _ h=>(by cases h),?_,?_,fun _=>rfl,?_,?_,?_⟩
  ·intro id worker result h
   cases h
   cases hst
  ·intro id worker status result r h _ _ _
   cases h
   exact ⟨rfl,rfl⟩
  ·intro id status result h
   cases h
   exact hst
  ·exact nofun
  ·exact nofun
 ·rintro n w now tie _ ⟨rfl,hw⟩ hf
  cases hres:(apply now tie w.store (.complete run status (some result))).1 with
  | ok v=>
   obtain ⟨r,hr,_,_,_,hget⟩:=completion_ok rfl hres
   refine ⟨fun _=>⟨rfl,⟨_,hget,?_⟩,hφ _ _ hf hw⟩,nofun⟩
   simp only[Note.store,hr,Option.bind_some]
   rfl
  | error e=>exact ⟨nofun,fun _=>⟨rfl,hφ _ _ hf hw⟩⟩
 ·cases r with
  | error e=>exact triple_mono (calm_return hφ) (fun _ _ _ h=>h.2 rfl) (fun _ _ _ _ h=>h)
  | ok v=>?_
  refine triple_mono (I:=fun (n:Note) (w:World)=>n.parked=x∧Owes run n w∧φ w.store)
   (Q:=fun _=>Calm x φ) ?_ (fun _ _ _ h=>h.1 rfl) (fun _ _ _ _ h=>h)
  refine triple_then regular_parking (Prog.only_ask (S:=sig) trivial) howes fun _=>?_
  refine triple_enter howes (fun _=>stable_calm hφ) (fun n w _ h=>h.2.1) ?_
  rintro n t _ n' u _ ⟨rfl,_,ht⟩ hr _ ⟨hp,ho⟩
  refine ⟨?_,hφ _ _ hr ht⟩
  obtain ⟨p',o'⟩:=n'
  simp only at hp ho
  rw[hp,ho]

variable {g:Graph}{run:String}

lemma calm_maybeCompleteGraph{last:String}:
 (K env).Keeps (Calm x φ) (maybeCompleteGraph g run last status err):=by
 unfold maybeCompleteGraph
 split_ifs
 ·exact calm_finalizeGraph hφ rfl
 refine calm_then hφ (quiet_storeAt rfl) fun
  | .error e=>calm_return hφ
  | .ok recs=>?_
 simp only
 cases runVerdict g recs g.nodes with
 | unfinished=>exact calm_return hφ
 | failed id cause | complete=>exact calm_finalizeGraph hφ rfl
lemma calm_enterDispatch{ix}:
 (K env).Keeps (Calm x φ) (Prog.enter (S:=sig) (Fn.dispatchReady g run id ix)):=
 calm_within hφ (Prog.within_enter trivial)
lemma calm_recordSkipped{ix:DispatchIndex}:
 (K env).Keeps (Calm x φ) (recordSkippedIndexed g run id ix):=by
 have hinsert:Harmless (.store (.recordSkip ix) (.enqueue (skippedRecord g run id))):=
  harmless_enqueue rfl nofun
 refine triple_bind (calm_only hφ (Prog.only_ask (S:=sig) hinsert)) fun
  | .error e=>calm_return hφ
  | .ok _=>?_
 refine triple_bind (calm_enterDispatch hφ) fun out=>?_
 exact triple_bind (calm_maybeCompleteGraph hφ) fun _=>calm_return hφ
lemma calm_dispatchLoop(ids enqueued ix):
 (K env).Keeps (Calm x φ) (dispatchLoop g run ids enqueued ix):=by
 induction ids generalizing enqueued ix with
 | nil=>exact calm_return hφ
 | cons id rest ih=>
  unfold dispatchLoop
  split_ifs
  ·exact ih enqueued ix
  refine calm_then hφ (quiet_analyzeDependentIndexed g run id ix) ?_
  rintro ⟨d,ix'⟩
  cases d with
  | waiting=>exact ih enqueued ix'
  | enqueue=>
   refine triple_bind (calm_store hφ (harmless_enqueue rfl fun h=>by cases h)) fun r=>?_
   cases r with
   | ok _=>exact ih (enqueued+1) ix'
   | error e=>exact ih enqueued ix'
  | skipped=>exact triple_bind (calm_recordSkipped hφ) (fun ix''=>ih enqueued ix'')
lemma calm_dispatchReady:
 (K env).Keeps (Calm x φ) (dispatchReady g run id):=
 triple_bind (calm_enterDispatch hφ) (fun _=>calm_return hφ)
lemma calm_advance:
 (K env).Keeps (Calm x φ) (advanceAfterCompletion g run id status err):=by
 refine calm_then hφ (quiet_getRecord run) fun grec=>?_
 split
 ·exact calm_return hφ
 refine calm_then hφ (quiet_pausesAfter g run id status _) fun
  | true=>calm_quiet hφ (quiet_publishPaused run id)
  | false=>?_
 have hend:∀ enqueued:Nat,(K env).Keeps (Calm x φ)
  (if enqueued=0 then maybeCompleteGraph g run id status err else pure ()):=by
  intro enqueued
  split_ifs
  ·exact calm_maybeCompleteGraph hφ
  ·exact calm_return hφ
 by_cases hadv:advances g id status
 ·simp only[Bool.false_eq_true,if_false,if_pos hadv]
  exact triple_bind (calm_dispatchReady hφ) hend
 ·simp only[Bool.false_eq_true,if_false,if_neg hadv]
  exact hend 0
lemma calm_finishAdvance{result:Option Result}{plan:AdvancePlan}
 {adv:Advance}:
 (K env).Keeps (Calm x φ) (finishAdvance g run id status result plan adv):=by
 have hend:∀ more:Nat,(K env).Keeps (Calm x φ) (if adv.enqueued+more=0 then
  maybeCompleteGraph g run id status (result.bind Result.error) else pure ()):=by
  intro more
  split_ifs
  ·exact calm_maybeCompleteGraph hφ
  ·exact calm_return hφ
 unfold finishAdvance
 by_cases hover:isTerminalStatus adv.runStatus
 ·rw[if_pos hover]
  exact calm_return hφ
 by_cases hpause:plan.pause
 ·rw[if_neg hover,if_pos hpause]
  exact calm_quiet hφ (quiet_publishPaused run id)
 by_cases hrevisit:plan.revisit
 ·simp only[if_neg hover,if_neg hpause,if_pos hrevisit]
  exact triple_bind (calm_enterDispatch hφ) fun out=>hend out.1
 ·simp only[if_neg hover,if_neg hpause,if_neg hrevisit]
  exact hend 0
lemma calm_fetchAndAdvance{rec:JobRecord}:
 (K env).Keeps (Calm x φ) (do
  match←fetchGraph rec.graphRunID with
  | none=>pure ()
  | some g=>advanceAfterCompletion g rec.graphRunID rec.nodeID status err):=by
 exact calm_then hφ (quiet_fetchGraph _) fun
  | none=>calm_return hφ
  | some g=>calm_advance hφ

end Calm

def Seen(x:Option String)(q:String)(o:Option JobRecord)(n:Note):Prop:=
 (n=⟨x,none⟩∧∀ p,o=some p→p.status≠.awaiting)∨
  (n=⟨x,some q⟩∧∃ p,o=some p∧p.status=.awaiting∧p.id=q)

lemma stable_note(φ:Note→Prop):(K env).Stable (fun n _=>φ n):=fun _ _ _ _ _ h=>h
lemma triple_seen{x q}:
 (K env).Triple (fun n _=>n=⟨x,some q⟩) (getRecordAt .resumeCheck q) (fun o n _=>Seen x q o n):=by
 have hread:(K env).Triple (fun n _=>n=⟨x,some q⟩) (storeAt .resumeCheck (.get q))
  (fun (r:Except StoreError JobRecord) n _=>Seen x q r.toOption n):=by
  refine triple_noted (stable_note _) (fun _=>stable_note _) ?_ ?_
  ·exact fun n w _ _=>⟨fun _ h=>(by cases h),fun _ h=>(by cases h),fun _ _ _ h=>(by cases h),
    fun _ _ _ _ _ h=>(by cases h),fun h=>(by cases h),fun _ _ _ h=>(by cases h),
    fun h=>(by cases h),fun h=>(by cases h)⟩
  ·rintro n w now tie _ rfl _
   simp only[Note.store,apply]
   cases hget:w.store.get q with
   | none=>exact .inl ⟨rfl,fun _ h=>by cases h⟩
   | some p=>
    by_cases hs:p.status=.awaiting
    ·exact .inr ⟨by simp[stillAwaits,hs],p,rfl,hs,get_id hget⟩
    ·refine .inl ⟨by simp[stillAwaits,hs],fun p' hp=>?_⟩
     cases hp
     exact hs
 refine triple_bind hread fun r=>?_
 cases r<;>exact triple_done (stable_note _) (fun _ _ _ h=>h)
lemma calm_resume{x:Option String}{q child:String}{failed:Bool}{err:Option JobError}
 (hq:¬SimpleID q):
 (K env).Triple (fun n _=>n=⟨x,some q⟩) (do
  match←getRecordAt .resumeCheck q with
  | none=>pure ()
  | some parentRec=>
   if parentRec.status≠.awaiting then pure ()
   else
    let (status,result)←parentOutcome env parentRec child failed err
    match←storeAt .plain (.complete parentRec.id status (some result)) with
    | .error _=>pure ()
    | .ok _=>
     match←fetchGraph parentRec.graphRunID with
     | none=>pure ()
     | some g=>advanceAfterCompletion g parentRec.graphRunID parentRec.nodeID status result.error)
  (fun _=>Calm x fun _=>True):=by
 have hT:Lasts (fun _=>True):=fun _ _ _ _=>trivial
 refine triple_bind triple_seen fun o=>?_
 cases o with
 | none=>
  refine triple_done (stable_note _) fun n _ _ h=>⟨?_,trivial⟩
  rcases h with h | ⟨_,p,hp,_⟩
  ·exact h.1
  ·cases hp
 | some p=>
  dsimp only
  by_cases hs:p.status≠.awaiting
  ·rw[if_pos hs]
   refine triple_done (stable_note _) fun n _ _ h=>⟨?_,trivial⟩
   rcases h with h | ⟨_,p',hp,hs',_⟩
   ·exact h.1
   ·cases hp
    exact absurd hs' hs
  rw[if_neg hs]
  refine triple_mono (I:=fun (n:Note) (_:World)=>p.id=q∧n=⟨x,some q⟩)
   (Q:=fun _=>Calm x fun _=>True) (triple_given fun hid=>?_) ?_ (fun _ _ _ _ h=>h)
  ·refine triple_bind (triple_yields (triple_quiet regular_parking
    (quiet_parentOutcome env p child failed err) (stable_note _)) parentOutcome_yields) (fun out=>?_)
   obtain ⟨status,result⟩:=out
   refine triple_given fun hterm=>?_
   refine triple_bind (Q:=fun _=>Calm x fun _=>True)
    (triple_noted (stable_note _) (fun _=>stable_calm hT) ?_ ?_) (fun r=>?_)
   ·intro n w hi _
    -- the id of a parent holds a colon, so that its record is no run's
    refine orderly_complete rfl rfl hterm (fun _ h=>by cases h) fun r hr hk=>?_
    exact absurd ((hi.1.simple_iff hr).2 hk) (hid▸hq)
   ·rintro n w now tie _ rfl _
    refine ⟨?_,trivial⟩
    simp[Note.store,hid]
   ·cases r with
    | error e=>exact calm_return hT
    | ok _=>exact calm_fetchAndAdvance hT
  ·rintro n w _ (⟨_,h⟩ | ⟨hn,p',hp,_,hid⟩)
   ·exact absurd (h p rfl) hs
   ·cases hp
    exact ⟨hid,hn⟩
lemma calm_maybeResumeParent{x child failed err}:
 (K env).Triple (fun n w=>n.parked=x∧Owes child n w) (maybeResumeParent env child failed err)
  (fun _=>Calm x fun _=>True):=by
 have howes:(K env).Stable (fun n w=>n.parked=x∧Owes child n w):=by
  rintro n s t hr _ ⟨hx,r,hget,ho⟩
  obtain ⟨r',hget',hj⟩:=hr.job child r hget
  refine ⟨hx,r',hget',ho.trans ?_⟩
  simp only[parentLink,hj.parentNodeRecID]
 refine triple_bind (Q:=fun o n _=>∃ c,o=some c∧(n:Note)=⟨x,parentLink c⟩∧
  (c.parentNodeRecID=""∨¬SimpleID c.parentNodeRecID))
  (triple_getRecord regular_parking howes (fun o=>stable_note _) ?_) (fun o=>?_)
 ·rintro ⟨p',o'⟩ w hi ⟨rfl,r,hget,rfl⟩
  refine ⟨r,hget,rfl,?_⟩
  rcases hi.1 _ r hget with ⟨_,hk⟩ | ⟨_,hk⟩
  ·exact hk.parent
  ·exact .inl hk.parent
 cases o with
 | none=>
  rintro n w _ ⟨_,h,_⟩
  cases h
 | some c=>
  refine triple_mono (I:=fun n _=>(c.parentNodeRecID=""∨¬SimpleID c.parentNodeRecID)∧
   (n:Note)=⟨x,parentLink c⟩) (Q:=fun _=>Calm x fun _=>True) (triple_given fun hpar=>?_) ?_
   fun _ _ _ _ h=>h
  ·dsimp only
   by_cases hne:c.parentNodeRecID=""
   ·rw[if_pos hne]
    refine triple_done (stable_note _) fun n _ _ h=>⟨?_,trivial⟩
    rw[h,parentLink,if_pos hne]
   rw[if_neg hne]
   have hlink:parentLink c=some c.parentNodeRecID:=if_neg hne
   rw[hlink]
   exact calm_resume (hpar.resolve_left hne)
  ·rintro n w _ ⟨c',hc,hn,hpar⟩
   cases hc
   exact ⟨hpar,hn⟩

end Dazyflow.ParkedSubflows
