import Dazyflow.PopulatingPrograms
import Dazyflow.ProgramStages

/-!
# The concurrency cap

`admitGraphRun` counts the running runs of the tenant and `SubmitGraphOpts` inserts the new run afterwards,
while a sweep counts and starts in one store call.
-/
namespace Dazyflow.ConcurrencyCap
open Interleaving Protocol Daemon FlowGraph JobRecords MemoryStore StoreOperations
open List hiding rec
open Interleaving.Prog (only_bind only_ask only_pure within_mono within_any)
open KeyedTable (countP_modify_le countP_modify_le_succ)

def isRunning(t:String)(r:JobRecord):Bool:=r.kind==.graph&&r.tenant==t&&r.status==.running

def runningRuns(m:Memory)(t:String):Nat:=m.records.rows.countP (isRunning t)

variable {t:String}

variable {c:Call}{i:Nat}{now:Time}{α:Type}{m:Memory}{limit:Int}

lemma running_update_le{id f keep}
 (h:∀ r,isRunning t (f r)→isRunning t r):
 runningRuns (m.update id f keep) t ≤ runningRuns m t:=
 countP_modify_le keep h
lemma running_enqueueLocked(now m rec):
 runningRuns (m.enqueueLocked now rec).2 t ≤
  runningRuns m t+if isRunning t (Memory.stamp now rec) then 1 else 0:=by
 unfold Memory.enqueueLocked
 split
 ·exact Nat.le_add_right _ _
 ·simp only[runningRuns,KeyedTable.Table.insert,countP_append,countP_singleton,le_refl]
lemma stamp_not_running{rec}(h:rec.kind=.node∨rec.status=.queued):
 isRunning t (Memory.stamp now rec)=false:=by
 rcases h with h | h<;>simp[isRunning,Memory.stamp,h]
lemma running_enqueueLocked_le{rec}(h:rec.kind=.node∨rec.status=.queued):
 runningRuns (m.enqueueLocked now rec).2 t ≤ runningRuns m t:=by
 simpa[stamp_not_running h] using running_enqueueLocked (t:=t) now m rec
lemma running_enqueueAll_le{recs}(h:∀ rec∈recs,rec.kind=.node)(m):
 runningRuns (m.enqueueAll now recs).2 t ≤ runningRuns m t:=by
 induction recs generalizing m with
 | nil=>exact le_refl _
 | cons rec rest ih=>
  have hone:runningRuns (m.enqueueLocked now rec).2 t ≤ runningRuns m t:=
   running_enqueueLocked_le (.inl (h rec mem_cons_self))
  rw[Memory.enqueueAll]
  cases (m.enqueueLocked now rec).1 with
  | ok u=>exact (ih (fun r hr=>h r (mem_cons_of_mem _ hr)) _).trans hone
  | error e=>exact hone
lemma running_enqueueNodes_le{recs}(h:∀ rec∈recs,rec.kind=.node)(m):
 runningRuns (m.enqueueNodes now recs).2 t ≤ runningRuns m t:=by
 have hall:runningRuns (m.enqueueAll now recs).2 t ≤ runningRuns m t:=running_enqueueAll_le h m
 unfold Memory.enqueueNodes
 split_ifs
 ·exact le_refl _
 ·exact le_refl _
 ·split<;>simp_all
lemma running_completeLocked_le(now m id worker status)
 (result):runningRuns (m.completeLocked now id worker status result).2 t ≤ runningRuns m t:=by
 rcases completeLocked_cases now m id worker status result with ⟨e,he⟩ | ⟨r,_,_,hs,_,_,ho⟩
 ·rw[he]
 rw[ho]
 refine running_update_le fun r hr=>?_
 -- a completed record is terminal or awaiting
 have hst:status=.running:=by
  simp only[isRunning,Memory.completed,Bool.and_eq_true,beq_iff_eq] at hr
  exact hr.2
 rw[hst] at hs
 rcases hs with hs | hs<;>cases hs
lemma running_markCapped(now:Time)(m:Memory)(id:String)(limit:Int)
 (h:(runningRuns m t:Int) ≤ limit):
 (runningRuns (m.markGraphRunningCapped now id t limit).2 t:Int) ≤ limit:=by
 unfold Memory.markGraphRunningCapped
 split
 ·exact h
 simp only
 split_ifs with hcap hstate
 ·exact h
 ·exact h
 ·have hone:runningRuns (m.update id (Memory.startRunning now) (Memory.startRunning_id now)) t ≤ runningRuns m t+1:=
   countP_modify_le_succ _ _ _ (Memory.startRunning_id now) _
  change ¬limit≤(runningRuns m t:Int) at hcap
  dsimp only
  omega
lemma running_lt_of_listed(h:((m.listGraphRuns {tenant:=t,status:=.running,limit:=limit+1}).length:Int)<limit):
 (runningRuns m t:Int)<limit:=by
 have hle:runningRuns m t ≤
  (m.graphRuns {tenant:=t,status:=.running,limit:=limit+1}).length:=by
  rw[Memory.graphRuns,length_insertionSort,←countP_eq_length_filter]
  refine countP_mono_left fun r _ hr=>?_
  simp only[isRunning,Bool.and_eq_true,beq_iff_eq] at hr
  simp[Memory.matchesGraphRun,hr.1.1,hr.1.2,hr.2]
 simp only[Memory.listGraphRuns,Memory.page,Int.toNat_zero,drop_zero,length_take] at h
 split_ifs at h with hl<;>omega

def Mild:Call→Prop
 | .store _ (.enqueue rec)=>rec.kind=.node∨rec.status=.queued
 | .store _ (.enqueueNodes recs)=>∀ rec∈recs,rec.kind=.node
 | .store _ (.complete ..)=>True
 | .store _ op=>reads op
 | .pause _ | .charge .. | .ask _=>True

lemma mild_of_reads{site op}(h:reads op):Mild (.store site op):=by
 cases op<;>first | exact h | cases h
lemma mild_of_quiet(h:Quiet c):Mild c:=by
 cases c with
 | store site op=>exact mild_of_reads h.1
 | _=>trivial
lemma mild_of_populates{run}(h:Populates run (fun rec=>rec.kind=.node) c):Mild c:=by
 cases c with
 | store site op=>
  cases site with
  | plain | enqueueReady=>
   cases op with
   | get id=>rfl
   | enqueue rec=>exact .inl h
   | enqueueNodes recs=>exact h
   | _=>cases h
  | _=>cases h
 | _=>trivial
lemma mild_running{env}(h:Mild c)(o w):
 runningRuns (stepWorld env c o w).2.store t ≤ runningRuns w.store t:=by
 cases c with
 | store site op=>
  cases op with
  | enqueue rec=>exact running_enqueueLocked_le h
  | enqueueNodes recs=>exact running_enqueueNodes_le h _
  | complete id status result=>exact running_completeLocked_le _ _ _ _ _ _
  | _=>first | exact le_refl _ | cases h
 | _=>exact le_refl _
lemma mild_populateSeededRun(g run seeds):(populateSeededRun g run seeds).Only Mild:=
 within_mono (fun _=>mild_of_populates) (fun _ h=>h)
  (populates_populateSeededRun (fun _=>rfl) (fun _ _=>rfl) seeds)
lemma mild_completeRun(id status result):
 (storeAt .plain (.complete id status result)).Only Mild:=only_ask (S:=sig) trivial
lemma mild_failRun(id code message):(failRun id code message).Only Mild:=
 only_bind (mild_completeRun _ _ _) (fun _=>only_pure _)
lemma mild_succeedRun(id):(succeedRun id).Only Mild:=
 only_bind (mild_completeRun _ _ _) (fun _=>only_pure _)

variable {p:Daemon.Prog α}

lemma mild_quiet(h:p.Only Quiet):p.Only Mild:=
 within_mono (fun _=>mild_of_quiet) (fun _ h=>h) h
lemma mild_allNodesAccountedFor(g run):(allNodesAccountedFor g run).Only Mild:=
 mild_quiet (quiet_accountedFor g run g.nodes)
lemma mild_startSubmitted(g run seeds):(startSubmitted g run seeds).Only Mild:=by
 unfold startSubmitted
 split_ifs
 ·exact only_bind (mild_succeedRun run) fun _=>only_pure _
 refine only_bind (mild_populateSeededRun g run seeds) fun out=>?_
 simp only
 split_ifs
 ·exact only_bind (mild_failRun _ _ _) fun _=>only_pure _
 ·refine only_bind (mild_allNodesAccountedFor g run) fun b=>?_
  split_ifs
  ·exact only_bind (mild_succeedRun run) fun _=>only_pure _
  ·exact only_pure _
 ·exact only_pure _
lemma mild_parkSubmitted(g run seeds):(persistSeedsOnly g run seeds).Only Mild:=
 within_mono (fun _=>mild_of_populates) (fun _ h=>h) (populates_persistSeedsOnly (fun _ _=>rfl) seeds)
lemma mild_startPendingRun(rec):(startPendingRun rec).Only Mild:=by
 unfold startPendingRun
 split
 ·exact mild_failRun _ _ _
 case h_2 g _=>
  split_ifs
  ·exact mild_succeedRun _
  refine only_bind (mild_quiet (quiet_seededNodes _ _)) fun seeded=>?_
  have hroots:(dispatchRoots g rec.id seeded).Only Mild:=
   within_mono (fun _=>mild_of_populates) (fun _ h=>h) (populates_dispatchRoots (fun _=>rfl) seeded)
  refine only_bind hroots fun ⟨queued,errs⟩=>?_
  cases errs with
  | cons err rest=>exact mild_failRun _ _ _
  | nil=>?_
  simp only
  split_ifs
  ·refine only_bind (mild_allNodesAccountedFor g _) fun b=>?_
   split_ifs
   ·exact mild_succeedRun _
   ·exact only_pure _
  ·exact only_pure _

inductive Stage
 /-- a program that is not a submission or a sweep of the tenant -/
 | outside
 | submitting
 | capped (limit:Int)
 /-- a submission has found room and has not written its run yet -/
 | admitted
 /-- a submission has found no room and has not written its run yet -/
 | refused
 | written
 | sweeping
 | promoting (limit:Int)
 deriving DecidableEq

def Stage.first(t:String):Entry→Stage
 | .submit _ g _=>if g.tenant=t∧g.nodes≠[] then .submitting else .outside
 | .promote tenant=>if tenant=t then .sweeping else .outside
 | _=>.outside

def Stage.next:Stage→(c:Call)→c.Res→Stage
 | .submitting,.ask (.concurrencyLimit _),limit=>if limit≤0 then .admitted else .capped limit
 | .capped limit,.store _ (.listGraphRuns _),.ok runs=>if (runs.length:Int)<limit then .admitted else .refused
 | .capped _,.store _ (.listGraphRuns _),.error _=>.admitted
 | .admitted,.ask (.reserveRun _),reserved=>if reserved then .admitted else .written
 | .admitted,.store _ (.enqueue _),_=>.written
 | .refused,.store _ (.enqueue _),_=>.written
 | .sweeping,.ask (.concurrencyLimit _),limit=>.promoting limit
 | n,_,_=>n

def asksOther:Call→Bool
 | .ask (.concurrencyLimit _)=>false
 | .ask _=>true
 | _=>false

def Stage.allows(t:String):Stage→Call→Prop
 | .outside,_=>True
 | .submitting,.ask (.concurrencyLimit tenant)=>tenant=t
 | .submitting,c=>asksOther c
 | .capped limit,c=>c=.store .plain (.listGraphRuns {tenant:=t,status:=.running,limit:=limit+1})
 | .admitted,.ask (.reserveRun _)=>True
 | .admitted,.store _ (.enqueue _)=>True
 | .admitted,_=>False
 | .refused,.ask (.reserveRun _)=>True
 | .refused,.store _ (.enqueue rec)=>rec.status=.queued
 | .refused,_=>False
 | .written,c=>Mild c
 | .sweeping,c=>c=.ask (.concurrencyLimit t)
 | .promoting limit,.store _ (.markGraphRunningCapped _ tenant cap)=>tenant=t∧cap=limit
 | .promoting limit,.store _ (.markGraphRunning _)=>limit≤0
 | .promoting _,c=>Mild c

@[reducible] def stages(env:Env)(t:String):Protocol (daemon env) where
 Stage:=Stage
 first:=Stage.first t
 next:=Stage.next
 allowed:=Stage.allows t
 pre _ n:=n=.outside
 post _ _ _ n':=n'=.outside

variable {env:Env}

lemma obeys_outside(p:Daemon.Prog α):(stages env t).Obeys p .outside (fun _ n=>n=.outside):=by
 refine obeys_within (C:=fun _=>True) (F:=fun _=>True) (within_any p (fun _=>trivial) fun _=>trivial) ?_ ?_
 ·exact fun c _=>⟨trivial,fun _=>rfl⟩
 ·exact fun f _=>⟨rfl,fun _ _ h=>h⟩
lemma obeys_written(h:p.Only Mild):
 (stages env t).Obeys p .written (fun _ n=>n=.written):=
 obeys_only h (fun _ hc=>⟨hc,fun _=>rfl⟩)
lemma promoting_mild(h:Mild c):
 Stage.allows t (.promoting limit) c∧∀ r,Stage.next (.promoting limit) c r=.promoting limit:=by
 refine ⟨?_,fun _=>rfl⟩
 cases c with
 | store site op=>cases op<;>first | exact h | cases h
 | _=>trivial
lemma obeys_promoting(h:p.Only Mild):
 (stages env t).Obeys p (.promoting limit) (fun _ n=>n=.promoting limit):=
 obeys_only h (fun _ hc=>promoting_mild hc)
lemma asks_refuseGraph(p g seeds):
 (refuseGraph p g seeds).Only (fun c=>asksOther c):=by
 have hauth:(authorizeGraphRun p g).Only (fun c=>asksOther c):=by
  unfold authorizeGraphRun
  split_ifs
  ·exact only_pure _
  ·exact only_ask (S:=sig) rfl
  ·exact only_pure _
 refine only_bind hauth fun
  | false=>only_pure _
  | true=>?_
 refine only_bind (only_ask (S:=sig) rfl) fun
  | some msg=>only_pure _
  | none=>?_
 simp only
 split_ifs
 ·exact only_pure _
 ·exact only_pure _
 ·cases seeds.find? _<;>exact only_pure _
lemma submitting_asks(h:asksOther c):
 Stage.allows t .submitting c∧∀ r,Stage.next .submitting c r=.submitting:=by
 cases c with
 | ask q=>cases q<;>first | exact ⟨rfl,fun _=>rfl⟩ | cases h
 | _=>cases h
lemma obeys_admitGraphRun:
 (stages env t).Obeys (admitGraphRun t) .submitting (fun b n=>n=if b then .admitted else .refused):=by
 refine obeys_bind (obeys_ask (Q:=fun (limit:Int) (n:Stage)=>n=if limit≤0 then .admitted else .capped limit) rfl
  (fun _=>rfl)) ?_
 rintro limit _ rfl
 split_ifs
 ·exact obeys_done rfl
 ·refine obeys_call rfl fun
   | .error e=>obeys_done rfl
   | .ok runs=>?_
  refine obeys_done ?_
  simp only[Stage.next,decide_eq_true_eq]
lemma obeys_submit(p g opts)(ht:g.tenant=t)(hg:g.nodes≠[]):
 (stages env t).Obeys (submitGraphOpts p g opts) .submitting (fun _ _=>True):=by
 refine obeys_then (obeys_only (asks_refuseGraph p g opts.seeds) fun _ hc=>submitting_asks hc) fun
  | some msg=>obeys_done trivial
  | none=>?_
 simp only[if_neg hg,ht]
 refine obeys_if (fun _=>obeys_done trivial) fun _=>obeys_then (obeys_ask rfl fun _=>rfl) fun run=>?_
 refine obeys_bind obeys_admitGraphRun ?_
 rintro admitted _ rfl
 cases admitted with
 | true=>
  refine obeys_bind (obeys_ask (Q:=fun (b:Bool) (n:Stage)=>n=if b then .admitted else .written) trivial fun _=>rfl) ?_
  rintro reserved _ rfl
  cases reserved with
  | false=>exact obeys_done trivial
  | true=>
   refine obeys_bind (obeys_ask (Q:=fun _ (n:Stage)=>n=.written) trivial fun _=>rfl) ?_
   rintro r _ rfl
   cases r with
   | error e=>exact obeys_done trivial
   | ok u=>exact obeys_mono (obeys_written (mild_startSubmitted _ _ _)) (fun _ _ _=>trivial)
 | false=>
  refine obeys_bind (obeys_ask (Q:=fun _ (n:Stage)=>n=.refused) trivial fun _=>rfl) ?_
  rintro reserved _ rfl
  cases reserved with
  | false=>exact obeys_done trivial
  | true=>?_
  refine obeys_bind (obeys_ask (Q:=fun _ (n:Stage)=>n=.written) rfl fun _=>rfl) ?_
  rintro r _ rfl
  cases r with
  | error e=>exact obeys_done trivial
  | ok u=>
   refine obeys_mono (Q:=fun _ (n:Stage)=>n=.written) (obeys_written ?_) fun _ _ _=>trivial
   refine only_bind (mild_parkSubmitted _ _ _) fun errs=>?_
   split_ifs
   ·exact only_bind (mild_failRun _ _ _) fun _=>only_pure _
   ·exact only_pure _
lemma obeys_markRunning(limit run):
 (stages env t).Obeys (markRunning limit run t) (.promoting limit) (fun _ n=>n=.promoting limit):=by
 unfold markRunning
 split_ifs with hl
 ·refine obeys_bind (obeys_ask (Q:=fun _ (n:Stage)=>n=.promoting limit) ⟨rfl,rfl⟩ fun _=>rfl) ?_
  rintro r _ rfl
  cases r<;>exact obeys_done rfl
 ·refine obeys_bind (obeys_ask (Q:=fun _ (n:Stage)=>n=.promoting limit) (not_lt.1 hl) fun _=>rfl) ?_
  rintro r _ rfl
  cases r<;>exact obeys_done rfl
lemma obeys_promoteLoop(limit fuel):
 (stages env t).Obeys (promoteLoop limit t fuel) (.promoting limit) (fun _ _=>True):=by
 induction fuel with
 | zero=>exact obeys_done trivial
 | succ fuel ih=>
  refine obeys_bind (obeys_promoting (mild_quiet (quiet_oldestPendingRun t))) ?_
  rintro oldest _ rfl
  cases oldest with
  | none=>exact obeys_done trivial
  | some run=>?_
  refine obeys_bind (obeys_markRunning limit run) ?_
  rintro won _ rfl
  cases won with
  | none=>exact obeys_done trivial
  | some won=>?_
  cases won with
  | false=>exact ih
  | true=>?_
  refine obeys_bind (obeys_promoting (mild_quiet (quiet_getRecord run))) ?_
  rintro rec _ rfl
  cases rec with
  | none=>exact obeys_mono (obeys_promoting (mild_failRun _ _ _)) (fun _ _ _=>trivial)
  | some rec=>
   refine obeys_bind (obeys_promoting (mild_startPendingRun rec)) ?_
   rintro _ _ rfl
   exact ih
lemma obeys_promote:(stages env t).Obeys (promotePendingRuns t) .sweeping (fun _ _=>True):=by
 refine obeys_bind (obeys_ask (Q:=fun (limit:Int) (n:Stage)=>n=.promoting limit) rfl fun _=>rfl) ?_
 rintro limit _ rfl
 exact obeys_promoteLoop limit maxPromotedPerCall
lemma follows:(stages env t).Follows (fun _=>True) where
 entries e:=by
  have hout:∀ p:Daemon.Prog Unit,(stages env t).Obeys p .outside (fun _ _=>True):=
   fun p=>obeys_mono (obeys_outside p) (fun _ _ _=>trivial)
  cases e with
  | submit p g opts=>
   by_cases h:g.tenant=t∧g.nodes≠[]
   ·have hfirst:(stages env t).first (.submit p g opts)=.submitting:=if_pos h
    rw[hfirst]
    exact obeys_bind (obeys_submit p g opts h.1 h.2) fun _ _ _=>obeys_done trivial
   ·have hfirst:(stages env t).first (.submit p g opts)=.outside:=if_neg h
    rw[hfirst]
    exact hout _
  | promote tenant=>
   by_cases h:tenant=t
   ·have hfirst:(stages env t).first (.promote tenant)=.sweeping:=if_pos h
    rw[hfirst]
    subst h
    exact obeys_promote
   ·have hfirst:(stages env t).first (.promote tenant)=.outside:=if_neg h
    rw[hfirst]
    exact hout _
  | _=>exact hout _
 bodies f n hn:=by
  cases hn
  exact obeys_outside _

def standing(env:Env)(t:String)(P:Pool (daemon env)):List Stage:=(stages env t).stages P

abbrev FixedCap(t:String)(cap:Int)(o:Oracle):Prop:=o.answer (.concurrencyLimit t)=cap

def ofTenant(t:String):Entry→Prop
 | .submit _ g _=>g.tenant=t
 | .promote tenant=>tenant=t
 | _=>False

/-- The call starts a run of the tenant, or may do so. -/
def starting:Stage→Call→Bool
 | .admitted,.store _ (.enqueue _)=>true
 | .promoting _,.store _ (.markGraphRunningCapped ..)=>true
 | _,_=>false

/-- When a run is started, no other submission stands between its count and its insert. -/
abbrev alone(ns:List Stage)(i:Nat)(c:Call):Prop:=
 ∀ n∈ns[i]?,starting n c→∀ j<ns.length,j≠i → ns[j]? ≠ some .admitted

abbrev capRuns(env:Env)(t:String)(cap:Int):Rules (daemon env):=
 Allowed (fun _ e=>ofTenant t e) (fun _ _ _ o=>FixedCap t cap o)

abbrev calmRuns(env:Env)(t:String)(cap:Int):Rules (daemon env):=
 Allowed (fun _ e=>ofTenant t e∧Stage.first t e≠.outside)
  fun P i c o=>FixedCap t cap o∧alone (standing env t P) i c

structure Capped(t:String)(cap:Int)(w:World)(ns:List Stage):Prop where
 bound:(runningRuns w.store t:Int) ≤ cap
 room:.admitted∈ns→(runningRuns w.store t:Int)<cap
 capped:∀ limit,.capped limit∈ns→limit=cap
 promoting:∀ limit,.promoting limit∈ns→limit=cap
 inside:.outside∉ns

variable {cap:Int}{w w':World}{ns:List Stage}

section

variable (h:Capped t cap w ns)

include h

lemma Capped.move{n}
 (hle:runningRuns w'.store t ≤ runningRuns w.store t)
 (hroom:n=.admitted→(runningRuns w.store t:Int)<cap)(hcapped:∀ limit,n=.capped limit→limit=cap)
 (hpromoting:∀ limit,n=.promoting limit→limit=cap)(hinside:n≠.outside):
 Capped t cap w' (ns.set i n) where
 bound:=by have:=h.bound; omega
 room hm:=by
  have hlt:(runningRuns w.store t:Int)<cap:=by
   rcases mem_or_eq_of_mem_set hm with hm | hm
   ·exact h.room hm
   ·exact hroom hm.symm
  omega
 capped limit hm:=by
  rcases mem_or_eq_of_mem_set hm with hm | hm
  ·exact h.capped limit hm
  ·exact hcapped limit hm.symm
 promoting limit hm:=by
  rcases mem_or_eq_of_mem_set hm with hm | hm
  ·exact h.promoting limit hm
  ·exact hpromoting limit hm.symm
 inside hm:=by
  rcases mem_or_eq_of_mem_set hm with hm | hm
  ·exact h.inside hm
  ·exact hinside hm.symm
lemma Capped.starts{n m}(hn:ns[i]? = some n)
 (ha:alone ns i c)(hs:starting n c)(hbound:(runningRuns w'.store t:Int) ≤ cap)
 (hm:m=.written∨m=n∧n≠.admitted):Capped t cap w' (ns.set i m):=by
 have hmem:n∈ns:=mem_of_getElem? hn
 have hplace:∀ x,x∈ns.set i m→x=.written∨x∈ns:=by
  intro x hx
  rcases mem_or_eq_of_mem_set hx with hx | rfl
  ·exact .inr hx
  ·rcases hm with hm | ⟨rfl,_⟩
   ·exact .inl hm
   ·exact .inr hmem
 refine ⟨hbound,fun hx=>?_,fun limit hx=>?_,fun limit hx=>?_,fun hx=>?_⟩
 ·obtain ⟨j,hj⟩:=mem_iff_getElem?.1 hx
  rcases set_cases hj with ⟨rfl,he⟩ | ⟨hji,hj⟩
  ·rcases hm with rfl | ⟨rfl,hm⟩
   ·cases he
   ·exact absurd he.symm hm
  ·exact absurd hj (ha n hn hs j (List.getElem?_eq_some_iff.1 hj).1 hji)
 ·rcases hplace _ hx with hx | hx
  ·cases hx
  ·exact h.capped limit hx
 ·rcases hplace _ hx with hx | hx
  ·cases hx
  ·exact h.promoting limit hx
 ·rcases hplace _ hx with hx | hx
  ·cases hx
  ·exact h.inside hx
lemma Capped.stay{n}(hn:ns[i]? = some n)
 (hle:runningRuns w'.store t ≤ runningRuns w.store t):Capped t cap w' (ns.set i n):=by
 have hmem:n∈ns:=mem_of_getElem? hn
 exact h.move hle (fun e=>h.room (e▸hmem)) (fun l e=>h.capped l (e▸hmem)) (fun l e=>h.promoting l (e▸hmem))
  fun e=>h.inside (e▸hmem)
lemma Capped.plain{n}(hle:runningRuns w'.store t ≤ runningRuns w.store t)
 (hn:n=.written∨n=.refused∨n=.submitting):Capped t cap w' (ns.set i n):=by
 refine h.move hle ?_ ?_ ?_ ?_<;>rcases hn with rfl | rfl | rfl<;>simp
lemma Capped.call(hcap:0<cap){n o}
 (hn:ns[i]? = some n)(hall:Stage.allows t n c)(hfix:FixedCap t cap o)(ha:alone ns i c):
 Capped t cap (stepWorld env c o w).2 (ns.set i (n.next c (stepWorld env c o w).1)):=by
 have hmem:n∈ns:=mem_of_getElem? hn
 cases n with
 | outside=>exact absurd hmem h.inside
 | submitting=>
  cases c with
  | ask q=>
   cases q with
   | concurrencyLimit tenant=>
    obtain rfl:tenant=t:=hall
    have hnext:Stage.next .submitting (.ask (.concurrencyLimit tenant)) (o.answer (.concurrencyLimit tenant))=.capped cap:=by
     rw[hfix]
     exact if_neg (not_le.2 hcap)
    exact hnext▸h.move (le_refl _) nofun (fun l e=>(by cases e; rfl)) (fun l e=>(by cases e)) (by simp)
   | _=>exact h.stay hn (le_refl _)
  | _=>cases hall
 | capped limit=>
  cases hall
  obtain rfl:=h.capped limit hmem
  dsimp only[stepWorld,apply,Stage.next]
  split_ifs with hl
  ·exact h.move (le_refl _) (fun _=>running_lt_of_listed hl) (fun l e=>(by cases e)) (fun l e=>(by cases e)) (by simp)
  ·exact h.plain (le_refl _) (.inr (.inl rfl))
 | admitted=>
  cases c with
  | ask q=>
   cases q with
   | reserveRun tenant=>
    dsimp only[stepWorld,Stage.next]
    split_ifs
    ·exact h.stay hn (le_refl _)
    ·exact h.plain (le_refl _) (.inl rfl)
   | _=>cases hall
  | store site op=>
   cases op with
   | enqueue rec=>
    refine h.starts hn ha rfl ?_ (.inl rfl)
    have hroom:=h.room hmem
    have hone:runningRuns (w.store.enqueueLocked o.now rec).2 t ≤ runningRuns w.store t+1:=
     (running_enqueueLocked _ _ _).trans (by split_ifs<;>omega)
    dsimp only[stepWorld,apply]
    omega
   | _=>cases hall
  | _=>cases hall
 | refused=>
  cases c with
  | ask q=>
   cases q with
   | reserveRun tenant=>exact h.stay hn (le_refl _)
   | _=>cases hall
  | store site op=>
   cases op with
   | enqueue rec=>exact h.plain (running_enqueueLocked_le (.inr hall)) (.inl rfl)
   | _=>cases hall
  | _=>cases hall
 | written=>exact h.stay hn (mild_running hall o w)
 | sweeping=>
  cases hall
  have hnext:Stage.next .sweeping (.ask (.concurrencyLimit t)) (o.answer (.concurrencyLimit t))=.promoting cap:=by
   rw[hfix]
   rfl
  exact hnext▸h.move (le_refl _) nofun (fun l e=>(by cases e)) (fun l e=>(by cases e; rfl)) (by simp)
 | promoting limit=>
  obtain rfl:=h.promoting limit hmem
  by_cases hmild:Mild c
  ·exact h.stay hn (mild_running hmild o w)
  cases c with
  | store site op=>
   cases op with
   | markGraphRunningCapped run tenant l=>
    obtain ⟨rfl,rfl⟩:=hall
    exact h.starts hn ha rfl (running_markCapped _ _ _ _ h.bound) (.inr ⟨rfl,by simp⟩)
   | markGraphRunning run=>exact absurd hall (not_le.2 hcap)
   | _=>exact absurd hall hmild
  | _=>exact absurd trivial hmild

end

def holding(env:Env)(m:Memory):Pool (daemon env):={state:={store:=m} }

/-- At every moment the tenant has at most as many running runs as its cap allows. -/
theorem cap_not_passed{P:Pool (daemon env)}{m:Memory}(hcap:0<cap)(hm:(runningRuns m t:Int) ≤ cap)
 (hr:Reach (calmRuns env t cap) (holding env m) P):(runningRuns P.state.store t:Int) ≤ cap:=by
 suffices h:Capped t cap P.state (standing env t P) from h.bound
 refine follows.run_inv (A:=holding env m) rfl (J:=Capped t cap) ?_ ?_ ?_ hr
 ·exact ⟨hm,nofun,nofun,nofun,nofun⟩
 ·intro P e _ ha h
  have hplain:Stage.first t e=.submitting∨Stage.first t e=.sweeping:=by
   have hin:=ha.2
   cases e with
   | submit p g opts | promote tenant=>
    simp only[Stage.first] at hin ⊢
    split_ifs at hin ⊢<;>simp_all
   | _=>exact absurd rfl hin
  have hold:∀ x,x∈(stages env t).stages P++[Stage.first t e]→
    x∈(stages env t).stages P∨x=.submitting∨x=.sweeping:=by
   intro x hx
   rcases List.mem_append.1 hx with hx | hx
   ·exact .inl hx
   ·rw[List.mem_singleton.1 hx]
    exact .inr hplain
  refine ⟨h.bound,fun hx=>h.room ?_,fun l hx=>h.capped l ?_,fun l hx=>h.promoting l ?_,fun hx=>h.inside ?_⟩ <;>
   simpa using hold _ hx
 ·intro P i o c n _ ha hnext hn hall h
  obtain ⟨hfix,halone⟩:=ha c hnext
  exact h.call hcap hn hall hfix halone

instance (e:Entry):Decidable (ofTenant t e):=
 match e with
 | .submit .. =>inferInstanceAs (Decidable (_=_))
 | .promote _=>inferInstanceAs (Decidable (_=_))
 | .worker _ | .renew .. | .approve .. | .cancel .. | .reap | .resume .. =>inferInstanceAs (Decidable False)

def capOne(id:String):Oracle:=
 { answer:=fun q=>match q with
  | .concurrencyLimit _=>(1:Int)
  | .newID=>id
  | q=>bareAnswer q}

def oneStep:Graph:={id:="g",tenant:="acme",workspace:="w",nodes:=[{id:="a",module:="m" }],edges:=[]}

def member:Principal:={subject:="s",tenant:="acme",runner:=true}

def stepsOf(i k:Nat)(id:String):List (Action (daemon bareEnv)):=replicate k (.step i (capOne id))

def submitted(g:Graph):Action (daemon bareEnv):=.start (.submit member g {})

/-- The second submission counts after the first has inserted its run. -/
def inTurn:Pool (daemon bareEnv):=
 (holding bareEnv {}).after (calmRuns bareEnv "acme" 1)
  ([submitted oneStep]++stepsOf 0 7 "r1"++[submitted oneStep]++stepsOf 1 6 "r2"++[.start (.promote "acme")]++stepsOf 2 3 "")

theorem one_run_of_two:(runningRuns inTurn.state.store "acme":Int)≤1:=
 have hr:Reach (calmRuns bareEnv "acme" 1) (holding bareEnv {}) inTurn:=reach_after (by decide +kernel)
 cap_not_passed (by decide) (by decide) hr

example:inTurn.state.store.records.rows.map (fun r=>(r.id,r.status)) =
 [("r1",.running),("r1:a",.queued),("r2",.queued)]:=by decide +kernel

/-- Both submissions count before either inserts. -/
def sideBySide:Pool (daemon bareEnv):=
 (holding bareEnv {}).after (capRuns bareEnv "acme" 1)
  ([submitted oneStep,submitted oneStep]++stepsOf 0 4 "r1"++stepsOf 1 4 "r2"++stepsOf 0 2 "r1"++stepsOf 1 2 "r2")

def emptyFlow:Pool (daemon bareEnv):=
 (holding bareEnv {}).after (capRuns bareEnv "acme" 1)
  ([submitted oneStep]++stepsOf 0 7 "r1"++[submitted {oneStep with nodes:=[]}]++stepsOf 1 4 "r2")

theorem cap_passed:
 (Reach (capRuns bareEnv "acme" 1) (holding bareEnv {}) sideBySide∧runningRuns sideBySide.state.store "acme"=2)∧
 Reach (capRuns bareEnv "acme" 1) (holding bareEnv {}) emptyFlow∧runningRuns emptyFlow.state.store "acme"=2:=
 ⟨⟨reach_after (by decide +kernel),by decide +kernel⟩,reach_after (by decide +kernel),by decide +kernel⟩

end Dazyflow.ConcurrencyCap
