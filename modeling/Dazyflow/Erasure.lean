import Dazyflow.GoStrings

/-!
# Erasing an organisation

`deleteOrgData` on the tables its tenant-scoped steps reach, with the stores as `cmd/dzd` composes them.
-/
namespace Dazyflow.Erasure
open GoStrings List

structure JobRow where
 (id tenant:String)
 deriving DecidableEq

-- `run_logs` and `bus_events`: such a row names a job, not a tenant
structure LinkedRow where
 (jobID payload:String)
 deriving DecidableEq

structure TenantRow where
 (tenant payload:String)
 deriving DecidableEq

structure TenantPlan where
 tenant:String
 plan:String:="free"
 stripeSubscriptionID:String:=""
 subscriptionStatus:String:=""
 deriving DecidableEq

structure Database where
 jobs:List JobRow:=[]
 runLogs:List LinkedRow:=[]
 busEvents:List LinkedRow:=[]
 flowSchedules:List TenantRow:=[]
 tenantPlans:List TenantPlan:=[]
 usageCounters:List TenantRow:=[]
 deriving DecidableEq

def deleteWhere{α:Type}(p:α→Bool)(rows:List α):Nat×List α:=
 (rows.countP p,rows.filter fun r=>!p r)

lemma mem_deleteWhere{α:Type}{p:α→Bool}{rows:List α}{r:α}:
 r∈(deleteWhere p rows).2↔r∈rows∧p r=false:=by
 simp[deleteWhere]

-- SELECT id FROM jobs WHERE tenant = $1
def jobIDsOf(db:Database)(tenant:String):List String:=
 (db.jobs.filter fun j=>j.tenant==tenant).map JobRow.id

lemma mem_jobIDsOf{db tenant id}:
 id∈jobIDsOf db tenant↔∃ j∈db.jobs,j.tenant=tenant∧j.id=id:=by
 simp only[jobIDsOf,mem_map,mem_filter,beq_iff_eq]
 constructor
 ·rintro ⟨j,⟨hj,ht⟩,hid⟩
  exact ⟨j,hj,ht,hid⟩
 ·rintro ⟨j,hj,ht,hid⟩
  exact ⟨j,⟨hj,ht⟩,hid⟩

namespace Database

def deleteJobs(db:Database)(tenant:String):Nat×Database:=
 let d:=deleteWhere (fun j=>j.tenant==tenant) db.jobs
 (d.1,{db with jobs:=d.2})

def deleteFlowSchedules(db:Database)(tenant:String):Nat×Database:=
 let d:=deleteWhere (fun r=>r.tenant==tenant) db.flowSchedules
 (d.1,{db with flowSchedules:=d.2})

def deleteUsageCounters(db:Database)(tenant:String):Nat×Database:=
 let d:=deleteWhere (fun r=>r.tenant==tenant) db.usageCounters
 (d.1,{db with usageCounters:=d.2})

def deleteTenantPlans(db:Database)(tenant:String):Nat×Database:=
 let d:=deleteWhere (fun r=>r.tenant==tenant) db.tenantPlans
 (d.1,{db with tenantPlans:=d.2})

def deleteRunLogs(db:Database)(tenant:String):Nat×Database:=
 let d:=deleteWhere (fun r=>(jobIDsOf db tenant).contains r.jobID) db.runLogs
 (d.1,{db with runLogs:=d.2})

def deleteBusEvents(db:Database)(tenant:String):Nat×Database:=
 let d:=deleteWhere (fun r=>(jobIDsOf db tenant).contains r.jobID) db.busEvents
 (d.1,{db with busEvents:=d.2})

end Database

inductive StoreValue
 | postgres
 | pgScheduleStore
 | pgRunLogStore
 | pgBus
 | recordingBus (inner store:StoreValue)
 | pgPlanStore
 | cachedPlanStore (inner:StoreValue)
 | pgUsageStore

/-- The assertion `store.(tenantEraser)`. A decorator has the methods it declares
 itself; neither of the two declares `DeleteByTenant`. -/
def StoreValue.tenantEraser:StoreValue→Option (Database→String→Nat×Database)
 | .postgres=>some Database.deleteJobs
 | .pgScheduleStore=>some Database.deleteFlowSchedules
 | .pgRunLogStore=>some Database.deleteRunLogs
 | .pgBus=>some Database.deleteBusEvents
 | .pgPlanStore=>some Database.deleteTenantPlans
 | .pgUsageStore=>some Database.deleteUsageCounters
 | .recordingBus .. | .cachedPlanStore _=>none

structure Service where
 (jobs schedules runLogs bus plans usage:StoreValue)

def dzd:Service where
 jobs:=.postgres
 schedules:=.pgScheduleStore
 runLogs:=.pgRunLogStore
 bus:=.recordingBus .pgBus .pgRunLogStore
 plans:=.cachedPlanStore .pgPlanStore
 usage:=.pgUsageStore

structure EraseReport where
 tenant:String
 jobs:Nat:=0
 flowSchedules:Nat:=0
 runLogs:Nat:=0
 busEvents:Nat:=0
 plans:Nat:=0
 usageCounters:Nat:=0
 warnings:List String:=[]
 deriving DecidableEq

def tallyByTenant(store:StoreValue)(tenant:String)(db:Database):Option Nat×Database:=
 match store.tenantEraser with
 | none=>(none,db)
 | some erase=>(some (erase db tenant).1,(erase db tenant).2)

-- the entries that have not expired
abbrev PlanCache:=List (String×TenantPlan)

def pgGetPlan(db:Database)(tenant:String):TenantPlan:=
 (db.tenantPlans.find? fun p=>p.tenant==tenant).getD {tenant:=tenant,plan:="free" }

def getPlan(store:StoreValue)(db:Database)(cache:PlanCache)(tenant:String):TenantPlan×PlanCache:=
 match store with
 | .cachedPlanStore _=>
  match cache.lookup tenant with
  | some p=>(p,cache)
  | none=>(pgGetPlan db tenant,(tenant,pgGetPlan db tenant)::cache)
 | _=>(pgGetPlan db tenant,cache)

def liveSubscription(p:TenantPlan):Bool:=
 p.stripeSubscriptionID != ""&&["active","trialing","past_due"].contains p.subscriptionStatus

def billingWarning(p:TenantPlan):String:=
 "billing: Stripe subscription "++p.stripeSubscriptionID++" ("++p.subscriptionStatus ++
  ") is still live — cancel it in Stripe; the local mapping to this org is being erased"

def deleteOrgData(svc:Service)(db:Database)(cache:PlanCache)(tenant₀:String):
 Except String EraseReport×Database×PlanCache:=
 let tenant:=trimSpace tenant₀
 if tenant="" then (.error "tenant required",db,cache)
 else
  let jobs:=tallyByTenant svc.jobs tenant db
  let schedules:=tallyByTenant svc.schedules tenant jobs.2
  let runLogs:=tallyByTenant svc.runLogs tenant schedules.2
  let busEvents:=tallyByTenant svc.bus tenant runLogs.2
  let plan:=getPlan svc.plans busEvents.2 cache tenant
  let plans:=tallyByTenant svc.plans tenant busEvents.2
  let usage:=tallyByTenant svc.usage tenant plans.2
  (.ok { tenant:=tenant
         jobs:=jobs.1.getD 0
         flowSchedules:=schedules.1.getD 0
         runLogs:=runLogs.1.getD 0
         busEvents:=busEvents.1.getD 0
         plans:=plans.1.getD 0
         usageCounters:=usage.1.getD 0
         warnings:=if liveSubscription plan.1 then [billingWarning plan.1] else []},
   usage.2,plan.2)

/-- No row of the tenant remains; a linked row is the tenant's when its job was, before. -/
structure Erased(before:Database)(tenant:String)(after:Database):Prop where
 jobs:∀ r∈after.jobs,r.tenant≠tenant
 runLogs:∀ r∈after.runLogs,r.jobID∉jobIDsOf before tenant
 busEvents:∀ r∈after.busEvents,r.jobID∉jobIDsOf before tenant
 flowSchedules:∀ r∈after.flowSchedules,r.tenant≠tenant
 tenantPlans:∀ r∈after.tenantPlans,r.tenant≠tenant
 usageCounters:∀ r∈after.usageCounters,r.tenant≠tenant

/-- The rows of every other tenant are the ones there were, in their order. -/
structure OthersKept(before:Database)(tenant:String)(after:Database):Prop where
 jobs:∀ u,u≠tenant→after.jobs.filter (fun r=>r.tenant==u)=before.jobs.filter (fun r=>r.tenant==u)
 runLogs:∀ u,u≠tenant→
  after.runLogs.filter (fun r=>(jobIDsOf before u).contains r.jobID) =
   before.runLogs.filter (fun r=>(jobIDsOf before u).contains r.jobID)
 busEvents:∀ u,u≠tenant→
  after.busEvents.filter (fun r=>(jobIDsOf before u).contains r.jobID) =
   before.busEvents.filter (fun r=>(jobIDsOf before u).contains r.jobID)
 flowSchedules:∀ u,u≠tenant→
  after.flowSchedules.filter (fun r=>r.tenant==u)=before.flowSchedules.filter (fun r=>r.tenant==u)
 tenantPlans:∀ u,u≠tenant→
  after.tenantPlans.filter (fun r=>r.tenant==u)=before.tenantPlans.filter (fun r=>r.tenant==u)
 usageCounters:∀ u,u≠tenant→
  after.usageCounters.filter (fun r=>r.tenant==u)=before.usageCounters.filter (fun r=>r.tenant==u)

def OwnsNothing(db:Database)(tenant:String):Prop:=
 (∀ r∈db.jobs,r.tenant≠tenant)∧(∀ r∈db.flowSchedules,r.tenant≠tenant)∧
  ∀ r∈db.usageCounters,r.tenant≠tenant

/-- The states the cascade erases a tenant from: nothing is linked to one of its
 jobs and it has no plan row. An id with outer blanks is trimmed first, which
 does no harm only when neither name owns a row. -/
structure Erasable(db:Database)(tenant:String):Prop where
 runLogs:∀ r∈db.runLogs,r.jobID∉jobIDsOf db tenant
 busEvents:∀ r∈db.busEvents,r.jobID∉jobIDsOf db tenant
 tenantPlans:∀ r∈db.tenantPlans,r.tenant≠tenant
 trimmed:trimSpace tenant=tenant∨OwnsNothing db tenant∧OwnsNothing db (trimSpace tenant)

def remaining(db:Database)(tenant:String):Database:=
 { db with
  jobs:=(deleteWhere (fun j=>j.tenant==tenant) db.jobs).2
  flowSchedules:=(deleteWhere (fun r=>r.tenant==tenant) db.flowSchedules).2
  usageCounters:=(deleteWhere (fun r=>r.tenant==tenant) db.usageCounters).2}

-- The jobs go first, so the tenant has none left for the log lines to join.
lemma jobIDsOf_deleteJobs(db:Database)(tenant:String):
 jobIDsOf (db.deleteJobs tenant).2 tenant=[]:=by
 rw[eq_nil_iff_forall_not_mem]
 intro id hid
 obtain ⟨j,hj,ht,-⟩:=mem_jobIDsOf.1 hid
 have hkept:=(mem_deleteWhere.1 hj).2
 simp[ht] at hkept

variable {α:Type}{db:Database}{t u:String}

lemma deleteRunLogs_of_no_jobs{tenant}(h:jobIDsOf db tenant=[]):
 (db.deleteRunLogs tenant).2=db:=by
 simp[Database.deleteRunLogs,deleteWhere,h]
lemma deleteOrgData_database{db' cache cache' tenant}
 {rep}(h:deleteOrgData dzd db cache tenant=(.ok rep,db',cache')):
 db'=remaining db (trimSpace tenant):=by
 unfold deleteOrgData at h
 by_cases hempty:trimSpace tenant=""
 ·simp[hempty] at h
 simp only[if_neg hempty,Prod.mk.injEq] at h
 rw[←h.2.1]
 have hjobs:jobIDsOf ((db.deleteJobs (trimSpace tenant)).2.deleteFlowSchedules (trimSpace tenant)).2
  (trimSpace tenant)=[]:=jobIDsOf_deleteJobs db (trimSpace tenant)
 simp only[tallyByTenant,dzd,StoreValue.tenantEraser,deleteRunLogs_of_no_jobs hjobs]
 rfl
lemma filter_deleteWhere{p q}(rows:List α)
 (h:∀ r∈rows,q r→p r=false):(deleteWhere p rows).2.filter q=rows.filter q:=by
 simp only[deleteWhere,filter_filter]
 refine filter_congr fun r hr=>?_
 cases hq:q r with
 | false=>simp
 | true=>simp[h r hr hq]
lemma owner_rows_kept(owner:α→String)(rows)(h:u≠t):
 (deleteWhere (fun r=>owner r==t) rows).2.filter (fun r=>owner r==u) =
  rows.filter (fun r=>owner r==u):=by
 refine filter_deleteWhere rows fun r _ hu=>?_
 rw[beq_iff_eq] at hu
 simpa[hu] using h
lemma owner_rows_gone(owner:α→String)(rows t):
 ∀ r∈(deleteWhere (fun r=>owner r==t) rows).2,owner r≠t:=by
 intro r hr
 simpa using (mem_deleteWhere.1 hr).2
lemma remaining_othersKept(db tenant):OthersKept db tenant (remaining db tenant) where
 jobs _ hu:=owner_rows_kept JobRow.tenant db.jobs hu
 runLogs _ _:=rfl
 busEvents _ _:=rfl
 flowSchedules _ hu:=owner_rows_kept TenantRow.tenant db.flowSchedules hu
 tenantPlans _ _:=rfl
 usageCounters _ hu:=owner_rows_kept TenantRow.tenant db.usageCounters hu
lemma deleteWhere_owner_nil(owner:α→String){rows}
 (h:∀ r∈rows,owner r≠t):(deleteWhere (fun r=>owner r==t) rows).2=rows:=by
 simpa[deleteWhere] using h
lemma remaining_of_ownsNothing{tenant}(h:OwnsNothing db tenant):
 remaining db tenant=db:=by
 obtain ⟨hj,hs,hu⟩:=h
 simp only[remaining,deleteWhere_owner_nil JobRow.tenant hj,deleteWhere_owner_nil TenantRow.tenant hs,
  deleteWhere_owner_nil TenantRow.tenant hu]
lemma remaining_erased{tenant}
 (hlogs:∀ r∈db.runLogs,r.jobID∉jobIDsOf db tenant)
 (hevents:∀ r∈db.busEvents,r.jobID∉jobIDsOf db tenant)
 (hplans:∀ r∈db.tenantPlans,r.tenant≠tenant):Erased db tenant (remaining db tenant) where
 jobs:=owner_rows_gone JobRow.tenant db.jobs tenant
 runLogs:=hlogs
 busEvents:=hevents
 flowSchedules:=owner_rows_gone TenantRow.tenant db.flowSchedules tenant
 tenantPlans:=hplans
 usageCounters:=owner_rows_gone TenantRow.tenant db.usageCounters tenant
lemma owner_rows_left(owner:α→String){rows:List α}(htu:u≠t)
 (h:∀ r∈(deleteWhere (fun r=>owner r==u) rows).2,owner r≠t):∀ r∈rows,owner r≠t:=by
 intro r hr ht
 refine h r (mem_deleteWhere.2 ⟨hr,?_⟩) ht
 simpa[ht] using Ne.symm htu
lemma owner_rows_none(owner:α→String){rows:List α}
 (h:(deleteWhere (fun r=>owner r==u) rows).2.filter (fun r=>owner r==u) =
  rows.filter fun r=>owner r==u):∀ r∈rows,owner r≠u:=by
 intro r hr hu
 have hmem:r∈rows.filter (fun r=>owner r==u):=by simp[hr,hu]
 rw[←h,mem_filter,mem_deleteWhere] at hmem
 simp[hu] at hmem
lemma ownsNothing_of_untrimmed(htu:u≠t)
 (hgone:Erased db t (remaining db u))(hkept:OthersKept db t (remaining db u)):
 OwnsNothing db t∧OwnsNothing db u:=
 ⟨⟨owner_rows_left JobRow.tenant htu hgone.jobs,owner_rows_left TenantRow.tenant htu hgone.flowSchedules,
  owner_rows_left TenantRow.tenant htu hgone.usageCounters⟩,
  owner_rows_none JobRow.tenant (hkept.jobs u htu),
  owner_rows_none TenantRow.tenant (hkept.flowSchedules u htu),
  owner_rows_none TenantRow.tenant (hkept.usageCounters u htu)⟩
lemma erasable_iff(db tenant):
 Erased db tenant (remaining db (trimSpace tenant))∧OthersKept db tenant (remaining db (trimSpace tenant))↔
  Erasable db tenant:=by
 constructor
 ·rintro ⟨hgone,hkept⟩
  refine ⟨hgone.runLogs,hgone.busEvents,hgone.tenantPlans,?_⟩
  by_cases htrim:trimSpace tenant=tenant
  ·exact .inl htrim
  ·exact .inr (ownsNothing_of_untrimmed htrim hgone hkept)
 ·intro h
  rcases h.trimmed with htrim | ⟨hown,htrimmed⟩
  ·rw[htrim]
   exact ⟨remaining_erased h.runLogs h.busEvents h.tenantPlans,remaining_othersKept db tenant⟩
  ·rw[remaining_of_ownsNothing htrimmed]
   refine ⟨⟨hown.1,h.runLogs,h.busEvents,hown.2.1,h.tenantPlans,hown.2.2⟩,?_⟩
   constructor<;>intro _ _<;>rfl

/-- An erasure that returns, with or without a warning, left nothing of the tenant
 behind and touched no one else exactly when nothing hung on the tenant's jobs
 and it had no plan row. -/
theorem erasure_complete_iff(db db':Database)(cache cache':PlanCache)(tenant:String)(rep:EraseReport)
 (h:deleteOrgData dzd db cache tenant=(.ok rep,db',cache')):
 Erased db tenant db'∧OthersKept db tenant db'↔Erasable db tenant:=by
 rw[deleteOrgData_database h]
 exact erasable_iff db tenant

def unused:Database:=
 { jobs:=[⟨"run-1","acme"⟩,⟨"run-2","other"⟩]
   runLogs:=[⟨"run-2","started"⟩]
   flowSchedules:=[⟨"acme","daily"⟩,⟨"other","daily"⟩],usageCounters:=[⟨"acme","2026-07"⟩]}

theorem unused_org_erased:
 Erased unused "acme" (remaining unused "acme")∧OthersKept unused "acme" (remaining unused "acme"):=
 (erasure_complete_iff unused (remaining unused "acme") [] [("acme",{tenant:="acme" })] "acme"
  {tenant:="acme",jobs:=1,flowSchedules:=1,usageCounters:=1} (by decide +kernel)).2
  ⟨by decide +kernel,by decide +kernel,by decide +kernel,.inl (by decide +kernel)⟩

def lived:Database:=
 { jobs:=[⟨"run-1","acme"⟩]
   runLogs:=[⟨"run-1","dear customer"⟩]
   busEvents:=[⟨"run-1","node finished"⟩]
   tenantPlans:=[{tenant:="acme",stripeSubscriptionID:="sub_1",subscriptionStatus:="canceled" }]}

/-- The log line, the event and the plan row outlive the organisation, without a warning. -/
theorem erased_org_leaves_rows:
 ∃ rep db' cache',deleteOrgData dzd lived [] "acme"=(.ok rep,db',cache')∧rep.warnings=[]∧
  db'.runLogs=lived.runLogs∧db'.busEvents=lived.busEvents∧db'.tenantPlans=lived.tenantPlans∧
  ¬ Erased lived "acme" db':=by
 refine ⟨{tenant:="acme",jobs:=1},remaining lived "acme",[("acme",pgGetPlan lived "acme")],
  by decide +kernel,rfl,rfl,rfl,rfl,?_⟩
 intro h
 exact h.runLogs ⟨"run-1","dear customer"⟩ (by decide +kernel) (by decide +kernel)

end Dazyflow.Erasure
