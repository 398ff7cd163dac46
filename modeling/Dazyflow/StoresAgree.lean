import Dazyflow.StoreMirror

/-!
# The two job stores side by side

A sequence of calls made on both stores, one clock for the two: they answer alike and hold the same records.
-/
namespace Dazyflow.StoresAgree
open JobRecords KeyedTable MemoryStore StoreOperations PostgresJobs List

structure Call where
 stmt:Statement
 now:Time
 tie:Nat:=0

def Call.memory(c:Call)(m:Memory):Except StoreError c.stmt.op.Val×Memory:=
 apply c.now c.tie m c.stmt.op

def Call.postgres(c:Call)(p:Postgres):Except StoreError c.stmt.op.Val×Postgres:=
 p.exec c.now c.tie c.stmt

def runMemory(m:Memory)(calls:List Call):Memory:=calls.foldl (fun m c=>(c.memory m).2) m

def runPostgres(p:Postgres)(calls:List Call):Postgres:=
 calls.foldl (fun p c=>(c.postgres p).2) p

/-- The calls in question: records as the daemon builds them, ids that exist. Results and payloads are values
 that `jsonb` accepts: errors of `json.Marshal` and texts with the character U+0000 are left out. -/
def Fits(m:Memory):Statement→Prop
 | .enqueue rec=>Built rec
 | .enqueueNodes recs=>
  (∀ r∈recs,BuiltStep r)∧∀ r∈recs,∀ r'∈recs,r.tenant=r'.tenant
 | .claim .. =>True
 | .renew jobID .. | .requeue jobID _ | .requeueOwned jobID .. | .complete jobID ..
 | .completeOwned jobID .. | .setGraphRunParked jobID _ | .markGraphRunning jobID=>
  (m.get jobID).isSome
 | .completeAndEnqueue jobID _ _ _ deps=>
  ∃ r,m.get jobID=some r∧∀ d∈deps,BuiltStep d∧d.tenant=r.tenant

/-- What a call needs so that the stores stay alike. -/
def Careful(m:Memory):Statement→Prop
 | .enqueue rec=>rec.triggerDepth=0
 | .completeAndEnqueue jobID _ _ _ deps=>Spaced m jobID deps
 | _=>True

def Admissible(m:Memory)(last:Time):List Call→Prop
 | []=>True
 | c::rest=>
  0<c.now∧last ≤ c.now∧Fits m c.stmt∧Careful m c.stmt∧Admissible (c.memory m).2 c.now rest

section Steps

variable {m:Memory}{p:Postgres}

lemma agree_call(h:Mirrors m p)(c:Call)(hk:Kept c.now m)(hnow:0<c.now)
 (hf:Fits m c.stmt)(hc:Careful m c.stmt):Agree c.now (c.postgres p) (c.memory m):=by
 obtain ⟨stmt,now,tie⟩:=c
 cases stmt with
 | enqueue rec=>exact agree_enqueue h hk hnow hf hc
 | enqueueNodes recs=>exact agree_enqueueNodes h hk hnow hf.1 hf.2
 | claim worker lease=>exact agree_claim h hk tie worker lease
 | renew jobID worker lease=>
  obtain ⟨r,hr⟩:=Option.isSome_iff_exists.1 hf
  exact agree_renew h hk hr worker lease
 | requeue jobID availableAt=>
  obtain ⟨r,hr⟩:=Option.isSome_iff_exists.1 hf
  exact agree_requeue h hk hr "" availableAt
 | requeueOwned jobID worker availableAt=>
  obtain ⟨r,hr⟩:=Option.isSome_iff_exists.1 hf
  exact agree_requeue h hk hr worker availableAt
 | complete jobID status result=>
  obtain ⟨r,hr⟩:=Option.isSome_iff_exists.1 hf
  exact agree_complete h hk hr "" status result
 | completeOwned jobID worker status result=>
  obtain ⟨r,hr⟩:=Option.isSome_iff_exists.1 hf
  exact agree_complete h hk hr worker status result
 | completeAndEnqueue jobID worker status result deps=>
  obtain ⟨r,hr,hd⟩:=hf
  exact agree_completeAndEnqueue h hk hnow hr worker status result (fun d hm=>(hd d hm).1)
   (fun d hm=>(hd d hm).2) hc
 | setGraphRunParked graphRunID parked=>
  obtain ⟨r,hr⟩:=Option.isSome_iff_exists.1 hf
  exact agree_setGraphRunParked h hk hr parked
 | markGraphRunning jobID=>
  obtain ⟨r,hr⟩:=Option.isSome_iff_exists.1 hf
  exact agree_markGraphRunning h hk hr
lemma agree_run(calls:List Call)(c:Call)(last:Time)(m:Memory)(p:Postgres)
 (h:Mirrors m p)(hk:Kept last m)(ha:Admissible m last (calls++[c])):
 Agree c.now (c.postgres (runPostgres p calls)) (c.memory (runMemory m calls)):=by
 induction calls generalizing m p last with
 | nil=>
  obtain ⟨hnow,hle,hf,hc,-⟩:=ha
  exact agree_call h c (hk.mono hle) hnow hf hc
 | cons d rest ih=>
  obtain ⟨hnow,hle,hf,hc,hrest⟩:=ha
  obtain ⟨-,h',hk'⟩:=agree_call h d (hk.mono hle) hnow hf hc
  exact ih d.now _ _ h' hk' hrest

end Steps

def claimableInMemory(now:Time)(m:Memory)(id:String):Bool:=(m.get id).any (m.claimable now)

def claimableInPostgres(now:Time)(p:Postgres)(id:String):Bool:=
 (p.jobs.find? id).any (p.claimable now)

lemma Mirrors.claimable_id{m p now}(h:Mirrors m p)
 (hk:Kept now m)(id):claimableInPostgres now p id=claimableInMemory now m id:=by
 unfold claimableInPostgres claimableInMemory
 rw[h.find?]
 cases hr:m.get id with
 | none=>rfl
 | some r=>
  have hmem:r∈m.records.rows:=(find?_eq_some_iff m.records id r).1 hr |>.1
  exact h.claimable hk hmem

def emptyMemory(spacing cap:Int):Memory:={burstSpacing:=spacing,maxConcurrent:=cap}

def emptyPostgres(spacing cap:Int):Postgres:={burstSpacing:=spacing,maxConcurrent:=cap}

/-- After any careful run the last call is answered alike, every record reads the
 same from both stores, and the same records may be claimed from then on. -/
theorem job_stores_agree(spacing cap:Int)(calls:List Call)(c:Call)
 (h:Admissible (emptyMemory spacing cap) 0 (calls++[c])):
 (c.postgres (runPostgres (emptyPostgres spacing cap) calls)).1 =
   (c.memory (runMemory (emptyMemory spacing cap) calls)).1∧
  (∀ id,(runPostgres (emptyPostgres spacing cap) (calls++[c])).get id =
   (apply c.now 0 (runMemory (emptyMemory spacing cap) (calls++[c])) (.get id)).1)∧
  ∀ now,c.now ≤ now→∀ id,
   claimableInPostgres now (runPostgres (emptyPostgres spacing cap) (calls++[c])) id =
    claimableInMemory now (runMemory (emptyMemory spacing cap) (calls++[c])) id:=by
 have hm:Mirrors (emptyMemory spacing cap) (emptyPostgres spacing cap):=⟨rfl,rfl,rfl⟩
 have hnone:∀ {k r},(emptyMemory spacing cap).get k≠some r:=Option.some_ne_none _ ∘ Eq.symm
 have hk:Kept 0 (emptyMemory spacing cap):=
  ⟨fun _ _ hr=>absurd hr hnone,fun _ _ hr=>absurd hr hnone,fun _ _ hr=>absurd hr hnone,
   fun _ _ hr=>absurd hr hnone⟩
 obtain ⟨ho,hm',hk'⟩:=agree_run calls c 0 _ _ hm hk h
 have hmem:runMemory (emptyMemory spacing cap) (calls++[c]) =
   (c.memory (runMemory (emptyMemory spacing cap) calls)).2:=foldl_concat ..
 have hpg:runPostgres (emptyPostgres spacing cap) (calls++[c]) =
   (c.postgres (runPostgres (emptyPostgres spacing cap) calls)).2:=foldl_concat ..
 rw[hmem,hpg]
 exact ⟨ho,hm'.get hk',fun now hle=>hm'.claimable_id (hk'.mono hle)⟩

def startedRun:List Call:=
 [{stmt:=.enqueue {id:="r",kind:=.graph,tenant:="t",status:=.running,manual:=true},now:=1},
  { stmt:=.enqueueNodes [{id:="r:a",kind:=.node,graphRunID:="r",tenant:="t" },
   {id:="r:b",kind:=.node,graphRunID:="r",tenant:="t" }],now:=2},
  {stmt:=.claim "w" 30,now:=3}]

def finishedStep:Call:=
 { stmt:=.completeAndEnqueue "r:a" "w" .succeeded none
    [{id:="r:d",kind:=.node,graphRunID:="r",tenant:="t" }],now:=4}

theorem started_run_agrees:
 (finishedStep.memory (runMemory (emptyMemory 100 0) startedRun)).1 =
   .ok {runStatus:=.running,enqueued:=1}∧
  (finishedStep.postgres (runPostgres (emptyPostgres 100 0) startedRun)).1 =
   .ok {runStatus:=.running,enqueued:=1}:=by
 have hm:(finishedStep.memory (runMemory (emptyMemory 100 0) startedRun)).1 =
   .ok {runStatus:=.running,enqueued:=1}:=by rfl
 refine ⟨hm,(job_stores_agree 100 0 startedRun finishedStep ?_).1.trans hm⟩
 refine ⟨by decide,by decide,⟨rfl,rfl,rfl,rfl,rfl,rfl,by decide⟩,rfl,?_⟩
 refine ⟨by decide,by decide,⟨?_,by decide⟩,trivial,?_⟩
 ·refine forall_mem_cons.2 ⟨⟨rfl,rfl,by decide⟩,?_⟩
  exact forall_mem_singleton.2 ⟨rfl,rfl,by decide⟩
 refine ⟨by decide,by decide,trivial,trivial,?_⟩
 refine ⟨by decide,by decide,⟨_,rfl,?_⟩,.inr ⟨rfl,pairwise_singleton _ _⟩,trivial⟩
 exact forall_mem_singleton.2 ⟨⟨rfl,rfl,by decide⟩,rfl⟩

def chainedRun:Call:=
 {stmt:=.enqueue {id:="r",kind:=.graph,tenant:="t",status:=.running,triggerDepth:=2},now:=1}

/-- One tenant's completion offers a step that has a record before a new one, and
 another tenant queues a step soon after. -/
def gappedRun:List Call:=
 [{stmt:=.enqueue {id:="r:a",kind:=.node,graphRunID:="r",tenant:="t" },now:=1},
  {stmt:=.claim "w" 1000,now:=2},
  {stmt:=.enqueue {id:="r:x",kind:=.node,graphRunID:="r",tenant:="t" },now:=3},
  {stmt:=.claim "w" 1000,now:=4},
  { stmt:=.completeAndEnqueue "r:a" "w" .succeeded none
     [{id:="r:x",kind:=.node,graphRunID:="r",tenant:="t" },
      {id:="r:y",kind:=.node,graphRunID:="r",tenant:="t" }],now:=10},
  {stmt:=.enqueue {id:="s:b",kind:=.node,graphRunID:="s",tenant:="u" },now:=50}]

def lateClaim:Call:={stmt:=.claim "w" 1000,now:=60}

/-- The table loses the depth of a chained run, and a gap in the slots lets one
 store claim another step than the other. -/
theorem job_stores_disagree:
 ((chainedRun.postgres (emptyPostgres 100 0)).2.get "r").map JobRecord.triggerDepth=.ok 0∧
  ((chainedRun.memory (emptyMemory 100 0)).2.get "r").map JobRecord.triggerDepth=some 2∧
  (lateClaim.memory (runMemory (emptyMemory 100 0) gappedRun)).1.map JobRecord.id=.ok "r:y"∧
  (lateClaim.postgres (runPostgres (emptyPostgres 100 0) gappedRun)).1.map JobRecord.id=.ok "s:b":=
 ⟨rfl,rfl,rfl,rfl⟩

end Dazyflow.StoresAgree
