import Dazyflow.QuietPrograms

/-!
# Programs that populate a run

The calls by which a run gets its first node records, whatever the store answers: reads of the steps of the
run and inserts of such records.
-/
namespace Dazyflow.Daemon
open FlowGraph JobRecords
open Interleaving.Prog (only_bind only_ask only_pure within_bind_yields yields_bind yields_true)

def Populates(run:String)(P:JobRecord→Prop):Call→Prop
 | .store .plain (.get k)=>∃ id,k=nodeJobID run id
 | .store .plain (.enqueue rec) | .store .enqueueReady (.enqueue rec)=>P rec
 | .store .plain (.enqueueNodes recs) | .store .enqueueReady (.enqueueNodes recs)=>∀ rec∈recs,P rec
 | _=>False

variable {run:String}{g:Graph}{P:JobRecord→Prop}

section Inserts

variable {site:Site}(hsite:site=.plain∨site=.enqueueReady)
include hsite

lemma populates_tryEnqueueNodes{recs}(h:∀ rec∈recs,P rec):
 (tryEnqueueNodes site recs).Only (Populates run P):=by
 unfold tryEnqueueNodes
 split
 ·split_ifs
  ·rcases hsite with rfl | rfl<;>
    exact only_bind (only_ask (S:=sig) h) fun r=>by cases r<;>exact only_pure _
  ·exact only_pure _
 ·exact only_pure _
lemma populates_enqueueEach{recs}(queued failed)
 (h:∀ rec∈recs,P rec):(enqueueEach site recs queued failed).Only (Populates run P):=by
 induction recs generalizing queued failed with
 | nil=>exact only_pure _
 | cons rec rest ih=>
  have hrest:=fun r hr=>h r (List.mem_cons_of_mem _ hr)
  have hone:(storeAt site (.enqueue rec)).Only (Populates run P):=by
   rcases hsite with rfl | rfl<;>exact only_ask (S:=sig) (h rec List.mem_cons_self)
  exact only_bind hone fun
   | .ok _=>ih _ _ hrest
   | .error _=>ih _ _ hrest

end Inserts

section Records

variable (hdep:∀ id,P (dependentRecord g run id))
include hdep

lemma populates_enqueueReadyDependents(source):
 (enqueueReadyDependents g run source).Only (Populates run P):=by
 have hread:∀ id,(getRecord (nodeJobID run id)).Only (Populates run P):=
  fun id=>only_bind (only_ask (S:=sig) ⟨id,rfl⟩) (fun r=>by cases r<;>exact only_pure _)
 refine within_bind_yields (only_readyDependents hread _ _ _)
  (readyDependents_all (P:=P) _ [] (fun id _=>hdep id) (by simp)) (fun ready h=>?_)
 exact only_bind (populates_tryEnqueueNodes (.inr rfl) h) fun
  | some n=>only_pure _
  | none=>only_bind (populates_enqueueEach (.inr rfl) _ _ h) (fun _=>only_pure _)
lemma populates_fanOutSeeds(seeded queued):
 (fanOutSeeds g run seeded queued).Only (Populates run P):=by
 induction seeded generalizing queued with
 | nil=>exact only_pure _
 | cons id rest ih=>exact only_bind (populates_enqueueReadyDependents hdep id) (fun _=>ih _)
lemma populates_dispatchRoots(seeded):(dispatchRoots g run seeded).Only (Populates run P):=by
 have hrecs:∀ rec∈(roots g seeded).map (fun n=>dependentRecord g run n.id),P rec:=by
  intro rec hrec
  obtain ⟨n,_,rfl⟩:=List.mem_map.1 hrec
  exact hdep n.id
 refine only_bind (populates_tryEnqueueNodes (.inl rfl) hrecs) fun
  | some n=>only_bind (populates_fanOutSeeds hdep _ _) (fun _=>only_pure _)
  | none=>?_
 refine only_bind (populates_enqueueEach (.inl rfl) _ _ hrecs) fun out=>?_
 exact only_bind (populates_fanOutSeeds hdep _ _) fun _=>only_pure _

end Records

lemma populates_persistSeedsOnly(hseed:∀ id result,P (seedRecord g run id result))(seeds):
 (persistSeedsOnly g run seeds).Only (Populates run P):=by
 induction seeds with
 | nil=>exact only_pure _
 | cons s rest ih=>
  exact only_bind (only_ask (S:=sig) (hseed s.1 s.2)) fun
   | .ok _=>ih
   | .error _=>only_bind ih (fun _=>only_pure _)
lemma populates_populateSeededRun(hdep:∀ id,P (dependentRecord g run id))
 (hseed:∀ id result,P (seedRecord g run id result))(seeds):
 (populateSeededRun g run seeds).Only (Populates run P):=
 only_bind (populates_persistSeedsOnly hseed seeds)
  fun _=>only_bind (populates_dispatchRoots hdep _) (fun _=>only_pure _)

end Dazyflow.Daemon
