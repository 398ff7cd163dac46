import Dazyflow.QuietPrograms
import Dazyflow.RelyGuarantee
import Dazyflow.RunRecords

/-!
# What the daemon's reads tell

Rules for the reading parts of the daemon's programs that hold under every contract which leaves quiet calls
free.
-/
namespace Dazyflow.ReadSpecs
open JobRecords StoreOperations
open Daemon RunRecords Interleaving Interleaving.Contract

variable {env:Env}{K:Contract (daemon env)}{α β:Type}

variable (K) in
/-- A contract over well-kept stores that leaves quiet calls free. -/
structure Regular:Prop where
 kept:∀ s,K.inv s→WellKept s.store
 flows:∀ s t,K.rely s t→Flows s.store t.store
 free:∀ n c s,Quiet c→K.guar n c s
 still:∀ n e,Quiet e.call→K.note n e=n

variable {I:K.Note→World→Prop}(hK:Regular K){p:Prog α}
include hK

lemma triple_quiet(hp:p.Only Quiet)(hI:K.Stable I):K.Keeps I p:=by
 refine triple_only hp hI (fun c hc n t _ _=>hK.free n c t hc) ?_
 intro c hc n t o hi hIt ho hr hinv
 rw[hK.still n _ hc]
 exact hI n t _ hr hinv hIt
lemma triple_then{k:α→Prog β}{Q:β→K.Note→World→Prop}(hp:p.Only Quiet)
 (hI:K.Stable I)(hk:∀ a,K.Triple I (k a) Q):K.Triple I (p>>=k) Q:=
 triple_bind (triple_quiet hK hp hI) hk
lemma triple_read{op}{Q:Except StoreError op.Val→K.Note→World→Prop}
 (hop:reads op)(hI:K.Stable I)(hQ:∀ r,K.Stable (Q r))
 (h:∀ n s now tie,K.inv s→I n s→Q (apply now tie s.store op).1 n s):
 K.Triple I (storeAt .plain op) Q:=by
 have hq:Quiet (.store .plain op):=⟨hop,.inl rfl⟩
 refine triple_ask (S:=sig) hI hQ (fun n t _ _=>hK.free n _ t hq) ?_
 intro n t o hi hIt ho hr hinv
 rw[hK.still n _ hq]
 exact hQ _ n t _ hr hinv (h n t o.now o.tie hi hIt)
lemma triple_query{q}{Q:q.Answer→K.Note→World→Prop}(hq:Quiet (.ask q))
 (hI:K.Stable I)(hQ:∀ r,K.Stable (Q r))
 (h:∀ n s o,K.inv s→I n s→K.legal (.ask q) o s→Q (o.answer q) n s):
 K.Triple I (query q) Q:=by
 refine triple_ask (S:=sig) hI hQ (fun n t _ _=>hK.free n _ t hq) ?_
 intro n t o hi hIt ho hr hinv
 rw[hK.still n _ hq]
 exact h n t o hi hIt ho
lemma triple_getRecord{id}{Q:Option JobRecord→K.Note→World→Prop}
 (hI:K.Stable I)(hQ:∀ r,K.Stable (Q r))
 (h:∀ n s,K.inv s→I n s→Q (s.store.get id) n s):K.Triple I (getRecord id) Q:=by
 refine triple_bind (Q:=fun r n s=>Q r.toOption n s) (triple_read hK rfl hI (fun r=>hQ _) ?_) ?_
 ·intro n s now tie hi hIs
  have hget:(apply now tie s.store (.get id)).1.toOption=s.store.get id:=by
   simp only[apply]
   cases s.store.get id<;>rfl
  rw[hget]
  exact h n s hi hIs
 ·intro r
  cases r with
  | ok r | error e=>exact triple_done (hQ _) (fun _ _ _ hq=>hq)
lemma stable_runOf(run g):K.Stable (fun _ s=>RunOf s.store run g):=
 fun _ s t hr _ h=>RunOf.later h (hK.flows s t hr).toEvolves

variable {R:β→K.Note→World→Prop}

lemma triple_lookup{id k}
 (φ:JobRecord→K.Note→World→Prop)(hI:K.Stable I)(hφ:∀ r,K.Stable (φ r))
 (h:∀ n s r,K.inv s→I n s → s.store.get id=some r→φ r n s)
 (hnone:K.Triple I (k none) R)
 (hsome:∀ r,K.Triple (fun n s=>I n s∧φ r n s) (k (some r)) R):
 K.Triple I (getRecord id>>=k) R:=by
 refine triple_bind (Q:=fun o n s=>I n s∧∀ r,o=some r→φ r n s)
  (triple_getRecord hK hI ?_ fun n s hi hIs=>⟨hIs,fun r hr=>h n s r hi hIs hr⟩) ?_
 ·exact fun o=>stable_and hI fun n s t hr hi hs r ho=>hφ r n s t hr hi (hs r ho)
 ·intro o
  cases o with
  | none=>exact triple_mono hnone (fun _ _ _ h=>h.1) (fun _ _ _ _ h=>h)
  | some r=>exact triple_mono (hsome r) (fun _ _ _ h=>⟨h.1,h.2 r rfl⟩) (fun _ _ _ _ h=>h)
lemma triple_runRecord{run k}
 (hI:K.Stable I)(hnone:K.Triple I (k none) R)(hbare:∀ r,r.graphPayload=none→K.Triple I (k (some r)) R)
 (hsome:∀ r g,r.graphPayload=some g→K.Triple (fun n s=>I n s∧RunOf s.store run g) (k (some r)) R):
 K.Triple I (getRecord run>>=k) R:=by
 refine triple_lookup hK (fun r _ s=>∀ g,r.graphPayload=some g→RunOf s.store run g) hI ?_ ?_ hnone fun r=>?_
 ·exact fun r n s t hr hi h g hg=>stable_runOf hK run g n s t hr hi (h g hg)
 ·exact fun n s r hi _ hr g hg=>(hK.kept s hi).runOf hr hg
 ·cases hp:r.graphPayload with
  | none=>exact triple_mono (hbare r hp) (fun _ _ _ h=>h.1) (fun _ _ _ _ h=>h)
  | some g=>exact triple_mono (hsome r g hp) (fun _ _ _ h=>⟨h.1,h.2 g rfl⟩) (fun _ _ _ _ h=>h)
lemma triple_withGraph{run k}
 (hI:K.Stable I)(hnone:K.Triple I (k none) R)
 (hsome:∀ g,K.Triple (fun n s=>I n s∧RunOf s.store run g) (k (some g)) R):
 K.Triple I (fetchGraph run>>=k) R:=by
 unfold fetchGraph
 rw[Interleaving.Prog.bind_assoc]
 refine triple_runRecord hK hI hnone (fun r hp=>?_) fun r g hp=>?_
 ·simpa[hp] using hnone
 ·simpa[hp] using hsome g
lemma triple_withRun{run k}
 (hI:K.Stable I)(herr:∀ msg,K.Triple I (k (.error msg)) R)
 (hok:∀ c:CachedRun,K.Triple (fun n s=>I n s∧RunOf s.store run c.graph) (k (.ok c)) R):
 K.Triple I (fetchRun run>>=k) R:=by
 unfold fetchRun
 rw[Interleaving.Prog.bind_assoc]
 refine triple_runRecord hK hI (herr _) (fun r hp=>?_) fun r g hp=>?_
 ·simpa[hp] using herr _
 ·simpa[hp] using hok ⟨g,r.manual⟩

end Dazyflow.ReadSpecs
