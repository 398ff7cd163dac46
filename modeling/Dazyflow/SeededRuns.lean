import Dazyflow.RunOutcomes

/-!
# Runs started from seeds

`populateSeededRun` queues a dependent of a seeded step when every predecessor has succeeded; the dispatcher
decides about the same step by classifying its wires.
-/
namespace Dazyflow.SeededRuns
open FlowGraph JobRecords MemoryStore StoreOperations EdgeClassification LoopBodies Daemon List Prod Bool
open RunRecords RunOutcomes Interleaving

structure Adds(recs:List JobRecord)(m m':Memory):Prop where
 kept:∀ k,m'.get k=m.get k∨
  m.get k=none∧∃ rec∈recs,rec.id=k∧∃ now,m'.get k=some (Memory.stamp now rec)
 added:∀ rec∈recs,∃ r,m'.get rec.id=some r

lemma Adds.nil(m):Adds [] m m:=
 ⟨fun _=>.inl rfl,fun _ h=>by cases h⟩
lemma Adds.keeps{recs m m' k r}
 (h:Adds recs m m')(hr:m.get k=some r):m'.get k=some r:=by
 rcases h.kept k with hk | ⟨hn,_⟩
 ·rw[hk,hr]
 ·rw[hr] at hn
  cases hn
lemma Adds.append{as bs m m' m''}(h:Adds as m m')
 (h':Adds bs m' m''):Adds (as++bs) m m'':=by
 constructor
 ·intro k
  rcases h'.kept k with hk' | ⟨hn',rec,hrec,hid,now,hk'⟩
  ·rw[hk']
   rcases h.kept k with hk | ⟨hn,rec,hrec,hid,hk⟩
   ·exact .inl hk
   ·exact .inr ⟨hn,rec,mem_append_left _ hrec,hid,hk⟩
  ·rcases h.kept k with hk | ⟨_,rec',_,_,now',hk⟩
   ·exact .inr ⟨hk▸hn',rec,mem_append_right _ hrec,hid,now,hk'⟩
   ·rw[hk] at hn'
    cases hn'
 ·intro rec hrec
  rcases mem_append.1 hrec with hrec | hrec
  ·obtain ⟨r,hr⟩:=h.added rec hrec
   exact ⟨r,h'.keeps hr⟩
  ·exact h'.added rec hrec
lemma adds_enqueueLocked(now m rec):
 Adds [rec] m (m.enqueueLocked now rec).2:=by
 rcases enqueueLocked_cases now m rec with ⟨r,hr,he⟩ | ⟨hn,_,hg⟩
 ·rw[he]
  refine ⟨fun _=>.inl rfl,fun rec' h=>⟨r,?_⟩⟩
  rw[mem_singleton.1 h]
  exact hr
 ·constructor
  ·intro k
   rw[hg k]
   split_ifs with hk
   ·exact .inr ⟨hk▸hn,rec,mem_singleton_self _,hk.symm,now,rfl⟩
   ·exact .inl rfl
  ·intro rec' h
   rw[mem_singleton.1 h,hg,if_pos rfl]
   exact ⟨_,rfl⟩
lemma adds_enqueueAll(now recs m)
 (hok:(m.enqueueAll now recs).1=.ok ()):Adds recs m (m.enqueueAll now recs).2:=by
 induction recs generalizing m with
 | nil=>exact .nil m
 | cons rec rest ih=>
  have hone:=adds_enqueueLocked now m rec
  rw[Memory.enqueueAll] at hok ⊢
  cases he:(m.enqueueLocked now rec).1 with
  | error e=>
   rw[he] at hok
   cases hok
  | ok u=>
   rw[he] at hok
   exact hone.append (ih _ hok)
lemma adds_enqueueNodes{now recs m n}
 (hok:(m.enqueueNodes now recs).1=.ok n):Adds recs m (m.enqueueNodes now recs).2:=by
 unfold Memory.enqueueNodes at hok ⊢
 split_ifs at hok ⊢ with hnil hclash
 ·rw[hnil]
  exact .nil m
 ·have hall:=adds_enqueueAll now recs m
  generalize m.enqueueAll now recs=x at hok hall
  obtain ⟨res,m'⟩:=x
  cases res with
  | ok u=>exact hall rfl
  | error e=>cases hok

section Programs

variable {env:Env}{g:Graph}{run:String}

lemma solo_getRecord{id w}{Q:Option JobRecord→World→Prop}
 (h:Q (w.store.get id) w):Solo (daemon env) (getRecord id) w Q:=by
 refine Solo.call fun o=>?_
 simp only[stepWorld,apply]
 cases hg:w.store.get id<;>exact Solo.done (hg▸h)
lemma solo_enqueueEach{site}(recs queued failed w):
 Solo (daemon env) (enqueueEach site recs queued failed) w (fun _ w'=>Adds recs w.store w'.store):=by
 induction recs generalizing queued failed w with
 | nil=>exact Solo.done (.nil _)
 | cons rec rest ih=>
  refine Solo.call fun o=>?_
  have hone:=adds_enqueueLocked o.now w.store rec
  have hrest:∀ q f w₁,w₁.store=(w.store.enqueueLocked o.now rec).2→
   Solo (daemon env) (enqueueEach site rest q f) w₁
    (fun _ w'=>Adds (rec::rest) w.store w'.store):=by
   intro q f w₁ hw
   refine (ih q f w₁).mono fun _ w' h=>?_
   rw[hw] at h
   exact hone.append h
  simp only[stepWorld,apply]
  cases (w.store.enqueueLocked o.now rec).1 with
  | ok u | error e=>exact hrest _ _ _ rfl
lemma solo_tryEnqueueNodes{site}(recs w):
 Solo (daemon env) (tryEnqueueNodes site recs) w (fun r w'=>
  match r with
  | some _=>Adds recs w.store w'.store
  | none=>w'.store=w.store):=by
 unfold tryEnqueueNodes
 split
 ·rename_i r r' rest
  split_ifs with hb
  ·refine Solo.call fun o=>?_
   have herr:∀ e,(apply o.now o.tie w.store (.enqueueNodes (r::r'::rest))).1=.error e→
    (apply o.now o.tie w.store (.enqueueNodes (r::r'::rest))).2=w.store:=
    fun e he=>StoreRuns.apply_error_unchanged he
   simp only[stepWorld,apply] at herr ⊢
   cases hres:(w.store.enqueueNodes o.now (r::r'::rest)).1 with
   | ok n=>exact Solo.done (adds_enqueueNodes hres)
   | error e=>exact Solo.done (herr e hres)
  ·exact Solo.done rfl
 ·exact Solo.done rfl
lemma solo_persistSeedsOnly(seeds w):
 Solo (daemon env) (persistSeedsOnly g run seeds) w (fun _ w'=>
  Adds (seeds.map fun s=>seedRecord g run s.1 s.2) w.store w'.store):=by
 induction seeds generalizing w with
 | nil=>exact Solo.done (.nil _)
 | cons seed rest ih=>
  obtain ⟨nodeID,result⟩:=seed
  refine Solo.call fun o=>?_
  have hone:=adds_enqueueLocked o.now w.store (seedRecord g run nodeID result)
  simp only[stepWorld,apply]
  cases (w.store.enqueueLocked o.now (seedRecord g run nodeID result)).1 with
  | ok u=>exact (ih _).mono (fun _ w' h=>hone.append h)
  | error e=>exact (ih _).bind (fun _ w' h=>Solo.done (hone.append h))

lemma solo_allPredsSucceeded(edges w):
 Solo (daemon env) (allPredsSucceeded run edges) w (fun b w'=>
  w'=w∧b=edges.all fun e=>succeededIn w.store run e.source):=by
 induction edges with
 | nil=>exact Solo.done ⟨rfl,rfl⟩
 | cons e rest ih=>
  refine (solo_getRecord (Q:=fun r w'=>w'=w∧r=w.store.get _) ⟨rfl,rfl⟩).bind ?_
  rintro r w' ⟨rfl,rfl⟩
  simp only[all_cons,succeededIn]
  cases hg:w'.store.get (nodeJobID run e.source) with
  | none=>exact Solo.done ⟨rfl,by simp⟩
  | some pred=>
   by_cases hs:pred.status=.succeeded
   ·simpa[hs,succeededIn] using ih
   ·simp only[if_neg hs]
    exact Solo.done ⟨rfl,by simp[hs]⟩

def readyIn(m:Memory)(g:Graph)(run:String)(ids:List String):List String:=
 ids.filter (fun id=>!bodyOwned g id&&(g.incoming id).all fun e=>succeededIn m run e.source)

lemma solo_readyDependents(ids ready w):
 Solo (daemon env) (readyDependents g run ids ready) w (fun out w'=>
  w'=w∧out=ready++(readyIn w.store g run ids).map (dependentRecord g run)):=by
 induction ids generalizing ready with
 | nil=>exact Solo.done ⟨rfl,by simp[readyIn]⟩
 | cons id rest ih=>
  unfold readyDependents
  by_cases hb:bodyOwned g id
  ·simpa[hb,readyIn] using ih ready
  rw[if_neg hb]
  refine (solo_allPredsSucceeded (g.incoming id) w).bind ?_
  rintro b w' ⟨rfl,rfl⟩
  by_cases hall:(g.incoming id).all (fun e=>succeededIn w'.store run e.source)
  ·simpa[hb,hall,readyIn,append_assoc] using
    ih (ready++[dependentRecord g run id])
  ·simpa[hb,hall,readyIn] using ih ready
lemma solo_enqueueReadyDependents(source w):
 Solo (daemon env) (enqueueReadyDependents g run source) w (fun _ w'=>
  Adds ((readyIn w.store g run (g.outgoing source)).map (dependentRecord g run)) w.store w'.store):=by
 refine (solo_readyDependents (g.outgoing source) [] w).bind ?_
 rintro out w' ⟨rfl,rfl⟩
 rw[nil_append]
 refine (solo_tryEnqueueNodes _ w').bind fun r w₁ hr=>?_
 cases r with
 | some n=>exact Solo.done hr
 | none=>
  refine (solo_enqueueEach _ 0 [] w₁).bind fun _ w₂ h=>Solo.done ?_
  rwa[show w₁.store=w'.store from hr] at h

def SeedsOnly(run:String)(seeded:List String)(m:Memory):Prop:=
 ∀ id,succeededIn m run id=seeded.contains id

lemma SeedsOnly.adds{seeded ids:List String}{m m':Memory}(h:SeedsOnly run seeded m)
 (ha:Adds (ids.map (dependentRecord g run)) m m'):SeedsOnly run seeded m':=by
 intro id
 rw[←h id]
 unfold succeededIn
 rcases ha.kept (nodeJobID run id) with hk | ⟨hn,rec,hrec,_,now,hk⟩
 ·rw[hk]
 ·obtain ⟨id',_,rfl⟩:=mem_map.1 hrec
  rw[hk,hn]
  simp[Memory.stamp,dependentRecord]

def seedDependents(g:Graph)(seeded:List String)(sources:List String):List String:=
 sources.flatMap (fun s=>(g.outgoing s).filter
  (fun id=>!bodyOwned g id&&(g.incoming id).all fun e=>seeded.contains e.source))

variable {seeded:List String}

lemma solo_fanOutSeeds(sources queued w)
 (h:SeedsOnly run seeded w.store):
 Solo (daemon env) (fanOutSeeds g run sources queued) w (fun _ w'=>
  Adds ((seedDependents g seeded sources).map (dependentRecord g run)) w.store w'.store):=by
 induction sources generalizing queued w with
 | nil=>exact Solo.done (.nil _)
 | cons s rest ih=>
  refine (solo_enqueueReadyDependents s w).bind fun n w' hw=>?_
  have hready:readyIn w.store g run (g.outgoing s)=(g.outgoing s).filter
   (fun id=>!bodyOwned g id&&(g.incoming id).all fun e=>seeded.contains e.source):=by
   simp only[readyIn,h _]
  refine (ih _ w' (h.adds hw)).mono fun _ w'' h'=>?_
  rw[hready] at hw
  rw[seedDependents,flatMap_cons,map_append]
  exact hw.append h'
lemma solo_fanOutRooted{w w₁:World}(h:SeedsOnly run seeded w.store)
 (hw:Adds ((roots g seeded).map fun n=>dependentRecord g run n.id) w.store w₁.store)(n):
 Solo (daemon env) (fanOutSeeds g run seeded n) w₁ (fun _ w'=>
  Adds (((roots g seeded).map Node.id++seedDependents g seeded seeded).map
   (dependentRecord g run)) w.store w'.store):=by
 have hw':Adds (((roots g seeded).map Node.id).map (dependentRecord g run)) w.store w₁.store:=by
  simpa[Function.comp_def] using hw
 refine (solo_fanOutSeeds seeded n w₁ (h.adds hw')).mono fun _ w' h'=>?_
 simpa using hw'.append h'
lemma solo_dispatchRoots(w)(h:SeedsOnly run seeded w.store):
 Solo (daemon env) (dispatchRoots g run seeded) w (fun _ w'=>
  Adds (((roots g seeded).map Node.id++seedDependents g seeded seeded).map
   (dependentRecord g run)) w.store w'.store):=by
 refine (solo_tryEnqueueNodes _ w).bind fun r w₁ hr=>?_
 cases r with
 | some n=>exact (solo_fanOutRooted h hr n).bind (fun _ w' h'=>Solo.done h')
 | none=>
  refine (solo_enqueueEach _ 0 [] w₁).bind fun ⟨n,errs⟩ w₂ h₂=>?_
  rw[show w₁.store=w.store from hr] at h₂
  exact (solo_fanOutRooted h h₂ n).bind fun _ w' h'=>Solo.done h'
lemma solo_enqueueEach_free{site}(recs queued failed w)
 (hfree:∀ rec∈recs,w.store.get rec.id=none)(hn:(recs.map JobRecord.id).Nodup):
 Solo (daemon env) (enqueueEach site recs queued failed) w (fun out _=>out.2=failed):=by
 induction recs generalizing queued w with
 | nil=>exact Solo.done rfl
 | cons rec rest ih=>
  refine Solo.call fun o=>?_
  simp only[stepWorld,apply]
  rcases enqueueLocked_cases o.now w.store rec with ⟨r,hr,_⟩ | ⟨_,ho,hg⟩
  ·rw[hfree rec mem_cons_self] at hr
   cases hr
  ·rw[ho]
   rw[map_cons,nodup_cons] at hn
   refine ih _ _ (fun rec' hrec'=>?_) hn.2
   have hne:rec'.id≠rec.id:=fun he=>hn.1 (he▸mem_map_of_mem hrec')
   change (w.store.enqueueLocked o.now rec).2.get rec'.id=none
   rw[hg,if_neg hne]
   exact hfree rec' (mem_cons_of_mem _ hrec')
lemma solo_dispatchRoots_free(w)(h:SeedsOnly run seeded w.store)
 (hn:g.nodeIDs.Nodup)(hfree:∀ n∈roots g seeded,w.store.get (nodeJobID run n.id)=none):
 Solo (daemon env) (dispatchRoots g run seeded) w (fun out _=>out.2=[]):=by
 have hids:((roots g seeded).map fun n=>dependentRecord g run n.id).map JobRecord.id =
  ((roots g seeded).map Node.id).map (nodeJobID run):=by
  simp[Function.comp_def,dependentRecord]
 have hnodup:(((roots g seeded).map fun n=>dependentRecord g run n.id).map JobRecord.id).Nodup:=by
  rw[hids]
  exact (((filter_sublist.map Node.id).nodup hn)).map fun a b=>nodeJobID_inj run a b
 refine (solo_tryEnqueueNodes _ w).bind fun r w₁ hr=>?_
 cases r with
 | some n=>exact (solo_fanOutRooted h hr n).bind fun _ _ _=>Solo.done rfl
 | none=>?_
 have hw₁:w₁.store=w.store:=hr
 refine ((solo_enqueueEach _ 0 [] w₁).and (solo_enqueueEach_free _ 0 [] w₁ ?_ hnodup)).bind ?_
 ·intro rec hrec
  obtain ⟨n,hnode,rfl⟩:=mem_map.1 hrec
  rw[hw₁]
  exact hfree n hnode
 ·rintro ⟨n,errs⟩ w₂ ⟨h₂,herr⟩
  simp only at herr
  subst herr
  rw[hw₁] at h₂
  exact (solo_fanOutRooted h h₂ n).bind fun _ _ _=>Solo.done rfl

end Programs

section Populated

variable {env:Env}{g:Graph}{run:String}{seeds:Seeds}

def seedOutput(seeds:Seeds)(id:String):List (String×Ref):=
 ((seeds.lookup id).map Result.output).getD []

/-- What the records of a run say right after it was started from seeds. -/
structure Populated(g:Graph)(run:String)(seeds:Seeds)(m:Memory):Prop where
 seeded:∀ id∈seeds.map fst,∃ r,m.get (nodeJobID run id)=some r∧
  r.status=.succeeded∧∃ res,r.result=some res∧res.output=seedOutput seeds id
 queued:∀ id,id∉seeds.map fst→
  ((∃ r,m.get (nodeJobID run id)=some r∧r.status=.queued)↔
   id∈(roots g (seeds.map fst)).map Node.id∨
   id∈seedDependents g (seeds.map fst) (seeds.map fst))

lemma lookup_of_mem{seeds:Seeds}(hn:(seeds.map fst).Nodup){s:String×Result}
 (hs:s∈seeds):seeds.lookup s.1=some s.2:=by
 induction seeds with
 | nil=>cases hs
 | cons a rest ih=>
  rw[map_cons,nodup_cons] at hn
  rcases mem_cons.1 hs with rfl | hs
  ·exact lookup_cons_self
  have hne:(s.1==a.1)=false:=by
   rw[beq_eq_false_iff_ne]
   intro he
   exact hn.1 (he▸mem_map_of_mem hs)
  rw[lookup_cons,hne]
  exact ih hn.2 hs
lemma persisted{m m':Memory}(hkeys:(seeds.map fst).Nodup)
 (hfresh:∀ id,m.get (nodeJobID run id)=none)
 (h:Adds (seeds.map fun s=>seedRecord g run s.1 s.2) m m'):
 (∀ s∈seeds,∃ now,m'.get (nodeJobID run s.1) =
  some (Memory.stamp now (seedRecord g run s.1 s.2)))∧
 ∀ id,id∉seeds.map fst→m'.get (nodeJobID run id)=none:=by
 have hcases:∀ id,m'.get (nodeJobID run id)=none∨∃ s∈seeds,s.1=id∧
  ∃ now,m'.get (nodeJobID run id)=some (Memory.stamp now (seedRecord g run s.1 s.2)):=by
  intro id
  rcases h.kept (nodeJobID run id) with hk | ⟨_,rec,hrec,hid,hk⟩
  ·exact .inl (hk.trans (hfresh id))
  ·obtain ⟨s,hs,rfl⟩:=mem_map.1 hrec
   exact .inr ⟨s,hs,nodeJobID_inj run _ _ hid,hk⟩
 constructor
 ·intro s hs
  obtain ⟨r,hr⟩:=h.added _ (mem_map_of_mem hs)
  rcases hcases s.1 with hn | ⟨s',hs',he,now,hk⟩
  ·exact absurd (hn.symm.trans hr) (by simp)
  ·have:=lookup_of_mem hkeys hs
   rw[←he,lookup_of_mem hkeys hs'] at this
   refine ⟨now,?_⟩
   rw[←Option.some.inj this]
   exact he▸hk
 ·intro id hid
  rcases hcases id with hn | ⟨s,hs,rfl,_⟩
  ·exact hn
  ·exact absurd (mem_map_of_mem hs) hid
lemma seedsOnly_persisted{m m'}(hkeys:(seeds.map fst).Nodup)
 (hfresh:∀ id,m.get (nodeJobID run id)=none)
 (h:Adds (seeds.map fun s=>seedRecord g run s.1 s.2) m m'):SeedsOnly run (seeds.map fst) m':=by
 obtain ⟨hseed,hfree⟩:=persisted hkeys hfresh h
 intro id
 by_cases hid:id∈seeds.map fst
 ·obtain ⟨s,hs,rfl⟩:=mem_map.1 hid
  obtain ⟨now,hr⟩:=hseed s hs
  rw[contains_iff_mem.2 hid]
  simp[succeededIn,hr,Memory.stamp,seedRecord]
 ·simp[succeededIn,hfree id hid,hid]
lemma solo_populateSeededRun(w)(hkeys:(seeds.map fst).Nodup)
 (hfresh:∀ id,w.store.get (nodeJobID run id)=none):
 Solo (daemon env) (populateSeededRun g run seeds) w (fun _ w'=>Populated g run seeds w'.store):=by
 refine (solo_persistSeedsOnly seeds w).bind fun errs w₁ h₁=>?_
 obtain ⟨hseed,hfree⟩:=persisted hkeys hfresh h₁
 refine (solo_dispatchRoots w₁ (seedsOnly_persisted hkeys hfresh h₁)).bind fun out w₂ h₂=>Solo.done ?_
 constructor
 ·intro id hid
  obtain ⟨s,hs,rfl⟩:=mem_map.1 hid
  obtain ⟨now,hr⟩:=hseed s hs
  refine ⟨_,h₂.keeps hr,rfl,_,rfl,?_⟩
  simp[seedOutput,lookup_of_mem hkeys hs]
 ·intro id hid
  rw[←mem_append]
  constructor
  ·rintro ⟨r,hr,_⟩
   rcases h₂.kept (nodeJobID run id) with hk | ⟨_,rec,hrec,he,_⟩
   ·rw[hfree id hid,hr] at hk
    cases hk
   ·obtain ⟨id',hid',rfl⟩:=mem_map.1 hrec
    exact nodeJobID_inj run _ _ he▸hid'
  ·intro hm
   obtain ⟨r,hr⟩:=h₂.added _ (mem_map_of_mem hm)
   rcases h₂.kept (nodeJobID run id) with hk | ⟨_,rec,hrec,_,now,hk⟩
   ·exact absurd ((hk.trans (hfree id hid)).symm.trans hr) (by simp)
   ·obtain ⟨id',_,rfl⟩:=mem_map.1 hrec
    exact ⟨_,hk,rfl⟩
lemma mem_seedDependents{g seeded id}:
 id∈seedDependents g seeded seeded↔bodyOwned g id=false∧
  (∀ e∈g.incoming id,e.source∈seeded)∧∃ e∈g.incoming id,e.source∈seeded:=by
 simp only[seedDependents,mem_flatMap,mem_filter,Graph.mem_outgoing,Graph.mem_incoming,
  and_eq_true,not_eq_true',all_eq_true,contains_iff_mem]
 constructor
 ·rintro ⟨s,hs,⟨e,he,rfl,rfl⟩,hb,hall⟩
  exact ⟨hb,hall,e,⟨he,rfl⟩,hs⟩
 ·rintro ⟨hb,hall,e,⟨he,rfl⟩,hs⟩
  exact ⟨e.source,hs,⟨e,he,rfl,rfl⟩,hb,hall⟩

end Populated

/-- The record of the wire's source has a value for it. -/
def carried(look:String→Option JobRecord)(e:Edge):Bool:=
 e.fromPort==passPort||(look e.source).any (fun r=>emits r e.fromPort)

lemma analyzeEdges_succeeded{look}(edges)
 (t)(hb:t.anyBlocked=false)
 (h:∀ e∈edges,∃ r,look e.source=some r∧r.status=.succeeded):
 analyzeEdges look edges t=.enqueue↔
  t.anyNotRouted=false∧(∀ e∈edges,e.onError≠.fallback → carried look e)∧
  (t.anyActive∨∃ e∈edges,e.onError≠.fallback):=by
 induction edges generalizing t with
 | nil=>
  obtain ⟨active,blocked,notRouted⟩:=t
  subst hb
  cases active<;>cases notRouted<;>simp[analyzeEdges,Tally.decision]
 | cons e rest ih=>
  obtain ⟨r,hr,hs⟩:=h e mem_cons_self
  have hrest:=fun e' he'=>h e' (mem_cons_of_mem _ he')
  have hclass:classifyEdge r e=if e.onError=.fallback then .dormant
   else if carried look e then .active else .notRouted:=by
   unfold classifyEdge
   simp only[hs,carried,hr,Option.any_some,or_eq_true,beq_iff_eq]
   split_ifs<;>simp_all
  have hadd:t.add r e=some (if e.onError=.fallback then t
   else if carried look e then {t with anyActive:=true} else {t with anyNotRouted:=true}):=by
   by_cases hf:e.onError=.fallback<;>by_cases hrt:carried look e<;>
    simp[Tally.add,hs,isTerminalStatus,hclass,hf,hrt]
  simp only[analyzeEdges,hr,hadd]
  by_cases hf:e.onError=.fallback
  ·simp only[hf,if_true]
   rw[ih t hb hrest]
   simp[hf]
  ·by_cases hrt:carried look e
   ·simp only[hf,hrt,if_false,if_true]
    rw[ih {t with anyActive:=true} hb hrest]
    simp[hf,hrt]
   ·simp only[hf,hrt,if_false,false_eq_true]
    rw[ih {t with anyNotRouted:=true} hb hrest]
    simp[hf,hrt]

/-- The index only repeats what the store holds. -/
structure Faithful(m:Memory)(run:String)(ix:DispatchIndex):Prop where
 records:∀ id r,ix.records.lookup id=some r→m.get (nodeJobID run id)=some r
 misses:∀ id∈ix.misses,m.get (nodeJobID run id)=none

lemma Faithful.empty(m run):Faithful m run {}:=
 ⟨fun _ _ h=>(by cases h),fun _ h=>(by cases h)⟩

variable {env:Env}{run:String}{w:World}

lemma solo_pred{ix}(id)
 (h:Faithful w.store run ix):
 Solo (daemon env) (ix.pred run id) w (fun out w'=>
  w'=w∧out.1=w.store.get (nodeJobID run id)∧Faithful w.store run out.2):=by
 unfold DispatchIndex.pred
 cases hl:ix.records.lookup id with
 | some r=>exact Solo.done ⟨rfl,(h.records id r hl).symm,h⟩
 | none=>?_
 by_cases hm:id∈ix.misses
 ·simp only[if_pos hm]
  exact Solo.done ⟨rfl,(h.misses id hm).symm,h⟩
 ·simp only[if_neg hm]
  refine (solo_getRecord (Q:=fun r w'=>w'=w∧r=w.store.get _) ⟨rfl,rfl⟩).bind ?_
  rintro r w' ⟨rfl,rfl⟩
  cases hg:w'.store.get (nodeJobID run id) with
  | none=>
   refine Solo.done ⟨rfl,rfl,h.records,fun id' hid'=>?_⟩
   rcases mem_cons.1 hid' with rfl | hid'
   ·exact hg
   ·exact h.misses id' hid'
  | some rec=>
   refine Solo.done ⟨rfl,rfl,fun id' r' hr'=>?_,h.misses⟩
   rw[lookup_cons] at hr'
   by_cases he:id'=id
   ·subst he
    simp only[beq_self_eq_true] at hr'
    exact hg.trans hr'
   ·simp only[beq_eq_false_iff_ne.2 he] at hr'
    exact h.records id' r' hr'
lemma solo_analyzeWires(edges t)
 (ix)(h:Faithful w.store run ix):
 Solo (daemon env) (analyzeWires run edges t ix) w (fun out w'=>
  w'=w∧out.1=analyzeEdges (fun id=>w.store.get (nodeJobID run id)) edges t):=by
 induction edges generalizing t ix with
 | nil=>exact Solo.done ⟨rfl,rfl⟩
 | cons e rest ih=>
  refine (solo_pred e.source h).bind ?_
  rintro ⟨r,ix'⟩ w' ⟨rfl,hr,hix⟩
  simp only at hr hix
  subst hr
  simp only[analyzeEdges]
  cases w'.store.get (nodeJobID run e.source) with
  | none=>exact Solo.done ⟨rfl,rfl⟩
  | some predRec=>?_
  cases hadd:t.add predRec e with
  | none=>
   simp only[hadd]
   exact Solo.done ⟨rfl,rfl⟩
  | some t'=>
   simp only[hadd]
   exact ih t' ix' hix

def Answers(env:Env)(w:World)(g:Graph)(run id:String)(d:DependentDecision):Prop:=
 Solo (daemon env) (analyzeDependentIndexed g run id {}) w (fun out _=>out.1=d)

lemma answers_iff{g id d}
 (o:Nat→Oracle):
 Answers env w g run id d↔
  analyzeDependent (fun x=>w.store.get (nodeJobID run x)) g id=d:=by
 have h:Solo (daemon env) (analyzeDependentIndexed g run id {}) w _:=
  solo_analyzeWires (g.incoming id) {} {} (Faithful.empty w.store run)
 constructor
 ·intro ha
  obtain ⟨out,n,w',hr,hd⟩:=ha o 0
  exact (h.of_run hr).2.symm.trans hd
 ·exact fun hd=>h.mono fun out w' ho=>ho.2.trans hd

/-- Each wire into the step that is no fallback has a value in the records, and there is such a wire. -/
def Routes(m:Memory)(g:Graph)(run id:String):Prop:=
 (∀ e∈g.incoming id,e.onError≠.fallback → carried (fun x=>m.get (nodeJobID run x)) e)∧
  ∃ e∈g.incoming id,e.onError≠.fallback

lemma answers_routes{g id}(h:∀ e∈g.incoming id,succeededIn w.store run e.source):
 Answers env w g run id .enqueue↔Routes w.store g run id:=by
 rw[answers_iff fun _=>bareOracle,analyzeDependent,analyzeEdges_succeeded _ _ rfl]
 ·simp[Routes]
 ·intro e he
  simpa[succeededIn,Option.any_eq_true] using h e he

def routed(seeds:Seeds)(e:Edge):Bool:=
 e.fromPort==passPort||((seedOutput seeds e.source).lookup e.fromPort).isSome

/-- No seeded step leaves a dependent, all of whose predecessors are seeded,
 without a value on a wire that is no fallback, or with fallback wires only. -/
def SeedsRoute(g:Graph)(seeds:Seeds):Prop:=
 ∀ id,id∉seeds.map fst→bodyOwned g id=false → g.incoming id≠[]→
  (∀ e∈g.incoming id,e.source∈seeds.map fst)→
  (∀ e∈g.incoming id,e.onError≠.fallback → routed seeds e)∧
   ∃ e∈g.incoming id,e.onError≠.fallback

lemma Populated.answers{g seeds id}(hp:Populated g run seeds w.store)
 (hsrc:∀ e∈g.incoming id,e.source∈seeds.map fst):
 Answers env w g run id .enqueue↔
  (∀ e∈g.incoming id,e.onError≠.fallback → routed seeds e)∧∃ e∈g.incoming id,e.onError≠.fallback:=by
 have hcarried:∀ e∈g.incoming id,succeededIn w.store run e.source∧
  carried (fun x=>w.store.get (nodeJobID run x)) e=routed seeds e:=by
  intro e he
  obtain ⟨r,hr,hs,res,hres,hout⟩:=hp.seeded e.source (hsrc e he)
  simp[succeededIn,carried,routed,emits,hr,hs,hres,Result.port,hout]
 rw[answers_routes fun e he=>(hcarried e he).1]
 exact and_congr_left fun _=>forall₂_congr fun e he=>by rw[(hcarried e he).2]
lemma seeded_start_agrees_iff{g seeds w' n}{out:Nat×List String}(hkeys:(seeds.map fst).Nodup)
 (hfresh:∀ id,w.store.get (nodeJobID run id)=none)(o:Nat→Oracle)
 (hrun:(populateSeededRun g run seeds).alone (daemon env) o 0 w=some (out,n,w')):
 (∀ id r,g.incoming id≠[]→w'.store.get (nodeJobID run id)=some r → r.status=.queued→
  Answers env w' g run id .enqueue)↔SeedsRoute g seeds:=by
 have hp:Populated g run seeds w'.store:=(solo_populateSeededRun w hkeys hfresh).of_run hrun
 constructor
 ·intro h id hid hbody hin hsrc
  obtain ⟨e,he⟩:=exists_mem_of_ne_nil _ hin
  have hdep:id∈seedDependents g (seeds.map fst) (seeds.map fst):=
   mem_seedDependents.2 ⟨hbody,hsrc,e,he,hsrc e he⟩
  obtain ⟨r,hr,hs⟩:=(hp.queued id hid).2 (.inr hdep)
  exact (hp.answers hsrc).1 (h id r hin hr hs)
 ·intro h id r hin hr hs
  have hid:id∉seeds.map fst:=by
   intro hm
   obtain ⟨r',hr',hs',_⟩:=hp.seeded id hm
   rw[hr] at hr'
   cases hr'
   rw[hs] at hs'
   cases hs'
  rcases (hp.queued id hid).1 ⟨r,hr,hs⟩ with hroot | hdep
  ·obtain ⟨m,hm,rfl⟩:=mem_map.1 hroot
   simp only[roots,mem_filter,Bool.and_eq_true,Bool.not_eq_true',any_eq_false,
    beq_iff_eq] at hm
   obtain ⟨e,he⟩:=exists_mem_of_ne_nil _ hin
   obtain ⟨he,ht⟩:=(Graph.mem_incoming g m.id e).1 he
   exact absurd ht (hm.2.1 e he)
  ·obtain ⟨hbody,hsrc,_⟩:=mem_seedDependents.1 hdep
   exact (hp.answers hsrc).2 (h id hid hbody hin hsrc)

/-- In every interleaving, a step that is queued behind seeds has only succeeded predecessors, and the
 dispatcher would queue it on the same records exactly when they route to it. In a start that nobody
 disturbs, the queued steps are the dispatcher's exactly when the seeds route to all of them. -/
theorem seeded_queue_agrees_iff(env:Env):
 (∀ P,Reach (anyRun env) (idleDaemon env) P→∀ p∈P.procs,∀ ev∈p.log,∀ op,ev.call=.store .enqueueReady op→
  ∀ rec∈op.additions,∃ g,RunOf ev.before.store rec.graphRunID g∧
   (∀ e∈g.incoming rec.nodeID,succeededIn ev.before.store rec.graphRunID e.source)∧
   (Answers env ev.before g rec.graphRunID rec.nodeID .enqueue↔
    Routes ev.before.store g rec.graphRunID rec.nodeID))∧
 ∀ g run (seeds:Seeds) w w' o n (out:Nat×List String),(seeds.map fst).Nodup→
  (∀ id,w.store.get (nodeJobID run id)=none)→
  (populateSeededRun g run seeds).alone (daemon env) o 0 w=some (out,n,w')→
  ((∀ id r,g.incoming id≠[]→w'.store.get (nodeJobID run id)=some r → r.status=.queued→
   Answers env w' g run id .enqueue)↔SeedsRoute g seeds):=by
 constructor
 ·intro P hreach p hp ev hev op hop rec hrec
  obtain ⟨newer,older,hlog⟩:=append_of_mem hev
  obtain ⟨Q,i,o,hmade⟩:=hreach.made nofun p hp newer ev older hlog
  have hguar:=((anyRun_holds env).guar_of_made hmade).1
  rw[hop] at hguar
  obtain ⟨g,hg,hall⟩:=hguar.readies rfl rec hrec
  exact ⟨g,hg,hall,answers_routes hall⟩
 ·intro g run seeds w w' o n out hkeys hfresh hrun
  exact seeded_start_agrees_iff hkeys hfresh o hrun

def routedSeeds:Seeds:=[("if",{status:=.ok,output:=[("true",{})]})]

def joined:Graph:=
 { id:="g",tenant:="t",workspace:="w"
   nodes:=[{id:="if",module:="if" },{id:="r",module:="m" },{id:="x",module:="m" }]
   edges:=[{source:="if",fromPort:="false",target:="x",toPort:="a" },
    {source:="r",fromPort:="out",target:="x",toPort:="b" }]}

/-- A worker ends the root `r` between its insert and the fan-out of the seed. -/
def overtaken:List (Action (daemon bareEnv)):=
 [.start (.submit owner joined {seeds:=routedSeeds})]++steps 0 7 bareAnswer++[.start (.worker "w1")] ++
  steps 1 9 bareAnswer++steps 0 3 bareAnswer

theorem seeded_router_agrees_iff:
 (∃ P,Reach (anyRun bareEnv) (idleDaemon bareEnv) P∧∃ p∈P.procs,∃ ev∈p.log,
  ev.call=.store .enqueueReady (.enqueue (dependentRecord joined "run" "x"))∧
  ∃ g,RunOf ev.before.store "run" g∧
   (Answers bareEnv ev.before g "run" "x" .enqueue↔Routes ev.before.store g "run" "x"))∧
 ∃ out n w',(populateSeededRun router "r" routedSeeds).alone (daemon bareEnv)
   (fun _=>bareOracle) 0 {}=some (out,n,w')∧
  ((∀ id r,router.incoming id≠[]→w'.store.get (nodeJobID "r" id)=some r→
   r.status=.queued→Answers bareEnv w' router "r" id .enqueue)↔
   SeedsRoute router routedSeeds):=by
 constructor
 ·obtain ⟨P,hr,hc⟩:=reach_of_check (anyRun bareEnv) (idleDaemon bareEnv) overtaken
   (fun P=>P.procs.any (fun p=>p.log.any fun ev=>
    decide (ev.call=.store .enqueueReady (.enqueue (dependentRecord joined "run" "x"))))) (by decide +kernel)
  simp only[any_eq_true,decide_eq_true_eq] at hc
  obtain ⟨p,hp,ev,hev,hcall⟩:=hc
  obtain ⟨g,hg,_,hagree⟩:=(seeded_queue_agrees_iff bareEnv).1 P hr p hp ev hev _ hcall _ (mem_singleton_self _)
  exact ⟨P,hr,p,hp,ev,hev,hcall,g,hg,hagree⟩
 ·have h:((populateSeededRun router "r" routedSeeds).alone (daemon bareEnv)
   (fun _=>bareOracle) 0 {}).isSome:=by
   decide +kernel
  obtain ⟨⟨out,n,w'⟩,hrun⟩:=Option.isSome_iff_exists.1 h
  exact ⟨out,n,w',hrun,(seeded_queue_agrees_iff bareEnv).2 router "r" routedSeeds {} w' (fun _=>bareOracle) n out
   (by decide) (fun _=>rfl) hrun⟩

/-- The branch the router did not take is queued, and the dispatcher would skip it. -/
theorem seeded_router_queues_untaken_branch:
 ∃ out n w',(populateSeededRun router "r" routedSeeds).alone (daemon bareEnv)
   (fun _=>bareOracle) 0 {}=some (out,n,w')∧
  (∃ r,w'.store.get (nodeJobID "r" "no")=some r∧r.status=.queued)∧
  Answers bareEnv w' router "r" "no" .skipped:=by
 have h:((populateSeededRun router "r" routedSeeds).alone (daemon bareEnv)
   (fun _=>bareOracle) 0 {}).any (fun x=>
    (x.2.2.store.get (nodeJobID "r" "no")).any (fun r=>r.status==.queued) &&
    analyzeDependent (fun y=>x.2.2.store.get (nodeJobID "r" y)) router "no"==.skipped):=by
  decide +kernel
 obtain ⟨⟨out,n,w'⟩,hrun,hx⟩:=(Option.any_eq_true _ _).1 h
 simp only[Bool.and_eq_true,beq_iff_eq] at hx
 obtain ⟨r,hr,hs⟩:=(Option.any_eq_true _ _).1 hx.1
 exact ⟨out,n,w',hrun,⟨r,hr,by simpa using hs⟩,(answers_iff fun _=>bareOracle).2 hx.2⟩

end Dazyflow.SeededRuns
