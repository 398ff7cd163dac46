import Dazyflow.WorkspaceLaws

/-!
# Conditional saves

`saveGraph` and the flow-edit handler over the store of a workspace, for the requests on one flow.
-/
namespace Dazyflow.ConditionalSaves
open Interleaving WorkspaceStore WorkspaceBackends WorkspaceLaws List

/-- What a save reads of graphs and principals: `α` graphs, `κ` the catalogue of drops, `ρ`
 principals, `ω` edits. A check returns the text of its refusal. -/
structure Config(α κ ρ ω:Type) where
 (graphETag owner:α→String)
 setOwner:String→α→α
 subject:ρ→String
 /-- workspace, id, ceilings and `ValidateRuntime` -/
 (checkGraph authorizeGraphView authorizeGraphEdit:ρ→α→Option String)
 requireGraphEdit:ρ→Option String
 isFlowAdmin:ρ→Bool
 maxFlows:Nat
 applyGraphOps:α→List ω→Option κ→Except String α

structure SaveOptions where
 coalesce:Bool:=false
 baseETag:String:=""

inductive SaveError
 | refused (text:String)
 | load (e:LoadError)
 | flowChanged
 | activeRuns
 | conflict
 | planLimit (maxFlows:Nat)
 | store (text:String)

inductive EditReply
 | flowNotFound
 | noOps
 | flowChanged
 | flowLocked
 | editFailed (text:String)
 | validationFailed (e:SaveError)
 | edited (commit etag:String)

section Machine

variable {α κ ρ ω:Type}

/-- A successful save, with the draft that was stored immediately before. -/
structure Overwrite(α:Type) where
 (author base:String)
 before:Except LoadError α
 after:α

inductive Call(α:Type)
 | load
 | hasActiveRun
 | listGraphs
 | listDrops
 | save (content:α)(author:String)(opts:SaveOptions)

@[reducible] def Res(α κ:Type):Call α→Type
 | .load=>Except LoadError α
 | .hasActiveRun=>Option Bool
 | .listGraphs=>Option Nat
 | .listDrops=>Option κ
 | .save _ _ _=>Except String String

@[reducible] def sig(α κ:Type):Sig where
 Call:=Call α
 Res:=Res α κ

abbrev ask(c:Call α):Prog (sig α κ) (Res α κ c):=Prog.ask (S:=sig α κ) c

structure State(B:Backend α) where
 store:B.State
 /-- latest first -/
 saves:List (Overwrite α):=[]

/-- What the backend's write leaves open, whether a read fails, and what the calls outside
 the store answer. -/
structure Oracle(B:Backend α)(κ:Type) where
 choice:B.Choice
 fails:Bool:=false
 active:Option Bool:=some false
 graphs:Option Nat:=some 0
 drops:Option κ:=none

def State.saved{B:Backend α}(s:State B)(w:Overwrite α)(store:B.State):State B:=
 {store:=store,saves:=w::s.saves}

def step(B:Backend α)(graphID:String):(c:Call α)→Oracle B κ→State B→Res α κ c×State B
 | .load,o,s=>(if o.fails then .error .unresolved else B.load s.store graphID,s)
 | .hasActiveRun,o,s=>(o.active,s)
 | .listGraphs,o,s=>(o.graphs,s)
 | .listDrops,o,s=>(o.drops,s)
 | .save content author opts,o,s=>
  match B.write o.choice (.save graphID content author opts.coalesce) s.store with
  | (.error text,store)=>(.error text,{s with store:=store})
  | (.ok commit,store)=>
   (.ok commit,s.saved ⟨author,opts.baseETag,B.load s.store graphID,content⟩ store)

variable (cfg:Config α κ ρ ω)

def Config.keepOwner(p:ρ)(prior g:α):α:=
 if cfg.owner g="" then cfg.setOwner (cfg.owner prior) g
 else if cfg.owner g≠cfg.owner prior∧cfg.isFlowAdmin p=false then cfg.setOwner (cfg.owner prior) g
 else g

def writeDraft(p:ρ)(g:α)(opts:SaveOptions):Prog (sig α κ) (Except SaveError String):=do
 match←ask (.save g (cfg.subject p) opts) with
 | .error text=>pure (.error (.store text))
 | .ok commit=>pure (.ok commit)

def saveOver(p:ρ)(g:α)(opts:SaveOptions)(prior:α):Prog (sig α κ) (Except SaveError String):=
 match cfg.authorizeGraphEdit p prior with
 | some text=>pure (.error (.refused text))
 | none=>do
  match←ask .hasActiveRun with
  | none=>pure (.error .activeRuns)
  | some true=>pure (.error .conflict)
  | some false=>writeDraft cfg p (cfg.keepOwner p prior g) opts

def Config.newOwner(p:ρ)(g:α):α:=if cfg.owner g="" then cfg.setOwner (cfg.subject p) g else g

def saveNew(p:ρ)(g:α)(opts:SaveOptions):Prog (sig α κ) (Except SaveError String):=
 match cfg.requireGraphEdit p with
 | some text=>pure (.error (.refused text))
 | none=>
  if 0<cfg.maxFlows then do
   match←ask .listGraphs with
   | none=>writeDraft cfg p (cfg.newOwner p g) opts
   | some n=>
    if cfg.maxFlows ≤ n then pure (.error (.planLimit cfg.maxFlows))
    else writeDraft cfg p (cfg.newOwner p g) opts
  else writeDraft cfg p (cfg.newOwner p g) opts

def Config.baseMatches(opts:SaveOptions):Option α→Bool
 | none=>opts.baseETag=""
 | some prior=>opts.baseETag=""||cfg.graphETag prior=opts.baseETag

def saveGraph(p:ρ)(g:α)(opts:SaveOptions):Prog (sig α κ) (Except SaveError String):=
 match cfg.checkGraph p g with
 | some text=>pure (.error (.refused text))
 | none=>do
  match←ask .load with
  | .error .graphNotFound=>
   if cfg.baseMatches opts none then saveNew cfg p g opts else pure (.error .flowChanged)
  | .error e=>pure (.error (.load e))
  | .ok prior=>
   if cfg.baseMatches opts (some prior) then saveOver cfg p g opts prior else pure (.error .flowChanged)

structure Edit(ω:Type) where
 ops:List ω
 base:String:=""
 coalesce:Bool:=false

def editReply(p:ρ)(next:α):Except SaveError String→Prog (sig α κ) EditReply
 | .error .flowChanged=>pure .flowChanged
 | .error .conflict=>pure .flowLocked
 | .error e=>pure (.validationFailed e)
 | .ok commit=>do
  match←ask .load with
  | .error _=>pure (.edited commit (cfg.graphETag next))
  | .ok saved=>
   if (cfg.authorizeGraphView p saved).isSome then pure (.edited commit (cfg.graphETag next))
   else pure (.edited commit (cfg.graphETag saved))

/-- The result of the edits is saved over the flow they were applied to. -/
def saveEdit(p:ρ)(e:Edit ω)(current:α):Except String α→Prog (sig α κ) EditReply
 | .error text=>pure (.editFailed text)
 | .ok next=>do
  let r←saveGraph cfg p next {coalesce:=e.coalesce,baseETag:=cfg.graphETag current}
  editReply cfg p next r

def applyEdit(p:ρ)(e:Edit ω)(current:α):Prog (sig α κ) EditReply:=
 if e.ops.isEmpty then pure .noOps
 else if e.base≠""∧e.base≠cfg.graphETag current then pure .flowChanged
 else do
  let drops←ask .listDrops
  saveEdit cfg p e current (cfg.applyGraphOps current e.ops drops)

def editFlowMe(p:ρ)(e:Edit ω):Prog (sig α κ) EditReply:=do
 match←ask .load with
 | .error _=>pure .flowNotFound
 | .ok current=>
  -- a flow that may not be seen is not there
  if (cfg.authorizeGraphView p current).isSome then pure .flowNotFound else applyEdit cfg p e current

inductive Entry(α ρ ω:Type)
 | save (p:ρ)(g:α)(opts:SaveOptions)
 | edit (p:ρ)(e:Edit ω)

@[reducible] def machine(B:Backend α)(graphID:String):Machine (sig α κ) where
 State:=State B
 Oracle:=Oracle B κ
 step:=step B graphID
 Entry:=Entry α ρ ω
 entry
  | .save p g opts=>do
   let _←saveGraph cfg p g opts
   pure ()
  | .edit p e=>do
   let _←editFlowMe cfg p e
   pure ()

inductive Stage
 | reading
 | editing (base:String)
 | opening (base:String)
 | checked (base:String)
 | ended

def Stage.first:Entry α ρ ω→Stage
 | .save _ _ opts=>.opening opts.baseETag
 | .edit _ _=>.reading

def Stage.next:Stage→(c:Call α)→Res α κ c→Stage
 | .reading,.load,.ok current=>.editing (cfg.graphETag current)
 | .editing base,.listDrops,_=>.opening base
 | .opening base,.load,.ok prior=>if base=""∨cfg.graphETag prior=base then .checked base else .ended
 | .opening base,.load,.error .graphNotFound=>if base="" then .checked base else .ended
 | .checked base,.hasActiveRun,_=>.checked base
 | .checked base,.listGraphs,_=>.checked base
 | _,_,_=>.ended

def Stage.allows:Stage→Call α→Prop
 | .reading,.load=>True
 | .editing _,.listDrops=>True
 | .opening _,.load=>True
 | .checked _,.hasActiveRun=>True
 | .checked _,.listGraphs=>True
 | .checked base,.save _ _ opts=>opts.baseETag=base
 | .ended,.load=>True
 | _,_=>False

def Stage.pending:Stage→Bool
 | .checked base=>base≠""
 | _=>false

@[reducible] def stages(B:Backend α)(graphID:String):Protocol (machine cfg B graphID) where
 Stage:=Stage
 first:=Stage.first
 next:=Stage.next cfg
 allowed:=Stage.allows

end Machine

section Follows

open Protocol

variable {α κ ρ ω:Type}{cfg:Config α κ ρ ω}{B:Backend α}{graphID:String}

lemma obeys_writeDraft(p:ρ)(g:α)(opts):
 (stages cfg B graphID).Obeys (writeDraft cfg p g opts) (.checked opts.baseETag) (fun _ n=>n=.ended):=by
 exact obeys_call rfl fun
  | .error text=>obeys_done rfl
  | .ok commit=>obeys_done rfl

def Settled(r:Except SaveError String)(n:Stage):Prop:=r.isOk → n=.ended

lemma obeys_write(p:ρ)(g:α)(opts):
 (stages cfg B graphID).Obeys (writeDraft cfg p g opts) (.checked opts.baseETag) Settled:=
 obeys_mono (obeys_writeDraft p g opts) (fun _ _ h _=>h)
lemma obeys_refused{e n}:
 (stages cfg B graphID).Obeys (pure (.error e)) n Settled:=
 obeys_done nofun
lemma obeys_saveOver(p:ρ)(g:α)(opts)(prior:α):
 (stages cfg B graphID).Obeys (saveOver cfg p g opts prior) (.checked opts.baseETag) Settled:=by
 unfold saveOver
 cases cfg.authorizeGraphEdit p prior with
 | some text=>exact obeys_refused
 | none=>?_
 refine obeys_call trivial fun
  | none=>obeys_refused
  | some active=>?_
 cases active with
 | true=>exact obeys_refused
 | false=>exact obeys_write p _ opts
lemma obeys_saveNew(p:ρ)(g:α)(opts):
 (stages cfg B graphID).Obeys (saveNew cfg p g opts) (.checked opts.baseETag) Settled:=by
 unfold saveNew
 cases cfg.requireGraphEdit p with
 | some text=>exact obeys_refused
 | none=>?_
 refine obeys_if (fun _=>?_) fun _=>obeys_write p _ opts
 exact obeys_call trivial fun
  | none=>obeys_write p _ opts
  | some n=>obeys_if (fun _=>obeys_refused) fun _=>obeys_write p _ opts
lemma obeys_saveGraph(p:ρ)(g:α)(opts):
 (stages cfg B graphID).Obeys (saveGraph cfg p g opts) (.opening opts.baseETag) Settled:=by
 unfold saveGraph
 cases cfg.checkGraph p g with
 | some text=>exact obeys_refused
 | none=>?_
 refine obeys_call trivial fun r=>?_
 cases r with
 | ok prior=>
  change (stages cfg B graphID).Obeys (if cfg.baseMatches opts (some prior) then _ else _)
   (if opts.baseETag=""∨cfg.graphETag prior=opts.baseETag then .checked opts.baseETag else .ended) _
  simp only[Config.baseMatches,Bool.or_eq_true,decide_eq_true_eq]
  split_ifs
  ·exact obeys_saveOver p g opts prior
  ·exact obeys_refused
 | error e=>
  cases e with
  | graphNotFound=>
   change (stages cfg B graphID).Obeys (if cfg.baseMatches opts none then _ else _)
    (if opts.baseETag="" then .checked opts.baseETag else .ended) _
   simp only[Config.baseMatches,decide_eq_true_eq]
   split_ifs
   ·exact obeys_saveNew p g opts
   ·exact obeys_refused
  | _=>exact obeys_refused
lemma obeys_editReply(p:ρ)(next:α)(r){n}(hn:Settled r n):
 (stages cfg B graphID).Obeys (editReply cfg p next r) n (fun _ _=>True):=by
 cases r with
 | error e=>cases e<;>exact obeys_done trivial
 | ok commit=>?_
 cases hn rfl
 exact obeys_call trivial fun
  | .error e=>obeys_done trivial
  | .ok saved=>obeys_if (fun _=>obeys_done trivial) fun _=>obeys_done trivial
lemma obeys_applyEdit(p:ρ)(e)(current:α):
 (stages cfg B graphID).Obeys (applyEdit cfg p e current) (.editing (cfg.graphETag current)) (fun _ _=>True):=by
 refine obeys_if (fun _=>obeys_done trivial) fun _=>obeys_if (fun _=>obeys_done trivial) fun _=>?_
 refine obeys_call trivial fun drops=>?_
 change (stages cfg B graphID).Obeys (saveEdit cfg p e current (cfg.applyGraphOps current e.ops drops))
  (.opening (cfg.graphETag current)) _
 cases cfg.applyGraphOps current e.ops drops with
 | error text=>exact obeys_done trivial
 | ok next=>
  exact obeys_bind (obeys_saveGraph p next {coalesce:=e.coalesce,baseETag:=cfg.graphETag current})
   fun r n hn=>obeys_editReply p next r hn
lemma obeys_editFlowMe(p:ρ)(e):
 (stages cfg B graphID).Obeys (editFlowMe cfg p e) .reading (fun _ _=>True):=by
 exact obeys_call trivial fun
  | .error e=>obeys_done trivial
  | .ok current=>obeys_if (fun _=>obeys_done trivial) fun _=>obeys_applyEdit p e current
lemma follows:(stages cfg B graphID).Follows (fun _=>True) where
 entries
  | .save p g opts=>obeys_bind (obeys_saveGraph p g opts) (fun _ _ _=>obeys_done trivial)
  | .edit p e=>obeys_bind (obeys_editFlowMe p e) (fun _ _ _=>obeys_done trivial)

end Follows

section Fresh

variable {α κ ρ ω:Type}{cfg:Config α κ ρ ω}{B:Backend α}{graphID:String}

def Config.Has(cfg:Config α κ ρ ω)(draft:Except LoadError α)(base:String):Prop:=
 ∃ g,draft=.ok g∧cfg.graphETag g=base

/-- A save between its check and its write still finds what it compared, and every
 successful one has. -/
structure Fresh(cfg:Config α κ ρ ω)(B:Backend α)(graphID:String)(s:State B)(ns:List Stage):Prop where
 checked:∀ base,.checked base∈ns→base≠""→cfg.Has (B.load s.store graphID) base
 saves:∀ w∈s.saves,w.base≠""→cfg.Has w.before w.base

variable {s s':State B}{n n':Stage}{ns:List Stage}{i:Nat}

section

variable (h:Fresh cfg B graphID s ns)

include h

lemma Fresh.start(e:Entry α ρ ω):Fresh cfg B graphID s (ns++[Stage.first e]):=by
 refine ⟨fun base hm hb=>?_,h.saves⟩
 rcases mem_append.1 hm with hm | hm
 ·exact h.checked base hm hb
 ·cases e<;>cases mem_singleton.1 hm
omit h in
lemma mem_set{ns:List Stage}{m:Stage}(hm:m∈ns.set i n'):m=n'∨m∈ns.eraseIdx i:=by
 obtain ⟨j,hj⟩:=mem_iff_getElem?.1 hm
 rcases set_cases hj with ⟨_,rfl⟩ | ⟨hne,hj⟩
 ·exact .inl rfl
 ·exact .inr (mem_eraseIdx_iff_getElem?.2 ⟨j,hne,hj⟩)
lemma Fresh.stay(hn':∀ base,n'=.checked base→base≠""→cfg.Has (B.load s.store graphID) base):
 Fresh cfg B graphID s (ns.set i n'):=by
 refine ⟨fun base hm hb=>?_,h.saves⟩
 rcases mem_set hm with hx | hm
 ·exact hn' base hx.symm hb
 ·exact h.checked base (mem_of_mem_eraseIdx hm) hb
lemma Fresh.load(o:Oracle B κ)(n:Stage):
 Fresh cfg B graphID s (ns.set i (n.next cfg .load (step B graphID .load o s).1)):=by
 refine h.stay fun base hx hb=>?_
 cases n with
 | opening base'=>
  simp only[step] at hx
  split_ifs at hx with hf
  ·cases hx
  cases hl:B.load s.store graphID with
  | ok g=>
   simp only[hl,Stage.next] at hx
   split_ifs at hx with hm
   cases hx
   exact ⟨g,rfl,hm.resolve_left hb⟩
  | error e=>
   cases e with
   | graphNotFound=>
    simp only[hl,Stage.next] at hx
    split_ifs at hx with hm
    cases hx
    exact absurd hm hb
   | _=>
    rw[hl] at hx
    cases hx
 | reading=>
  cases hr:(step B graphID .load o s).1<;>rw[hr] at hx<;>cases hx
 | _=>cases hx
lemma Fresh.save{content:α}{author:String}{opts:SaveOptions}
 (hn:ns[i]? = some (.checked opts.baseETag))(hno:∀ m∈ns.eraseIdx i,m.pending=false)(o:Oracle B κ):
 Fresh cfg B graphID (step B graphID (.save content author opts) o s).2 (ns.set i .ended):=by
 have hchecked:∀ base,Stage.checked base∈ns.set i .ended→base="":=by
  intro base hm
  rcases mem_set hm with hx | hm
  ·cases hx
  ·simpa[Stage.pending] using hno _ hm
 refine ⟨fun base hm hb=>absurd (hchecked base hm) hb,fun w hw hb=>?_⟩
 simp only[step] at hw
 split at hw
 ·exact h.saves w hw hb
 ·rcases mem_cons.1 hw with rfl | hw
  ·exact h.checked _ (mem_of_getElem? hn) hb
  ·exact h.saves w hw hb
lemma Fresh.call{c}(hn:ns[i]? = some n)(hall:n.allows c)(o:Oracle B κ)
 (hno:∀ content author opts,c=.save content author opts→∀ m∈ns.eraseIdx i,m.pending=false):
 Fresh cfg B graphID (step B graphID c o s).2 (ns.set i (n.next cfg c (step B graphID c o s).1)):=by
 -- a save that has checked and not yet written stays where it is
 have hstay:∀ base,n=.checked base→base≠""→cfg.Has (B.load s.store graphID) base:=
  fun base hx hb=>h.checked base (mem_of_getElem? (hx▸hn)) hb
 cases c with
 | load=>exact h.load o n
 | hasActiveRun | listGraphs=>
  cases n with
  | checked base=>exact h.stay hstay
  | _=>exact absurd hall id
 | listDrops=>
  cases n with
  | editing base=>exact h.stay (fun base hx=>by cases hx)
  | _=>exact absurd hall id
 | save content author opts=>
  cases n with
  | checked base=>
   cases hall
   exact h.save hn (hno content author opts rfl) o
  | _=>exact absurd hall id

end

end Fresh

section Runs

variable {α κ ρ ω:Type}(cfg:Config α κ ρ ω)(B:Backend α)(graphID:String)

abbrev standing{cfg:Config α κ ρ ω}{B:Backend α}{graphID:String}(P:Pool (machine cfg B graphID)):List Stage:=
 (stages cfg B graphID).stages P

/-- Whoever writes finds no other save between its check and its write. -/
def apart(ns:List Stage)(i:Nat):Call α→Bool
 | .save _ _ _=>(ns.eraseIdx i).all (fun m=>!m.pending)
 | _=>true

abbrev apartRuns:Rules (machine cfg B graphID):=
 Allowed (fun _ _=>True) (fun P i c _=>apart (standing P) i c)

abbrev stored(s:B.State):Pool (machine cfg B graphID):={state:={store:=s} }

variable {cfg B graphID}

lemma fresh_of_reach{s P}
 (hr:Reach (apartRuns cfg B graphID) (stored cfg B graphID s) P):Fresh cfg B graphID P.state (standing P):=by
 refine follows.run_inv (A:=stored cfg B graphID s) rfl (J:=Fresh cfg B graphID) ⟨by simp,by simp⟩
  (fun P e _ _ h=>h.start e) ?_ hr
 intro P i o c n _ ha hnext hn hall h
 refine h.call hn hall o fun content author opts hc m hm=>?_
 have hok:=ha c hnext
 subst hc
 simpa using all_eq_true.1 hok m hm

/-- What a conditional save overwrites has the ETag it was made from, and is that graph if ETags
 tell graphs apart, an idealisation: they are eight bytes of a SHA-256. -/
theorem conditional_save_atomic{s:B.State}{P:Pool (machine cfg B graphID)}
 (hr:Reach (apartRuns cfg B graphID) (stored cfg B graphID s) P):
 ∀ w∈P.state.saves,w.base≠""→(∃ g,w.before=.ok g∧cfg.graphETag g=w.base)∧
  (Function.Injective cfg.graphETag→∀ g,cfg.graphETag g=w.base→w.before=.ok g):=by
 intro w hw hb
 obtain ⟨g,hg,htag⟩:=(fresh_of_reach hr).saves w hw hb
 exact ⟨⟨g,hg,htag⟩,fun hinj g' hg'=>by rw[hg,hinj (htag.trans hg'.symm)]⟩

structure Doc where
 text:String
 owner:String:=""
 deriving DecidableEq

def openDesk:Config Doc Unit String String where
 graphETag d:=d.text++"/"++d.owner
 owner d:=d.owner
 setOwner owner d:={d with owner:=owner}
 subject p:=p
 checkGraph _ _:=none
 authorizeGraphView _ _:=none
 authorizeGraphEdit _ _:=none
 requireGraphEdit _:=none
 isFlowAdmin _:=true
 maxFlows:=0
 applyGraphOps d ops _:=.ok {d with text:=ops.foldl (fun _ t=>t) d.text}

def naming:(k:Kind)→String→(plainBackend (α:=Doc) k).Choice
 | .git,name=>⟨0,name⟩
 | .postgres,name=>pgID name

abbrev desk(k:Kind):Machine (sig Doc Unit):=machine openDesk (plainBackend k) "flow"

abbrev emptyDesk(k:Kind):Pool (desk k):=stored openDesk (plainBackend k) "flow" (plainBackend k).initial

def steps(k:Kind)(i:Nat)(name:String)(n:Nat):List (Action (desk k)):=
 replicate n (.step i {choice:=naming k name})

/-- The flow is created, and saved by one author after the other has edited it. -/
def inTurn(k:Kind):Pool (desk k):=
 (emptyDesk k).after (apartRuns openDesk (plainBackend k) "flow")
  ([.start (.save "ann" ⟨"one",""⟩ {})]++steps k 0 "r1" 2++[.start (.edit "bob" {ops:=["two"]})]++steps k 1 "r2" 6 ++
   [.start (.save "ann" ⟨"three",""⟩ {baseETag:="two/ann" })]++steps k 2 "r3" 3)

lemma inTurn_reach(k):Reach (apartRuns openDesk (plainBackend k) "flow") (emptyDesk k) (inTurn k):=by
 cases k<;>exact reach_after (by decide +kernel)

theorem saves_in_turn:∃ w∈(inTurn .postgres).state.saves,w.base="two/ann"∧
 ∃ g,w.before=.ok g∧openDesk.graphETag g=w.base:=by
 have hw:∃ w∈(inTurn .postgres).state.saves,w.base="two/ann":=by decide +kernel
 obtain ⟨w,hw,hb⟩:=hw
 exact ⟨w,hw,hb,(conditional_save_atomic (inTurn_reach .postgres) w hw (by rw[hb]; decide)).1⟩

example (k:Kind):(inTurn k).state.saves.map (fun w=>(w.author,w.base,w.after.text)) =
  [("ann","two/ann","three"),("bob","one/ann","two"),("ann","","one")]:=by
 cases k<;>decide +kernel

/-- The flow is created, two authors save over it with its ETag, and both checks come first. -/
def atOnce(k:Kind):Pool (desk k):=
 (emptyDesk k).after (anyRuns (desk k))
  ([.start (.save "ann" ⟨"one",""⟩ {})]++steps k 0 "r1" 2++[.start (.save "ann" ⟨"two",""⟩ {baseETag:="one/ann" })] ++
   [.start (.edit "bob" {ops:=["three"]})]++steps k 1 "r2" 2++steps k 2 "r3" 4++steps k 1 "r2" 1++steps k 2 "r3" 2)

lemma atOnce_saves(k):Reach (anyRuns (desk k)) (emptyDesk k) (atOnce k)∧
 (atOnce k).state.saves.map (fun w=>(w.author,w.base,w.before.toOption,w.after)) =
  [("bob","one/ann",some ⟨"two","ann"⟩,⟨"three","ann"⟩),("ann","one/ann",some ⟨"one","ann"⟩,⟨"two","ann"⟩),
   ("ann","",none,⟨"one","ann"⟩)]:=by
 cases k<;>exact ⟨reach_after (by decide +kernel),by decide +kernel⟩

/-- The edit is applied to the first text and overwrites the second, which its author has
 not seen. -/
theorem unseen_save_overwritten:Reach (anyRuns (desk .postgres)) (emptyDesk .postgres) (atOnce .postgres)∧
 ∃ w∈(atOnce .postgres).state.saves,w.author="bob"∧w.base="one/ann"∧
  w.before.toOption=some ⟨"two","ann"⟩∧openDesk.graphETag ⟨"two","ann"⟩≠w.base:=by
 obtain ⟨hr,hsaves⟩:=atOnce_saves .postgres
 have hm:("bob","one/ann",some (⟨"two","ann"⟩:Doc),(⟨"three","ann"⟩:Doc)) ∈
   (atOnce .postgres).state.saves.map (fun w=>(w.author,w.base,w.before.toOption,w.after)):=by
  rw[hsaves]
  exact mem_cons_self
 obtain ⟨w,hw,heq⟩:=mem_map.1 hm
 simp only[Prod.mk.injEq] at heq
 obtain ⟨hauthor,hbase,hbefore,-⟩:=heq
 exact ⟨hr,w,hw,hauthor,hbase,hbefore,by rw[hbase]; decide⟩

end Runs

end Dazyflow.ConditionalSaves
