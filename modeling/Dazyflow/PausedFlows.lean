import Dazyflow.FlowTriggers
import Dazyflow.WorkspaceLaws

/-!
# Pausing a flow

`SetFlowEnabled` writes the flag into the draft, and every entry point reads it off the published revision.
-/
namespace Dazyflow.PausedFlows
open GoStrings WorkspaceStore WorkspaceBackends WorkspaceLaws FlowTriggers

structure Installation(B:Backend FlowDoc) where
 store:B.State
 -- the rows of the flow in `flow_schedules`, and the entries the scheduler holds
 schedules:List ScheduleSpec:=[]
 tracked:List ScheduleSpec:=[]

inductive Op(B:Backend FlowDoc)
 /-- `refused`: one of the checks before the store is called says no -/
 | save (c:B.Choice) (content:FlowDoc) (author:String) (coalesce refused:Bool)
 /-- `PublishFlow`; `permitted` and `visible` are the checks of the principal -/
 | publish (ref label:String) (permitted visible:Bool)
 /-- `SetFlowEnabled`; likewise `inWorkspace` and `mayEdit` -/
 | setFlowEnabled (c:B.Choice) (enabled:Bool) (author:String) (inWorkspace mayEdit:Bool)
 | rescan

structure Site where
 place:Place
 parseCron:String→String→Bool

variable {B:Backend FlowDoc}(site:Site)

def reprojectSchedule(i:Installation B):Installation B:=
 match deriveFlowSchedules B site.parseCron site.place i.store with
 | some specs=>{i with schedules:=specs}
 | none=>i

def publishTarget(ref:String):String:=if ref="" then "HEAD" else ref

def publishFlow(ref label:String)(permitted visible:Bool)(i:Installation B):Except String String×Installation B:=
 let id:=site.place.graphID
 if permitted=false then (.error "unauthorized",i)
 else
  match B.loadAt i.store (publishTarget ref) id with
  | .error _=>(.error "load",i)
  | .ok _=>
   if visible=false then (.error ("graph "++quote id++": not found"),i)
   else
    let r:=B.setEnv id publishedEnv (publishTarget ref) i.store
    match r.1 with
    | .error m=>(.error m,{i with store:=r.2})
    | .ok _=>
     let commit:=B.publishedCommit r.2 id
     if trimSpace label="" then (.ok commit,reprojectSchedule site {i with store:=r.2})
     else
      let l:=B.setLabel id commit label r.2
      match l.1 with
      | .error m=>(.error m,{i with store:=l.2})
      | .ok _=>(.ok commit,reprojectSchedule site {i with store:=l.2})

def setFlowEnabled(c:B.Choice)(enabled:Bool)(author:String)(inWorkspace mayEdit:Bool)(i:Installation B):
 Except String String×Installation B:=
 let id:=site.place.graphID
 if inWorkspace=false then (.error "unauthorized",i)
 else
  match B.load i.store id with
  | .error _=>(.error "load",i)
  | .ok g=>
   if mayEdit=false then (.error "unauthorized",i)
   else if g.disabled = !enabled then (.ok "",i)
   else
    let r:=B.write c (.save id {g with disabled:=!enabled} author false) i.store
    match r.1 with
    | .error m=>(.error m,{i with store:=r.2})
    | .ok commit=>(.ok commit,reprojectSchedule site {i with store:=r.2})

def saveGraph(c:B.Choice)(content:FlowDoc)(author:String)(coalesce refused:Bool)(i:Installation B):
 Except String String×Installation B:=
 if refused then (.error "refused",i)
 else
  let r:=B.write c (.save site.place.graphID content author coalesce) i.store
  match r.1 with
  | .error m=>(.error m,{i with store:=r.2})
  | .ok commit=>(.ok commit,reprojectSchedule site {i with store:=r.2})

def Op.apply(i:Installation B):Op B→Except String String×Installation B
 | .save c content author coalesce refused=>saveGraph site c content author coalesce refused i
 | .publish ref label permitted visible=>publishFlow site ref label permitted visible i
 | .setFlowEnabled c enabled author inWorkspace mayEdit=>PausedFlows.setFlowEnabled site c enabled author inWorkspace mayEdit i
 | .rescan=>(.ok "",{i with tracked:=i.schedules})

def Op.fits(i:Installation B):Op B→Prop
 | .save c content author coalesce _=>B.fits i.store c (.save site.place.graphID content author coalesce)
 | .setFlowEnabled c enabled author _ _=>∀ g,B.load i.store site.place.graphID=.ok g→
  B.fits i.store c (.save site.place.graphID {g with disabled:=!enabled} author false)
 | .publish .. | .rescan=>True

/-- The last `SetFlowEnabled` that returned, and nothing once the opposite has been called since. -/
def nextMode(returned:Bool)(mode:Option Bool):Op B→Option Bool
 | .setFlowEnabled _ enabled .. =>if returned then some enabled else if mode=some (!enabled) then none else mode
 | .save .. | .publish .. | .rescan=>mode

inductive History(ok:Installation B→Option Bool→Op B→Prop):Installation B→Option Bool→Prop
 | start:History ok {store:=B.initial} none
 | step {i mode} (h:History ok i mode) (op:Op B) (hfits:op.fits site i)
  (hok:ok i mode op):History ok (op.apply site i).2 (nextMode (op.apply site i).1.isOk mode op)

/-- `SetFlowEnabled` is called only when the published revision, if there is one, carries
 the flag already, and a revision is published only if it carries the flag in force. -/
def careful(i:Installation B)(mode:Option Bool):Op B→Prop
 | .setFlowEnabled _ enabled .. =>∀ g,B.loadPublished i.store site.place.graphID=.ok g → g.disabled = !enabled
 | .publish ref .. =>∀ enabled,mode=some enabled→
  ∀ g,B.loadAt i.store (publishTarget ref) site.place.graphID=.ok g → g.disabled = !enabled
 | .save .. | .rescan=>True

section Effects

variable {site}{i:Installation B}

lemma reprojectSchedule_store:(reprojectSchedule site i).store=i.store:=by
 unfold reprojectSchedule
 cases deriveFlowSchedules B site.parseCron site.place i.store<;>rfl
lemma saveGraph_store(c content author coalesce refused):
 (saveGraph site c content author coalesce refused i).2.store=i.store∨
  (saveGraph site c content author coalesce refused i).2.store =
   (B.write c (.save site.place.graphID content author coalesce) i.store).2:=by
 unfold saveGraph
 cases refused with
 | true=>exact .inl rfl
 | false=>
  rw[if_neg Bool.false_ne_true]
  dsimp only
  cases (B.write c (.save site.place.graphID content author coalesce) i.store).1 with
  | error m=>exact .inr rfl
  | ok commit=>exact .inr reprojectSchedule_store
lemma setFlowEnabled_store(c enabled author inWorkspace mayEdit):
 (setFlowEnabled site c enabled author inWorkspace mayEdit i).2.store=i.store∨
  ∃ g,B.load i.store site.place.graphID=.ok g∧
   (setFlowEnabled site c enabled author inWorkspace mayEdit i).2.store =
    (B.write c (.save site.place.graphID {g with disabled:=!enabled} author false) i.store).2:=by
 unfold setFlowEnabled
 by_cases hin:inWorkspace=false
 ·rw[if_pos hin]
  exact .inl rfl
 rw[if_neg hin]
 cases hl:B.load i.store site.place.graphID with
 | error e=>exact .inl rfl
 | ok g=>?_
 dsimp only
 split_ifs
 ·exact .inl rfl
 ·exact .inl rfl
 ·refine .inr ⟨g,rfl,?_⟩
  cases (B.write c (.save site.place.graphID {g with disabled:=!enabled} author false) i.store).1 with
  | error m=>rfl
  | ok commit=>exact reprojectSchedule_store
lemma publishFlow_store(ref label permitted visible):
 (publishFlow site ref label permitted visible i).2.store=i.store∨
  ∃ g,B.loadAt i.store (publishTarget ref) site.place.graphID=.ok g∧
   ((publishFlow site ref label permitted visible i).2.store =
    (B.setEnv site.place.graphID publishedEnv (publishTarget ref) i.store).2∨
    ∃ commit,(publishFlow site ref label permitted visible i).2.store =
     (B.setLabel site.place.graphID commit label
      (B.setEnv site.place.graphID publishedEnv (publishTarget ref) i.store).2).2):=by
 unfold publishFlow
 by_cases hper:permitted=false
 ·rw[if_pos hper]
  exact .inl rfl
 rw[if_neg hper]
 cases hl:B.loadAt i.store (publishTarget ref) site.place.graphID with
 | error e=>exact .inl rfl
 | ok g=>?_
 dsimp only
 by_cases hvis:visible=false
 ·rw[if_pos hvis]
  exact .inl rfl
 rw[if_neg hvis]
 refine .inr ⟨g,rfl,?_⟩
 cases (B.setEnv site.place.graphID publishedEnv (publishTarget ref) i.store).1 with
 | error m=>exact .inl rfl
 | ok u=>?_
 dsimp only
 by_cases hlabel:trimSpace label=""
 ·rw[if_pos hlabel]
  exact .inl reprojectSchedule_store
 ·rw[if_neg hlabel]
  refine .inr ⟨B.publishedCommit (B.setEnv site.place.graphID publishedEnv (publishTarget ref) i.store).2
   site.place.graphID,?_⟩
  cases (B.setLabel site.place.graphID (B.publishedCommit (B.setEnv site.place.graphID publishedEnv
   (publishTarget ref) i.store).2 site.place.graphID) label
    (B.setEnv site.place.graphID publishedEnv (publishTarget ref) i.store).2).1 with
  | error m=>rfl
  | ok u=>exact reprojectSchedule_store

end Effects

section Histories

variable {site}{k:Kind}{git:GitWorkspace.Revisions FlowDoc}{i:Installation (k.backend git)}{mode:Option Bool}

structure InForce(I:Invariants B)(graphID:String)(s:B.State)(mode:Option Bool):Prop where
 sound:I.Sound s
 pinned:I.Pinned s graphID
 flag:∀ enabled,mode=some enabled→∀ g,B.loadPublished s graphID=.ok g → g.disabled = !enabled

section

variable (h:InForce (k.invariants git) site.place.graphID i.store mode)

include h

lemma InForce.save{c}
 {content author coalesce}
 (hfits:(k.backend git).fits i.store c (.save site.place.graphID content author coalesce)):
 InForce (k.invariants git) site.place.graphID
  ((k.backend git).write c (.save site.place.graphID content author coalesce) i.store).2 mode:=by
 have hsave:=(k.laws git).save i.store c site.place.graphID content author coalesce h.sound hfits
 obtain ⟨hpin,hpub⟩:=hsave.published _ h.pinned
 exact ⟨hsave.sound,hpin,fun enabled hm g hg=>h.flag enabled hm g (hpub▸hg)⟩
lemma inForce_publish{ref label}
 {permitted visible}
 (hok:careful site i mode (.publish ref label permitted visible:Op (k.backend git))):
 InForce (k.invariants git) site.place.graphID (publishFlow site ref label permitted visible i).2.store mode:=by
 rcases publishFlow_store ref label permitted visible with hs | ⟨g,hl,hs⟩
 ·rw[hs]
  exact h
 ·obtain ⟨hpin,hpub⟩:=(k.laws git).publish i.store site.place.graphID (publishTarget ref) g h.sound h.pinned hl
  have hsound:=((k.laws git).setEnv i.store site.place.graphID publishedEnv (publishTarget ref) h.sound).1
  have hflag:∀ enabled,mode=some enabled → g.disabled = !enabled:=fun enabled hm=>hok enabled hm g hl
  rcases hs with hs | ⟨commit,hs⟩
  ·rw[hs]
   refine ⟨hsound,hpin,fun enabled hm g' hg'=>?_⟩
   rw[hpub] at hg'
   cases hg'
   exact hflag enabled hm
  ·rw[hs]
   obtain ⟨hsound',-,hkeep⟩:=(k.laws git).setLabel _ site.place.graphID commit label hsound
   obtain ⟨hpin',hpub'⟩:=hkeep _ hpin
   refine ⟨hsound',hpin',fun enabled hm g' hg'=>?_⟩
   rw[hpub',hpub] at hg'
   cases hg'
   exact hflag enabled hm
lemma inForce_setFlowEnabled
 {c enabled author inWorkspace mayEdit}
 (hfits:(Op.setFlowEnabled c enabled author inWorkspace mayEdit:Op (k.backend git)).fits site i)
 (hok:careful site i mode (.setFlowEnabled c enabled author inWorkspace mayEdit:Op (k.backend git))):
 InForce (k.invariants git) site.place.graphID
  (setFlowEnabled site c enabled author inWorkspace mayEdit i).2.store (some enabled)∧
 InForce (k.invariants git) site.place.graphID
  (setFlowEnabled site c enabled author inWorkspace mayEdit i).2.store mode:=by
 have hnow:InForce (k.invariants git) site.place.graphID i.store (some enabled):=by
  refine ⟨h.sound,h.pinned,fun enabled' hm g hg=>?_⟩
  cases hm
  exact hok g hg
 rcases setFlowEnabled_store c enabled author inWorkspace mayEdit with hs | ⟨g,hl,hs⟩
 ·rw[hs]
  exact ⟨hnow,h⟩
 ·rw[hs]
  exact ⟨hnow.save (hfits g hl),h.save (hfits g hl)⟩
lemma inForce_step(op)
 (hfits:op.fits site i)(hok:careful site i mode op):
 InForce (k.invariants git) site.place.graphID (op.apply site i).2.store
  (nextMode (op.apply site i).1.isOk mode op):=by
 cases op with
 | save c content author coalesce refused=>
  change InForce _ _ (saveGraph site c content author coalesce refused i).2.store mode
  rcases saveGraph_store c content author coalesce refused with hs | hs
  ·rw[hs]
   exact h
  ·rw[hs]
   exact h.save hfits
 | publish ref label permitted visible=>exact inForce_publish h hok
 | setFlowEnabled c enabled author inWorkspace mayEdit=>
  obtain ⟨hnow,hold⟩:=inForce_setFlowEnabled h hfits hok
  dsimp only[nextMode]
  split_ifs
  ·exact hnow
  ·exact ⟨hold.sound,hold.pinned,nofun⟩
  ·exact hold
 | rescan=>exact h

end

lemma inForce_history(h:History site (careful site) i mode):
 InForce (k.invariants git) site.place.graphID i.store mode:=by
 induction h with
 | start=>exact ⟨(k.laws git).initial.1,(k.laws git).initial.2 _,nofun⟩
 | step h op hfits hok ih=>exact inForce_step ih op hfits hok

end Histories

/-- In every history whose steps are careful: while the last `SetFlowEnabled` to return was
 `SetFlowEnabled(false)`, nothing that is delivered starts a run, and while it was
 `SetFlowEnabled(true)`, nothing is refused as disabled. -/
theorem pausing_is_live(site:Site)(k:Kind)(git:GitWorkspace.Revisions FlowDoc)
 {i:Installation (k.backend git)}{mode:Option Bool}(h:History site (careful site) i mode)(d:Delivery):
 (mode=some false→deliver (k.backend git) i.store site.place.graphID i.tracked d≠.started)∧
  (mode=some true→deliver (k.backend git) i.store site.place.graphID i.tracked d≠.flowDisabled):=by
 have hf:=(inForce_history h).flag
 refine ⟨fun hm hd=>?_,fun hm hd=>?_⟩
 ·obtain ⟨g,hg,hdis⟩:=(live_of_deliver d).1 hd
  rw[hf false hm g hg] at hdis
  cases hdis
 ·obtain ⟨g,hg,hdis⟩:=(live_of_deliver d).2 hd
  rw[hf true hm g hg] at hdis
  cases hdis

def workshop:Site:={place:=⟨"acme","main","flow"⟩,parseCron:=fun _ _=>true}

abbrev Step:=Op (plainBackend .postgres)

def saveStep(content:FlowDoc):Step:=.save (pgID "r1") content "ada" false false

def publishStep:Step:=.publish "" "" true true

def switchStep(enabled:Bool):Step:=.setFlowEnabled (pgID "r2") enabled "ada" true true

def fresh:Installation (plainBackend .postgres):={store:=(plainBackend .postgres).initial}

def saved(content:FlowDoc):Installation (plainBackend .postgres):=((saveStep content).apply workshop fresh).2

def published(content:FlowDoc):Installation (plainBackend .postgres):=
 (publishStep.apply workshop (saved content)).2

def switched(content:FlowDoc)(enabled:Bool):Installation (plainBackend .postgres):=
 ((switchStep enabled).apply workshop (published content)).2

lemma history_switched{ok:Installation (plainBackend .postgres)→Option Bool→Step→Prop}{content}
 {enabled}(hfirst:(saveStep content).fits workshop fresh∧ok fresh none (saveStep content))
 (hthen:ok (saved content) none publishStep)
 (hlast:(switchStep enabled).fits workshop (published content)∧ok (published content) none (switchStep enabled))
 (hret:((switchStep enabled).apply workshop (published content)).1.isOk):
 History workshop ok (switched content enabled) (some enabled):=by
 have h:=((History.start.step (saveStep content) hfirst.1 hfirst.2).step publishStep trivial hthen).step
  (switchStep enabled) hlast.1 hlast.2
 have hmode:nextMode ((switchStep enabled).apply workshop (published content)).1.isOk none (switchStep enabled) =
  some enabled:=by
  rw[hret]
  rfl
 exact hmode▸h
lemma fits_saveStep(content):(saveStep content).fits workshop fresh:=
 fun _=>(show minted ((plainBackend .postgres).initial "flow":PgWorkspace.FlowRows FlowDoc) "r1" from
  ⟨by decide +kernel,by decide⟩)
lemma fits_switchStep{content}(enabled)(h:minted ((published content).store "flow") "r2"):
 (switchStep enabled).fits workshop (published content):=fun _ _ _=>h

theorem paused_flow_rests:
 History workshop (careful workshop) (switched {hooked with disabled:=true} false) (some false)∧
  deliver (plainBackend .postgres) (switched {hooked with disabled:=true} false).store "flow"
   (switched {hooked with disabled:=true} false).tracked (.webhook {})≠.started:=by
 have hpub:(plainBackend .postgres).loadPublished (published {hooked with disabled:=true}).store "flow" =
   .ok {hooked with disabled:=true}:=by decide +kernel
 have h:History workshop (careful workshop) (switched {hooked with disabled:=true} false) (some false):=by
  refine history_switched ⟨fits_saveStep _,trivial⟩ nofun
   ⟨fits_switchStep false ⟨by decide +kernel,by decide⟩,fun g hg=>?_⟩ (by decide +kernel)
  rw[show (plainBackend .postgres).loadPublished (published {hooked with disabled:=true}).store
   workshop.place.graphID=_ from hpub] at hg
  cases hg
  rfl
 exact ⟨h,(pausing_is_live workshop .postgres GitWorkspace.plainRevisions h (.webhook {})).1 rfl⟩

theorem paused_flow_still_fires:
 (∃ i,History workshop (fun _ _ _=>True) i (some false)∧
  deliver (plainBackend .postgres) i.store "flow" i.tracked (.webhook {})=.started)∧
 ∃ i,History workshop (fun _ _ _=>True) i (some true)∧
  deliver (plainBackend .postgres) i.store "flow" i.tracked (.webhook {})=.flowDisabled:=by
 refine ⟨⟨switched hooked false,?_,by decide +kernel⟩,⟨switched {hooked with disabled:=true} true,?_,by decide +kernel⟩⟩
 ·exact history_switched ⟨fits_saveStep _,trivial⟩ trivial
   ⟨fits_switchStep false ⟨by decide +kernel,by decide⟩,trivial⟩ (by decide +kernel)
 ·exact history_switched ⟨fits_saveStep _,trivial⟩ trivial
   ⟨fits_switchStep true ⟨by decide +kernel,by decide⟩,trivial⟩ (by decide +kernel)

end Dazyflow.PausedFlows
