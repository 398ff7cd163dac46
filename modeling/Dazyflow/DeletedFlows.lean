import Dazyflow.FlowTriggers
import Dazyflow.WorkspaceLaws

/-!
# Deleting a flow

Histories of the workspace store, and what is left of a flow that `DeleteGraph` has taken away: nothing on
Postgres, its published tag on git.
-/
namespace Dazyflow.DeletedFlows
open GoStrings WorkspaceStore WorkspaceBackends WorkspaceLaws FlowTriggers

variable {B:Backend FlowDoc}

/-- What `DeleteGraph` asks beside the store: `RequireWorkspace`, `AuthorizeGraphEdit` and
 `hasActiveRun`. -/
structure DeleteCheck where
 inWorkspace:Bool:=true
 mayEdit:Bool:=true
 active:Except String Bool:=.ok false

def deleteGraph(c:B.Choice)(graphID author:String)(check:DeleteCheck)(s:B.State):
 Except String Unit×B.State:=
 if check.inWorkspace=false then (.error "unauthorized",s)
 else
  match B.load s graphID with
  | .error .graphNotFound=>(.ok (),s)
  | .error _=>(.error ("load flow "++quote graphID),s)
  | .ok _=>
   if check.mayEdit=false then (.error "unauthorized",s)
   else
    match check.active with
    | .error e=>(.error ("check active runs: "++e),s)
    | .ok true=>(.error ("job state conflict: flow "++quote graphID++" has an active run; cancel it first"),s)
    | .ok false=>
     let r:=B.write c (.delete graphID author) s
     (r.1.map (fun _=>()),r.2)

lemma deleteGraph_cases(c graphID author check s):
 (∃ m,deleteGraph c graphID author check s=(.error m,s))∨
  B.load s graphID=.error .graphNotFound∧deleteGraph c graphID author check s=(.ok (),s)∨
  deleteGraph c graphID author check s =
   ((B.write c (.delete graphID author) s).1.map (fun _=>()),(B.write c (.delete graphID author) s).2):=by
 unfold deleteGraph
 split
 ·exact .inl ⟨_,rfl⟩
 cases hl:B.load s graphID with
 | error e=>
  cases e with
  | notPublished | unresolved=>exact .inl ⟨_,rfl⟩
  | graphNotFound=>exact .inr (.inl ⟨rfl,rfl⟩)
 | ok g=>
  dsimp only
  split
  ·exact .inl ⟨_,rfl⟩
  rcases check.active with e | _ | _
  ·exact .inl ⟨_,rfl⟩
  ·exact .inr (.inr rfl)
  ·exact .inl ⟨_,rfl⟩

inductive Op(B:Backend FlowDoc)
 | save (c:B.Choice)(graphID:String)(content:FlowDoc)(author:String)(coalesce:Bool)
 | promote (graphID env commit:String)
 | clear (graphID env:String)
 | delete (c:B.Choice)(graphID author:String)
 | deleteGraph (c:B.Choice)(graphID author:String)(check:DeleteCheck)

def Op.apply(s:B.State):Op B→Bool×B.State
 | .save c graphID content author coalesce=>
  let r:=B.write c (.save graphID content author coalesce) s
  (r.1.isOk,r.2)
 | .promote graphID env commit=>
  let r:=B.setEnv graphID env commit s
  (r.1.isOk,r.2)
 | .clear graphID env=>
  let r:=B.clearEnv graphID env s
  (r.1.isOk,r.2)
 | .delete c graphID author=>
  let r:=B.write c (.delete graphID author) s
  (r.1.isOk,r.2)
 | .deleteGraph c graphID author check=>
  let r:=DeletedFlows.deleteGraph c graphID author check s
  (r.1.isOk,r.2)

def Op.fits(s:B.State):Op B→Prop
 | .save c graphID content author coalesce=>B.fits s c (.save graphID content author coalesce)
 | .delete c graphID author | .deleteGraph c graphID author _=>B.fits s c (.delete graphID author)
 | .promote .. | .clear .. =>True

inductive Standing
 | untouched | deleted | saved
 deriving DecidableEq

def Standing.next(f:String)(returned:Bool):Op B→Standing→Standing
 | .deleteGraph _ graphID ..,st=>if graphID=f∧returned then .deleted else st
 | .save _ graphID ..,st=>if graphID=f∧returned∧st=.deleted then .saved else st
 | .promote graphID env _,st=>
  if graphID=f∧env=publishedEnv∧returned∧st=.saved then .untouched else st
 | .clear ..,st | .delete ..,st=>st

inductive History(B:Backend FlowDoc)(ok:B.State→Op B→Prop)(f:String):B.State→Standing→Prop
 | start:History B ok f B.initial .untouched
 | step {s st} (h:History B ok f s st) (op:Op B) (hfits:op.fits s) (hok:ok s op):
  History B ok f (op.apply s).2 (st.next f (op.apply s).1 op)

/-- On git a flow is deleted only while it is not published, and a flow is published only
 while it is there. -/
def careful(k:Kind)(git:GitWorkspace.Revisions FlowDoc)(s:(k.backend git).State):Op (k.backend git)→Prop
 | .promote graphID env _=>env=publishedEnv→∃ g,(k.backend git).load s graphID=.ok g
 | .delete _ graphID _ | .deleteGraph _ graphID .. =>k=.git→(k.backend git).publishedCommit s graphID=""
 | .save .. | .clear .. =>True

structure Offline(B:Backend FlowDoc)(s:B.State)(f:String)(st:Standing):Prop where
 absent:∀ e,B.load s f=.error e→B.publishedCommit s f=""
 gone:st=.deleted→∃ e,B.load s f=.error e
 unpublished:st=.saved→B.publishedCommit s f=""

section Step

variable {k:Kind}{git:GitWorkspace.Revisions FlowDoc}{s:(k.backend git).State}{f:String}{st:Standing}

lemma sound_step(hs:(k.invariants git).Sound s)(op:Op (k.backend git))(hfits:op.fits s):
 (k.invariants git).Sound (op.apply s).2:=by
 cases op with
 | save c graphID content author coalesce=>
  exact ((k.laws git).save s c graphID content author coalesce hs hfits).sound
 | promote graphID env commit=>exact ((k.laws git).setEnv s graphID env commit hs).1
 | clear graphID env=>exact ((k.laws git).clearEnv s graphID env hs).1
 | delete c graphID author=>exact ((k.laws git).delete s c graphID author hs hfits).sound
 | deleteGraph c graphID author check=>
  dsimp only[Op.apply]
  rcases deleteGraph_cases c graphID author check s with ⟨m,hr⟩ | ⟨-,hr⟩ | hr
  ·rw[hr]
   exact hs
  ·rw[hr]
   exact hs
  ·rw[hr]
   exact ((k.laws git).delete s c graphID author hs hfits).sound
lemma Offline.congr{s'}(h:Offline (k.backend git) s f st)
 (hload:(k.backend git).load s' f=(k.backend git).load s f)
 (hpub:(k.backend git).publishedCommit s' f=""∨
  (k.backend git).publishedCommit s' f=(k.backend git).publishedCommit s f):
 Offline (k.backend git) s' f st:=by
 have hkept:(k.backend git).publishedCommit s f=""→(k.backend git).publishedCommit s' f="":=by
  intro hp
  rcases hpub with h | h
  ·exact h
  ·exact h.trans hp
 exact ⟨fun e he=>hkept (h.absent e (hload▸he)),fun hst=>hload▸h.gone hst,fun hst=>hkept (h.unpublished hst)⟩
section

variable (hs:(k.invariants git).Sound s)(h:Offline (k.backend git) s f st)

include hs h

lemma published_of_delete{c author rev}(hfits:(k.backend git).fits s c (.delete f author))
 (hok:k=.git→(k.backend git).publishedCommit s f="")
 (hret:((k.backend git).write c (.delete f author) s).1=.ok rev):
 (k.backend git).publishedCommit ((k.backend git).write c (.delete f author) s).2 f="":=by
 have hdel:=(k.laws git).delete s c f author hs hfits
 have hsame:(k.backend git).publishedCommit s f=""→
  (k.backend git).publishedCommit ((k.backend git).write c (.delete f author) s).2 f="":=by
  intro hp
  rcases hdel.envs publishedEnv with h | h
  ·exact h
  ·exact h.trans hp
 cases k with
 | git=>exact hsame (hok rfl)
 | postgres=>
  cases hl:(Kind.backend git .postgres).load s f with
  | error e=>exact hsame (h.absent e hl)
  | ok g=>exact pg_delete_clears s c f author hs hfits hl hret publishedEnv
lemma offline_delete{c graphID author}(hfits:(k.backend git).fits s c (.delete graphID author))
 (hok:k=.git→(k.backend git).publishedCommit s graphID=""){st'}
 (hst:st'=st∨st'=.deleted∧graphID=f∧((k.backend git).write c (.delete graphID author) s).1.isOk):
 Offline (k.backend git) ((k.backend git).write c (.delete graphID author) s).2 f st':=by
 have hdel:=(k.laws git).delete s c graphID author hs hfits
 by_cases hf:f=graphID
 ·subst hf
  cases hret:((k.backend git).write c (.delete f author) s).1 with
  | error m=>
   rw[hdel.error m hret]
   rcases hst with rfl | ⟨-,-,hret'⟩
   ·exact h
   ·rw[hret] at hret'
    cases hret'
  | ok rev=>
   have hpub:=published_of_delete hs h hfits hok hret
   exact ⟨fun _ _=>hpub,fun _=>⟨_,hdel.ok rev hret⟩,fun _=>hpub⟩
 ·obtain ⟨hload,henv⟩:=hdel.others f hf
  rcases hst with rfl | ⟨-,hg,-⟩
  ·exact h.congr hload (.inr (henv publishedEnv))
  ·exact absurd hg.symm hf

end

lemma offline_step(hvalid:validGraphID f)(hs:(k.invariants git).Sound s)
 (h:Offline (k.backend git) s f st)(op)(hfits:op.fits s)(hok:careful k git s op):
 Offline (k.backend git) (op.apply s).2 f (st.next f (op.apply s).1 op):=by
 cases op with
 | save c graphID content author coalesce=>
  have hsave:=(k.laws git).save s c graphID content author coalesce hs hfits
  dsimp only[Op.apply,Standing.next]
  cases hret:((k.backend git).write c (.save graphID content author coalesce) s).1 with
  | error m=>
   rw[hsave.error m hret,if_neg (by rintro ⟨-,hr,-⟩; cases hr)]
   exact h
  | ok rev=>
   have henv:(k.backend git).publishedCommit _ f=(k.backend git).publishedCommit s f:=hsave.envs f publishedEnv
   by_cases hf:graphID=f
   ·subst hf
    have hload:=hsave.ok rev hret
    refine ⟨fun e he=>?_,fun hst=>?_,fun hst=>?_⟩
    ·rw[hload] at he
     cases he
    ·by_cases hd:st=.deleted
     ·rw[if_pos ⟨rfl,rfl,hd⟩] at hst
      cases hst
     ·rw[if_neg fun hc=>hd hc.2.2] at hst
      exact absurd hst hd
    ·rw[henv]
     by_cases hd:st=.deleted
     ·obtain ⟨e,he⟩:=h.gone hd
      exact h.absent e he
     ·rw[if_neg fun hc=>hd hc.2.2] at hst
      exact h.unpublished hst
   ·rw[if_neg fun hc=>hf hc.1]
    exact h.congr (hsave.others f (Ne.symm hf)) (.inr henv)
 | promote graphID env commit=>
  have hload:=((k.laws git).setEnv s graphID env commit hs).2
  dsimp only[Op.apply,Standing.next]
  by_cases hf:graphID=f∧env=publishedEnv
  ·obtain ⟨rfl,rfl⟩:=hf
   obtain ⟨g,hg⟩:=hok rfl
   have hthere:st≠.deleted:=by
    intro hd
    obtain ⟨e,he⟩:=h.gone hd
    rw[hg] at he
    cases he
   refine ⟨fun e he=>?_,fun hst=>?_,fun hst=>?_⟩
   ·rw[hload,hg] at he
    cases he
   ·split_ifs at hst
    exact absurd hst hthere
   ·cases hret:((k.backend git).setEnv graphID publishedEnv commit s).1 with
    | error m=>
     rw[hret,if_neg (by rintro ⟨-,-,hr,-⟩; cases hr)] at hst
     rw[(k.laws git).setEnv_error s graphID publishedEnv commit m hret]
     exact h.unpublished hst
    | ok u=>
     rw[hret] at hst
     by_cases hsv:st=.saved
     ·rw[if_pos ⟨rfl,rfl,rfl,hsv⟩] at hst
      cases hst
     ·rw[if_neg fun hc=>hsv hc.2.2.2] at hst
      exact absurd hst hsv
  ·have hpub:=(k.laws git).setEnv_other s graphID env commit f hvalid (not_and_or.1 hf)
   rw[if_neg fun hc=>hf ⟨hc.1,hc.2.1⟩]
   exact h.congr (hload f) (.inr hpub)
 | clear graphID env=>
  obtain ⟨-,hload,hpub⟩:=(k.laws git).clearEnv s graphID env hs
  exact h.congr (hload f) (hpub f)
 | delete c graphID author=>
  exact offline_delete hs h hfits hok (.inl rfl)
 | deleteGraph c graphID author check=>
  dsimp only[Op.apply,Standing.next]
  rcases deleteGraph_cases c graphID author check s with ⟨m,hr⟩ | ⟨hl,hr⟩ | hr
  ·rw[hr,if_neg (by rintro ⟨-,hret⟩; cases hret)]
   exact h
  ·rw[hr]
   by_cases hf:graphID=f
   ·rw[if_pos ⟨hf,rfl⟩]
    exact ⟨h.absent,fun _=>⟨_,hf▸hl⟩,nofun⟩
   ·rw[if_neg fun hc=>hf hc.1]
    exact h
  ·rw[hr]
   refine offline_delete hs h hfits hok ?_
   split_ifs with hdel
   ·refine .inr ⟨rfl,hdel.1,?_⟩
    have hret:=hdel.2
    cases hw:((k.backend git).write c (.delete graphID author) s).1 with
    | error m=>
     rw[hw] at hret
     cases hret
    | ok rev=>rfl
   ·exact .inl rfl
lemma not_saved_step(hinvalid:validGraphID f=false)(hs:(k.invariants git).Sound s)(op)
 (hfits:op.fits s)(h:st≠.saved):st.next f (op.apply s).1 op≠.saved:=by
 cases op with
 | save c graphID content author coalesce=>
  dsimp only[Op.apply,Standing.next]
  split_ifs with hc
  ·obtain ⟨rfl,hret,-⟩:=hc
   have hsave:=(k.laws git).save s c graphID content author coalesce hs hfits
   cases hr:((k.backend git).write c (.save graphID content author coalesce) s).1 with
   | error m=>
    rw[hr] at hret
    cases hret
   | ok rev=>
    obtain ⟨⟨e,he⟩,-⟩:=(k.laws git).invalid _ graphID hsave.sound hinvalid
    rw[hsave.ok rev hr] at he
    cases he
  ·exact h
 | promote graphID env commit | deleteGraph c graphID author check=>
  dsimp only[Standing.next]
  split_ifs
  ·exact nofun
  ·exact h
 | clear graphID env | delete c graphID author=>exact h

variable {ok:(k.backend git).State→Op (k.backend git)→Prop}

lemma sound_history(h:History (k.backend git) ok f s st):(k.invariants git).Sound s:=by
 induction h with
 | start=>exact (k.laws git).initial.1
 | step h op hfits hok ih=>exact sound_step ih op hfits
lemma offline_history(hvalid:validGraphID f)(h:History (k.backend git) (careful k git) f s st):
 Offline (k.backend git) s f st:=by
 induction h with
 | start=>exact ⟨fun _ _=>by cases k<;>rfl,nofun,nofun⟩
 | step h op hfits hok ih=>exact offline_step hvalid (sound_history h) ih op hfits hok
lemma not_saved_history(hinvalid:validGraphID f=false)
 (h:History (k.backend git) ok f s st):st≠.saved:=by
 induction h with
 | start=>exact nofun
 | step h op hfits hok ih=>exact not_saved_step hinvalid (sound_history h) op hfits ih

end Step

/-- In every history whose deletes on git find the flow unpublished and whose promotes to
 the published environment find it there: from the return of `DeleteGraph` to the
 publication of a flow saved since, the flow cannot be loaded as published, once it is
 saved again it is unpublished, and nothing that is delivered to it starts a run. -/
theorem deleted_flow_offline(k:Kind)(git:GitWorkspace.Revisions FlowDoc)(f:String)
 {s:(k.backend git).State}{st:Standing}(h:History (k.backend git) (careful k git) f s st)
 (hst:st≠.untouched)(tracked:List ScheduleSpec):
 (∃ e,(k.backend git).loadPublished s f=.error e)∧
  (st=.saved→(k.backend git).publishedCommit s f="")∧
  ∀ d,deliver (k.backend git) s f tracked d≠.started:=by
 have hfails:(∃ e,(k.backend git).loadPublished s f=.error e)∧
   (st=.saved→(k.backend git).publishedCommit s f=""):=by
  cases hvalid:validGraphID f with
  | false=>
   refine ⟨?_,fun hsaved=>absurd hsaved (not_saved_history hvalid h)⟩
   unfold Backend.loadPublished
   split_ifs
   ·exact ⟨_,rfl⟩
   ·exact ((k.laws git).invalid s f (sound_history h) hvalid).2 _
  | true=>
   have hoff:=offline_history hvalid h
   have hpub:(k.backend git).publishedCommit s f="":=by
    cases st with
    | untouched=>exact absurd rfl hst
    | deleted=>
     obtain ⟨e,he⟩:=hoff.gone rfl
     exact hoff.absent e he
    | saved=>exact hoff.unpublished rfl
   refine ⟨⟨.notPublished,?_⟩,fun _=>hpub⟩
   unfold Backend.loadPublished
   rw[if_pos hpub]
 refine ⟨hfails.1,hfails.2,fun d hd=>?_⟩
 obtain ⟨e,he⟩:=hfails.1
 obtain ⟨g,hg,-⟩:=(live_of_deliver d).1 hd
 rw[he] at hg
 cases hg

def shortLife{B}(c c':B.Choice):List (Op B):=
 [.save c "flow" hooked "ada" false,.promote "flow" publishedEnv "HEAD",.deleteGraph c' "flow" "ada" {}]

def applyAll{B}(s:B.State)(st:Standing):List (Op B)→B.State×Standing
 | []=>(s,st)
 | op::ops=>applyAll (op.apply s).2 (st.next "flow" (op.apply s).1 op) ops

lemma history_applyAll{B}{ok:B.State→Op B→Prop}{s st}
 (h:History B ok "flow" s st)(a b c)(ha:a.fits s∧ok s a)
 (hb:b.fits (a.apply s).2∧ok (a.apply s).2 b)
 (hc:c.fits (b.apply (a.apply s).2).2∧ok (b.apply (a.apply s).2).2 c):
 History B ok "flow" (applyAll s st [a,b,c]).1 (applyAll s st [a,b,c]).2:=
 ((h.step a ha.1 ha.2).step b hb.1 hb.2).step c hc.1 hc.2

theorem postgres_flow_deleted:
 (applyAll (plainBackend .postgres).initial .untouched (shortLife (pgID "r1") (pgID "r2"))).2=.deleted∧
  deliver (plainBackend .postgres)
   (applyAll (plainBackend .postgres).initial .untouched (shortLife (pgID "r1") (pgID "r2"))).1 "flow" []
   (.webhook {})≠.started:=by
 have h:History (plainBackend .postgres) (careful .postgres GitWorkspace.plainRevisions) "flow"
   (applyAll (plainBackend .postgres).initial .untouched (shortLife (pgID "r1") (pgID "r2"))).1
   (applyAll (plainBackend .postgres).initial .untouched (shortLife (pgID "r1") (pgID "r2"))).2:=by
  refine history_applyAll .start _ _ _ ⟨fun _=>?_,trivial⟩ ⟨trivial,fun _=>⟨hooked,by decide +kernel⟩⟩
   ⟨fun _=>?_,nofun⟩
  ·exact (show minted ((plainBackend .postgres).initial "flow") "r1" from ⟨by decide +kernel,by decide⟩)
  ·exact (show minted (_:PgWorkspace.FlowRows FlowDoc) "r2" from ⟨by decide +kernel,by decide⟩)
 have hst:(applyAll (plainBackend .postgres).initial .untouched (shortLife (pgID "r1") (pgID "r2"))).2=.deleted:=by
  decide +kernel
 exact ⟨hst,(deleted_flow_offline .postgres GitWorkspace.plainRevisions "flow" h (by rw[hst]; exact nofun) []).2.2 _⟩

theorem git_flow_deleted_still_fires:
 ∃ s,History (plainBackend .git) (fun _ _=>True) "flow" s .deleted∧
  deliver (plainBackend .git) s "flow" [] (.webhook {})=.started:=by
 have h:History (plainBackend .git) (fun _ _=>True) "flow"
   (applyAll (plainBackend .git).initial .untouched (shortLife ⟨0,"c1"⟩ ⟨0,"c2"⟩)).1
   (applyAll (plainBackend .git).initial .untouched (shortLife ⟨0,"c1"⟩ ⟨0,"c2"⟩)).2:=by
  refine history_applyAll .start _ _ _ ⟨?_,trivial⟩ ⟨trivial,trivial⟩ ⟨?_,trivial⟩
  ·change GitWorkspace.Honest _ (GitWorkspace.saveCommit _ "flow" "ada" false _)
   decide +kernel
  ·change GitWorkspace.Honest _ (GitWorkspace.deleteCommit _ "flow" "ada" _)
   decide +kernel
 have hst:(applyAll (plainBackend .git).initial .untouched (shortLife ⟨0,"c1"⟩ ⟨0,"c2"⟩)).2=.deleted:=by
  decide +kernel
 exact ⟨_,hst▸h,by decide +kernel⟩

end Dazyflow.DeletedFlows
