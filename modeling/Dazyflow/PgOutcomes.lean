import Dazyflow.PgTransactions

/-! # What a save and a delete leave when nobody else moves -/
namespace Dazyflow.PgOutcomes
open PgWorkspace PgTransactions KeyedTable WorkspaceStore JobRecords Interleaving

variable {α:Type}

/-- `ids`: what the revision ids are drawn from. -/
inductive SaveOutcome(ids:String→Prop)(rows:FlowRows α)(content:α):
 Except String String→FlowRows α→Prop
 | refused (message:String):SaveOutcome ids rows content (.error message) rows
 | same {head} (hhead:rows.head=some head) (hne:head≠"")
  (hc:rows.contentOf head=some (some content)):SaveOutcome ids rows content (.ok head) rows
 | created (r:Revision α) (hid:ids r.revision) (hfresh:rows.find? r.revision=none)
  (hparent:r.parent=rows.head.getD "")
  (hc:r.content=some content):
  SaveOutcome ids rows content (.ok r.revision) ((rows.write (.insertRevision r)).write (.setHead r.revision))
 | amended {head} (message:String) (now:Time) (hhead:rows.head=some head) (hne:head≠"")
  (hrow:∃ r,rows.find? head=some r) (hfree:Free rows head):
  SaveOutcome ids rows content (.ok head) (rows.write (.setContent head content message now))
 | dropped {head parent} (hhead:rows.head=some head) (hfree:Free rows head) (hne:parent≠head)
  (hnonempty:parent≠"") (hc:rows.contentOf parent=some (some content)):
  SaveOutcome ids rows content (.ok parent) ((rows.write (.deleteRevision head)).write (.setHead parent))

inductive DeleteOutcome(ids:String→Prop)(rows:FlowRows α):Except String String→FlowRows α→Prop
 | refused (message:String):DeleteOutcome ids rows (.error message) rows
 | absent (h:∀ head,rows.head=some head→head=""∨rows.contentOf head=some none):
  DeleteOutcome ids rows (.ok "") rows
 | buried (r:Revision α) (rows':FlowRows α) (hid:ids r.revision) (hfresh:rows.find? r.revision=none)
  (hparent:r.parent=rows.head.getD "") (hold:∃ x,rows.contentOf (rows.head.getD "")=some (some x))
  (hc:r.content=none)
  (hrev:rows'.revisions=(rows.write (.insertRevision r)).revisions) (hhead:rows'.head=some r.revision)
  (henvs:∀ e,rows'.envs.find? e=none):DeleteOutcome ids rows (.ok r.revision) rows'

section Save

variable [DecidableEq α] {ids:String→Prop}{graphID:String}{rows:FlowRows α}{content:α}{t:Time}

def Ends(ids:String→Prop)(graphID:String){β:Type}(p:Prog α β)(s:State α)
 (Q:β→FlowRows α→Prop):Prop:=
 ∀ (o:Nat→Oracle) (n:Nat),(∀ k,ids (o k).newID)→
  ∃ a n' t,p.alone (backend α graphID) o n s=some (a,n',t)∧t.tx=none∧Q a t.rows

variable {s:State α}{head:String}{β:Type}{Q:β→FlowRows α→Prop}

lemma ends_done{a}(htx:s.tx=none)(h:Q a s.rows):
 Ends ids graphID (.done a) s Q:=
 fun _ n _=>⟨a,n,s,rfl,htx,h⟩
lemma ends_exec{c k}
 (h:∀ o:Oracle,ids o.newID→Ends ids graphID (k (step c o s).1) (step c o s).2 Q):
 Ends ids graphID (exec c>>=k) s Q:=
 fun o n ho=>h (o n) (ho n) o (n+1) ho

variable {Q:Except String String→FlowRows α→Prop}

lemma ends_rollback(message)
 (h:Q (.error message) s.rows):Ends ids graphID (rollbackWith (α:=α) message) s Q:=
 ends_exec (fun _ _=>ends_done rfl h)
lemma ends_commit(rev)
 (h:Q (.ok rev) s.view):Ends ids graphID (commitWith (α:=α) rev) s Q:=
 ends_exec (fun _ _=>ends_done rfl h)

def opened(rows:FlowRows α)(t:Time):State α:=
 {rows:=rows,tx:=some {head:=rows.head.getD "",began:=t} }

omit [DecidableEq α] in
lemma view_opened:(opened rows t).view=rows:=rfl
lemma ends_saveNew(author coalesce)(hhead:rows.head.getD ""=head):
 Ends ids graphID (saveNew graphID head author content coalesce) (opened rows t) (SaveOutcome ids rows content):=by
 refine ends_exec fun o hid=>?_
 dsimp only[step]
 refine ends_exec fun o' _=>?_
 by_cases hrow:((opened rows t).view.find? o.newID).isSome
 ·simp only[step,hrow,if_true]
  exact ends_rollback _ (.refused _)
 ·simp only[step,hrow]
  refine ends_exec fun o'' _=>?_
  refine ends_commit o.newID ?_
  have hfresh:rows.find? o.newID=none:=by simpa[view_opened] using hrow
  exact SaveOutcome.created {revision:=o.newID,parent:=head,author:=author,message:=_,content:=some content,createdAt:=t}
   hid hfresh hhead.symm rfl
lemma ends_saveInPlace(author)(hhead:rows.head=some head)(hne:head≠"")
 (hrow:∃ r,rows.find? head=some r)(hfree:Free rows head):
 Ends ids graphID (saveInPlace graphID head author content) (opened rows t) (SaveOutcome ids rows content):=by
 refine ends_exec fun o _=>?_
 have hsome:((opened rows t).view.find? head).isSome:=isSome_find?.2 hrow
 simp only[step,hsome,if_true]
 exact ends_commit head (.amended _ t hhead hne hrow hfree)
lemma ends_saveAmending(author){parent}(hhead:rows.head=some head)(hne:head≠"")
 (hrow:∃ r,rows.find? head=some r)(hfree:Free rows head)
 (hother:rows.contentOf head≠some (some content)):
 Ends ids graphID (saveAmending graphID head parent author content) (opened rows t) (SaveOutcome ids rows content):=by
 have hinPlace:Ends ids graphID (saveInPlace graphID head author content) (opened rows t)
  (SaveOutcome ids rows content):=ends_saveInPlace author hhead hne hrow hfree
 unfold saveAmending
 by_cases hp:parent=""
 ·rw[if_pos hp]
  exact hinPlace
 rw[if_neg hp]
 refine ends_exec fun o _=>?_
 dsimp only[step,view_opened]
 by_cases hc:rows.contentOf parent=some (some content)
 ·rw[if_pos hc]
  have hpne:parent≠head:=fun h=>hother (h▸hc)
  obtain ⟨r,hr⟩:=hrow
  have hdrop:((opened rows t).view.find? head).any
   (fun r=>r.label== ""&&!(opened rows t).view.pinned head):=by
   have hpin:rows.pinned head=false:=by
    simpa[FlowRows.pinned,List.any_eq_false] using hfree.unpinned
   simp[view_opened,hr,hfree.unlabelled r hr,hpin]
  refine ends_exec fun o' _=>?_
  simp only[step,hdrop,if_true]
  refine ends_exec fun o'' _=>?_
  have hsome:((opened rows t).record (.deleteRevision head)).view.head.isSome:=by
   change rows.head.isSome
   rw[hhead]
   rfl
  simp only[step,hsome,if_true]
  exact ends_commit parent (.dropped hhead hfree hpne hp hc)
 ·rw[if_neg hc]
  exact hinPlace
lemma ends_save(author coalesce):
 Ends ids graphID (save graphID content author coalesce) {rows:=rows} (SaveOutcome ids rows content):=by
 unfold save
 split
 ·exact ends_done rfl (.refused _)
 refine ends_exec fun o _=>?_
 dsimp only[step]
 change Ends ids graphID _ (opened rows o.now) _
 have hnew:Ends ids graphID (saveNew graphID (rows.head.getD "") author content coalesce) (opened rows o.now)
  (SaveOutcome ids rows content):=ends_saveNew author coalesce rfl
 by_cases hempty:rows.head.getD ""=""
 ·rw[if_pos hempty]
  exact hnew
 rw[if_neg hempty]
 obtain ⟨head,hhead⟩:∃ head,rows.head=some head:=by
  cases h:rows.head with
  | none=>simp[h] at hempty
  | some head=>exact ⟨head,rfl⟩
 have hget:rows.head.getD ""=head:=by rw[hhead]; rfl
 rw[hget] at hnew hempty ⊢
 refine ends_exec fun o' _=>?_
 dsimp only[step,view_opened]
 cases hrow:rows.find? head with
 | none=>exact hnew
 | some r=>?_
 dsimp only[Option.map_some]
 by_cases hc:(headRow rows r).content=some content
 ·rw[if_pos hc]
  refine ends_commit head (.same hhead hempty ?_)
  rw[FlowRows.contentOf,hrow]
  exact congrArg some hc
 rw[if_neg hc]
 refine ends_exec fun o'' _=>?_
 dsimp only[step]
 by_cases ha:amends author coalesce o''.now (headRow rows r)
 ·rw[if_pos ha]
  refine ends_saveAmending author hhead hempty ⟨r,hrow⟩ (free_of_headRow hrow (free_of_amends ha)) ?_
  rw[FlowRows.contentOf,hrow]
  exact fun h=>hc (Option.some.inj h)
 ·rw[if_neg ha]
  exact hnew

omit [DecidableEq α] in
lemma view_deleteEnvs{tx}(h:s.tx=some tx):
 (s.view.envs.rows.foldl (fun s e=>s.record (.deleteEnv e.env)) s).view.revisions=s.view.revisions∧
  (s.view.envs.rows.foldl (fun s e=>s.record (.deleteEnv e.env)) s).view.head=s.view.head∧
  ∀ e,(s.view.envs.rows.foldl (fun s e=>s.record (.deleteEnv e.env)) s).view.envs.find? e=none:=by
 obtain ⟨tx',htx',-,hpend,hrows⟩:=record_foldl s.view.envs.rows h
 have hview:(s.view.envs.rows.foldl (fun s e=>s.record (.deleteEnv e.env)) s).view =
  ((s.view.envs.rows.map EnvRow.env).map Write.deleteEnv).foldl FlowRows.write s.view:=by
  rw[view_of_tx htx',hrows,hpend,List.foldl_append,←view_of_tx h]
 rw[hview]
 obtain ⟨hr,hh,-⟩:=foldl_deleteEnv (s.view.envs.rows.map EnvRow.env) s.view
 refine ⟨hr,hh,fun e=>?_⟩
 rw[find?_eq_none_iff]
 rintro row hrow -
 obtain ⟨hm,hn⟩:=mem_foldl_deleteEnv hrow
 exact hn (List.mem_map_of_mem hm)
lemma ends_delete(author):
 Ends ids graphID (delete (α:=α) graphID author) {rows:=rows} (DeleteOutcome ids rows):=by
 unfold delete
 by_cases hid:graphID=""
 ·rw[if_pos hid]
  exact ends_done rfl (.refused _)
 rw[if_neg hid]
 refine ends_exec fun o _=>?_
 dsimp only[step]
 change Ends ids graphID _ (opened rows o.now) _
 by_cases hempty:rows.head.getD ""=""
 ·rw[if_pos hempty]
  refine ends_exec fun o' _=>ends_done rfl (.absent fun head hhead=>.inl ?_)
  rw[hhead] at hempty
  exact hempty
 rw[if_neg hempty]
 refine ends_exec fun o' _=>?_
 dsimp only[step,view_opened]
 cases hc:rows.contentOf (rows.head.getD "") with
 | none=>exact ends_rollback _ (.refused _)
 | some content=>?_
 cases content with
 | none=>
  refine ends_commit "" (.absent fun head hhead=>.inr ?_)
  rw[hhead] at hc
  exact hc
 | some content=>
  refine ends_exec fun o'' hid=>?_
  dsimp only[step]
  refine ends_exec fun o''' _=>?_
  by_cases hrow:((opened rows o.now).view.find? o''.newID).isSome
  ·simp only[step,hrow,if_true]
   exact ends_rollback _ (.refused _)
  ·simp only[step,hrow]
   refine ends_exec fun _ _=>?_
   refine ends_exec fun _ _=>?_
   dsimp only[step]
   obtain ⟨hr,hh,he⟩:=view_deleteEnvs (α:=α)
    (s:=((opened rows o.now).record (.insertRevision
     { revision:=o''.newID,parent:=rows.head.getD "",author:=author
       message:=deleteMessage graphID author,content:=none,createdAt:=o.now})).record
        (.setHead o''.newID)) rfl
   have hfresh:rows.find? o''.newID=none:=by simpa[view_opened] using hrow
   exact ends_commit o''.newID (.buried _ _ hid hfresh rfl ⟨content,hc⟩ rfl hr hh he)

end Save

end Dazyflow.PgOutcomes
