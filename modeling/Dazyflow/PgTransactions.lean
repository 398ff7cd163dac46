import Dazyflow.PgWorkspace
import Dazyflow.ProgramStages

/-!
# Transactions of the Postgres workspace backend

Which statements can go through, and what each method knows at each point of its transaction: what it has
written so far, and what it has seen of the rows that are committed.
-/
namespace Dazyflow.PgTransactions
open PgWorkspace KeyedTable WorkspaceStore JobRecords Interleaving List Bool
open FlowRows (contentOf pinned point)

variable {α:Type}

def fresh(rows:FlowRows α)(revision:String):Bool:=
 revision != ""&&revision != "HEAD"&&(rows.find? revision).isNone&&(rows.envs.find? revision).isNone &&
  !rows.pinned revision

def locksEnv(env:String):Write α→Bool
 | .deleteEnv e=>e==env
 | _=>false

def locksRevision(revision:String):Write α→Bool
 | .setContent r .. | .deleteRevision r=>r==revision
 | _=>false

def pendingAny(s:State α)(p:Write α→Bool):Bool:=s.tx.any (fun tx=>tx.pending.any p)

/-- The statements that go through: one that needs a row another transaction has
 written waits. A revision id is 160 random bits and names nothing yet. -/
def possible(s:State α):Stmt α→Bool
 | .lockHead=>s.tx.isNone
 | .upsertEnv env _ | .deleteEnv env=>!pendingAny s (locksEnv env)
 | .updateLabel revision _=>!pendingAny s (locksRevision revision)
 | .insertRevision revision .. =>fresh s.rows revision
 | _=>true

variable [DecidableEq α]

abbrev runs(graphID:String):Rules (backend α graphID):=
 Allowed (fun _ _=>True) (fun P _ c _=>possible P.state c)

inductive Stage
 | outside
 | locked (head:String)
 -- `free`: neither pinned nor labelled
 | checked (head parent:String) (free:Bool)
 | parentRead (head parent:String)
 | dropped (head parent:String)
 | moved (head parent:String)
 | amended (head:String)
 | inserted (head revision:String)
 | advanced (head revision:String)
 | tombstoned (head revision:String)

def Stage.next:Stage→(c:Stmt α)→c.Res→Stage
 | _,.lockHead,head=>.locked head
 | .locked h,.selectHeadRow _,some row=>.checked h row.parent (!row.pinned&&row.label== "")
 | .checked h p true,.selectInTx _,some (some _)=>.parentRead h p
 | .parentRead h p,.deleteUnpinned _,n=>if n=1 then .dropped h p else .parentRead h p
 | .dropped h p,.updateHead _,n=>if n=1 then .moved h p else .dropped h p
 | .checked h p true,.updateContent ..,n=>if n=1 then .amended h else .checked h p true
 | .parentRead h p,.updateContent ..,n=>if n=1 then .amended h else .parentRead h p
 | .locked h,.insertRevision rev ..,ok=>if ok then .inserted h rev else .locked h
 | .checked h p free,.insertRevision rev ..,ok=>if ok then .inserted h rev else .checked h p free
 | .inserted h rev,.upsertHead _,_=>.advanced h rev
 | .advanced h rev,.deleteEnvs,_=>.tombstoned h rev
 | _,.commit,_=>.outside
 | _,.rollback,_=>.outside
 | n,_,_=>n

def Stage.allows:Stage→Stmt α→Prop
 | n,.lockHead=>n=.outside
 | n,.selectHeadRow rev=>n=.locked rev
 | n,.selectInTx rev=>n=.locked rev∨∃ h,n=.checked h rev true
 | n,.deleteUnpinned rev=>∃ p,n=.parentRead rev p
 | n,.updateHead rev=>∃ h,n=.dropped h rev
 | n,.updateContent rev .. =>(∃ p,n=.checked rev p true)∨∃ p,n=.parentRead rev p
 | n,.insertRevision _ parent .. =>n=.locked parent∨∃ p free,n=.checked parent p free
 | n,.upsertHead rev=>∃ h,n=.inserted h rev
 | n,.deleteEnvs=>∃ h rev,n=.advanced h rev
 | n,.commit=>
  (∃ h,n=.locked h)∨(∃ h p free,n=.checked h p free)∨(∃ h p,n=.moved h p)∨
   (∃ h,n=.amended h)∨(∃ h rev,n=.advanced h rev)∨∃ h rev,n=.tombstoned h rev
 | n,.rollback=>n≠.outside
 | n,.selectHead | n,.selectEnv _ | n,.selectContent _ | n,.upsertEnv .. | n,.deleteEnv _
 | n,.updateLabel .. =>n=.outside
 | _,.newRevisionID | _,.now=>True

variable (α) in
def stages(graphID:String):Protocol (backend α graphID) where
 Stage:=Stage
 first _:=.outside
 next:=Stage.next
 allowed:=Stage.allows
 pre f _:=nomatch f
 post f _ _ _:=nomatch f

section Methods

variable {graphID:String}

open Protocol

abbrev Obeys(graphID:String){β:Type}(p:Prog α β)(n:Stage)(Q:β→Stage→Prop):Prop:=
 (stages α graphID).Obeys p n Q

abbrev Keeps(graphID:String){β:Type}(p:Prog α β)(n:Stage):Prop:=
 Obeys graphID p n (fun _ n'=>n'=.outside)

variable {n:Stage}{head:String}

lemma obeys_exec{β:Type}{c:Stmt α}{k:c.Res→Prog α β}{Q:β→Stage→Prop}
 (ha:n.allows c)(hk:∀ r,Obeys graphID (k r) (n.next c r) Q):Obeys graphID (exec c>>=k) n Q:=
 obeys_call ha hk
lemma keeps_commitWith(rev)(h:n.allows (α:=α) .commit):
 Keeps graphID (commitWith (α:=α) rev) n:=by
 refine obeys_exec h fun r=>obeys_done ?_
 cases n<;>rfl
lemma keeps_rollbackWith(message)(h:n≠.outside):
 Keeps graphID (rollbackWith (α:=α) message) n:=by
 refine obeys_exec h fun r=>obeys_done ?_
 cases n<;>rfl
lemma obeys_insertRevision(rev author message:String)(content:Option α)
 (h:n=.locked head∨∃ p free,n=.checked head p free):
 Obeys graphID (insertRevision rev head author message content) n
  (fun ok n'=>if ok then n'=.advanced head rev else n'≠.outside):=by
 refine obeys_exec h fun ok=>?_
 have hnext:n.next (Stmt.insertRevision rev head author message content) ok =
  if ok then Stage.inserted head rev else n:=by
  rcases h with rfl | ⟨p,free,rfl⟩<;>cases ok<;>rfl
 rw[hnext]
 cases ok with
 | false=>
  refine obeys_done ?_
  rcases h with rfl | ⟨p,free,rfl⟩<;>exact nofun
 | true=>exact obeys_exec ⟨head,rfl⟩ (fun _=>obeys_done rfl)
lemma keeps_saveNew(author:String)(content:α)(coalesce:Bool)
 (h:n=.locked head∨∃ p free,n=.checked head p free):
 Keeps graphID (saveNew graphID head author content coalesce) n:=by
 refine obeys_exec trivial fun rev=>?_
 have hnext:n.next (α:=α) Stmt.newRevisionID rev=n:=by
  rcases h with rfl | ⟨p,free,rfl⟩<;>rfl
 rw[hnext]
 refine obeys_bind (obeys_insertRevision rev author _ (some content) h) fun ok n' hn'=>?_
 cases ok with
 | false=>exact keeps_rollbackWith _ hn'
 | true=>
  rw[if_pos rfl] at hn'
  exact keeps_commitWith rev (by simp[hn',Stage.allows])
lemma keeps_saveInPlace(author)(content:α)
 (h:(∃ p,n=.checked head p true)∨∃ p,n=.parentRead head p):
 Keeps graphID (saveInPlace graphID head author content) n:=by
 refine obeys_exec h fun rows=>?_
 have hnext:n.next (Stmt.updateContent head content (autosaveMessage graphID author)) rows =
  if rows=1 then .amended head else n:=by
  rcases h with ⟨p,rfl⟩ | ⟨p,rfl⟩<;>rfl
 have hinside:n≠.outside:=by rcases h with ⟨p,rfl⟩ | ⟨p,rfl⟩<;>exact nofun
 rw[hnext]
 by_cases hrows:rows=1
 ·rw[if_pos hrows,if_neg (not_not.2 hrows)]
  exact keeps_commitWith head (by simp[Stage.allows])
 ·rw[if_neg hrows,if_pos hrows]
  exact keeps_rollbackWith _ hinside
lemma obeys_dropRevision(head parent):
 Obeys graphID (dropRevision (α:=α) graphID head parent) (.parentRead head parent)
  (fun r n'=>match r with
   | .ok _=>n'=.moved head parent
   | .error _=>n'≠.outside):=by
 refine obeys_exec ⟨parent,rfl⟩ fun rows=>?_
 by_cases hrows:rows=1
 ·subst hrows
  refine obeys_exec ⟨head,rfl⟩ fun moved=>?_
  by_cases hmoved:moved=1
  ·subst hmoved
   exact obeys_done rfl
  ·rw[if_pos hmoved]
   exact obeys_done (by simp[Stage.next,hmoved])
 ·rw[if_pos hrows]
  exact obeys_done (by simp[Stage.next,hrows])
lemma keeps_saveAmending(parent author)(content:α):
 Keeps graphID (saveAmending graphID head parent author content) (.checked head parent true):=by
 unfold saveAmending
 split
 ·exact keeps_saveInPlace author content (.inl ⟨parent,rfl⟩)
 refine obeys_exec (.inr ⟨head,rfl⟩) fun found=>?_
 by_cases hfound:found=some (some content)
 ·rw[if_pos hfound]
  subst hfound
  refine obeys_bind (obeys_dropRevision head parent) fun r n' hn'=>?_
  cases r with
  | ok u=>exact keeps_commitWith parent (by simp[show n'=_ from hn',Stage.allows])
  | error message=>exact keeps_rollbackWith message hn'
 ·rw[if_neg hfound]
  refine keeps_saveInPlace author content ?_
  match found with
  | none=>exact .inl ⟨parent,rfl⟩
  | some none=>exact .inl ⟨parent,rfl⟩
  | some (some _)=>exact .inr ⟨parent,rfl⟩

omit [DecidableEq α] in
lemma free_of_amends{author:String}{coalesce:Bool}{now:Time}{row:HeadRow α}
 (h:amends author coalesce now row):(!row.pinned&&row.label== ""):=by
 simp only[amends,and_eq_true] at h ⊢
 exact ⟨h.1.2,h.2⟩
lemma keeps_save(content:α)(author coalesce):
 Keeps graphID (save graphID content author coalesce) .outside:=by
 unfold save
 split
 ·exact obeys_done rfl
 refine obeys_exec rfl fun head=>?_
 split
 ·exact keeps_saveNew author content coalesce (.inl rfl)
 refine obeys_exec rfl fun
  | none=>keeps_saveNew author content coalesce (.inl rfl)
  | some row=>?_
 dsimp only
 split
 ·exact keeps_commitWith head (by simp[Stage.next,Stage.allows])
 refine obeys_exec trivial fun now=>?_
 by_cases ham:amends author coalesce now row
 ·rw[if_pos ham]
  have hfree:=free_of_amends ham
  change Keeps graphID _ (.checked head row.parent (!row.pinned&&row.label== ""))
  rw[hfree]
  exact keeps_saveAmending row.parent author content
 ·rw[if_neg ham]
  exact keeps_saveNew author content coalesce (.inr ⟨row.parent,_,rfl⟩)
lemma keeps_delete(author:String):Keeps graphID (delete (α:=α) graphID author) .outside:=by
 unfold delete
 split
 ·exact obeys_done rfl
 refine obeys_exec rfl fun head=>?_
 split
 ·exact obeys_exec nofun fun _=>obeys_done rfl
 refine obeys_exec (.inl rfl) fun found=>?_
 match found with
 | none=>exact keeps_rollbackWith _ nofun
 | some none=>exact keeps_commitWith _ (by simp[Stage.next,Stage.allows])
 | some (some _)=>
  refine obeys_exec trivial fun rev=>?_
  refine obeys_bind (obeys_insertRevision rev author _ none (.inl rfl)) fun ok n' hn'=>?_
  cases ok with
  | false=>exact keeps_rollbackWith _ hn'
  | true=>
   rw[if_pos rfl] at hn'
   subst hn'
   refine obeys_exec ⟨head,rev,rfl⟩ fun _=>?_
   exact keeps_commitWith rev (by simp[Stage.next,Stage.allows])
lemma keeps_resolveGraph(ref):
 Keeps graphID (resolveGraph (α:=α) ref) .outside:=by
 unfold resolveGraph
 split<;>exact obeys_exec rfl fun _=>obeys_done rfl
lemma keeps_setEnv(env commit):Keeps graphID (setEnv (α:=α) env commit) .outside:=by
 unfold setEnv
 split
 ·exact obeys_done rfl
 ·refine obeys_bind (keeps_resolveGraph commit) ?_
  rintro rev n' rfl
  split
  ·exact obeys_done rfl
  ·exact obeys_exec rfl fun _=>obeys_done rfl
lemma keeps_clearEnv(env):Keeps graphID (clearEnv (α:=α) env) .outside:=by
 unfold clearEnv
 split
 ·exact obeys_done rfl
 ·exact obeys_exec rfl fun _=>obeys_done rfl
lemma keeps_setLabel(commit label):Keeps graphID (setLabel (α:=α) graphID commit label) .outside:=by
 unfold setLabel
 split
 ·exact obeys_done rfl
 ·refine obeys_bind (keeps_resolveGraph commit) ?_
  rintro rev n' rfl
  split
  ·exact obeys_done rfl
  ·exact obeys_exec rfl fun _=>obeys_done rfl
lemma follows(graphID):(stages α graphID).Follows (fun n=>n=Stage.outside) where
 entries e:=by
  have hend:∀ {β:Type} (p:Prog α β),Keeps graphID p .outside→
   Keeps graphID (p>>=fun _=>(pure ():Prog α Unit)) .outside:=
   fun p hp=>obeys_bind hp (fun _ _ h=>obeys_done h)
  cases e with
  | save content author coalesce=>exact hend _ (keeps_save content author coalesce)
  | delete author=>exact hend _ (keeps_delete author)
  | promote env commit=>exact hend _ (keeps_setEnv env commit)
  | clear env=>exact hend _ (keeps_clearEnv env)
  | label commit text=>exact hend _ (keeps_setLabel commit text)
 bodies f:=nomatch f

end Methods

section Rows

variable {rows:FlowRows α}

omit [DecidableEq α]

lemma isSome_find?{rev:String}:
 (rows.find? rev).isSome↔∃ r,rows.find? rev=some r:=Option.isSome_iff_exists
lemma find?_setContent(rows:FlowRows α)(rev:String)(content:α)(message:String)(now:Time)
 (k:String):(rows.write (.setContent rev content message now)).find? k =
  if k=rev then (rows.find? rev).map (fun r=>{r with content:=some content,message:=message,createdAt:=now})
  else rows.find? k:=
 find?_modify rows.revisions rev
  (fun r=>{r with content:=some content,message:=message,createdAt:=now}) (fun _=>rfl) k
lemma find?_deleteRevision(rows:FlowRows α)(rev k:String):
 (rows.write (.deleteRevision rev)).find? k=if k=rev then none else rows.find? k:=by
 change (rows.revisions.erase _).find? k=_
 rw[find?_erase]
 change (rows.find? k).filter _=_
 cases h:rows.find? k with
 | none=>simp
 | some r=>
  have hk:r.revision=k:=key_of_find? h
  by_cases hrev:k=rev<;>simp[hk,hrev]
lemma find?_insertRevision(rows:FlowRows α)(r:Revision α)(hfresh:rows.find? r.revision=none)(k:String):
 (rows.write (.insertRevision r)).find? k=if k=r.revision then some r else rows.find? k:=by
 have hf:rows.revisions.find? r.revision=none:=hfresh
 simp only[FlowRows.write,dif_pos hf]
 exact find?_insert rows.revisions r hf k
lemma insertRevision_envs(rows:FlowRows α)(r:Revision α):
 (rows.write (.insertRevision r)).envs=rows.envs:=by
 unfold FlowRows.write
 dsimp only
 split<;>rfl
lemma mem_point{env rev:String}{e:EnvRow}
 (h:e∈(rows.point env rev).envs.rows):e=⟨env,rev⟩∨e∈rows.envs.rows∧e.env≠env:=by
 rw[mem_rows_iff,point,find?_upsert] at h
 by_cases hk:e.env=env
 ·rw[if_pos hk] at h
  exact .inl (Option.some.inj h).symm
 ·rw[if_neg hk] at h
  exact .inr ⟨(mem_rows_iff _ _).2 h,hk⟩
lemma find?_relabel(rows:FlowRows α)(rev label k:String):
 (rows.relabel rev label).find? k =
  if k=rev then (rows.find? rev).map (fun r=>{r with label:=label}) else rows.find? k:=
 find?_modify rows.revisions rev (fun r=>{r with label:=label}) (fun _=>rfl) k
lemma contentOf_relabel(rows:FlowRows α)(rev label k:String):
 (rows.relabel rev label).contentOf k=rows.contentOf k:=by
 unfold contentOf
 rw[find?_relabel]
 by_cases hk:k=rev
 ·rw[if_pos hk,hk]
  cases rows.find? rev<;>rfl
 ·rw[if_neg hk]
lemma isSome_relabel(rows:FlowRows α)(rev label k:String):
 ((rows.relabel rev label).find? k).isSome=(rows.find? k).isSome:=by
 have h:=congrArg Option.isSome (contentOf_relabel rows rev label k)
 simpa only[contentOf,Option.isSome_map] using h
lemma foldl_deleteEnv(envs:List String)(rows:FlowRows α):
 ((envs.map Write.deleteEnv).foldl FlowRows.write rows).revisions=rows.revisions∧
  ((envs.map Write.deleteEnv).foldl FlowRows.write rows).head=rows.head∧
  ∀ e∈((envs.map Write.deleteEnv).foldl FlowRows.write rows).envs.rows,e∈rows.envs.rows:=by
 induction envs generalizing rows with
 | nil=>exact ⟨rfl,rfl,fun _ h=>h⟩
 | cons env envs ih=>
  obtain ⟨hr,hh,he⟩:=ih (rows.write (.deleteEnv env))
  exact ⟨hr,hh,fun e h=>mem_of_mem_filter (he e h)⟩
lemma mem_foldl_deleteEnv{envs:List String}{e:EnvRow}
 (h:e∈((envs.map Write.deleteEnv).foldl FlowRows.write rows).envs.rows):
 e∈rows.envs.rows∧e.env∉envs:=by
 induction envs generalizing rows with
 | nil=>exact ⟨h,not_mem_nil⟩
 | cons env envs ih=>
  obtain ⟨hm,hn⟩:e∈(rows.write (.deleteEnv env)).envs.rows∧e.env∉envs:=ih h
  obtain ⟨hm,hne⟩:=mem_filter.1 hm
  refine ⟨hm,fun hin=>?_⟩
  rcases mem_cons.1 hin with heq | hin
  ·simp[heq] at hne
  ·exact hn hin

end Rows

section Knowledge

omit [DecidableEq α]

structure Sound(rows:FlowRows α):Prop where
 head:∀ h,rows.head=some h→∃ r,rows.find? h=some r
 envs:∀ e∈rows.envs.rows,∃ r,rows.find? e.revision=some r
 names:∀ rev r,rows.find? rev=some r → rows.envs.find? rev=none∧rev≠""∧rev≠"HEAD"
 parents:∀ rev r,rows.find? rev=some r → r.parent≠rev

structure Free(rows:FlowRows α)(head:String):Prop where
 unpinned:∀ e∈rows.envs.rows,e.revision≠head
 unlabelled:∀ r,rows.find? head=some r → r.label=""

structure Unused(rows:FlowRows α)(rev:String):Prop where
 name:rev≠""∧rev≠"HEAD"
 row:rows.find? rev=none
 env:∀ e∈rows.envs.rows,e.env≠rev∧e.revision≠rev

variable {rev:String}{rows:FlowRows α}

lemma unused_of_fresh(h:fresh rows rev):Unused rows rev:=by
 simp only[fresh,and_eq_true,bne_iff_ne,Option.isNone_iff_eq_none,pinned,not_eq_true',
  any_eq_false,beq_iff_eq] at h
 obtain ⟨⟨⟨⟨hne,hhead⟩,hrow⟩,henv⟩,hpin⟩:=h
 exact ⟨⟨hne,hhead⟩,hrow,fun e he=>⟨(find?_eq_none_iff rows.envs rev).1 henv e he,hpin e he⟩⟩

structure Inserts(rows:FlowRows α)(r:Revision α)(head rev:String):Prop where
 revision:r.revision=rev
 parent:r.parent=head
 unused:Unused rows rev

def Wrote(rows:FlowRows α)(pending:List (Write α)):Stage→Prop
 | .outside=>False
 | .locked _=>pending=[]
 | .checked h p free=>pending=[]∧(∃ r,rows.find? h=some r∧r.parent=p)∧(free→Free rows h)
 | .parentRead h p=>pending=[]∧Free rows h∧(∃ r,rows.find? p=some r)∧p≠h
 | .dropped h p=>pending=[.deleteRevision h]∧Free rows h∧(∃ r,rows.find? p=some r)∧p≠h
 | .moved h p=>pending=[.deleteRevision h,.setHead p]∧Free rows h∧(∃ r,rows.find? p=some r)∧p≠h
 | .amended h=>Free rows h∧∃ c m t,pending=[.setContent h c m t]
 | .inserted h rev=>∃ r,Inserts rows r h rev∧pending=[.insertRevision r]
 | .advanced h rev=>∃ r,Inserts rows r h rev∧pending=[.insertRevision r,.setHead rev]
 | .tombstoned h rev=>∃ r,∃ envs:List String,Inserts rows r h rev∧
  pending=.insertRevision r::.setHead rev::envs.map .deleteEnv

def Stage.head:Stage→String
 | .outside=>""
 | .locked h | .checked h _ _ | .parentRead h _ | .dropped h _ | .moved h _ | .amended h | .inserted h _
 | .advanced h _ | .tombstoned h _=>h

structure Fits(s:State α)(tx:Tx α)(n:Stage):Prop where
 isOpen:s.tx=some tx
 head:tx.head=n.head
 locked:s.rows.head.getD ""=n.head
 wrote:Wrote s.rows tx.pending n

lemma Fits.inside{s:State α}{tx:Tx α}{n:Stage}(h:Fits s tx n):n≠.outside:=by
 rintro rfl
 exact h.wrote
lemma view_of_tx{s:State α}{tx:Tx α}(h:s.tx=some tx):
 s.view=tx.pending.foldl FlowRows.write s.rows:=by
 simp[State.view,h]

structure Aside(head:String)(view rows rows':FlowRows α):Prop where
 kept:rows'.head=rows.head
 row:rows'.find? head=rows.find? head
 there:∀ k,(rows'.find? k).isSome=(rows.find? k).isSome
 env:∀ e∈rows'.envs.rows,e∈rows.envs.rows∨
  e.revision≠head∧(∃ r,rows.find? e.revision=some r)∧view.find? e.env=none

section Aside

variable {head:String}{view rows rows':FlowRows α}

lemma Aside.refl:Aside head view rows rows:=⟨rfl,rfl,fun _=>rfl,fun _ h=>.inl h⟩
section

variable (h:Aside head view rows rows')

include h

lemma Aside.some_of{k}(hk:∃ r,rows.find? k=some r):
 ∃ r,rows'.find? k=some r:=by
 rw[←Option.isSome_iff_exists] at hk ⊢
 rw[h.there k,hk]
lemma Aside.free(hf:Free rows head):Free rows' head:=by
 refine ⟨fun e he=>?_,fun r hr=>hf.unlabelled r (h.row▸hr)⟩
 rcases h.env e he with hold | ⟨hne,-⟩
 ·exact hf.unpinned e hold
 ·exact hne
lemma Aside.inserts{r rev}
 (hi:Inserts rows r head rev)(hview:∃ r',view.find? rev=some r'):Inserts rows' r head rev:=by
 refine ⟨hi.revision,hi.parent,hi.unused.name,?_,fun e he=>?_⟩
 ·have hrow:=h.there rev
  rw[hi.unused.row] at hrow
  simpa using hrow
 ·rcases h.env e he with hold | ⟨-,⟨r',hr'⟩,hnone⟩
  ·exact hi.unused.env e hold
  refine ⟨fun hrev=>?_,fun hrev=>?_⟩
  ·obtain ⟨r'',hr''⟩:=hview
   rw[hrev,hr''] at hnone
   cases hnone
  ·rw[hrev,hi.unused.row] at hr'
   cases hr'

end

end Aside

lemma view_insert{r:Revision α}{rest:List (Write α)}{head rev:String}
 (hi:Inserts rows r head rev)(hrest:∀ k,(rest.foldl FlowRows.write (rows.write (.insertRevision r))).find? k =
  (rows.write (.insertRevision r)).find? k):
 ∃ r',((.insertRevision r::rest).foldl FlowRows.write rows).find? rev=some r':=by
 refine ⟨r,?_⟩
 rw[foldl_cons,hrest,find?_insertRevision rows r (hi.revision.symm▸hi.unused.row),if_pos hi.revision.symm]
lemma Wrote.aside{rows rows':FlowRows α}{pending:List (Write α)}{n:Stage}
 (h:Wrote rows pending n)(ha:Aside n.head (pending.foldl FlowRows.write rows) rows rows'):
 Wrote rows' pending n:=by
 cases n with
 | outside | locked hd=>exact h
 | checked hd p free=>
  obtain ⟨hp,⟨r,hr,hpar⟩,hfree⟩:=h
  exact ⟨hp,⟨r,ha.row.trans hr,hpar⟩,fun hf=>ha.free (hfree hf)⟩
 | parentRead hd p | dropped hd p | moved hd p=>
  obtain ⟨hp,hfree,hpar,hne⟩:=h
  exact ⟨hp,ha.free hfree,ha.some_of hpar,hne⟩
 | amended hd=>exact ⟨ha.free h.1,h.2⟩
 | inserted hd rev | advanced hd rev=>
  obtain ⟨r,hi,rfl⟩:=h
  exact ⟨r,ha.inserts hi (view_insert hi fun _=>rfl),rfl⟩
 | tombstoned hd rev=>
  obtain ⟨r,envs,hi,rfl⟩:=h
  refine ⟨r,envs,ha.inserts hi (view_insert hi fun k=>?_),rfl⟩
  rw[foldl_cons]
  have hrev:=(foldl_deleteEnv envs ((rows.write (.insertRevision r)).write (.setHead rev))).1
  unfold FlowRows.find?
  rw[hrev]
  rfl

section Own

variable {s:State α}{tx:Tx α}{n n':Stage}

lemma Fits.retag(h:Fits s tx n)(hhead:n'.head=n.head)(hw:Wrote s.rows tx.pending n'):Fits s tx n':=
 ⟨h.isOpen,h.head.trans hhead.symm,h.locked.trans hhead.symm,hw⟩
lemma Fits.record(h:Fits s tx n)(w)(hhead:n'.head=n.head)
 (hw:Wrote s.rows (tx.pending++[w]) n'):
 Fits (s.record w) {tx with pending:=tx.pending++[w]} n':=
 ⟨by simp[State.record,h.isOpen],h.head.trans hhead.symm,h.locked.trans hhead.symm,hw⟩
lemma Fits.view_eq(h:Fits s tx n)(hp:tx.pending=[]):s.view=s.rows:=by
 rw[view_of_tx h.isOpen,hp]
 rfl
lemma free_of_headRow{r:Revision α}(hr:rows.find? rev=some r)
 (h:(!(headRow rows r).pinned&&(headRow rows r).label== "")):Free rows rev:=by
 have hrev:r.revision=rev:=key_of_find? hr
 simp only[headRow,hrev,pinned,and_eq_true,not_eq_true',any_eq_false,beq_iff_eq] at h
 refine ⟨h.1,fun r' hr'=>?_⟩
 rw[hr] at hr'
 cases hr'
 exact h.2
lemma Fits.selectHeadRow(h:Fits s tx (.locked rev)):
 Fits s tx (Stage.next (.locked rev) (.selectHeadRow rev) ((s.view.find? rev).map (headRow s.view))):=by
 rw[h.view_eq h.wrote]
 cases hr:s.rows.find? rev with
 | none=>exact h
 | some r=>exact h.retag rfl ⟨h.wrote,⟨r,hr,rfl⟩,fun hfree=>free_of_headRow hr hfree⟩
lemma Fits.selectParent{head parent}(hs:Sound s.rows)(h:Fits s tx (.checked head parent true)):
 Fits s tx (Stage.next (.checked head parent true) (.selectInTx parent) (s.view.contentOf parent)):=by
 obtain ⟨hp,⟨r,hr,hpar⟩,hfree⟩:=h.wrote
 rw[h.view_eq hp]
 cases hf:s.rows.find? parent with
 | none=>
  rw[show s.rows.contentOf parent=none by simp[contentOf,hf]]
  exact h
 | some q=>
  rw[show s.rows.contentOf parent=some q.content by simp[contentOf,hf]]
  cases q.content with
  | none=>exact h
  | some content=>exact h.retag rfl ⟨hp,hfree rfl,⟨q,hf⟩,fun he=>hs.parents head r hr (hpar.trans he)⟩
lemma Fits.insertRevision{head}(rev author message content o)
 (h:Fits s tx n)(hp:tx.pending=[])(hh:n.head=head)(hfresh:fresh s.rows rev):
 ∃ tx',Fits (step (.insertRevision rev head author message content) o s).2 tx' (.inserted head rev):=by
 have hunused:=unused_of_fresh hfresh
 have hnone:(s.view.find? rev).isSome=false:=by
  rw[h.view_eq hp,hunused.row]
  rfl
 simp only[step,hnone,false_eq_true,if_false]
 refine ⟨_,h.record _ hh.symm ?_⟩
 rw[hp]
 refine ⟨_,?_,rfl⟩
 exact ⟨rfl,rfl,hunused⟩
lemma record_foldl(envs:List EnvRow)(h:s.tx=some tx):
 ∃ tx',(envs.foldl (fun s e=>s.record (.deleteEnv e.env)) s).tx=some tx'∧tx'.head=tx.head∧
  tx'.pending=tx.pending++(envs.map EnvRow.env).map Write.deleteEnv∧
  (envs.foldl (fun s e=>s.record (.deleteEnv e.env)) s).rows=s.rows:=by
 induction envs generalizing s tx with
 | nil=>exact ⟨tx,h,rfl,by simp,rfl⟩
 | cons e envs ih=>
  have hrec:(s.record (.deleteEnv e.env)).tx=some {tx with pending:=tx.pending++[.deleteEnv e.env]}:=by
   simp[State.record,h]
  obtain ⟨tx',htx',hhead,hpend,hrows⟩:=ih hrec
  exact ⟨tx',htx',hhead,by simp[hpend],hrows⟩
lemma Fits.step_own{c}(o:Oracle)(hs:Sound s.rows)(h:Fits s tx n)(hc:n.allows c)
 (hp:possible s c)(hin:n.next c (step c o s).1≠.outside):
 ∃ tx',Fits (step c o s).2 tx' (n.next c (step c o s).1):=by
 cases c with
 | lockHead | selectHead | selectEnv | selectContent | upsertEnv | deleteEnv | updateLabel=>exact absurd hc h.inside
 | selectHeadRow rev=>
  obtain rfl:n=.locked rev:=hc
  exact ⟨tx,h.selectHeadRow⟩
 | selectInTx rev=>
  rcases hc with rfl | ⟨hd,rfl⟩
  ·exact ⟨tx,h⟩
  ·exact ⟨tx,h.selectParent hs⟩
 | deleteUnpinned rev=>
  obtain ⟨p,rfl⟩:=hc
  obtain ⟨hpend,hfree,hpar,hne⟩:=h.wrote
  simp only[step]
  split_ifs with hdel
  ·exact ⟨_,h.record _ rfl ⟨by rw[hpend]; rfl,hfree,hpar,hne⟩⟩
  ·exact ⟨tx,h⟩
 | updateHead rev=>
  obtain ⟨hd,rfl⟩:=hc
  obtain ⟨hpend,hfree,hpar,hne⟩:=h.wrote
  simp only[step]
  split_ifs with hhead
  ·exact ⟨_,h.record _ rfl ⟨by rw[hpend]; rfl,hfree,hpar,hne⟩⟩
  ·exact ⟨tx,h⟩
 | updateContent rev content message=>
  have hfree:Free s.rows rev∧tx.pending=[]∧n.head=rev:=by
   rcases hc with ⟨p,rfl⟩ | ⟨p,rfl⟩
   ·exact ⟨h.wrote.2.2 rfl,h.wrote.1,rfl⟩
   ·exact ⟨h.wrote.2.1,h.wrote.1,rfl⟩
  simp only[step]
  split_ifs with hrow
  ·have hnext:n.next (.updateContent rev content message) 1=.amended rev:=by
    rcases hc with ⟨p,rfl⟩ | ⟨p,rfl⟩<;>rfl
   rw[hnext]
   exact ⟨_,h.record _ hfree.2.2.symm ⟨hfree.1,content,message,_,by rw[hfree.2.1]; rfl⟩⟩
  ·have hnext:n.next (.updateContent rev content message) 0=n:=by
    rcases hc with ⟨p,rfl⟩ | ⟨p,rfl⟩<;>rfl
   rw[hnext]
   exact ⟨tx,h⟩
 | insertRevision rev parent author message content=>
  have hpend:tx.pending=[]∧n.head=parent:=by
   rcases hc with rfl | ⟨p,free,rfl⟩
   ·exact ⟨h.wrote,rfl⟩
   ·exact ⟨h.wrote.1,rfl⟩
  have hins:=h.insertRevision rev author message content o hpend.1 hpend.2 hp
  have hnext:n.next (.insertRevision rev parent author message content)
   (step (.insertRevision rev parent author message content) o s).1=.inserted parent rev:=by
   have hnone:(s.view.find? rev).isSome=false:=by
    rw[h.view_eq hpend.1,(unused_of_fresh hp).row]
    rfl
   simp only[step,hnone,false_eq_true,if_false]
   rcases hc with rfl | ⟨p,free,rfl⟩<;>rfl
  rw[hnext]
  exact hins
 | upsertHead rev=>
  obtain ⟨hd,rfl⟩:=hc
  obtain ⟨r,hi,hpend⟩:=h.wrote
  exact ⟨_,h.record _ rfl ⟨r,hi,by rw[hpend]; rfl⟩⟩
 | deleteEnvs=>
  obtain ⟨hd,rev,rfl⟩:=hc
  obtain ⟨r,hi,hpend⟩:=h.wrote
  obtain ⟨tx',htx',hhead,hpend',hrows⟩:=record_foldl s.view.envs.rows h.isOpen
  refine ⟨tx',htx',hhead.trans h.head,?_,r,s.view.envs.rows.map EnvRow.env,?_,?_⟩
  ·simp only[step,hrows]
   exact h.locked
  ·simp only[step,hrows]
   exact hi
  ·rw[hpend',hpend]
   rfl
 | commit | rollback=>cases n<;>exact absurd rfl hin
 | newRevisionID | now=>
  refine ⟨tx,?_⟩
  have hsame:∀ n:Stage,n≠.outside → n.next (α:=α) Stmt.newRevisionID o.newID=n∧
   n.next (α:=α) Stmt.now o.now=n:=by
   intro n _
   cases n<;>exact ⟨rfl,rfl⟩
  simp only[step,(hsame n h.inside).1,(hsame n h.inside).2]
  exact h

end Own

end Knowledge

end Dazyflow.PgTransactions
