import Dazyflow.InterleavedPrograms
import Dazyflow.KeyedTable
import Dazyflow.WorkspaceStore

/-!
# The Postgres workspace backend

One flow's rows in `flow_revisions`, `flow_heads` and `flow_envs`, and the methods of `pgBackend` as programs
over their statements.
-/
namespace Dazyflow.PgWorkspace
open GoStrings JobRecords WorkspaceStore KeyedTable

structure Revision(α:Type) where
 (revision parent author message:String)
 label:String:=""
 -- NULL is a deletion
 content:Option α
 createdAt:Time

structure EnvRow where
 (env revision:String)

structure FlowRows(α:Type) where
 revisions:Table String (Revision α) Revision.revision:=empty
 head:Option String:=none
 envs:Table String EnvRow EnvRow.env:=empty

variable {α:Type}

namespace FlowRows

def find?(rows:FlowRows α)(revision:String):Option (Revision α):=rows.revisions.find? revision

def pinned(rows:FlowRows α)(revision:String):Bool:=rows.envs.rows.any (fun e=>e.revision==revision)

def contentOf(rows:FlowRows α)(revision:String):Option (Option α):=
 (rows.find? revision).map Revision.content

end FlowRows

inductive Write(α:Type)
 | insertRevision (r:Revision α)
 | setContent (revision:String)(content:α)(message:String)(now:Time)
 | deleteRevision (revision:String)
 | setHead (revision:String)
 | deleteEnv (env:String)

def FlowRows.write(rows:FlowRows α):Write α→FlowRows α
 | .insertRevision r=>
  if h:rows.revisions.find? r.revision=none then {rows with revisions:=rows.revisions.insert r h} else rows
 | .setContent revision content message now=>
  { rows with
    revisions:=rows.revisions.modify revision
     (fun r=>{r with content:=some content,message:=message,createdAt:=now}) fun _=>rfl}
 | .deleteRevision revision=>{rows with revisions:=rows.revisions.erase fun r=>r.revision==revision}
 | .setHead revision=>{rows with head:=some revision}
 | .deleteEnv env=>{rows with envs:=rows.envs.erase fun e=>e.env==env}

def FlowRows.relabel(rows:FlowRows α)(revision label:String):FlowRows α:=
 {rows with revisions:=rows.revisions.modify revision (fun r=>{r with label:=label}) fun _=>rfl}

def FlowRows.point(rows:FlowRows α)(env revision:String):FlowRows α:=
 {rows with envs:=rows.envs.upsert ⟨env,revision⟩}

structure Tx(α:Type) where
 head:String
 pending:List (Write α):=[]
 -- `now()` is the time the transaction began
 began:Time

structure State(α:Type) where
 rows:FlowRows α:={}
 tx:Option (Tx α):=none

def State.view(s:State α):FlowRows α:=
 match s.tx with
 | none=>s.rows
 | some tx=>tx.pending.foldl FlowRows.write s.rows

def State.record(s:State α)(w:Write α):State α:=
 {s with tx:=s.tx.map fun tx=>{tx with pending:=tx.pending++[w]}}

structure HeadRow(α:Type) where
 content:Option α
 (author message parent label:String)
 createdAt:Time
 pinned:Bool

inductive Stmt(α:Type)
 -- inside a transaction
 | lockHead
 | selectHeadRow (revision:String)
 | selectInTx (revision:String)
 | deleteUnpinned (revision:String)
 | updateHead (revision:String)
 | updateContent (revision:String) (content:α) (message:String)
 | insertRevision (revision parent author message:String) (content:Option α)
 | upsertHead (revision:String)
 | deleteEnvs
 | commit
 | rollback
 -- by themselves
 | selectHead
 | selectEnv (env:String)
 | selectContent (revision:String)
 | upsertEnv (env revision:String)
 | deleteEnv (env:String)
 | updateLabel (revision label:String)
 -- outside the database
 | newRevisionID
 | now

@[reducible] def Stmt.Res:Stmt α→Type
 | .lockHead | .newRevisionID=>String
 | .selectHeadRow _=>Option (HeadRow α)
 | .selectInTx _ | .selectContent _=>Option (Option α)
 | .deleteUnpinned _ | .updateHead _ | .updateContent .. =>Nat
 | .insertRevision .. =>Bool
 | .selectHead | .selectEnv _=>Option String
 | .now=>Time
 | .upsertHead _ | .deleteEnvs | .commit | .rollback | .upsertEnv .. | .deleteEnv _ | .updateLabel .. =>Unit

structure Oracle where
 now:Time:=0
 newID:String:=""

def headRow(rows:FlowRows α)(r:Revision α):HeadRow α where
 content:=r.content
 author:=r.author
 message:=r.message
 parent:=r.parent
 label:=r.label
 createdAt:=r.createdAt
 pinned:=rows.pinned r.revision

def step:(c:Stmt α)→Oracle→State α→c.Res×State α
 | .lockHead,o,s=>
  let head:=s.rows.head.getD ""
  (head,{s with tx:=some {head:=head,began:=o.now} })
 | .selectHeadRow revision,_,s=>((s.view.find? revision).map (headRow s.view),s)
 | .selectInTx revision,_,s=>(s.view.contentOf revision,s)
 | .deleteUnpinned revision,_,s=>
  if (s.view.find? revision).any (fun r=>r.label== ""&&!s.view.pinned revision) then
   (1,s.record (.deleteRevision revision))
  else (0,s)
 | .updateHead revision,_,s=>
  if s.view.head.isSome then (1,s.record (.setHead revision)) else (0,s)
 | .updateContent revision content message,_,s=>
  if (s.view.find? revision).isSome then
   (1,s.record (.setContent revision content message ((s.tx.map Tx.began).getD 0)))
  else (0,s)
 | .insertRevision revision parent author message content,_,s=>
  if (s.view.find? revision).isSome then (false,s)
  else
   (true,s.record (.insertRevision
    { revision:=revision,parent:=parent,author:=author,message:=message,content:=content
      createdAt:=(s.tx.map Tx.began).getD 0}))
 | .upsertHead revision,_,s=>((),s.record (.setHead revision))
 | .deleteEnvs,_,s=>((),s.view.envs.rows.foldl (fun s e=>s.record (.deleteEnv e.env)) s)
 | .commit,_,s=>((),{rows:=s.view})
 | .rollback,_,s=>((),{rows:=s.rows})
 | .selectHead,_,s=>(s.rows.head,s)
 | .selectEnv env,_,s=>((s.rows.envs.find? env).map EnvRow.revision,s)
 | .selectContent revision,_,s=>(s.rows.contentOf revision,s)
 | .upsertEnv env revision,_,s=>((),{s with rows:=s.rows.point env revision})
 | .deleteEnv env,_,s=>((),{s with rows:=s.rows.write (.deleteEnv env)})
 | .updateLabel revision label,_,s=>((),{s with rows:=s.rows.relabel revision label})
 | .newRevisionID,o,s=>(o.newID,s)
 | .now,o,s=>(o.now,s)

@[reducible] def sig(α:Type):Interleaving.Sig where
 Call:=Stmt α
 Res:=Stmt.Res
 Ret:=fun _=>Unit

abbrev Prog(α:Type):=Interleaving.Prog (sig α)

def exec(c:Stmt α):Prog α c.Res:=Interleaving.Prog.ask (S:=sig α) c

section Methods

variable [DecidableEq α]

-- the insert of the revision, then the upsert of the head
def insertRevision(revision parent author message:String)(content:Option α):Prog α Bool:=do
 if←exec (.insertRevision revision parent author message content) then
  exec (.upsertHead revision)
  pure true
 else pure false

def dropRevision(graphID revision parent:String):Prog α (Except String Unit):=do
 if (←exec (.deleteUnpinned revision))≠1 then
  pure (.error ("graph "++quote graphID++": revision "++revision ++
   " is published, labelled or gone and cannot be dropped"))
 else if (←exec (.updateHead parent))≠1 then
  pure (.error ("graph "++quote graphID++": head row vanished during save"))
 else pure (.ok ())

def amends(author:String)(coalesce:Bool)(now:Time)(row:HeadRow α):Bool:=
 coalesce&&row.author==author&&("autosave:".toList).isPrefixOf row.message.toList &&
  now-row.createdAt ≤ autosaveCoalesceWindow&&!row.pinned&&row.label== ""

def commitWith(revision:String):Prog α (Except String String):=do
 exec .commit
 pure (.ok revision)

def rollbackWith(message:String):Prog α (Except String String):=do
 exec .rollback
 pure (.error message)

def saveNew(graphID head author:String)(content:α)(coalesce:Bool):Prog α (Except String String):=do
 let rev←exec .newRevisionID
 let message:=if coalesce then autosaveMessage graphID author else explicitMessage graphID author
 if←insertRevision rev head author message (some content) then commitWith rev
 else rollbackWith "duplicate key value violates unique constraint"

def saveInPlace(graphID head author:String)(content:α):Prog α (Except String String):=do
 if (←exec (.updateContent head content (autosaveMessage graphID author)))≠1 then
  rollbackWith ("graph "++quote graphID++": head revision "++head++" vanished during save")
 else commitWith head

/-- The branch of a coalescing save: back to the parent when the burst undid itself, else in place. -/
def saveAmending(graphID head parent author:String)(content:α):Prog α (Except String String):=do
 if parent="" then saveInPlace graphID head author content
 else if (←exec (.selectInTx parent))=some (some content) then
  match←dropRevision graphID head parent with
  | .ok _=>commitWith parent
  | .error message=>rollbackWith message
 else saveInPlace graphID head author content

def save(graphID:String)(content:α)(author:String)(coalesce:Bool):Prog α (Except String String):=
 if validGraphID graphID=false then pure (.error "invalid flow id")
 else do
  let head←exec .lockHead
  if head="" then saveNew graphID head author content coalesce
  else
   match←exec (.selectHeadRow head) with
   | none=>saveNew graphID head author content coalesce
   | some row=>
    if row.content=some content then commitWith head
    else if amends author coalesce (←exec .now) row then saveAmending graphID head row.parent author content
    else saveNew graphID head author content coalesce

def delete(graphID author:String):Prog α (Except String String):=
 if graphID="" then pure (.error "graphID required")
 else do
  let head←exec .lockHead
  if head="" then
   exec .rollback
   pure (.ok "")
  else
   match←exec (.selectInTx head) with
   | none=>rollbackWith "no rows in result set"
   | some none=>commitWith ""
   | some (some _)=>
    let rev←exec .newRevisionID
    if←insertRevision rev head author (deleteMessage graphID author) none then
     exec .deleteEnvs
     commitWith rev
    else rollbackWith "duplicate key value violates unique constraint"

def resolveGraph(ref:String):Prog α String:=do
 if ref=""∨ref="HEAD" then pure ((←exec .selectHead).getD "")
 else pure ((←exec (.selectEnv ref)).getD ref)

def FlowRows.resolve(rows:FlowRows α)(ref:String):String:=
 if ref=""∨ref="HEAD" then rows.head.getD "" else ((rows.envs.find? ref).map EnvRow.revision).getD ref

def FlowRows.readAt(rows:FlowRows α)(ref:String):Except LoadError α:=
 if rows.resolve ref="" then .error .graphNotFound
 else
  match rows.contentOf (rows.resolve ref) with
  | some (some content)=>.ok content
  | _=>.error .graphNotFound

def FlowRows.readEnv(rows:FlowRows α)(env:String):String:=
 ((rows.envs.find? env).map EnvRow.revision).getD ""

def FlowRows.readPublished(rows:FlowRows α):Except LoadError α:=
 if rows.readEnv publishedEnv="" then .error .notPublished else rows.readAt (rows.readEnv publishedEnv)

def setEnv(env commit:String):Prog α (Except String Unit):=do
 if env="" then pure (.error "env required")
 else
  let rev←resolveGraph commit
  if rev="" then pure (.error ("could not resolve "++quote commit))
  else
   exec (.upsertEnv env rev)
   pure (.ok ())

def clearEnv(env:String):Prog α (Except String Unit):=do
 if env="" then pure (.error "env required")
 else
  exec (.deleteEnv env)
  pure (.ok ())

def setLabel(graphID commit label:String):Prog α (Except String Unit):=do
 if graphID="" then pure (.error "graphID required")
 else
  let rev←resolveGraph commit
  if rev="" then pure (.error ("could not resolve "++quote commit))
  else
   exec (.updateLabel rev (trimSpace label))
   pure (.ok ())

inductive Entry(α:Type)
 | save (content:α)(author:String)(coalesce:Bool)
 | delete (author:String)
 | promote (env commit:String)
 | clear (env:String)
 | label (commit text:String)

def Entry.prog(graphID:String):Entry α→Prog α Unit
 | .save content author coalesce=>do
  let _←PgWorkspace.save graphID content author coalesce
  pure ()
 | .delete author=>do
  let _←PgWorkspace.delete (α:=α) graphID author
  pure ()
 | .promote env commit=>do
  let _←setEnv env commit
  pure ()
 | .clear env=>do
  let _←clearEnv env
  pure ()
 | .label commit text=>do
  let _←setLabel graphID commit text
  pure ()

variable (α) in
@[reducible] def backend(graphID:String):Interleaving.Machine (sig α) where
 State:=State α
 Oracle:=Oracle
 step:=step
 body:=fun f=>nomatch f
 Entry:=Entry α
 entry:=Entry.prog graphID

open Interleaving (Solo)

lemma solo_resolveGraph(graphID s ref):
 Solo (backend α graphID) (resolveGraph ref) s (fun r s'=>r=s.rows.resolve ref∧s'=s):=by
 unfold resolveGraph FlowRows.resolve
 split<;>exact Solo.call fun _=>Solo.done ⟨rfl,rfl⟩

end Methods

end Dazyflow.PgWorkspace
