import Dazyflow.GitWorkspace
import Dazyflow.PgTransactions

/-!
# The workspace store over either backend

The interface `backend` of `workspace/store.go` and the methods of `Store` over it, with the two backends as
instances: the git one as it is, the Postgres one with each method run by itself.
-/
namespace Dazyflow.WorkspaceBackends
open WorkspaceStore

inductive Write(α:Type)
 | save (graphID:String)(content:α)(author:String)(coalesce:Bool)
 | delete (graphID author:String)

structure Backend(α:Type) where
 State:Type
 /-- what a write leaves open: the clock, and the name of the revision -/
 Choice:Type
 /-- the name is one that stands for nothing else -/
 fits:State→Choice→Write α→Prop
 initial:State
 write:Choice→Write α→State→Except String String×State
 setEnv:String→String→String→State→Except String Unit×State
 clearEnv:String→String→State→Except String Unit×State
 setLabel:String→String→String→State→Except String Unit×State
 envCommit:State→String→String→String
 load:State→String→Except LoadError α
 loadAt:State→String→String→Except LoadError α

variable {α:Type}

namespace Backend

variable (B:Backend α)

def publishedCommit(s:B.State)(graphID:String):String:=B.envCommit s graphID publishedEnv

def loadPublished(s:B.State)(graphID:String):Except LoadError α:=
 if B.publishedCommit s graphID="" then .error .notPublished
 else B.loadAt s (B.publishedCommit s graphID) graphID

end Backend

section Git

open GitWorkspace

variable [DecidableEq α]

def gitFits(repo:Repo α)(choice:Choice):Write α→Prop
 | .save graphID content author coalesce=>
  Honest (stage graphID content repo) (saveCommit choice graphID author coalesce (stage graphID content repo))
 | .delete graphID author=>
  Honest (unstage graphID repo) (deleteCommit choice graphID author (unstage graphID repo))

def gitWrite(choice:Choice):Write α→Repo α→Except String String×Repo α
 | .save graphID content author coalesce=>GitWorkspace.save choice graphID content author coalesce
 | .delete graphID author=>GitWorkspace.delete choice graphID author

@[reducible] def gitBackend(git:Revisions α):Backend α where
 State:=Repo α
 Choice:=Choice
 fits:=gitFits
 initial:=openOrInit git
 write:=gitWrite
 setEnv:=GitWorkspace.setEnv git
 clearEnv:=GitWorkspace.clearEnv
 setLabel:=GitWorkspace.setLabel git
 envCommit:=GitWorkspace.envCommit
 load:=GitWorkspace.load
 loadAt:=GitWorkspace.loadAt git

end Git

section Postgres

open PgWorkspace PgTransactions

abbrev Rows(α:Type):=String→FlowRows α

def Rows.set(s:Rows α)(graphID:String)(rows:FlowRows α):Rows α:=Function.update s graphID rows

/-- Ids as the database mints them: new to the flow, and no name of an environment. -/
def minted(rows:FlowRows α)(id:String):Prop:=fresh rows id∧id≠publishedEnv

variable [DecidableEq α]

def runMethod{β:Type}(graphID:String)(p:PgWorkspace.Prog α (Except String β))(o:Nat→Oracle)
  (rows:FlowRows α):Except String β×FlowRows α:=
 match p.alone (backend α graphID) o 0 {rows:=rows} with
 | some (r,_,s)=>(r,s.rows)
 -- no method calls itself
 | none=>(.error "",rows)

def pgFits(s:Rows α)(o:Nat→Oracle):Write α→Prop
 | .save graphID .. | .delete graphID _=>∀ k,minted (s graphID) (o k).newID

def pgWrite(o:Nat→Oracle):Write α→Rows α→Except String String×Rows α
 | .save graphID content author coalesce,s=>
  let r:=runMethod graphID (PgWorkspace.save graphID content author coalesce) o (s graphID)
  (r.1,s.set graphID r.2)
 | .delete graphID author,s=>
  let r:=runMethod graphID (PgWorkspace.delete (α:=α) graphID author) o (s graphID)
  (r.1,s.set graphID r.2)

def pgCall(graphID:String)(p:PgWorkspace.Prog α (Except String Unit))(s:Rows α):Except String Unit×Rows α:=
 let r:=runMethod graphID p (fun _=>{}) (s graphID)
 (r.1,s.set graphID r.2)

variable (α) in
@[reducible] def pgBackend:Backend α where
 State:=Rows α
 Choice:=Nat→Oracle
 fits:=pgFits
 initial:=fun _=>{}
 write:=pgWrite
 setEnv:=fun graphID env commit=>pgCall graphID (PgWorkspace.setEnv env commit)
 clearEnv:=fun graphID env=>pgCall graphID (PgWorkspace.clearEnv env)
 setLabel:=fun graphID commit label=>pgCall graphID (PgWorkspace.setLabel graphID commit label)
 envCommit:=fun s graphID env=>(s graphID).readEnv env
 load:=fun s graphID=>(s graphID).readAt "HEAD"
 loadAt:=fun s ref graphID=>(s graphID).readAt ref

end Postgres

end Dazyflow.WorkspaceBackends
