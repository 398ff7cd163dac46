import Dazyflow.KeyedTable
import Dazyflow.WorkspaceStore

/-!
# The git workspace backend

`gitBackend` on one repository.
-/
namespace Dazyflow.GitWorkspace
open GoStrings JobRecords WorkspaceStore KeyedTable List

structure Commit(α:Type) where
 hash:String
 parent:Option String
 (author message:String)
 time:Time
 -- the flow files by id, in the order of their names
 tree:List (String×α)
 deriving DecidableEq

structure EnvTag where
 (graphID env hash:String)

def envTag(graphID env:String):String:= "graphs/"++graphID++"/"++env

def EnvTag.name(t:EnvTag):String:=envTag t.graphID t.env

structure LabelTag where
 (graphID hash label:String)

def LabelTag.name(t:LabelTag):String×String:=(t.graphID,t.hash)

structure Repo(α:Type) where
 commits:Table String (Commit α) Commit.hash:=empty
 head:Option String:=none
 files:List (String×α):=[]
 tags:Table String EnvTag EnvTag.name:=empty
 labels:Table (String×String) LabelTag LabelTag.name:=empty

/-- How a revision is named: `ResolveRevision` prefers the hash of a commit that exists to
 any other reading; `NewHash` reads forty characters. -/
structure Revisions(α:Type) where
 resolveRevision:Repo α→String→Option String
 newHash:String→String
 resolve_hash:∀ repo h c,repo.commits.find? h=some c → resolveRevision repo h=some h
 -- the commit a new repository starts with
 root:String
 rootTime:Time
 root_ne:root≠""

structure Choice where
 now:Time
 hash:String

variable {α:Type}

def graphPath(id:String):String:= "graphs/"++id++".json"

-- git orders a tree by the names of its files
def setFile(id:String)(content:α):List (String×α)→List (String×α)
 | []=>[(id,content)]
 | (k,v)::rest=>
  if id=k then (id,content)::rest
  else if graphPath id<graphPath k then (id,content)::(k,v)::rest
  else (k,v)::setFile id content rest

def removeFile(id:String)(files:List (String×α)):List (String×α):=files.filter (fun p=>p.1 != id)

lemma lookup_cons_ite(q)(v:α)(rest:List (String×α))(k):
 ((q,v)::rest).lookup k=if k=q then some v else rest.lookup k:=by
 rw[lookup_cons]
 by_cases h:k=q
 ·simp[h]
 ·simp[h,beq_false_of_ne h]
lemma lookup_setFile(id)(content:α)(files:List (String×α))(k):
 (setFile id content files).lookup k=if k=id then some content else files.lookup k:=by
 induction files with
 | nil=>exact lookup_cons_ite id content [] k
 | cons p rest ih=>
  obtain ⟨q,v⟩:=p
  unfold setFile
  by_cases hq:id=q
  ·subst hq
   simp only[if_pos,lookup_cons_ite]
   split_ifs<;>rfl
  ·by_cases hlt:graphPath id<graphPath q
   ·simp only[if_neg hq,if_pos hlt,lookup_cons_ite]
   ·simp only[if_neg hq,if_neg hlt,lookup_cons_ite,ih]
    split_ifs with h h'<;>simp_all
lemma lookup_removeFile(id)(files:List (String×α))(k):
 (removeFile id files).lookup k=if k=id then none else files.lookup k:=by
 induction files with
 | nil=>simp[removeFile]
 | cons p rest ih=>
  obtain ⟨q,v⟩:=p
  unfold removeFile at ih ⊢
  by_cases hq:q=id
  ·subst hq
   simp only[filter_cons,bne_self_eq_false,Bool.false_eq_true,if_false,ih,lookup_cons_ite]
   split_ifs<;>rfl
  ·have hkeep:(q != id):=bne_iff_ne.2 hq
   simp only[filter_cons,hkeep,if_true,lookup_cons_ite,ih]
   split_ifs with h h'<;>simp_all

namespace Repo

def headCommit(repo:Repo α):Option (Commit α):=repo.head.bind repo.commits.find?

def store(repo:Repo α)(c:Commit α):Repo α:=
 if h:repo.commits.find? c.hash=none then {repo with commits:=repo.commits.insert c h} else repo

def treeOf(repo:Repo α)(hash:String):Option (List (String×α)):=
 (repo.commits.find? hash).map Commit.tree

end Repo

-- git keeps whole seconds
def commitTime(now:Time):Time:=now / 1000000000*1000000000

def headIsRecentAutosave(repo:Repo α)(now:Time)(graphID author:String):Bool:=
 repo.headCommit.any (fun c=>c.message==autosaveMessage graphID author &&
  now-c.time ≤ autosaveCoalesceWindow)

def staged(choice:Choice)(parent:Option String)(author message:String)(repo:Repo α):Commit α where
 hash:=choice.hash
 parent:=parent
 author:=author
 message:=message
 time:=commitTime choice.now
 tree:=repo.files

def commit(c:Commit α)(repo:Repo α):Repo α:={repo.store c with head:=some c.hash}

def stage(graphID:String)(content:α)(repo:Repo α):Repo α:=
 {repo with files:=setFile graphID content repo.files}

def unstage(graphID:String)(repo:Repo α):Repo α:=
 {repo with files:=removeFile graphID repo.files}

def dropAmendedHead(repo:Repo α):Except String String×Repo α:=
 match repo.head with
 | none=>(.error "amend-empty: head lookup: reference not found",repo)
 | some h=>
  match repo.commits.find? h with
  | none=>(.error "amend-empty: head commit: object not found",repo)
  | some c=>
   match c.parent with
   | none=>(.ok h,repo)
   | some parent=>(.ok parent,{repo with head:=some parent})

def headHash(repo:Repo α):Except String String×Repo α:=
 match repo.head with
 | none=>(.error "commit: cannot create empty commit: clean working tree (and head lookup: reference not found)",repo)
 | some h=>(.ok h,repo)

def amends(now:Time)(graphID author:String)(coalesce:Bool)(repo:Repo α):Bool:=
 coalesce&&headIsRecentAutosave repo now graphID author

def saveParent(now:Time)(graphID author:String)(coalesce:Bool)(repo:Repo α):Option String:=
 if amends now graphID author coalesce repo then repo.headCommit.bind Commit.parent else repo.head

def saveCommit(choice:Choice)(graphID author:String)(coalesce:Bool)(repo:Repo α):Commit α:=
 staged choice (saveParent choice.now graphID author coalesce repo) author
  (if coalesce then autosaveMessage graphID author else explicitMessage graphID author) repo

def deleteCommit(choice:Choice)(graphID author:String)(repo:Repo α):Commit α:=
 staged choice repo.head author (deleteMessage graphID author) repo

section Methods

variable [DecidableEq α]

def emptyCommit(repo:Repo α)(parent:Option String):Bool:=
 match parent with
 | none=>repo.files.isEmpty
 | some p=>repo.treeOf p=some repo.files

def saveStaged(choice:Choice)(graphID author:String)(coalesce:Bool)(repo:Repo α):
 Except String String×Repo α:=
 if emptyCommit repo (saveParent choice.now graphID author coalesce repo) then
  if amends choice.now graphID author coalesce repo then dropAmendedHead repo else headHash repo
 else (.ok choice.hash,commit (saveCommit choice graphID author coalesce repo) repo)

def save(choice:Choice)(graphID:String)(content:α)(author:String)(coalesce:Bool)(repo:Repo α):
 Except String String×Repo α:=
 if validGraphID graphID=false then (.error "invalid flow id",repo)
 else saveStaged choice graphID author coalesce (stage graphID content repo)

def deleteStaged(choice:Choice)(graphID author:String)(repo:Repo α):Except String String×Repo α:=
 if emptyCommit repo repo.head then headHash repo
 else (.ok choice.hash,commit (deleteCommit choice graphID author repo) repo)

def delete(choice:Choice)(graphID author:String)(repo:Repo α):Except String String×Repo α:=
 if graphID="" then (.error "graphID required",repo)
 else if (repo.files.lookup graphID).isNone then (.ok "",repo)
 else deleteStaged choice graphID author (unstage graphID repo)

end Methods

def readAtHash(repo:Repo α)(hash graphID:String):Except LoadError α:=
 match repo.treeOf hash with
 | none=>.error .unresolved
 | some tree=>
  match tree.lookup graphID with
  | none=>.error .graphNotFound
  | some content=>.ok content

def load(repo:Repo α)(graphID:String):Except LoadError α:=
 match repo.head with
 | none=>.error .graphNotFound
 | some h=>readAtHash repo h graphID

def resolveHash(git:Revisions α)(repo:Repo α)(ref:String):Option String:=
 match git.resolveRevision repo ref with
 | some h=>some h
 | none=>if ref.utf8ByteSize=40 then some (git.newHash ref) else none

def loadAt(git:Revisions α)(repo:Repo α)(ref graphID:String):Except LoadError α:=
 match resolveHash git repo ref with
 | none=>.error .unresolved
 | some h=>readAtHash repo h graphID

def setEnv(git:Revisions α)(graphID env commit:String)(repo:Repo α):Except String Unit×Repo α:=
 if env="" then (.error "env required",repo)
 else
  match resolveHash git repo commit with
  | none=>(.error ("could not resolve "++quote commit),repo)
  | some h=>(.ok (),{repo with tags:=repo.tags.upsert ⟨graphID,env,h⟩})

def clearEnv(graphID env:String)(repo:Repo α):Except String Unit×Repo α:=
 if env="" then (.error "env required",repo)
 else (.ok (),{repo with tags:=repo.tags.erase fun t=>t.name==envTag graphID env})

def envCommit(repo:Repo α)(graphID env:String):String:=
 ((repo.tags.find? (envTag graphID env)).map EnvTag.hash).getD ""

def setLabel(git:Revisions α)(graphID commit label:String)(repo:Repo α):Except String Unit×Repo α:=
 if graphID="" then (.error "graphID required",repo)
 else
  match resolveHash git repo commit with
  | none=>(.error ("could not resolve "++quote commit),repo)
  | some h=>
   let cleared:=repo.labels.erase (fun t=>t.name==(graphID,h))
   if trimSpace label="" then (.ok (),{repo with labels:=cleared})
   else if (repo.commits.find? h).isNone then (.error "create label tag: object not found",{repo with labels:=cleared})
   else (.ok (),{repo with labels:=cleared.upsert ⟨graphID,h,label⟩})

def initCommit(git:Revisions α):Commit α where
 hash:=git.root
 parent:=none
 author:="dazyflow"
 message:="init"
 time:=commitTime git.rootTime
 tree:=[]

def openOrInit(git:Revisions α):Repo α:=commit (initCommit git) {}

def plainRevisions:Revisions α where
 resolveRevision:=fun repo ref=>
  if (repo.commits.find? ref).isSome then some ref else if ref="HEAD" then repo.head else none
 newHash:=id
 resolve_hash:=fun repo h c hc=>by simp[hc]
 root:="root"
 rootTime:=0
 root_ne:=by decide

structure Stored(repo:Repo α):Prop where
 head:∃ h tree,repo.head=some h∧repo.treeOf h=some tree
 hashes:∀ h c,repo.commits.find? h=some c→h≠""
 parents:∀ h c p,repo.commits.find? h=some c→c.parent=some p→∃ tree,repo.treeOf p=some tree
 ids:∀ h tree id content,repo.treeOf h=some tree→tree.lookup id=some content→validGraphID id

def Synced(repo:Repo α):Prop:=∀ h,repo.head=some h → repo.treeOf h=some repo.files

def Honest(repo:Repo α)(c:Commit α):Prop:=c.hash≠""∧∀ c',repo.commits.find? c.hash=some c'→c'=c

instance [DecidableEq α] (repo:Repo α)(c:Commit α):Decidable (Honest repo c):=
 decidable_of_iff (c.hash≠""∧(repo.commits.find? c.hash).all fun c'=>decide (c'=c)) (by
  simp[Honest,Option.all_eq_true])

structure Settled(repo repo':Repo α):Prop where
 stored:Stored repo'
 synced:Synced repo'
 files:repo'.files=repo.files
 tags:repo'.tags=repo.tags
 kept:∀ h c,repo.commits.find? h=some c → repo'.commits.find? h=some c

variable {repo:Repo α}{c:Commit α}

lemma find?_store(hc:Honest repo c)(k):
 (repo.store c).commits.find? k=if k=c.hash then some c else repo.commits.find? k:=by
 unfold Repo.store
 by_cases h:repo.commits.find? c.hash=none
 ·rw[dif_pos h]
  exact find?_insert repo.commits c h k
 ·rw[dif_neg h]
  obtain ⟨c',hc'⟩:=Option.ne_none_iff_exists'.1 h
  by_cases hk:k=c.hash
  ·rw[if_pos hk,hk,hc',hc.2 c' hc']
  ·rw[if_neg hk]
lemma store_fields(repo:Repo α)(c:Commit α):
 (repo.store c).files=repo.files∧(repo.store c).tags=repo.tags:=by
 unfold Repo.store
 split<;>exact ⟨rfl,rfl⟩
lemma settled_commit(hs:Stored repo)(hc:Honest repo c)
 (htree:c.tree=repo.files)(hparent:∀ p,c.parent=some p→∃ tree,repo.treeOf p=some tree)
 (hids:∀ id content,repo.files.lookup id=some content→validGraphID id):
 Settled repo (commit c repo):=by
 have hfind:∀ k,(commit c repo).commits.find? k=if k=c.hash then some c else repo.commits.find? k:=
  find?_store hc
 have hkept:∀ h d,repo.commits.find? h=some d→(commit c repo).commits.find? h=some d:=by
  intro h d hd
  rw[hfind]
  by_cases hk:h=c.hash
  ·rw[if_pos hk,hc.2 d (hk▸hd)]
  ·rw[if_neg hk,hd]
 have htreeOf:∀ p tree,repo.treeOf p=some tree→(commit c repo).treeOf p=some tree:=by
  intro p tree hp
  obtain ⟨d,hd,rfl⟩:=Option.map_eq_some_iff.1 hp
  rw[Repo.treeOf,hkept p d hd]
  rfl
 have hown:(commit c repo).treeOf c.hash=some repo.files:=by
  rw[Repo.treeOf,hfind,if_pos rfl,Option.map_some,htree]
 -- a commit of the result is the new one or one that was there
 have hcases:∀ h d,(commit c repo).commits.find? h=some d→
  h=c.hash∧d=c∨repo.commits.find? h=some d:=by
  intro h d hd
  rw[hfind] at hd
  by_cases hk:h=c.hash
  ·rw[if_pos hk] at hd
   exact .inl ⟨hk,(Option.some.inj hd).symm⟩
  ·rw[if_neg hk] at hd
   exact .inr hd
 refine ⟨⟨⟨c.hash,repo.files,rfl,hown⟩,?_,?_,?_⟩,?_,(store_fields repo c).1,(store_fields repo c).2,hkept⟩
 ·intro h d hd
  rcases hcases h d hd with ⟨rfl,rfl⟩ | hd
  ·exact hc.1
  ·exact hs.hashes h d hd
 ·intro h d p hd hp
  rcases hcases h d hd with ⟨rfl,rfl⟩ | hd
  ·obtain ⟨tree,ht⟩:=hparent p hp
   exact ⟨tree,htreeOf p tree ht⟩
  ·obtain ⟨tree,ht⟩:=hs.parents h d p hd hp
   exact ⟨tree,htreeOf p tree ht⟩
 ·intro h tree id content ht hl
  obtain ⟨d,hd,rfl⟩:=Option.map_eq_some_iff.1 ht
  rcases hcases h d hd with ⟨rfl,rfl⟩ | hd
  ·exact hids id content (htree▸hl)
  ·exact hs.ids h d.tree id content (by rw[Repo.treeOf,hd]; rfl) hl
 ·intro h hh
  cases hh
  rw[hown]
  exact congrArg some (store_fields repo c).1.symm
lemma stored_openOrInit(git:Revisions α):Stored (openOrInit git)∧Synced (openOrInit git):=by
 have hhonest:Honest ({}:Repo α) (initCommit git):=⟨git.root_ne,nofun⟩
 have hfind:∀ k c,(openOrInit git).commits.find? k=some c→k=git.root∧c=initCommit git:=by
  intro k c hk
  rw[show (openOrInit git).commits.find? k=_ from find?_store hhonest k] at hk
  split_ifs at hk with h
  ·exact ⟨h,(Option.some.inj hk).symm⟩
  ·cases hk
 have hroot:(openOrInit git).treeOf git.root=some []:=by
  rw[Repo.treeOf,show (openOrInit git).commits.find? git.root=_ from find?_store hhonest git.root]
  exact congrArg (Option.map Commit.tree) (if_pos rfl)
 refine ⟨⟨⟨git.root,[],rfl,hroot⟩,?_,?_,?_⟩,?_⟩
 ·intro h c hc
  rw[(hfind h c hc).1]
  exact git.root_ne
 ·intro h c p hc hp
  rw[(hfind h c hc).2] at hp
  cases hp
 ·intro h tree id content ht hl
  obtain ⟨c,hc,rfl⟩:=Option.map_eq_some_iff.1 ht
  rw[(hfind h c hc).2] at hl
  cases hl
 ·intro h hh
  cases hh
  exact hroot.trans (congrArg some (store_fields {} (initCommit git)).1.symm)
lemma settled_headHash{h:String}(hs:Stored repo)(hh:repo.head=some h)
 (ht:repo.treeOf h=some repo.files):headHash repo=(.ok h,repo)∧Settled repo repo:=by
 refine ⟨by unfold headHash; rw[hh],hs,fun h' hh'=>?_,rfl,rfl,fun _ _ h=>h⟩
 rw[hh] at hh'
 cases hh'
 exact ht

section Methods

variable [DecidableEq α]{choice:Choice}{graphID author:String}

lemma settled_saveStaged{coalesce:Bool}
 (hs:Stored repo)(hne:repo.files≠[])
 (hids:∀ id content,repo.files.lookup id=some content→validGraphID id)
 (hc:Honest repo (saveCommit choice graphID author coalesce repo)):
 ∃ h,(saveStaged choice graphID author coalesce repo).1=.ok h∧
  Settled repo (saveStaged choice graphID author coalesce repo).2:=by
 obtain ⟨h,tree,hhead,htree⟩:=hs.head
 obtain ⟨c,hfind,rfl⟩:=Option.map_eq_some_iff.1 htree
 have hheadCommit:repo.headCommit=some c:=by rw[Repo.headCommit,hhead]; exact hfind
 unfold saveStaged
 by_cases hempty:emptyCommit repo (saveParent choice.now graphID author coalesce repo)
 ·rw[if_pos hempty]
  by_cases ham:amends choice.now graphID author coalesce repo
  ·rw[if_pos ham]
   rw[saveParent,if_pos ham,hheadCommit,Option.bind_some] at hempty
   cases hp:c.parent with
   | none=>
    rw[hp] at hempty
    exact absurd (List.isEmpty_iff.1 hempty) hne
   | some p=>
    -- the burst came back to the tree before it
    rw[hp] at hempty
    have hpt:repo.treeOf p=some repo.files:=by simpa[emptyCommit] using hempty
    have hdrop:dropAmendedHead repo=(.ok p,{repo with head:=some p}):=by
     unfold dropAmendedHead
     simp only[hhead,hfind,hp]
    rw[hdrop]
    refine ⟨p,rfl,⟨⟨p,repo.files,rfl,hpt⟩,hs.hashes,hs.parents,hs.ids⟩,?_,rfl,rfl,fun _ _ h=>h⟩
    intro h' hh'
    cases hh'
    exact hpt
  ·rw[if_neg ham]
   rw[saveParent,if_neg ham,hhead] at hempty
   obtain ⟨heq,hset⟩:=settled_headHash hs hhead (by simpa[emptyCommit] using hempty)
   rw[heq]
   exact ⟨h,rfl,hset⟩
 ·rw[if_neg hempty]
  refine ⟨choice.hash,rfl,settled_commit hs hc rfl ?_ hids⟩
  intro p hp
  change saveParent choice.now graphID author coalesce repo=some p at hp
  unfold saveParent at hp
  by_cases ham:amends choice.now graphID author coalesce repo
  ·rw[if_pos ham,hheadCommit,Option.bind_some] at hp
   exact hs.parents h c p hfind hp
  ·rw[if_neg ham,hhead] at hp
   cases hp
   exact ⟨c.tree,htree⟩
lemma settled_deleteStaged(hs:Stored repo)
 (hids:∀ id content,repo.files.lookup id=some content→validGraphID id)
 (hc:Honest repo (deleteCommit choice graphID author repo)):
 ∃ h,(deleteStaged choice graphID author repo).1=.ok h∧
  Settled repo (deleteStaged choice graphID author repo).2:=by
 obtain ⟨h,tree,hhead,htree⟩:=hs.head
 unfold deleteStaged
 by_cases hempty:emptyCommit repo repo.head
 ·rw[if_pos hempty]
  rw[hhead] at hempty
  obtain ⟨heq,hset⟩:=settled_headHash hs hhead (by simpa[emptyCommit] using hempty)
  rw[heq]
  exact ⟨h,rfl,hset⟩
 ·rw[if_neg hempty]
  refine ⟨choice.hash,rfl,settled_commit hs hc rfl ?_ hids⟩
  intro p hp
  change repo.head=some p at hp
  rw[hhead] at hp
  cases hp
  exact ⟨tree,htree⟩

end Methods

variable {repo repo':Repo α}

lemma load_synced(hs:Stored repo)(hsync:Synced repo)(id):
 load repo id=match repo.files.lookup id with | none=>.error .graphNotFound | some content=>.ok content:=by
 obtain ⟨h,tree,hhead,-⟩:=hs.head
 unfold load readAtHash
 rw[hhead]
 simp only[hsync h hhead]
lemma envCommit_of_tags(h:repo'.tags=repo.tags)(f env):
 envCommit repo' f env=envCommit repo f env:=by
 unfold envCommit
 rw[h]
lemma readAtHash_kept{hash c}(h:repo.commits.find? hash=some c)
 (h':repo'.commits.find? hash=some c)(f):readAtHash repo' hash f=readAtHash repo hash f:=by
 unfold readAtHash Repo.treeOf
 rw[h,h']
lemma loadAt_hash{git hash c}(h:repo.commits.find? hash=some c)(f):
 loadAt git repo hash f=readAtHash repo hash f:=by
 unfold loadAt resolveHash
 rw[git.resolve_hash repo hash c h]
lemma load_eq(hs:Stored repo∧Synced repo)(hs':Stored repo'∧Synced repo'){f}
 (h:repo'.files.lookup f=repo.files.lookup f):load repo' f=load repo f:=by
 rw[load_synced hs.1 hs.2,load_synced hs'.1 hs'.2,h]
lemma files_valid(hs:Stored repo∧Synced repo){id content}
 (h:repo.files.lookup id=some content):validGraphID id:=by
 obtain ⟨hash,tree,hhead,-⟩:=hs.1.head
 exact hs.1.ids hash repo.files id content (hs.2 hash hhead) h

structure RefsOnly(repo repo':Repo α):Prop where
 commits:repo'.commits=repo.commits
 head:repo'.head=repo.head
 files:repo'.files=repo.files

lemma refsOnly_setEnv(git:Revisions α)(graphID env commit:String)(repo:Repo α):
 RefsOnly repo (setEnv git graphID env commit repo).2:=by
 unfold setEnv
 split_ifs
 ·exact ⟨rfl,rfl,rfl⟩
 ·cases resolveHash git repo commit<;>exact ⟨rfl,rfl,rfl⟩
lemma refsOnly_clearEnv(graphID env:String)(repo:Repo α):RefsOnly repo (clearEnv graphID env repo).2:=by
 unfold clearEnv
 split_ifs<;>exact ⟨rfl,rfl,rfl⟩
lemma refsOnly_setLabel(git:Revisions α)(graphID commit label:String)(repo:Repo α):
 RefsOnly repo (setLabel git graphID commit label repo).2∧
  (setLabel git graphID commit label repo).2.tags=repo.tags:=by
 unfold setLabel
 split
 ·exact ⟨⟨rfl,rfl,rfl⟩,rfl⟩
 ·cases resolveHash git repo commit with
  | none=>exact ⟨⟨rfl,rfl,rfl⟩,rfl⟩
  | some h=>
   dsimp only
   split_ifs<;>exact ⟨⟨rfl,rfl,rfl⟩,rfl⟩
lemma RefsOnly.sound(h:RefsOnly repo repo')(hs:Stored repo∧Synced repo):
 Stored repo'∧Synced repo':=by
 obtain ⟨hc,hh,hf⟩:=h
 cases repo
 cases repo'
 dsimp only at hc hh hf
 subst hc hh hf
 exact ⟨⟨hs.1.head,hs.1.hashes,hs.1.parents,hs.1.ids⟩,hs.2⟩
lemma RefsOnly.load(h:RefsOnly repo repo')(f):load repo' f=load repo f:=by
 unfold GitWorkspace.load readAtHash Repo.treeOf
 rw[h.commits,h.head]
lemma envTag_inj{graphID env f e}(hf: '/' ∉ f.toList)(he: '/' ∉ e.toList)
 (h:envTag graphID env=envTag f e):graphID=f∧env=e:=by
 have hl:=congrArg String.toList h
 simp only[envTag,String.toList_append,append_assoc,append_cancel_left_eq] at hl
 obtain ⟨hg,he⟩:=append_cons_inj hf he hl
 exact ⟨String.toList_injective hg,String.toList_injective he⟩

end Dazyflow.GitWorkspace
