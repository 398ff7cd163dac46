import Dazyflow.PgOutcomes
import Dazyflow.ReplayedLog
import Dazyflow.WorkspaceBackends

/-!
# The tables of a Postgres workspace

`flow_revisions`, `flow_heads` and `flow_envs` of one workspace, with the number that `seq` gives to every
revision.
-/
namespace Dazyflow.PgDatabase
open JobRecords WorkspaceStore KeyedTable PgWorkspace PgTransactions PgOutcomes WorkspaceBackends List Function

variable {α:Type}

/-- What the clock, the ids and the sequence answer to a transaction. -/
structure Draw where
 (began now:Time)
 newID:String
 seq:Nat

-- the transaction begins with the first statement
def Draw.oracle(d:Draw)(k:Nat):Oracle:=if k=0 then {now:=d.began} else {now:=d.now,newID:=d.newID}

def headRevision(rows:FlowRows α):Option (Revision α):=
 if rows.head.getD ""="" then none else rows.find? (rows.head.getD "")

def inserted(r:Revision α)(rows:FlowRows α):Except String String×FlowRows α:=
 if (rows.find? r.revision).isSome then (.error "duplicate key value violates unique constraint",rows)
 else (.ok r.revision,(rows.write (.insertRevision r)).write (.setHead r.revision))

def savedRow(d:Draw)(graphID:String)(content:α)(author:String)(coalesce:Bool)(rows:FlowRows α):
 Revision α where
 revision:=d.newID
 parent:=rows.head.getD ""
 author:=author
 message:=if coalesce then autosaveMessage graphID author else explicitMessage graphID author
 content:=some content
 createdAt:=d.began

def deletedRow(d:Draw)(graphID author:String)(rows:FlowRows α):Revision α where
 revision:=d.newID
 parent:=rows.head.getD ""
 author:=author
 message:=deleteMessage graphID author
 content:=none
 createdAt:=d.began

section Methods

variable [DecidableEq α]

def saved(d:Draw)(graphID:String)(content:α)(author:String)(coalesce:Bool)(rows:FlowRows α):
 Except String String×FlowRows α:=
 if validGraphID graphID=false then (.error "invalid flow id",rows)
 else
  match headRevision rows with
  | none=>inserted (savedRow d graphID content author coalesce rows) rows
  | some r=>
   if r.content=some content then (.ok r.revision,rows)
   else if amends author coalesce d.now (headRow rows r) then
    if r.parent≠""∧rows.contentOf r.parent=some (some content) then
     (.ok r.parent,(rows.write (.deleteRevision r.revision)).write (.setHead r.parent))
    else (.ok r.revision,rows.write (.setContent r.revision content (autosaveMessage graphID author) d.began))
   else inserted (savedRow d graphID content author coalesce rows) rows

omit [DecidableEq α] in
def deleted(d:Draw)(graphID author:String)(rows:FlowRows α):Except String String×FlowRows α:=
 if graphID="" then (.error "graphID required",rows)
 else if rows.head.getD ""="" then (.ok "",rows)
 else
  match rows.contentOf (rows.head.getD "") with
  | none=>(.error "no rows in result set",rows)
  | some none=>(.ok "",rows)
  | some (some _)=>
   if (rows.find? d.newID).isSome then (.error "duplicate key value violates unique constraint",rows)
   else (.ok d.newID,{ (inserted (deletedRow d graphID author rows) rows).2 with envs:=empty})

def Gives(graphID:String){β:Type}(p:Prog α β)(o:Nat→Oracle)(n:Nat)(s:State α)(r:β×FlowRows α):Prop:=
 ∃ n' t,p.alone (backend α graphID) o n s=some (r.1,n',t)∧t.rows=r.2

variable {graphID:String}{β:Type}{o:Nat→Oracle}{s:State α}{rows:FlowRows α}

lemma Gives.runMethod{p:Prog α (Except String β)}
 {r:Except String β×FlowRows α}(h:Gives graphID p o 0 {rows:=rows} r):
 runMethod graphID p o rows=r:=by
 obtain ⟨n',t,hrun,hrows⟩:=h
 unfold WorkspaceBackends.runMethod
 rw[hrun]
 exact Prod.ext rfl hrows
lemma gives_exec{c:Stmt α}{k:c.Res→Prog α β}{n:Nat}
 {r:β×FlowRows α}(h:Gives graphID (k (step c (o n) s).1) o (n+1) (step c (o n) s).2 r):
 Gives graphID (exec c>>=k) o n s r:=h
lemma gives_done{a:β}{n:Nat}
 (h:s.rows=rows):Gives graphID (.done a) o n s (a,rows):=⟨n,s,rfl,h⟩

variable {graphID:String}{d:Draw}{rows:FlowRows α}{n:Nat}

lemma gives_saveNew(author)(content:α)(coalesce):
 Gives graphID (saveNew graphID (rows.head.getD "") author content coalesce) d.oracle (n+1) (opened rows d.began)
  (inserted (savedRow d graphID content author coalesce rows) rows):=by
 refine gives_exec (gives_exec ?_)
 have hid:(step (α:=α) .newRevisionID (d.oracle (n+1)) (opened rows d.began)).1=d.newID:=rfl
 rw[hid]
 by_cases hrow:(rows.find? d.newID).isSome
 ·simp only[step,view_opened,inserted,savedRow,hrow,if_true]
  exact gives_exec (gives_done rfl)
 ·simp only[step,view_opened,inserted,savedRow,hrow]
  exact gives_exec (gives_exec (gives_done rfl))
lemma gives_saveInPlace(author)(content:α){head:String}(hrow:(rows.find? head).isSome):
 Gives graphID (saveInPlace graphID head author content) d.oracle n (opened rows d.began)
  (.ok head,rows.write (.setContent head content (autosaveMessage graphID author) d.began)):=by
 refine gives_exec ?_
 simp only[step,view_opened,hrow,if_true]
 exact gives_exec (gives_done rfl)
lemma gives_saveAmending(author)(content:α){r:Revision α}(hr:headRevision rows=some r)
 (hfree:Free rows r.revision):
 Gives graphID (saveAmending graphID r.revision r.parent author content) d.oracle n (opened rows d.began)
  (if r.parent≠""∧rows.contentOf r.parent=some (some content) then
   (.ok r.parent,(rows.write (.deleteRevision r.revision)).write (.setHead r.parent))
  else (.ok r.revision,rows.write (.setContent r.revision content (autosaveMessage graphID author) d.began))):=by
 obtain ⟨hne,hfind⟩:rows.head.getD ""≠""∧rows.find? (rows.head.getD "")=some r:=by
  unfold headRevision at hr
  split_ifs at hr with h
  exact ⟨h,hr⟩
 have hrev:r.revision=rows.head.getD "":=key_of_find? hfind
 have hrow:rows.find? r.revision=some r:=hrev▸hfind
 have hinPlace:∀ m,Gives graphID (saveInPlace graphID r.revision author content) d.oracle m (opened rows d.began)
  (.ok r.revision,rows.write (.setContent r.revision content (autosaveMessage graphID author) d.began)):=
  fun _=>gives_saveInPlace author content (isSome_find?.2 ⟨r,hrow⟩)
 unfold saveAmending
 by_cases hp:r.parent=""
 ·rw[if_pos hp,if_neg fun h=>h.1 hp]
  exact hinPlace n
 rw[if_neg hp]
 refine gives_exec ?_
 dsimp only[step,view_opened]
 by_cases hc:rows.contentOf r.parent=some (some content)
 ·rw[if_pos hc,if_pos ⟨hp,hc⟩]
  have hdrop:(rows.find? r.revision).any (fun x=>x.label== ""&&!rows.pinned r.revision):=by
   have hpin:rows.pinned r.revision=false:=by
    simpa[FlowRows.pinned,any_eq_false] using hfree.unpinned
   simp[hrow,hfree.unlabelled r hrow,hpin]
  have hhead:rows.head.isSome:=by
   cases h:rows.head with
   | none=>simp[h] at hne
   | some x=>rfl
  refine gives_exec ?_
  simp only[step,view_opened,hdrop,if_true]
  refine gives_exec ?_
  have hsome:((opened rows d.began).record (.deleteRevision r.revision)).view.head.isSome:=hhead
  simp only[step,hsome,if_true]
  exact gives_exec (gives_done rfl)
 ·rw[if_neg hc,if_neg fun h=>hc h.2]
  exact hinPlace (n+1)
lemma runMethod_save(content:α)(author coalesce):
 runMethod graphID (save graphID content author coalesce) d.oracle rows=saved d graphID content author coalesce rows:=by
 refine Gives.runMethod ?_
 unfold save saved
 by_cases hvalid:validGraphID graphID=false
 ·rw[if_pos hvalid,if_pos hvalid]
  exact gives_done rfl
 rw[if_neg hvalid,if_neg hvalid]
 refine gives_exec ?_
 dsimp only[step]
 change Gives graphID _ d.oracle 1 (opened rows d.began) _
 by_cases hempty:rows.head.getD ""=""
 ·have hnone:headRevision rows=none:=if_pos hempty
  rw[if_pos hempty,hnone]
  exact gives_saveNew author content coalesce
 have hheadRev:headRevision rows=rows.find? (rows.head.getD ""):=if_neg hempty
 rw[if_neg hempty,hheadRev]
 refine gives_exec ?_
 dsimp only[step,view_opened]
 cases hrow:rows.find? (rows.head.getD "") with
 | none=>exact gives_saveNew author content coalesce
 | some r=>?_
 have hrev:r.revision=rows.head.getD "":=key_of_find? hrow
 dsimp only[Option.map_some]
 by_cases hc:r.content=some content
 ·have hc':(headRow rows r).content=some content:=hc
  rw[if_pos hc',if_pos hc,hrev]
  exact gives_exec (gives_done rfl)
 have hc':¬(headRow rows r).content=some content:=hc
 rw[if_neg hc',if_neg hc]
 refine gives_exec ?_
 dsimp only[step]
 change Gives graphID (if amends author coalesce d.now (headRow rows r) then _ else _) d.oracle 3 _ _
 by_cases ha:amends author coalesce d.now (headRow rows r)
 ·rw[if_pos ha,if_pos ha,←hrev]
  exact gives_saveAmending author content (hheadRev.trans hrow)
   (hrev▸free_of_headRow hrow (free_of_amends ha))
 ·rw[if_neg ha,if_neg ha]
  exact gives_saveNew author content coalesce

omit [DecidableEq α] in
lemma deleteEnvs_empty{tx}(h:s.tx=some tx):
 (s.view.envs.rows.foldl (fun s e=>s.record (.deleteEnv e.env)) s).view={s.view with envs:=empty}:=by
 obtain ⟨hr,hh,he⟩:=view_deleteEnvs h
 have henvs:(s.view.envs.rows.foldl (fun s e=>s.record (.deleteEnv e.env)) s).view.envs=empty:=by
  generalize (s.view.envs.rows.foldl (fun s e=>s.record (.deleteEnv e.env)) s).view.envs=t at he
  cases t with
  | mk l hl=>
   cases l with
   | nil=>rfl
   | cons e rest=>
    have:=he e.env
    rw[find?_eq_none_iff] at this
    exact absurd rfl (this e mem_cons_self)
 generalize (s.view.envs.rows.foldl (fun s e=>s.record (.deleteEnv e.env)) s).view=t at hr hh henvs
 cases t
 dsimp only at hr hh henvs
 rw[hr,hh,henvs]
lemma runMethod_delete(author):
 runMethod graphID (delete (α:=α) graphID author) d.oracle rows=deleted d graphID author rows:=by
 refine Gives.runMethod ?_
 unfold delete deleted
 by_cases hid:graphID=""
 ·rw[if_pos hid,if_pos hid]
  exact gives_done rfl
 rw[if_neg hid,if_neg hid]
 refine gives_exec ?_
 dsimp only[step]
 change Gives graphID _ d.oracle 1 (opened rows d.began) _
 by_cases hempty:rows.head.getD ""=""
 ·rw[if_pos hempty,if_pos hempty]
  exact gives_exec (gives_done rfl)
 rw[if_neg hempty,if_neg hempty]
 refine gives_exec ?_
 dsimp only[step,view_opened]
 cases hc:rows.contentOf (rows.head.getD "") with
 | none=>exact gives_exec (gives_done rfl)
 | some content=>?_
 cases content with
 | none=>exact gives_exec (gives_done rfl)
 | some content=>?_
 refine gives_exec (gives_exec ?_)
 have hnew:(step (α:=α) .newRevisionID (d.oracle 2) (opened rows d.began)).1=d.newID:=rfl
 rw[hnew]
 by_cases hrow:(rows.find? d.newID).isSome
 ·simp only[step,view_opened,hrow,if_true]
  exact gives_exec (gives_done rfl)
 ·simp only[step,view_opened,hrow]
  refine gives_exec (gives_exec (gives_exec (gives_done ?_)))
  simp only[step,inserted,deletedRow,hrow]
  exact deleteEnvs_empty rfl

end Methods

structure Numbered where
 seq:Nat
 (graphID revision:String)

structure Database(α:Type) where
 rows:Rows α:=fun _=>{}
 /-- every revision ever inserted, in the order of the numbers -/
 order:List Numbered:=[]
 /-- the flows that rows were written for, in the order of their ids -/
 flows:List String:=[]

structure Logged(α:Type) where
 seq:Nat
 (graphID revision author message:String)
 content:Option α
 createdAt:Time
 deriving DecidableEq

def logged(e:Numbered)(r:Revision α):Logged α where
 seq:=e.seq
 graphID:=e.graphID
 revision:=e.revision
 author:=r.author
 message:=r.message
 content:=r.content
 createdAt:=r.createdAt

def graphOf:WorkspaceBackends.Write α→String
 | .save graphID .. | .delete graphID _=>graphID

def authorOf:WorkspaceBackends.Write α→String
 | .save _ _ author _ | .delete _ author=>author

namespace Database

def row(db:Database α)(e:Numbered):Option (Logged α):=((db.rows e.graphID).find? e.revision).map (logged e)

def log(db:Database α):List (Logged α):=db.order.filterMap db.row

def touch(graphID:String)(flows:List String):List String:=
 if graphID∈flows then flows else flows.orderedInsert (·≤·) graphID

def number(e:Numbered)(order:List Numbered):List Numbered:=order.orderedInsert (fun a b=>a.seq ≤ b.seq) e

def upsertEnv(graphID env revision:String)(db:Database α):Database α:=
 {db with rows:=db.rows.set graphID ((db.rows graphID).point env revision),flows:=touch graphID db.flows}

def deleteEnv(graphID env:String)(db:Database α):Database α:=
 {db with rows:=db.rows.set graphID ((db.rows graphID).write (.deleteEnv env))}

def updateLabel(graphID revision label:String)(db:Database α):Database α:=
 {db with rows:=db.rows.set graphID ((db.rows graphID).relabel revision label)}

variable [DecidableEq α]

def write(d:Draw)(w:WorkspaceBackends.Write α)(db:Database α):Except String String×Database α:=
 let r:=pgWrite d.oracle w db.rows
 let new:=(db.rows (graphOf w)).find? d.newID=none∧((r.2 (graphOf w)).find? d.newID).isSome
 (r.1,
  { rows:=r.2
    order:=if new then number ⟨d.seq,graphOf w,d.newID⟩ db.order else db.order
    flows:=touch (graphOf w) db.flows})

end Database

section Written

variable [DecidableEq α]

def written(d:Draw):WorkspaceBackends.Write α→FlowRows α→Except String String×FlowRows α
 | .save graphID content author coalesce,rows=>saved d graphID content author coalesce rows
 | .delete graphID author,rows=>deleted d graphID author rows

lemma pgWrite_eq(d:Draw)(w:WorkspaceBackends.Write α)(s:Rows α):
 pgWrite d.oracle w s=((written d w (s (graphOf w))).1,s.set (graphOf w) (written d w (s (graphOf w))).2):=by
 cases w with
 | save graphID content author coalesce=>
  simp only[pgWrite,written,graphOf,runMethod_save]
 | delete graphID author=>
  simp only[pgWrite,written,graphOf,runMethod_delete]

def stamps(graphID author:String):List String:=
 [autosaveMessage graphID author,explicitMessage graphID author,deleteMessage graphID author]

def Descends(d:Draw)(w:WorkspaceBackends.Write α)(rows rows':FlowRows α):Prop:=
 ∀ k r,rows'.find? k=some r → rows.find? k=some r∨
  (k=d.newID∨∃ r₀,rows.find? k=some r₀)∧r.message∈stamps (graphOf w) (authorOf w)∧
   (validGraphID (graphOf w)∨∃ k₀ r₀,rows.find? k₀=some r₀)

omit [DecidableEq α] in
lemma find?_inserted{r:Revision α}{rows:FlowRows α}{k:String}{x:Revision α}
 (h:(inserted r rows).2.find? k=some x):rows.find? k=some x∨k=r.revision∧x=r:=by
 unfold inserted at h
 by_cases hrow:(rows.find? r.revision).isSome
 ·rw[if_pos hrow] at h
  exact .inl h
 ·rw[if_neg hrow] at h
  have hfresh:rows.find? r.revision=none:=by simpa using hrow
  change (rows.write (.insertRevision r)).find? k=some x at h
  rw[find?_insertRevision rows r hfresh] at h
  split_ifs at h with hk
  ·exact .inr ⟨hk,(Option.some.inj h).symm⟩
  ·exact .inl h
lemma descends_saved(d graphID)(content:α)(author coalesce)
 (rows):
 Descends d (.save graphID content author coalesce) rows (saved d graphID content author coalesce rows).2:=by
 intro k r hr
 have hinserted:(inserted (savedRow d graphID content author coalesce rows) rows).2.find? k=some r→
  validGraphID graphID → rows.find? k=some r∨
   (k=d.newID∨∃ r₀,rows.find? k=some r₀)∧r.message∈stamps graphID author∧
    (validGraphID graphID∨∃ k₀ r₀,rows.find? k₀=some r₀):=by
  intro h hv
  rcases find?_inserted h with h | ⟨hk,rfl⟩
  ·exact .inl h
  ·refine .inr ⟨.inl hk,?_,.inl hv⟩
   cases coalesce<;>simp[savedRow,stamps]
 unfold saved at hr
 by_cases hvalid:validGraphID graphID=false
 ·rw[if_pos hvalid] at hr
  exact .inl hr
 rw[if_neg hvalid] at hr
 rw[Bool.not_eq_false] at hvalid
 cases hhead:headRevision rows with
 | none=>
  rw[hhead] at hr
  exact hinserted hr hvalid
 | some h=>
  rw[hhead] at hr
  dsimp only at hr
  split_ifs at hr with hc ha hp
  ·exact .inl hr
  ·change (rows.write (.deleteRevision h.revision)).find? k=some r at hr
   rw[find?_deleteRevision] at hr
   split_ifs at hr
   exact .inl hr
  ·change (rows.write (.setContent h.revision content (autosaveMessage graphID author) d.began)).find? k=some r at hr
   rw[find?_setContent] at hr
   split_ifs at hr with hk
   ·obtain ⟨r₀,hr₀,rfl⟩:=Option.map_eq_some_iff.1 hr
    exact .inr ⟨.inr ⟨r₀,hk▸hr₀⟩,by simp[stamps,graphOf,authorOf],.inl hvalid⟩
   ·exact .inl hr
  ·exact hinserted hr hvalid

omit [DecidableEq α] in
lemma descends_deleted(d:Draw)(graphID author:String)(rows:FlowRows α):
 Descends d (.delete graphID author) rows (deleted d graphID author rows).2:=by
 intro k r hr
 unfold deleted at hr
 by_cases hid:graphID=""
 ·rw[if_pos hid] at hr
  exact .inl hr
 rw[if_neg hid] at hr
 by_cases hempty:rows.head.getD ""=""
 ·rw[if_pos hempty] at hr
  exact .inl hr
 rw[if_neg hempty] at hr
 cases hc:rows.contentOf (rows.head.getD "") with
 | none=>
  rw[hc] at hr
  exact .inl hr
 | some content=>
  obtain ⟨r₀,hr₀,-⟩:=Option.map_eq_some_iff.1 hc
  rw[hc] at hr
  cases content with
  | none=>exact .inl hr
  | some content=>?_
  dsimp only at hr
  split_ifs at hr with hnew
  ·exact .inl hr
  ·rcases find?_inserted (k:=k) (x:=r) hr with h | ⟨hk,rfl⟩
   ·exact .inl h
   ·exact .inr ⟨.inl hk,by simp[deletedRow,stamps,graphOf,authorOf],.inr ⟨_,r₀,hr₀⟩⟩
section

variable (d:Draw)(w:WorkspaceBackends.Write α)

include d w

lemma descends_written(rows:FlowRows α):
 Descends d w rows (written d w rows).2:=by
 cases w with
 | save graphID content author coalesce=>exact descends_saved d graphID content author coalesce rows
 | delete graphID author=>exact descends_deleted d graphID author rows
lemma rows_write(db:Database α):
 (db.write d w).2.rows=db.rows.set (graphOf w) (written d w (db.rows (graphOf w))).2:=by
 unfold Database.write
 rw[pgWrite_eq]
lemma order_write(db:Database α):
 (db.write d w).2.order=db.order∨
  (db.write d w).2.order=Database.number ⟨d.seq,graphOf w,d.newID⟩ db.order:=by
 unfold Database.write
 dsimp only
 split_ifs
 ·exact .inr rfl
 ·exact .inl rfl
lemma find?_write(db:Database α){f k r}
 (h:((db.write d w).2.rows f).find? k=some r):
 (db.rows f).find? k=some r∨f=graphOf w∧
  (k=d.newID∨∃ r₀,(db.rows f).find? k=some r₀)∧r.message∈stamps f (authorOf w)∧
   (validGraphID f∨∃ k₀ r₀,(db.rows f).find? k₀=some r₀):=by
 rw[rows_write] at h
 by_cases hf:f=graphOf w
 ·subst hf
  rw[Rows.set,update_self] at h
  exact (descends_written d w _ k r h).imp_right fun h=>⟨rfl,h⟩
 ·rw[Rows.set,update_of_ne hf] at h
  exact .inl h

end

end Written

structure Drawn(db:Database α)(d:Draw):Prop where
 id:∀ e∈db.order,e.revision≠d.newID
 seq:∀ e∈db.order,e.seq≠d.seq
 pos:0<d.seq

instance (db:Database α)(d:Draw):Decidable (Drawn db d):=
 decidable_of_iff ((∀ e∈db.order,e.revision≠d.newID)∧(∀ e∈db.order,e.seq≠d.seq)∧0<d.seq)
  ⟨fun h=>⟨h.1,h.2.1,h.2.2⟩,fun h=>⟨h.id,h.seq,h.pos⟩⟩

structure Ordered(db:Database α):Prop where
 increasing:db.order.Pairwise (fun a b=>a.seq<b.seq)
 positive:∀ e∈db.order,0<e.seq
 distinct:∀ a∈db.order,∀ b∈db.order,a.revision=b.revision→a=b
 numbered:∀ f k r,(db.rows f).find? k=some r→∃ e∈db.order,e.graphID=f∧e.revision=k

lemma mem_number{e x order}:x∈Database.number e order↔x=e∨x∈order:=
 mem_orderedInsert _
lemma increasing_number{e order}(h:order.Pairwise fun a b=>a.seq<b.seq)
 (he:∀ x∈order,x.seq≠e.seq):(Database.number e order).Pairwise (fun a b=>a.seq<b.seq):=by
 induction order with
 | nil=>exact pairwise_singleton _ _
 | cons x rest ih=>
  obtain ⟨hx,hrest⟩:=pairwise_cons.1 h
  have hne:=he x mem_cons_self
  unfold Database.number
  rw[orderedInsert]
  split_ifs with hle
  ·refine pairwise_cons.2 ⟨fun y hy=>?_,h⟩
   rcases mem_cons.1 hy with rfl | hy
   ·omega
   ·have:=hx y hy
    omega
  ·refine pairwise_cons.2 ⟨fun y hy=>?_,ih hrest fun y hy=>he y (mem_cons_of_mem x hy)⟩
   rcases mem_number.1 hy with rfl | hy
   ·omega
   ·exact hx y hy
lemma ordered_empty:Ordered ({}:Database α):=
 ⟨List.Pairwise.nil,by simp,by simp,nofun⟩

namespace Ordered

variable {db:Database α}{rows:Rows α}{flows:List String}

lemma number{e:Numbered}(h:Ordered db)
 (hid:∀ x∈db.order,x.revision≠e.revision)(hseq:∀ x∈db.order,x.seq≠e.seq)(hpos:0<e.seq)
 (hrows:∀ f k r,(rows f).find? k=some r→(∃ r₀,(db.rows f).find? k=some r₀)∨f=e.graphID∧k=e.revision):
 Ordered {rows:=rows,order:=Database.number e db.order,flows:=flows} where
 increasing:=increasing_number h.increasing hseq
 positive:=by
  intro x hx
  rcases mem_number.1 hx with rfl | hx
  ·exact hpos
  ·exact h.positive x hx
 distinct:=by
  intro a ha b hb hab
  rcases mem_number.1 ha with hae | hao
  ·rcases mem_number.1 hb with hbe | hbo
   ·exact hae.trans hbe.symm
   ·exact absurd (hab.symm.trans (congrArg Numbered.revision hae)) (hid b hbo)
  ·rcases mem_number.1 hb with hbe | hbo
   ·exact absurd (hab.trans (congrArg Numbered.revision hbe)) (hid a hao)
   ·exact h.distinct a hao b hbo hab
 numbered:=by
  intro f k r hr
  rcases hrows f k r hr with ⟨r₀,hr₀⟩ | ⟨rfl,rfl⟩
  ·obtain ⟨x,hx,hxe⟩:=h.numbered f k r₀ hr₀
   exact ⟨x,mem_number.2 (.inr hx),hxe⟩
  ·exact ⟨e,mem_number.2 (.inl rfl),rfl,rfl⟩
lemma keep(h:Ordered db)
 (hrows:∀ f k r,(rows f).find? k=some r→∃ r₀,(db.rows f).find? k=some r₀):
 Ordered {rows:=rows,order:=db.order,flows:=flows} where
 increasing:=h.increasing
 positive:=h.positive
 distinct:=h.distinct
 numbered:=by
  intro f k r hr
  obtain ⟨r₀,hr₀⟩:=hrows f k r hr
  exact h.numbered f k r₀ hr₀
lemma set{graphID rows'}(flows)(h:Ordered db)
 (hrows:∀ k r,rows'.find? k=some r→∃ r₀,(db.rows graphID).find? k=some r₀):
 Ordered {db with rows:=db.rows.set graphID rows',flows:=flows}:=by
 refine h.keep fun f k r hr=>?_
 rw[Rows.set] at hr
 by_cases hf:f=graphID
 ·subst hf
  rw[update_self] at hr
  exact hrows k r hr
 ·rw[update_of_ne hf] at hr
  exact ⟨r,hr⟩
lemma write [DecidableEq α] {d:Draw}(h:Ordered db)(w:WorkspaceBackends.Write α)(hd:Drawn db d):
 Ordered (db.write d w).2:=by
 have hold:∀ f k r,((db.write d w).2.rows f).find? k=some r→
  (∃ r₀,(db.rows f).find? k=some r₀)∨f=graphOf w∧k=d.newID:=by
  intro f k r hr
  rcases find?_write d w db hr with hr | ⟨hf,hk | hk,-⟩
  ·exact .inl ⟨r,hr⟩
  ·exact .inr ⟨hf,hk⟩
  ·exact .inl hk
 unfold Database.write at hold ⊢
 dsimp only at hold ⊢
 split_ifs with hnew
 ·exact h.number hd.id hd.seq hd.pos hold
 refine h.keep fun f k r hr=>?_
 rcases hold f k r hr with hk | ⟨rfl,rfl⟩
 ·exact hk
  -- the id was drawn but not inserted
 by_contra hnone
 refine hnew ⟨?_,Option.isSome_iff_exists.2 ⟨r,hr⟩⟩
 cases hfind:(db.rows (graphOf w)).find? d.newID with
 | none=>rfl
 | some r₀=>exact absurd ⟨r₀,hfind⟩ hnone

end Ordered

section Log

variable {db:Database α}

lemma mem_log{r}:r∈db.log↔∃ e∈db.order,db.row e=some r:=mem_filterMap
lemma row_eq_some{e r}(h:db.row e=some r):
 ∃ x,(db.rows e.graphID).find? e.revision=some x∧r=logged e x:=by
 obtain ⟨x,hx,rfl⟩:=Option.map_eq_some_iff.1 h
 exact ⟨x,hx,rfl⟩
lemma log_increasing(h:Ordered db):ReplayedLog.Increasing Logged.seq db.log:=by
 refine h.increasing.filterMap _ fun a b hab x hx y hy=>?_
 obtain ⟨_,_,rfl⟩:=row_eq_some hx
 obtain ⟨_,_,rfl⟩:=row_eq_some hy
 exact hab
lemma log_positive(h:Ordered db):∀ r∈db.log,0<r.seq:=by
 intro r hr
 obtain ⟨e,he,hrow⟩:=mem_log.1 hr
 obtain ⟨_,_,rfl⟩:=row_eq_some hrow
 exact h.positive e he
lemma log_distinct(h:Ordered db){a b}(ha:a∈db.log)(hb:b∈db.log)
 (hab:a.revision=b.revision):a=b:=by
 obtain ⟨e,he,hrow⟩:=mem_log.1 ha
 obtain ⟨e',he',hrow'⟩:=mem_log.1 hb
 obtain ⟨x,_,rfl⟩:=row_eq_some hrow
 obtain ⟨y,_,rfl⟩:=row_eq_some hrow'
 obtain rfl:=h.distinct e he e' he' hab
 exact Option.some.inj (hrow.symm.trans hrow')
lemma revision_write [DecidableEq α] {d w r}
 (h:r∈(db.write d w).2.log):r.revision=d.newID∨∃ r₀∈db.log,r₀.revision=r.revision:=by
 obtain ⟨e,he,hrow⟩:=mem_log.1 h
 obtain ⟨x,hx,rfl⟩:=row_eq_some hrow
 have hold:e=⟨d.seq,graphOf w,d.newID⟩∨e∈db.order:=by
  rcases order_write d w db with ho | ho
  ·exact .inr (ho▸he)
  ·exact mem_number.1 (ho▸he)
 rcases hold with rfl | hold
 ·exact .inl rfl
 have hrow₀:e.revision=d.newID∨∃ r₀,(db.rows e.graphID).find? e.revision=some r₀:=by
  rcases find?_write d w db hx with hx | ⟨-,hk,-⟩
  ·exact .inr ⟨x,hx⟩
  ·exact hk
 rcases hrow₀ with hid | ⟨r₀,hr₀⟩
 ·exact .inl hid
 ·refine .inr ⟨logged e r₀,mem_log.2 ⟨e,hold,?_⟩,rfl⟩
  rw[Database.row,hr₀]
  rfl
lemma log_congr{db':Database α}(horder:db'.order=db.order)(hrow:∀ e,db'.row e=db.row e):
 db'.log=db.log:=by
 unfold Database.log
 rw[horder]
 exact congrArg (fun f=>db.order.filterMap f) (funext hrow)
lemma row_set{graphID rows'}(flows){e}
 (h:∀ k,(rows'.find? k).map (fun r=>(r.author,r.message,r.content,r.createdAt)) =
  ((db.rows graphID).find? k).map fun r=>(r.author,r.message,r.content,r.createdAt)):
 Database.row {db with rows:=db.rows.set graphID rows',flows:=flows} e=db.row e:=by
 unfold Database.row
 by_cases hf:e.graphID=graphID
 ·have:=h e.revision
  dsimp only
  rw[Rows.set,hf,update_self]
  cases hx:rows'.find? e.revision with
  | none=>
   rw[hx,Option.map_none,eq_comm,Option.map_eq_none_iff] at this
   rw[this]
  | some x=>
   rw[hx,Option.map_some,eq_comm] at this
   obtain ⟨y,hy,heq⟩:=Option.map_eq_some_iff.1 this
   obtain ⟨h₁,h₂,h₃,h₄⟩:y.author=x.author∧y.message=x.message∧y.content=x.content∧
    y.createdAt=x.createdAt:=by simpa using heq
   rw[hy,Option.map_some,Option.map_some,logged,logged,h₁,h₂,h₃,h₄]
 ·dsimp only
  rw[Rows.set,update_of_ne hf]
lemma log_upsertEnv(graphID env revision):(db.upsertEnv graphID env revision).log=db.log:=
 log_congr rfl (fun _=>row_set _ fun _=>rfl)
lemma log_deleteEnv(graphID env):(db.deleteEnv graphID env).log=db.log:=
 log_congr rfl (fun _=>row_set db.flows fun _=>rfl)
lemma log_updateLabel(graphID revision label):(db.updateLabel graphID revision label).log=db.log:=by
 refine log_congr rfl fun _=>row_set db.flows (fun k=>?_)
 rw[find?_relabel]
 split_ifs with hk
 ·subst hk
  rw[Option.map_map]
  rfl
 ·rfl

end Log

end Dazyflow.PgDatabase
