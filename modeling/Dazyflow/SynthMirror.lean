import Dazyflow.PgDatabase

/-!
# The git mirror of a Postgres workspace

`gitsynth.go`: a repository made from the rows of `flow_revisions`, one commit for each revision in the order
of the numbers, and brought up to date from the last commit on.
-/
namespace Dazyflow.SynthMirror
open GoStrings JobRecords KeyedTable PgDatabase Interleaving Protocol Prog
open GitWorkspace (graphPath setFile removeFile commitTime envTag)

structure Commit(β:Type) where
 author:String
 committed:Time
 message:String
 tree:List (String×β)
 deriving DecidableEq

inductive Target
 | commit (hash:String)
 | tag (hash message:String)(tagged:Time)

structure Ref where
 name:String
 target:Target

structure Mirror(β:Type) where
 -- from the first commit to HEAD
 commits:List (Commit β):=[]
 -- the working tree and the index
 files:List (String×β):=[]
 -- what is below refs/tags/graphs/
 refs:Table String Ref Ref.name:=empty

/-- The encoding of a flow, and the hash of a commit with all that led to it. -/
structure Synth(α β:Type) where
 canonicalGraphJSON:α→β
 hash:List (Commit β)→String

variable {α β:Type}

def synthTrailer:String:= "Dazyflow-Revision: "

def revisionFromMessage(msg:String):String:=
 match (lines msg.toList).findSome? (fun l=>cutPrefix synthTrailer.toList (trimRight (l.dropWhile isSpace))) with
 | none=>""
 | some v=>trimSpace (String.ofList v)

def synthMessage(message revision:String):String:=message++"\n\n"++synthTrailer++revision

def stageRow(g:Synth α β)(r:Logged α)(files:List (String×β)):List (String×β):=
 match r.content with
 | none=>removeFile r.graphID files
 | some content=>setFile r.graphID (g.canonicalGraphJSON content) files

def commitRow(r:Logged α)(files:List (String×β)):Commit β where
 author:=r.author
 committed:=commitTime r.createdAt
 message:=synthMessage r.message r.revision
 tree:=files

/-- `byRevision`: the walk goes from HEAD back and the last assignment wins. -/
def commitIndex(g:Synth α β)(commits:List (Commit β))(revision:String):Option String:=
 (commits.inits.find? fun h=>h.getLast?.any fun c=>revisionFromMessage c.message==revision).map g.hash

def commitObject(g:Synth α β)(commits:List (Commit β))(hash:String):Option (Commit β):=
 (commits.inits.find? fun h=>h≠[]&&g.hash h==hash).bind List.getLast?

def labelTag(graphID commit:String):String:= "graphs/"++graphID++"/labels/"++commit

structure EnvRef where
 (graphID env revision:String)

structure LabelRef where
 (graphID revision label:String)

def selectSeq(db:Database α)(revision:String):Option Nat:=
 (db.log.find? fun r=>r.revision==revision).map Logged.seq

-- ORDER BY graph_id, env
def selectEnvs(db:Database α):List EnvRef:=
 db.flows.flatMap (fun f=>
  ((db.rows f).envs.rows.insertionSort fun a b=>a.env ≤ b.env).map fun e=>⟨f,e.env,e.revision⟩)

-- ORDER BY graph_id, seq
def selectLabels(db:Database α):List LabelRef:=
 db.flows.flatMap (fun f=>db.order.filterMap fun e=>
  if e.graphID=f then
   (((db.rows f).find? e.revision).filter fun r=>r.label≠"").map (fun r=>⟨f,e.revision,r.label⟩)
  else none)

structure State(α β:Type) where
 db:Database α:={}
 mirror:Mirror β:={}
 locked:Bool:=false
 read:Nat:=0

inductive Call(α β:Type)
 | lock
 | unlock
 | head
 | selectSeq (revision:String)
 | removeAll
 | selectAfter (seq:Nat)
 | stage (r:Logged α)
 | commit (r:Logged α)
 | log
 | references
 | removeReference (name:String)
 | selectEnvs
 | selectLabels
 | setReference (name hash:String)
 | createTag (name hash message:String)
 -- the writers
 | write (w:WorkspaceBackends.Write α)
 | upsertEnv (graphID env revision:String)
 | deleteEnv (graphID env:String)
 | updateLabel (graphID revision label:String)

@[reducible] def Res:Call α β→Type
 | .lock | .unlock | .upsertEnv .. | .deleteEnv .. | .updateLabel .. =>Unit
 | .head=>Except String (Option (Commit β))
 | .selectSeq _=>Option Nat
 | .selectAfter _=>Except String (List (Logged α))
 | .log=>Except String (List (Commit β))
 | .references=>Except String (List String)
 | .selectEnvs=>Except String (List EnvRef)
 | .selectLabels=>Except String (List LabelRef)
 | .removeAll | .stage _ | .commit _ | .removeReference _ | .setReference .. | .createTag .. =>Except String Unit
 | .write _=>Except String String

@[reducible] def sig(α β:Type):Sig where
 Call:=Call α β
 Res:=Res
 Ret:=fun _=>Unit

abbrev Prog(α β:Type):=Interleaving.Prog (sig α β)

def ask(c:Call α β):Prog α β (Res c):=Interleaving.Prog.ask (S:=sig α β) c

structure Oracle where
 -- the call fails with this error
 fault:Option String:=none
 draw:Draw:=⟨0,0,"",0⟩

def attempt{γ:Type}(o:Oracle)(s:State α β)(r:Except String γ×State α β):Except String γ×State α β:=
 match o.fault with
 | some message=>(.error message,s)
 | none=>r

lemma attempt_cases{γ:Type}(o s)(r:Except String γ×State α β):
 (∃ message,attempt o s r=(.error message,s))∨attempt o s r=r:=by
 unfold attempt
 cases o.fault with
 | none=>exact .inr rfl
 | some message=>exact .inl ⟨message,rfl⟩

def State.setRefs(s:State α β)(refs:Table String Ref Ref.name):State α β:=
 {s with mirror:={s.mirror with refs:=refs} }

def step [DecidableEq α] (g:Synth α β):(c:Call α β)→Oracle→State α β→Res c×State α β
 | .lock,_,s=>((),{s with locked:=true})
 | .unlock,_,s=>((),{s with locked:=false})
 | .head,o,s=>attempt o s (.ok s.mirror.commits.getLast?,s)
 | .selectSeq revision,o,s=>(if o.fault.isSome then none else SynthMirror.selectSeq s.db revision,s)
 | .removeAll,o,s=>attempt o s (.ok (),{s with mirror:={},read:=0})
 | .selectAfter seq,o,s=>
  let pending:=ReplayedLog.after Logged.seq seq s.db.log
  attempt o s (.ok pending,{s with read:=ReplayedLog.seen Logged.seq s.read pending})
 | .stage r,o,s=>attempt o s (.ok (),{s with mirror:={s.mirror with files:=stageRow g r s.mirror.files} })
 | .commit r,o,s=>
  attempt o s (.ok (),
   {s with mirror:={s.mirror with commits:=s.mirror.commits++[commitRow r s.mirror.files]} })
 | .log,o,s=>attempt o s (.ok s.mirror.commits,s)
 | .references,o,s=>attempt o s (.ok (s.mirror.refs.rows.map Ref.name),s)
 | .removeReference name,o,s=>
  attempt o s (.ok (),s.setRefs (s.mirror.refs.erase fun r=>r.name==name))
 | .selectEnvs,o,s=>attempt o s (.ok (SynthMirror.selectEnvs s.db),s)
 | .selectLabels,o,s=>attempt o s (.ok (SynthMirror.selectLabels s.db),s)
 | .setReference name hash,o,s=>
  attempt o s (.ok (),s.setRefs (s.mirror.refs.upsert ⟨name,.commit hash⟩))
 | .createTag name hash message,o,s=>
  match commitObject g s.mirror.commits hash with
  | none=>(.error "object not found",s)
  | some c=>
   if (s.mirror.refs.find? name).isSome then (.error "tag already exists",s)
   else attempt o s (.ok (),s.setRefs (s.mirror.refs.upsert ⟨name,.tag hash message c.committed⟩))
 | .write w,o,s=>((s.db.write o.draw w).1,{s with db:=(s.db.write o.draw w).2})
 | .upsertEnv graphID env revision,_,s=>((),{s with db:=s.db.upsertEnv graphID env revision})
 | .deleteEnv graphID env,_,s=>((),{s with db:=s.db.deleteEnv graphID env})
 | .updateLabel graphID revision label,_,s=>((),{s with db:=s.db.updateLabel graphID revision label})

/-- The number to go on from; none is a mirror to be made anew. -/
def resumeSeq:Prog α β (Except String (Option Nat)):=do
 match←ask .head with
 | .error message=>pure (.error message)
 | .ok none=>pure (.ok (some 0))
 | .ok (some c)=>
  if revisionFromMessage c.message="" then pure (.ok none)
  -- an error of the query reads as a missing row
  else pure (.ok (←ask (.selectSeq (revisionFromMessage c.message))))

def replayRows:List (Logged α)→Prog α β (Except String Unit)
 | []=>pure (.ok ())
 | r::rest=>do
  match←ask (.stage r) with
  | .error message=>pure (.error ("stage "++graphPath r.graphID++": "++message))
  | .ok _=>
   match←ask (.commit r) with
   | .error message=>pure (.error ("commit "++r.graphID++"@"++r.revision++": "++message))
   | .ok _=>replayRows rest

def replay(seq:Nat):Prog α β (Except String Unit):=do
 match←ask (.selectAfter seq) with
 | .error message=>pure (.error message)
 | .ok pending=>replayRows pending

def removeRefs:List String→Prog α β (Except String Unit)
 | []=>pure (.ok ())
 | name::rest=>do
  match←ask (.removeReference name) with
  | .error message=>pure (.error message)
  | .ok _=>removeRefs rest

def tagEnvs(byRevision:String→Option String):List EnvRef→Prog α β (Except String Unit)
 | []=>pure (.ok ())
 | e::rest=>
  match byRevision e.revision with
  -- a revision this repository has not synthesized
  | none=>tagEnvs byRevision rest
  | some h=>do
   match←ask (.setReference (envTag e.graphID e.env) h) with
   | .error message=>pure (.error ("tag "++envTag e.graphID e.env++": "++message))
   | .ok _=>tagEnvs byRevision rest

def tagLabels(byRevision:String→Option String):List LabelRef→Prog α β (Except String Unit)
 | []=>pure (.ok ())
 | l::rest=>
  match byRevision l.revision with
  | none=>tagLabels byRevision rest
  | some h=>do
   match←ask (.createTag (labelTag l.graphID h) h l.label) with
   | .error message=>pure (.error ("label tag "++l.graphID++": "++message))
   | .ok _=>tagLabels byRevision rest

/-- The next part of a sync, unless this one failed. -/
def andThen{γ δ:Type}(p:Prog α β (Except String γ))(k:γ→Prog α β (Except String δ)):
  Prog α β (Except String δ):=do
 match←p with
 | .error message=>pure (.error message)
 | .ok x=>k x

def syncRefs(g:Synth α β):Prog α β (Except String Unit):=
 andThen (ask .log) fun commits=>
 andThen (ask .references) fun stale=>
 andThen (removeRefs stale) fun _=>
 andThen (ask .selectEnvs) fun envs=>
 andThen (tagEnvs (commitIndex g commits) envs) fun _=>
 andThen (ask .selectLabels) fun labels=>
 tagLabels (commitIndex g commits) labels

def discard:Option Nat→Prog α β (Except String Nat)
 | some seq=>pure (.ok seq)
 | none=>andThen (ask .removeAll) fun _=>pure (.ok 0)

/-- The answer says whether there is a repository to push. -/
def sync(g:Synth α β):Prog α β (Except String Bool):=
 andThen resumeSeq fun resume=>
 andThen (discard resume) fun seq=>
 andThen (replay seq) fun _=>
 andThen (ask .head) fun head=>
 match head with
 | none=>pure (.ok false)
 | some _=>andThen (syncRefs g) fun _=>pure (.ok true)

def push(g:Synth α β):Prog α β (Except String Bool):=do
 ask .lock
 let r←sync g
 ask .unlock
 pure r

inductive Stage(α:Type)
 | outside
 | locked
 | asked (revision:String)
 | rebuild
 | resumed (seq:Nat)
 | replaying (pending:List (Logged α))
 | staged (r:Logged α)(pending:List (Logged α))
 | refs
 | leaving

def Stage.next:Stage α→(c:Call α β)→Res c→Stage α
 | _,.lock,_=>.locked
 | _,.unlock,_=>.outside
 | .locked,.head,.ok none=>.resumed 0
 | .locked,.head,.ok (some c)=>.asked (revisionFromMessage c.message)
 | .replaying _,.head,.ok (some _)=>.refs
 | _,.head,_=>.leaving
 | _,.selectSeq _,some seq=>.resumed seq
 | _,.selectSeq _,none=>.rebuild
 | _,.removeAll,.ok _=>.resumed 0
 | _,.selectAfter _,.ok pending=>.replaying pending
 | .replaying (r::rest),.stage _,.ok _=>.staged r rest
 | .staged _ rest,.commit _,.ok _=>.replaying rest
 | _,.removeAll,.error _ | _,.selectAfter _,.error _ | _,.stage _,_ | _,.commit _,_=>.leaving
 | n,_,_=>n

def Stage.allows:Stage α→Call α β→Prop
 | .outside,c=>match c with
  | .lock | .write _ | .upsertEnv .. | .deleteEnv .. | .updateLabel .. =>True
  | _=>False
 | .locked,c=>c=.head
 | .asked revision,c=>revision=""∧c=.removeAll∨revision≠""∧c=.selectSeq revision
 | .rebuild,c=>c=.removeAll
 | .resumed seq,c=>c=.selectAfter seq
 | .replaying [],c=>c=.head
 | .replaying (r::_),c=>c=.stage r
 | .staged r _,c=>c=.commit r
 | .refs,c=>match c with
  | .log | .references | .removeReference _ | .selectEnvs | .selectLabels | .setReference .. | .createTag .. | .unlock=>True
  | _=>False
 | .leaving,c=>c=.unlock

def Comes{γ:Type}(next:γ→Stage α→Prop)(r:Except String γ)(n:Stage α):Prop:=
 match r with
 | .error _=>n=.leaving
 | .ok x=>next x n

def refCall:Call α β→Prop
 | .log | .references | .removeReference _ | .selectEnvs | .selectLabels | .setReference .. | .createTag .. =>True
 | _=>False

def Exit(n:Stage α):Prop:=n=.leaving∨n=.refs

inductive Entry(α:Type)
 | push
 | write (w:WorkspaceBackends.Write α)
 | upsertEnv (graphID env revision:String)
 | deleteEnv (graphID env:String)
 | updateLabel (graphID revision label:String)

def Entry.prog(g:Synth α β):Entry α→Prog α β Unit
 | .push=>do
  let _←SynthMirror.push g
  pure ()
 | .write w=>do
  let _←ask (.write w)
  pure ()
 | .upsertEnv graphID env revision=>ask (.upsertEnv graphID env revision)
 | .deleteEnv graphID env=>ask (.deleteEnv graphID env)
 | .updateLabel graphID revision label=>ask (.updateLabel graphID revision label)

def hexID(id:String):Bool:=
 id != ""&&id.toList.all (fun c=>("0123456789abcdef".toList).contains c)

variable [DecidableEq α]

@[reducible] def machine(g:Synth α β):Machine (sig α β) where
 State:=State α β
 Oracle:=Oracle
 step:=step g
 body:=fun f=>nomatch f
 Entry:=Entry α
 entry:=Entry.prog g

omit [DecidableEq α] in
def possible(s:State α β):Call α β→Oracle→Prop
 | .lock,_=>s.locked=false
 | .write _,o=>Drawn s.db o.draw∧hexID o.draw.newID
 | _,_=>True

omit [DecidableEq α] in
instance (s:State α β)(c:Call α β)(o:Oracle):Decidable (possible s c o):=
 match c with
 | .lock=>inferInstanceAs (Decidable (s.locked=false))
 | .write _=>inferInstanceAs (Decidable (Drawn s.db o.draw∧hexID o.draw.newID))
 | .unlock | .head | .selectSeq _ | .removeAll | .selectAfter _ | .stage _ | .commit _ | .log | .references
 | .removeReference _ | .selectEnvs | .selectLabels | .setReference .. | .createTag .. | .upsertEnv .. | .deleteEnv ..
 | .updateLabel .. =>inferInstanceAs (Decidable True)

abbrev mirrorRuns(g:Synth α β):Rules (machine g):=
 Allowed (fun _ _=>True) (fun P _ c o=>possible P.state c o)

@[reducible] def stages(g:Synth α β):Protocol (machine g) where
 Stage:=Stage α
 first:=fun _=>.outside
 next:=Stage.next
 allowed:=Stage.allows
 pre:=fun f=>nomatch f
 post:=fun f=>nomatch f

section Follows

variable {g:Synth α β}{γ δ:Type}{n:Stage α}

lemma obeys_andThen{p k}
 {R:Except String γ→Stage α→Prop}{Q:Except String δ→Stage α→Prop}(hp:(stages g).Obeys p n R)
 (herr:∀ m n',R (.error m) n'→Q (.error m) n')(hok:∀ x n',R (.ok x) n'→(stages g).Obeys (k x) n' Q):
 (stages g).Obeys (andThen p k) n Q:=by
 refine obeys_bind hp ?_
 rintro (m | x) n' hr
 ·exact obeys_done (herr m n' hr)
 ·exact hok x n' hr
lemma obeys_resumeSeq:(stages g).Obeys resumeSeq .locked
 (Comes fun resume n=>match resume with
  | some seq=>n=.resumed seq
  | none=>n=.asked ""∨n=.rebuild):=by
 refine obeys_bind (obeys_ask (Q:=fun r (n:Stage α)=>n=Stage.next .locked (Call.head (α:=α)) r) rfl fun _=>rfl) ?_
 rintro (m | _ | c) _ rfl
 ·exact obeys_done rfl
 ·exact obeys_done rfl
 dsimp only
 by_cases hrev:revisionFromMessage c.message=""
 ·rw[if_pos hrev]
  exact obeys_done (.inl (congrArg Stage.asked hrev))
 ·rw[if_neg hrev]
  refine obeys_bind (obeys_ask (Q:=fun r (n:Stage α)=>n=Stage.next (.asked (revisionFromMessage c.message))
   (Call.selectSeq (α:=α) (β:=β) (revisionFromMessage c.message)) r) (.inr ⟨hrev,rfl⟩) fun _=>rfl) ?_
  rintro (_ | seq) _ rfl
  ·exact obeys_done (.inr rfl)
  ·exact obeys_done rfl
lemma obeys_discard{resume}
 (h:match resume with | some seq=>n=.resumed seq | none=>n=.asked ""∨n=.rebuild):
 (stages g).Obeys (discard resume) n (Comes fun seq n=>n=.resumed seq):=by
 cases resume with
 | some seq=>exact obeys_done h
 | none=>?_
 refine obeys_andThen (R:=Comes fun _ n=>n=.resumed 0) (obeys_ask ?_ ?_) (fun _ _ h=>h)
  fun _ _ h=>obeys_done h
 ·rcases h with rfl | rfl
  ·exact .inl ⟨rfl,rfl⟩
  ·rfl
 ·rcases h with rfl | rfl<;>rintro (_ | _)<;>rfl
lemma obeys_replayRows(pending):
 (stages g).Obeys (replayRows pending) (.replaying pending) (Comes fun _ n=>n=.replaying []):=by
 induction pending with
 | nil=>exact obeys_done rfl
 | cons r rest ih=>
  refine obeys_bind (obeys_ask (Q:=Comes fun _ (n:Stage α)=>n=.staged r rest) rfl ?_) ?_
  ·rintro (_ | _)<;>rfl
  rintro (_ | _) _ hn
  ·exact obeys_done hn
  obtain rfl:=hn
  refine obeys_bind (obeys_ask (Q:=Comes fun _ (n:Stage α)=>n=.replaying rest) rfl ?_) ?_
  ·rintro (_ | _)<;>rfl
  rintro (_ | _) _ hn
  ·exact obeys_done hn
  obtain rfl:=hn
  exact ih
lemma obeys_replay(seq):
 (stages g).Obeys (replay seq) (.resumed seq) (Comes fun _ n=>n=.replaying []):=by
 refine obeys_bind (obeys_ask (Q:=Comes fun pending (n:Stage α)=>n=.replaying pending) rfl ?_) ?_
 ·rintro (_ | _)<;>rfl
 rintro (_ | pending) _ hn
 ·exact obeys_done hn
 ·obtain rfl:=hn
  exact obeys_replayRows pending

omit [DecidableEq α] in
lemma only_andThen{C:Call α β→Prop}{p:Prog α β (Except String γ)}{k:γ→Prog α β (Except String δ)}
 (hp:p.Only C)(hk:∀ x,(k x).Only C):(andThen p k).Only C:=by
 refine only_bind hp ?_
 rintro (m | x)
 ·exact only_pure _
 ·exact hk x

omit [DecidableEq α] in
lemma only_syncRefs:(syncRefs g).Only (S:=sig α β) refCall:=by
 have hremove:∀ names,(removeRefs (α:=α) (β:=β) names).Only (S:=sig α β) refCall:=by
  intro names
  induction names with
  | nil=>exact only_pure _
  | cons name rest ih=>
   refine only_bind (only_ask trivial) ?_
   rintro (_ | _)
   ·exact only_pure _
   ·exact ih
 have henvs:∀ byRevision envs,(tagEnvs (α:=α) (β:=β) byRevision envs).Only (S:=sig α β) refCall:=by
  intro byRevision envs
  induction envs with
  | nil=>exact only_pure _
  | cons e rest ih=>
   unfold tagEnvs
   cases byRevision e.revision with
   | none=>exact ih
   | some h=>
    refine only_bind (only_ask trivial) ?_
    rintro (_ | _)
    ·exact only_pure _
    ·exact ih
 have hlabels:∀ byRevision labels,(tagLabels (α:=α) (β:=β) byRevision labels).Only (S:=sig α β) refCall:=by
  intro byRevision labels
  induction labels with
  | nil=>exact only_pure _
  | cons l rest ih=>
   unfold tagLabels
   cases byRevision l.revision with
   | none=>exact ih
   | some h=>
    refine only_bind (only_ask trivial) ?_
    rintro (_ | _)
    ·exact only_pure _
    ·exact ih
 refine only_andThen (only_ask trivial) fun commits=>?_
 refine only_andThen (only_ask trivial) fun stale=>?_
 refine only_andThen (hremove stale) fun _=>?_
 refine only_andThen (only_ask trivial) fun envs=>?_
 refine only_andThen (henvs _ envs) fun _=>?_
 exact only_andThen (only_ask trivial) fun labels=>hlabels _ labels
lemma obeys_sync:(stages g).Obeys (sync g) .locked (fun _ n=>Exit n):=by
 refine obeys_andThen obeys_resumeSeq (fun _ _ h=>.inl h) fun resume _ h=>?_
 refine obeys_andThen (obeys_discard h) (fun _ _ h=>.inl h) ?_
 rintro seq _ rfl
 refine obeys_andThen (obeys_replay seq) (fun _ _ h=>.inl h) ?_
 rintro _ _ rfl
 refine obeys_andThen (R:=Comes fun head n=>match head with | none=>n=.leaving | some _=>n=.refs)
  (obeys_ask rfl ?_) (fun _ _ h=>.inl h) ?_
 ·rintro (_ | _ | _)<;>rfl
 rintro (_ | c) _ rfl
 ·exact obeys_done (.inl rfl)
 refine obeys_andThen (R:=fun _ n=>n=.refs) (obeys_only only_syncRefs ?_) (fun _ _ h=>.inr h)
  fun _ _ h=>obeys_done (.inr h)
 intro c hc
 cases c<;>first | exact hc.elim | exact ⟨trivial,fun _=>rfl⟩
lemma follows(g:Synth α β):(stages g).Follows (fun n=>n=Stage.outside) where
 entries:=by
  rintro (_ | w | ⟨f,env,rev⟩ | ⟨f,env⟩ | ⟨f,rev,label⟩)
  ·refine obeys_bind (Q:=fun _ (n:Stage α)=>n=.outside) ?_ fun _ _ h=>obeys_done h
   refine obeys_bind (obeys_ask (Q:=fun _ (n:Stage α)=>n=.locked) trivial fun _=>rfl) ?_
   rintro _ _ rfl
   refine obeys_bind obeys_sync ?_
   rintro r n' hexit
   have hunlock:n'.allows (β:=β) (.unlock:Call α β):=by
    rcases hexit with rfl | rfl
    ·rfl
    ·trivial
   have hnext:∀ u,n'.next (.unlock:Call α β) u=.outside:=by
    rcases hexit with rfl | rfl<;>exact fun _=>rfl
   refine obeys_bind (obeys_ask (Q:=fun _ (n:Stage α)=>n=.outside) hunlock hnext) ?_
   rintro _ _ rfl
   exact obeys_done rfl
  ·exact obeys_bind (obeys_ask (Q:=fun _ (n:Stage α)=>n=.outside) trivial fun _=>rfl) fun _ _ h=>obeys_done h
  ·exact obeys_ask trivial fun _=>rfl
  ·exact obeys_ask trivial fun _=>rfl
  ·exact obeys_ask trivial fun _=>rfl

end Follows

end Dazyflow.SynthMirror
