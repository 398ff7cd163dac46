import Dazyflow.SynthMirror

/-!
# The mirror is a cache of the rows

A sync goes on from the revision of its last commit and looks at no row before it.
-/
namespace Dazyflow.MirrorCache
open GoStrings WorkspaceStore KeyedTable PgDatabase SynthMirror ReplayedLog List
open Interleaving Protocol
open GitWorkspace (setFile removeFile graphPath)
open PgWorkspace (FlowRows)
open PgTransactions (find?_relabel)

variable {α β:Type}

section Replayed

variable (g:Synth α β)

def replayed(rows:List (Logged α)):List (Commit β)×List (String×β):=
 rows.foldl (fun p r=>(p.1++[commitRow r (stageRow g r p.2)],stageRow g r p.2)) ([],[])

lemma replayed_append(rows r):
 replayed g (rows++[r])=((replayed g rows).1++[commitRow r (stageRow g r (replayed g rows).2)],
  stageRow g r (replayed g rows).2):=by
 unfold replayed
 rw[foldl_append]
 rfl
lemma getLast?_replayed(rows):
 (replayed g rows).1.getLast?.map Commit.message=rows.getLast?.map (fun r=>synthMessage r.message r.revision):=by
 rcases eq_nil_or_concat rows with rfl | ⟨init,x,rfl⟩
 ·rfl
 ·rw[concat_eq_append,replayed_append,getLast?_append,getLast?_append]
  rfl
lemma setFile_setFile(id)(content:β)(files:List (String×β)):
 setFile id content (setFile id content files)=setFile id content files:=by
 induction files with
 | nil=>simp[setFile]
 | cons p rest ih=>
  obtain ⟨k,v⟩:=p
  by_cases hk:id=k
  ·subst hk
   simp[setFile]
  ·by_cases hlt:graphPath id<graphPath k
   ·simp[setFile,hk,hlt]
   ·simp[setFile,hk,hlt,ih]
lemma stageRow_stageRow(r)(files:List (String×β)):
 stageRow g r (stageRow g r files)=stageRow g r files:=by
 unfold stageRow
 cases r.content with
 | none=>simp[removeFile,filter_filter]
 | some content=>exact setFile_setFile _ _ files

end Replayed

lemma isSpace_hex{c}(h:("0123456789abcdef".toList).contains c):isSpace c=false:=by
 have hall:("0123456789abcdef".toList).all (fun c=>!isSpace c):=by decide
 have hc:=all_eq_true.1 hall c (contains_iff_mem.1 h)
 rwa[Bool.not_eq_true'] at hc
lemma revisionFromMessage_synth{message rev c}(hmsg:message.toList.head? = some c)
 (hc:c≠ 'D')(hspace:isSpace c=false)(hline: '\n' ∉ message.toList)(hid:hexID rev):
 revisionFromMessage (synthMessage message rev)=rev:=by
 obtain ⟨hne,hhex⟩:rev≠""∧∀ d∈rev.toList,("0123456789abcdef".toList).contains d:=by
  simpa[hexID] using hid
 have hrevNe:rev.toList≠[]:=fun h=>hne (String.toList_injective h)
 have hrevSpace:∀ d∈rev.toList,isSpace d=false:=fun d hd=>isSpace_hex (hhex d hd)
 have hnl: '\n' ∉ synthTrailer.toList++rev.toList:=by
  rw[mem_append,not_or]
  exact ⟨by decide,fun h=>by have:=hrevSpace _ h; revert this; decide⟩
 have hlines:lines (synthMessage message rev).toList=[message.toList,[],synthTrailer.toList++rev.toList]:=by
  have htext:(synthMessage message rev).toList =
   message.toList++ '\n'::([]++ '\n'::(synthTrailer.toList++rev.toList)):=by
   simp[synthMessage,String.toList_append]
  rw[htext,lines_append _ hline,lines_append _ (by simp),lines_of_not_mem hnl]
 have hfirst:cutPrefix synthTrailer.toList (trimRight (message.toList.dropWhile isSpace))=none:=by
  have hdrop:message.toList.dropWhile isSpace=message.toList:=by
   obtain ⟨rest,hrest⟩:=head?_eq_some_iff.1 hmsg
   rw[hrest,dropWhile_cons_of_neg (by simp[hspace])]
  rw[hdrop]
  refine cutPrefix_of_head (c:= 'D') fun h=>hc ?_
  have:=head?_trimRight h
  rw[hmsg] at this
  exact Option.some.inj this
 have hlast:cutPrefix synthTrailer.toList (trimRight ((synthTrailer.toList++rev.toList).dropWhile isSpace)) =
  some rev.toList:=by
  have hdrop:(synthTrailer.toList++rev.toList).dropWhile isSpace=synthTrailer.toList++rev.toList:=
   dropWhile_cons_of_neg (by decide)
  rw[hdrop,trimRight_append hrevNe hrevSpace,cutPrefix_append]
 have htrim:trimSpace rev=rev:=by
  have hdrop:rev.toList.dropWhile isSpace=rev.toList:=by
   obtain ⟨d,ds,hd⟩:=exists_cons_of_ne_nil hrevNe
   rw[hd,dropWhile_cons_of_neg (by simp[hrevSpace d (hd▸mem_cons_self)])]
  have:=trimRight_append (a:=[]) hrevNe hrevSpace
  rw[nil_append] at this
  rw[trimSpace,hdrop,this,String.ofList_toList]
 unfold revisionFromMessage
 rw[hlines,findSome?_cons,hfirst]
 simp only
 rw[findSome?_cons]
 have hempty:cutPrefix synthTrailer.toList (trimRight (([]:List Char).dropWhile isSpace))=none:=by decide
 rw[hempty]
 simp only
 rw[findSome?_cons,hlast]
 simp only[String.ofList_toList,htrim]
lemma revisionFromMessage_stamp{f author message rev}(hmsg:message∈stamps f author)
 (hf: '\n' ∉ f.toList)(ha: '\n' ∉ author.toList)(hid:hexID rev):
 revisionFromMessage (synthMessage message rev)=rev:=by
 have hline: '\n' ∉ message.toList:=by
  have hparts:∀ head:String,'\n' ∉ head.toList→ '\n' ∉ (head++f++" [user:"++author++"]").toList:=by
   intro head hh
   simp only[String.toList_append,mem_append,not_or]
   exact ⟨⟨⟨⟨hh,hf⟩,by decide⟩,ha⟩,by decide⟩
  simp only[stamps,mem_cons,not_mem_nil,or_false] at hmsg
  rcases hmsg with rfl | rfl | rfl<;>exact hparts _ (by decide)
 have hhead:∀ (head:String) (c:Char),head.toList.head? = some c→
  (head++f++" [user:"++author++"]").toList.head? = some c:=by
  intro head c hh
  simp only[String.toList_append,head?_append,hh,Option.some_or]
 simp only[stamps,mem_cons,not_mem_nil,or_false] at hmsg
 rcases hmsg with rfl | rfl | rfl
 ·exact revisionFromMessage_synth (hhead _ 'a' (by decide)) (by decide) (by decide) hline hid
 ·exact revisionFromMessage_synth (hhead _ 'g' (by decide)) (by decide) (by decide) hline hid
 ·exact revisionFromMessage_synth (hhead _ 'g' (by decide)) (by decide) (by decide) hline hid

/-- Every revision is found from the message of its commit. -/
def Signed(db:Database α):Prop:=∀ f k r,(db.rows f).find? k=some r→
 validGraphID f∧hexID k∧revisionFromMessage (synthMessage r.message k)=k

variable {db:Database α}

lemma Signed.write [DecidableEq α] {d w}(h:Signed db)
 (hid:hexID d.newID)(ha: '\n' ∉ (authorOf w).toList):Signed (db.write d w).2:=by
 intro f k r hr
 rcases find?_write d w db hr with hr | ⟨rfl,hk,hmsg,hf⟩
 ·exact h f k r hr
 have hvalid:validGraphID (graphOf w):=by
  rcases hf with hf | ⟨k₀,r₀,hr₀⟩
  ·exact hf
  ·exact (h _ k₀ r₀ hr₀).1
 have hhex:hexID k:=by
  rcases hk with rfl | ⟨r₀,hr₀⟩
  ·exact hid
  ·exact (h _ k r₀ hr₀).2.1
 exact ⟨hvalid,hhex,revisionFromMessage_stamp hmsg (not_mem_of_valid hvalid (by decide)) ha hhex⟩
lemma Signed.of_rows{graphID rows'}(flows)(h:Signed db)
 (hrows:∀ k r,rows'.find? k=some r→∃ r₀,(db.rows graphID).find? k=some r₀∧r.message=r₀.message):
 Signed {db with rows:=db.rows.set graphID rows',flows:=flows}:=by
 intro f k r hr
 dsimp only[WorkspaceBackends.Rows.set] at hr
 by_cases hf:f=graphID
 ·subst hf
  rw[Function.update_self] at hr
  obtain ⟨r₀,hr₀,hmsg⟩:=hrows k r hr
  rw[hmsg]
  exact h f k r₀ hr₀
 ·rw[Function.update_of_ne hf] at hr
  exact h f k r hr
lemma Signed.log(h:Signed db){r}(hr:r∈db.log):
 revisionFromMessage (synthMessage r.message r.revision)=r.revision:=by
 obtain ⟨e,_,hrow⟩:=mem_log.1 hr
 obtain ⟨x,hx,rfl⟩:=row_eq_some hrow
 exact (h _ _ x hx).2.2

/-- The revision a sync would go on from is gone. -/
def stale(db:Database α)(m:Mirror β):Bool:=
 m.commits.getLast?.any (fun c=>db.log.all fun r=>r.revision != revisionFromMessage c.message)

lemma stale_iff{m:Mirror β}:
 stale db m↔∃ c,m.commits.getLast? = some c∧∀ r∈db.log,r.revision≠revisionFromMessage c.message:=by
 simp[stale,Option.any_eq_true]

variable [DecidableEq α]

/-- A write by an author without line breaks leaves the rows that a replay has read as they
 are, or the revision to go on from is gone already, or the write drops it while no sync
 is running. -/
def calm(s:State α β):Call α β→Oracle→Prop
 | .write w,o=>
  '\n' ∉ (authorOf w).toList∧
   (stale s.db s.mirror∨s.locked=false∧stale (s.db.write o.draw w).2 s.mirror∨
    upTo Logged.seq s.read (s.db.write o.draw w).2.log=upTo Logged.seq s.read s.db.log)
 | _,_=>True

instance (s:State α β)(c:Call α β)(o:Oracle):Decidable (calm s c o):=
 match c with
 | .write w=>inferInstanceAs (Decidable ('\n' ∉ (authorOf w).toList∧
  (stale s.db s.mirror∨s.locked=false∧stale (s.db.write o.draw w).2 s.mirror∨
   upTo Logged.seq s.read (s.db.write o.draw w).2.log=upTo Logged.seq s.read s.db.log)))
 | .lock | .unlock | .head | .selectSeq _ | .removeAll | .selectAfter _ | .stage _ | .commit _ | .log | .references
 | .removeReference _ | .selectEnvs | .selectLabels | .setReference .. | .createTag .. | .upsertEnv .. | .deleteEnv ..
 | .updateLabel .. =>inferInstanceAs (Decidable True)

abbrev calmRuns(g:Synth α β):Rules (machine g):=
 Allowed (fun _ _=>True) (fun P _ c o=>possible P.state c o∧calm P.state c o)

def fresh(g:Synth α β):Pool (machine g):={state:=({}:State α β)}

section Cached

variable (g:Synth α β)

structure Cached(s:State α β)(done todo:List (Logged α)):Prop where
 read:upTo Logged.seq s.read s.db.log=done++todo
 commits:s.mirror.commits=(replayed g done).1
 -- the next row may have been staged before a failure
 files:s.mirror.files=(replayed g done).2∨
  ∃ r rest,todo=r::rest∧s.mirror.files=stageRow g r (replayed g done).2

omit [DecidableEq α]

structure Outdated(s:State α β):Prop where
 gone:stale s.db s.mirror
 known:∀ c,s.mirror.commits.getLast? = some c→∃ e∈s.db.order,e.revision=revisionFromMessage c.message

structure Sound(s:State α β):Prop where
 ordered:Ordered s.db
 signed:Signed s.db
 mirror:(∃ done todo,Cached g s done todo)∨Outdated s
 bare:s.mirror.commits=[] → s.mirror.refs=empty

variable {g}{s:State α β}{done todo:List (Logged α)}

section

variable (h:Cached g s done todo)

include h

lemma Cached.split(ho:Ordered s.db):
 s.db.log=done++(todo++after Logged.seq s.read s.db.log):=by
 rw[←append_assoc,←h.read,upTo_append_after (log_increasing ho)]
lemma Cached.mem{r}(hr:r∈done):r∈s.db.log:=
 mem_of_mem_filter (h.read▸mem_append_left todo hr)
lemma Cached.last(hs:Signed s.db){c}
 (hc:s.mirror.commits.getLast? = some c):
 ∃ r,done.getLast? = some r∧r∈s.db.log∧revisionFromMessage c.message=r.revision:=by
 have hlast:=getLast?_replayed g done
 rw[←h.commits,hc,Option.map_some,eq_comm] at hlast
 obtain ⟨r,hr,hmsg⟩:=Option.map_eq_some_iff.1 hlast
 have hmem:=h.mem (mem_of_getLast? hr)
 exact ⟨r,hr,hmem,hmsg▸hs.log hmem⟩
lemma Cached.not_stale(hs:Signed s.db):¬stale s.db s.mirror:=by
 intro hst
 obtain ⟨c,hc,hgone⟩:=stale_iff.1 hst
 obtain ⟨r,-,hr,hrev⟩:=h.last hs hc
 exact hgone r hr hrev.symm
lemma Cached.congr{s'}(hm:s'.mirror.commits=s.mirror.commits)
 (hf:s'.mirror.files=s.mirror.files)
 (hlog:upTo Logged.seq s'.read s'.db.log=upTo Logged.seq s.read s.db.log):Cached g s' done todo:=
 ⟨hlog.trans h.read,hm.trans h.commits,hf▸h.files⟩
lemma Cached.known(hs:Signed s.db):
 ∀ c,s.mirror.commits.getLast? = some c→∃ e∈s.db.order,e.revision=revisionFromMessage c.message:=by
 intro c hc
 obtain ⟨r,-,hr,hrev⟩:=h.last hs hc
 obtain ⟨e,he,hrow⟩:=mem_log.1 hr
 obtain ⟨x,_,rfl⟩:=row_eq_some hrow
 exact ⟨e,he,hrev.symm⟩

end

lemma Sound.known(h:Sound g s):
 ∀ c,s.mirror.commits.getLast? = some c→∃ e∈s.db.order,e.revision=revisionFromMessage c.message:=by
 rcases h.mirror with ⟨done,todo,hc⟩ | ho
 ·exact hc.known h.signed
 ·exact ho.known

end Cached

section Writers

variable {g:Synth α β}{s:State α β}

variable {w:WorkspaceBackends.Write α}

lemma mem_order_write{d e}(h:e∈s.db.order):
 e∈(s.db.write d w).2.order:=by
 rcases order_write d w s.db with ho | ho
 ·exact ho▸h
 ·exact ho▸mem_number.2 (.inr h)
lemma stale_write{d:Draw}(h:stale s.db s.mirror)(hd:Drawn s.db d)
 (hknown:∀ c,s.mirror.commits.getLast? = some c→∃ e∈s.db.order,e.revision=revisionFromMessage c.message):
 stale (s.db.write d w).2 s.mirror:=by
 obtain ⟨c,hc,hgone⟩:=stale_iff.1 h
 refine stale_iff.2 ⟨c,hc,fun r hr hrev=>?_⟩
 rcases revision_write hr with hid | ⟨r₀,hr₀,heq⟩
 ·obtain ⟨e,he,hknown⟩:=hknown c hc
  exact hd.id e he (hknown.trans (hrev.symm.trans hid))
 ·exact hgone r₀ hr₀ (heq.trans hrev)
lemma Sound.write{o}(h:Sound g s)
 (hp:possible s (Call.write (β:=β) w) o)(hc:calm s (Call.write (β:=β) w) o):
 Sound g {s with db:=(s.db.write o.draw w).2} where
 ordered:=h.ordered.write w hp.1
 signed:=h.signed.write hp.2 hc.1
 bare:=h.bare
 mirror:=by
  have hknown:∀ c,s.mirror.commits.getLast? = some c→
   ∃ e∈(s.db.write o.draw w).2.order,e.revision=revisionFromMessage c.message:=by
   intro c hlast
   obtain ⟨e,he,hrev⟩:=h.known c hlast
   exact ⟨e,mem_order_write he,hrev⟩
  rcases hc.2 with hst | ⟨-,hst⟩ | hlog
  ·exact .inr ⟨stale_write hst hp.1 h.known,hknown⟩
  ·exact .inr ⟨hst,hknown⟩
  ·rcases h.mirror with ⟨done,todo,hcached⟩ | hout
   ·exact .inl ⟨done,todo,hcached.congr rfl rfl hlog⟩
   ·exact .inr ⟨stale_write hout.gone hp.1 hout.known,hknown⟩

omit [DecidableEq α] in
lemma Sound.frame{db':Database α}(h:Sound g s)(ho:Ordered db')(hs:Signed db')
 (horder:db'.order=s.db.order)(hlog:db'.log=s.db.log):Sound g {s with db:=db' } where
 ordered:=ho
 signed:=hs
 bare:=h.bare
 mirror:=by
  rcases h.mirror with ⟨done,todo,hcached⟩ | hout
  ·exact .inl ⟨done,todo,hcached.congr rfl rfl (by dsimp only; rw[hlog])⟩
  ·refine .inr ⟨?_,fun c hc=>horder▸hout.known c hc⟩
   obtain ⟨c,hc,hgone⟩:=stale_iff.1 hout.gone
   exact stale_iff.2 ⟨c,hc,hlog▸hgone⟩

end Writers

section Sync

variable {g:Synth α β}{s:State α β}{n:Stage α}

variable (g) in
def At(s:State α β):Stage α→Prop
 | .asked revision=>∃ c,s.mirror.commits.getLast? = some c∧revisionFromMessage c.message=revision
 | .resumed seq=>∃ done todo,Cached g s done todo∧lastNum Logged.seq done=seq
 | .replaying pending=>∃ done,Cached g s done pending
 | .staged r pending=>∃ done,Cached g s done (r::pending)∧s.mirror.files=stageRow g r (replayed g done).2
 | .refs=>s.mirror.commits≠[]
 | .outside | .locked | .rebuild | .leaving=>True

omit [DecidableEq α] in
lemma At.mono{db'}(h:At g s n)
 (hkeep:∀ done todo,Cached g s done todo → n≠.outside→Cached g {s with db:=db' } done todo):At g {s with db:=db' } n:=by
 cases n with
 | outside | locked | rebuild | leaving=>trivial
 | asked revision | refs=>exact h
 | resumed seq=>
  obtain ⟨done,todo,hcached,hseq⟩:=h
  exact ⟨done,todo,hkeep done todo hcached nofun,hseq⟩
 | replaying pending=>
  obtain ⟨done,hcached⟩:=h
  exact ⟨done,hkeep done pending hcached nofun⟩
 | staged r pending=>
  obtain ⟨done,hcached,hfiles⟩:=h
  exact ⟨done,hkeep done _ hcached nofun,hfiles⟩
lemma At.write{w o}(h:At g s n)(hs:Sound g s)
 (hl:n≠.outside → s.locked)(hc:calm s (Call.write (β:=β) w) o):
 At g {s with db:=(s.db.write o.draw w).2} n:=by
 have hlog:∀ done todo,Cached g s done todo → n≠.outside→
  Cached g {s with db:=(s.db.write o.draw w).2} done todo:=by
  intro done todo hcached hin
  rcases hc.2 with hst | ⟨hfree,-⟩ | hlog
  ·exact absurd hst (hcached.not_stale hs.signed)
  ·rw[hl hin] at hfree
   cases hfree
  ·exact hcached.congr rfl rfl hlog
 exact h.mono hlog

omit [DecidableEq α] in
lemma At.frame{db'}(h:At g s n)(hlog:db'.log=s.db.log):At g {s with db:=db' } n:=
 h.mono fun done todo hcached _=>hcached.congr rfl rfl (by dsimp only; rw[hlog])

omit [DecidableEq α]

lemma Sound.resumed_none(hs:Sound g s)(h:s.mirror.commits.getLast? = none):At g s (.resumed 0):=by
 have hempty:s.mirror.commits=[]:=getLast?_eq_none_iff.1 h
 rcases hs.mirror with ⟨done,todo,hcached⟩ | hout
 ·have hlast:=getLast?_replayed g done
  rw[←hcached.commits,h,Option.map_none,eq_comm,Option.map_eq_none_iff,getLast?_eq_none_iff] at hlast
  subst hlast
  exact ⟨[],todo,hcached,rfl⟩
 ·obtain ⟨c,hc,-⟩:=stale_iff.1 hout.gone
  rw[h] at hc
  cases hc
lemma Sound.resumed_some(hs:Sound g s){revision:String}{seq:Nat}(hat:At g s (.asked revision))
 (h:selectSeq s.db revision=some seq):At g s (.resumed seq):=by
 obtain ⟨c,hc,hrev⟩:=hat
 obtain ⟨r,hr,rfl⟩:=Option.map_eq_some_iff.1 h
 have hmem:=mem_of_find?_eq_some hr
 have hrevision:r.revision=revision:=by simpa using find?_some hr
 rcases hs.mirror with ⟨done,todo,hcached⟩ | hout
 ·obtain ⟨x,hx,hxmem,hxrev⟩:=hcached.last hs.signed hc
  obtain rfl:r=x:=log_distinct hs.ordered hmem hxmem (hrevision.trans (hrev.symm.trans hxrev))
  refine ⟨done,todo,hcached,?_⟩
  rw[lastNum,hx]
  rfl
 ·obtain ⟨c',hc',hgone⟩:=stale_iff.1 hout.gone
  rw[hc] at hc'
  cases hc'
  exact absurd (hrevision.trans hrev.symm) (hgone r hmem)
lemma Sound.emptied(hs:Sound g s):Sound g {s with mirror:={},read:=0}∧
 At g {s with mirror:={},read:=0} (.resumed 0):=by
 have hcached:Cached g {s with mirror:={},read:=0} [] []:=
  ⟨upTo_of_lt (log_positive hs.ordered),rfl,.inl rfl⟩
 exact ⟨⟨hs.ordered,hs.signed,.inl ⟨[],[],hcached⟩,fun _=>rfl⟩,[],[],hcached,rfl⟩
lemma Cached.select{done todo}(h:Cached g s done todo)(ho:Ordered s.db):
 Cached g {s with read:=seen Logged.seq s.read (after Logged.seq (lastNum Logged.seq done) s.db.log)}
  done (after Logged.seq (lastNum Logged.seq done) s.db.log):=by
 have hsplit:=h.split ho
 have hrest:after Logged.seq (lastNum Logged.seq done) s.db.log=todo++after Logged.seq s.read s.db.log:=by
  have hinc:=log_increasing ho
  have hpos:=log_positive ho
  rw[hsplit] at hinc hpos
  have hafter:=after_lastNum hinc hpos
  rwa[←hsplit] at hafter
 have hall:upTo Logged.seq (seen Logged.seq s.read (todo++after Logged.seq s.read s.db.log)) s.db.log=s.db.log:=by
  refine upTo_of_le fun r hr=>?_
  by_cases hle:r.seq ≤ s.read
  ·exact hle.trans (le_seen _ _)
  ·refine le_seen_of_mem (mem_append_right todo ?_) _
   exact mem_filter.2 ⟨hr,by simpa using Nat.lt_of_not_le hle⟩
 rw[hrest]
 refine ⟨hall.trans hsplit,h.commits,?_⟩
 rcases h.files with hf | ⟨r,rest,rfl,hf⟩
 ·exact .inl hf
 ·exact .inr ⟨r,rest++after Logged.seq s.read s.db.log,rfl,hf⟩
lemma Cached.stage{done rest r}(h:Cached g s done (r::rest)):
 stageRow g r s.mirror.files=stageRow g r (replayed g done).2:=by
 rcases h.files with hf | ⟨r',rest',heq,hf⟩
 ·rw[hf]
 ·obtain ⟨rfl,-⟩:=List.cons.inj heq
  rw[hf,stageRow_stageRow]
lemma Cached.commit{done rest r}(h:Cached g s done (r::rest))
 (hf:s.mirror.files=stageRow g r (replayed g done).2):
 Cached g {s with mirror:={s.mirror with commits:=s.mirror.commits++[commitRow r s.mirror.files]} }
  (done++[r]) rest:=by
 have hrep:=replayed_append g done r
 refine ⟨by rw[append_assoc]; exact h.read,?_,.inl ?_⟩
 ·rw[hrep,←h.commits,←hf]
 ·rw[hrep]
  exact hf

end Sync

section Invariant

variable {g:Synth α β}{s s':State α β}{ns:List (Stage α)}{i:Nat}{n k:Stage α}

variable (g) in
structure Inv(s:State α β)(ns:List (Stage α)):Prop where
 sound:Sound g s
 place:∀ n∈ns,At g s n
 single:∀ (i j:Nat) a b,ns[i]? = some a → ns[j]? = some b→a≠.outside→b≠.outside→i=j
 locked:∀ n∈ns,n≠.outside → s.locked

omit [DecidableEq α]

-- whoever else there is stands outside
lemma inv_of_others(hother:∀ j m,j≠i → ns[j]? = some m→m=.outside)(hs:Sound g s')(hat:At g s' k)
 (hl:k≠.outside → s'.locked):Inv g s' (ns.set i k):=by
 refine ⟨hs,fun m hm=>?_,fun a b x y ha hb hx hy=>?_,fun m hm hne=>?_⟩
 ·rcases mem_set_cases hm with rfl | ⟨j,hj,hm⟩
  ·exact hat
  ·rw[hother j m hj hm]
   trivial
 ·rcases set_cases ha with ⟨rfl,-⟩ | ⟨hai,ha⟩
  ·rcases set_cases hb with ⟨rfl,-⟩ | ⟨hbi,hb⟩
   ·rfl
   ·exact absurd (hother b y hbi hb) hy
  ·exact absurd (hother a x hai ha) hx
 ·rcases mem_set_cases hm with rfl | ⟨j,hj,hm⟩
  ·exact hl hne
  ·exact absurd (hother j m hj hm) hne
lemma Inv.move(h:Inv g s ns)(hi:ns[i]? = some n)(hin:n≠.outside)(hs:Sound g s')(hat:At g s' k)
 (hl:k≠.outside → s'.locked):Inv g s' (ns.set i k):=by
 refine inv_of_others (fun j m hj hm=>?_) hs hat hl
 by_contra hne
 exact hj (h.single j i m n hm hi hne hin)
lemma Inv.around(h:Inv g s ns)(hs:Sound g s')(hat:∀ n∈ns,At g s n→At g s' n)
 (hl:s'.locked=s.locked):Inv g s' ns:=
 ⟨hs,fun n hn=>hat n hn (h.place n hn),h.single,fun n hn hne=>hl.trans (h.locked n hn hne)⟩
lemma set_self(hi:ns[i]? = some n):ns.set i n=ns:=by
 obtain ⟨hlt,rfl⟩:=List.getElem?_eq_some_iff.1 hi
 exact set_getElem_self hlt
lemma Sound.mutex(h:Sound g s)(b):Sound g {s with locked:=b}:=by
 refine ⟨h.ordered,h.signed,?_,h.bare⟩
 rcases h.mirror with ⟨done,todo,hc⟩ | ho
 ·exact .inl ⟨done,todo,hc.congr rfl rfl rfl⟩
 ·exact .inr ⟨ho.gone,ho.known⟩
lemma Inv.lock(h:Inv g s ns)(hfree:s.locked=false):
 Inv g {s with locked:=true} (ns.set i .locked):=by
 refine inv_of_others (fun j m _ hm=>?_) (h.sound.mutex true) trivial fun _=>rfl
 by_contra hne
 rw[h.locked m (mem_of_getElem? hm) hne] at hfree
 cases hfree
lemma Sound.setRefs(h:Sound g s)(refs)(hc:s.mirror.commits≠[]):
 Sound g (s.setRefs refs):=by
 refine ⟨h.ordered,h.signed,?_,fun he=>absurd he hc⟩
 rcases h.mirror with ⟨done,todo,hcached⟩ | ho
 ·exact .inl ⟨done,todo,hcached.congr rfl rfl rfl⟩
 ·exact .inr ⟨ho.gone,ho.known⟩
lemma Inv.failed(h:Inv g s ns)(hi:ns[i]? = some n)(hin:n≠.outside):Inv g s (ns.set i .leaving):=
 h.move hi hin h.sound trivial (fun _=>h.locked n (mem_of_getElem? hi) hin)
lemma Inv.attempt{γ:Type}{o r}(next:Except String γ→Stage α)(h:Inv g s ns)
 (hi:ns[i]? = some n)(hin:n≠.outside)(herr:∀ m,next (.error m)=.leaving)
 (hok:Inv g r.2 (ns.set i (next r.1))):
 Inv g (SynthMirror.attempt o s r).2 (ns.set i (next (SynthMirror.attempt o s r).1)):=by
 rcases attempt_cases o s r with ⟨m,hr⟩ | hr<;>rw[hr]
 ·rw[herr]
  exact h.failed hi hin
 ·exact hok

end Invariant

section Steps

variable {g:Synth α β}{s:State α β}{ns:List (Stage α)}{i:Nat}{n:Stage α}{o:Oracle}

lemma Inv.outside{c}(h:Inv g s ns)(hi:ns[i]? = some .outside)(ha:Stage.allows .outside c)
 (hp:possible s c o)(hc:calm s c o):
 Inv g (step g c o s).2 (ns.set i (Stage.next .outside c (step g c o s).1)):=by
 -- the rows of one flow change outside the log
 have hkeep:∀ f (rows':FlowRows α) flows,(∀ k r,rows'.find? k=some r→
  ∃ r₀,(s.db.rows f).find? k=some r₀∧r.message=r₀.message)→
   Database.log {s.db with rows:=s.db.rows.set f rows',flows:=flows}=s.db.log→
    Inv g {s with db:={s.db with rows:=s.db.rows.set f rows',flows:=flows} } (ns.set i .outside):=by
  intro f rows' flows hrows hlog
  rw[set_self hi]
  have hordered:=h.sound.ordered.set flows fun k r hr=>(hrows k r hr).imp (fun _ hx=>hx.1)
  exact h.around (h.sound.frame hordered (h.sound.signed.of_rows flows hrows) rfl hlog) (fun _ _ hat=>hat.frame hlog) rfl
 cases c with
 | lock=>exact h.lock hp
 | write w=>
  change Inv g {s with db:=(s.db.write o.draw w).2} (ns.set i .outside)
  rw[set_self hi]
  exact h.around (h.sound.write hp hc) (fun n hn hat=>hat.write h.sound (h.locked n hn) hc) rfl
 | upsertEnv f env rev=>exact hkeep f _ _ (fun k r hr=>⟨r,hr,rfl⟩) (log_upsertEnv f env rev)
 | deleteEnv f env=>exact hkeep f _ _ (fun k r hr=>⟨r,hr,rfl⟩) (log_deleteEnv f env)
 | updateLabel f rev label=>
  refine hkeep f _ _ (fun k r hr=>?_) (log_updateLabel f rev label)
  rw[find?_relabel] at hr
  split_ifs at hr with hk
  ·obtain ⟨r₀,hr₀,rfl⟩:=Option.map_eq_some_iff.1 hr
   exact ⟨r₀,hk▸hr₀,rfl⟩
  ·exact ⟨r,hr,rfl⟩
 | unlock | head | selectSeq _ | removeAll | selectAfter _ | stage _ | commit _ | log | references | removeReference _
 | selectEnvs | selectLabels | setReference _ _ | createTag _ _ _=>exact ha.elim

variable (g) in
lemma refs_cases{c}(s)(ha:Stage.allows .refs c):c=.unlock∨
 (∀ r,Stage.next (α:=α) .refs c r=.refs)∧∃ refs,(step g c o s).2=s∨(step g c o s).2=s.setRefs refs:=by
 have hread:∀ {γ:Type} (x:Except String γ),(attempt o s (x,s)).2=s:=by
  intro γ x
  rcases attempt_cases o s (x,s) with ⟨m,h⟩ | h<;>rw[h]
 have hwrite:∀ refs,(attempt o s ((.ok ():Except String Unit),s.setRefs refs)).2=s∨
  (attempt o s ((.ok ():Except String Unit),s.setRefs refs)).2=s.setRefs refs:=by
  intro refs
  rcases attempt_cases o s ((.ok ():Except String Unit),s.setRefs refs) with ⟨m,h⟩ | h<;>rw[h]
  ·exact .inl rfl
  ·exact .inr rfl
 cases c with
 | unlock=>exact .inl rfl
 | log | references | selectEnvs | selectLabels=>exact .inr ⟨fun _=>rfl,empty,.inl (hread _)⟩
 | removeReference _ | setReference _ _=>exact .inr ⟨fun _=>rfl,_,hwrite _⟩
 | createTag name hash message=>
  refine .inr ⟨fun _=>rfl,?_⟩
  cases hc:commitObject g s.mirror.commits hash with
  | none=>exact ⟨empty,.inl (by simp only[step,hc])⟩
  | some c=>
   simp only[step,hc]
   split_ifs
   ·exact ⟨empty,.inl rfl⟩
   ·exact ⟨_,hwrite _⟩
 | lock | head | selectSeq _ | removeAll | selectAfter _ | stage _ | commit _ | write _ | upsertEnv _ _ _ | deleteEnv _ _
 | updateLabel _ _ _=>exact ha.elim
lemma Inv.inside{c}(h:Inv g s ns)(hi:ns[i]? = some n)(hin:n≠.outside)(ha:n.allows c):
 Inv g (step g c o s).2 (ns.set i (n.next c (step g c o s).1)):=by
 have hmem:=mem_of_getElem? hi
 have hlocked:=h.locked n hmem hin
 have hat:=h.place n hmem
 have hsound:=h.sound
 have hunlock:Inv g {s with locked:=false} (ns.set i .outside):=
  h.move hi hin (hsound.mutex false) trivial (fun hne=>absurd rfl hne)
 have hemptied:Inv g {s with mirror:={},read:=0} (ns.set i (.resumed 0)):=
  h.move hi hin hsound.emptied.1 hsound.emptied.2 (fun _=>hlocked)
 cases n with
 | outside=>exact absurd rfl hin
 | locked=>
  obtain rfl:c=.head:=ha
  refine h.attempt (Stage.next .locked (.head:Call α β)) hi hin (fun _=>rfl) ?_
  cases hc:s.mirror.commits.getLast? with
  | none=>exact h.move hi hin hsound (hsound.resumed_none hc) (fun _=>hlocked)
  | some c=>exact h.move (k:=.asked _) hi hin hsound ⟨c,hc,rfl⟩ (fun _=>hlocked)
 | asked revision=>
  rcases ha with ⟨rfl,rfl⟩ | ⟨-,rfl⟩
  ·exact h.attempt (Stage.next _ (.removeAll:Call α β)) hi hin (fun _=>rfl) hemptied
  have hres:(step g (.selectSeq revision) o s).1=none∨
   (step g (.selectSeq revision) o s).1=selectSeq s.db revision:=ite_eq_or_eq _ _ _
  have hstate:(step g (.selectSeq revision) o s).2=s:=rfl
  rw[hstate]
  cases hq:(step g (.selectSeq revision) o s).1 with
  | none=>exact h.move (k:=.rebuild) hi hin hsound trivial (fun _=>hlocked)
  | some seq=>
   rw[hq] at hres
   exact h.move (k:=.resumed seq) hi hin hsound
    (hsound.resumed_some hat (hres.resolve_left nofun).symm) (fun _=>hlocked)
 | rebuild=>
  obtain rfl:c=.removeAll:=ha
  exact h.attempt (Stage.next _ (.removeAll:Call α β)) hi hin (fun _=>rfl) hemptied
 | resumed seq=>
  obtain rfl:c=.selectAfter seq:=ha
  obtain ⟨done,todo,hcached,rfl⟩:=hat
  have hselect:=hcached.select hsound.ordered
  exact h.attempt (Stage.next _ (.selectAfter _:Call α β)) hi hin (fun _=>rfl)
   (h.move (k:=.replaying _) hi hin ⟨hsound.ordered,hsound.signed,.inl ⟨_,_,hselect⟩,hsound.bare⟩
    ⟨done,hselect⟩ fun _=>hlocked)
 | replaying pending=>
  cases pending with
  | nil=>
   obtain rfl:c=.head:=ha
   refine h.attempt (Stage.next (.replaying []) (.head:Call α β)) hi hin (fun _=>rfl) ?_
   cases hc:s.mirror.commits.getLast? with
   | none=>exact h.failed hi hin
   | some c=>
    refine h.move (k:=.refs) hi hin hsound (fun hempty=>?_) fun _=>hlocked
    rw[hempty] at hc
    cases hc
  | cons r rest=>
   obtain rfl:c=.stage r:=ha
   obtain ⟨done,hcached⟩:=hat
   have hstage:Cached g {s with mirror:={s.mirror with files:=stageRow g r s.mirror.files} } done (r::rest):=
    ⟨hcached.read,hcached.commits,.inr ⟨r,rest,rfl,hcached.stage⟩⟩
   exact h.attempt (Stage.next (.replaying (r::rest)) (.stage r:Call α β)) hi hin (fun _=>rfl)
    (h.move (k:=.staged r rest) hi hin ⟨hsound.ordered,hsound.signed,.inl ⟨_,_,hstage⟩,hsound.bare⟩
     ⟨done,hstage,hcached.stage⟩ fun _=>hlocked)
 | staged r pending=>
  obtain rfl:c=.commit r:=ha
  obtain ⟨done,hcached,hfiles⟩:=hat
  have hcommit:=hcached.commit hfiles
  exact h.attempt (Stage.next (.staged r pending) (.commit r:Call α β)) hi hin (fun _=>rfl)
   (h.move (k:=.replaying pending) hi hin
    ⟨hsound.ordered,hsound.signed,.inl ⟨_,_,hcommit⟩,fun hempty=>by simp at hempty⟩ ⟨_,hcommit⟩ fun _=>hlocked)
 | refs=>
  rcases refs_cases g (o:=o) s ha with rfl | ⟨hnext,refs,hstate⟩
  ·exact hunlock
  rw[hnext]
  rcases hstate with hstate | hstate
  ·rw[hstate,set_self hi]
   exact h
  ·rw[hstate]
   exact h.move (k:=.refs) hi hin (hsound.setRefs refs hat) hat fun _=>hlocked
 | leaving=>
  obtain rfl:c=.unlock:=ha
  exact hunlock

variable (g) in
lemma inv_of_reach{P}(h:Reach (calmRuns g) (fresh g) P):Inv g P.state ((stages g).stages P):=by
 refine (follows g).run_inv (A:=fresh g) rfl (J:=Inv g) ?_ ?_ ?_ h
 ·have hcached:Cached g ({}:State α β) [] []:=⟨rfl,rfl,.inl rfl⟩
  refine ⟨⟨ordered_empty,nofun,.inl ⟨[],[],hcached⟩,fun _=>rfl⟩,?_,?_,?_⟩<;>simp
 ·intro P e _ _ hJ
  refine ⟨hJ.sound,fun n hn=>?_,fun a b x y ha hb hx hy=>?_,fun n hn hne=>?_⟩
  ·rcases mem_append.1 hn with hn | hn
   ·exact hJ.place n hn
   ·rw[mem_singleton.1 hn]
    trivial
  ·exact hJ.single a b x y ((append_cases ha).resolve_right fun h=>hx h.2)
    ((append_cases hb).resolve_right fun h=>hy h.2) hx hy
  ·rcases mem_append.1 hn with hn | hn
   ·exact hJ.locked n hn hne
   ·exact absurd (mem_singleton.1 hn) hne
 ·intro P i o c n _ hok hnext hn hall hJ
  obtain ⟨hp,hc⟩:=hok c hnext
  by_cases hout:n=.outside
  ·subst hout
   exact hJ.outside hn hall hp hc
  ·exact hJ.inside hn hout hall

end Steps

section Alone

variable {g:Synth α β}{γ δ:Type}

/-- By itself the program ends, and where it ends well it ends in `R`. -/
def Succeeds(g:Synth α β)(p:SynthMirror.Prog α β (Except String γ))(s:State α β)(R:γ→State α β→Prop):Prop:=
 Solo (machine g) p s (fun r t=>∀ x,r=.ok x→R x t)

variable {s:State α β}{R:γ→State α β→Prop}

lemma succeeds_ok{x}(h:R x s):
 Succeeds g (.done (.ok x)) s R:=
 Solo.done (fun _ hx=>Except.ok.inj hx▸h)
lemma succeeds_error{m}:
 Succeeds g (.done (.error m)) s R:=
 Solo.done nofun
lemma succeeds_attempt{o x t}(h:R x t):
 Succeeds g (.done (attempt o s (.ok x,t)).1) (attempt o s (.ok x,t)).2 R:=by
 rcases attempt_cases o s (.ok x,t) with ⟨m,ha⟩ | ha<;>rw[ha]
 ·exact succeeds_error
 ·exact succeeds_ok h
lemma succeeds_andThen{p k}
 {Q:δ→State α β→Prop}(hp:Succeeds g p s R)
 (hk:∀ x t,R x t→Succeeds g (k x) t Q):Succeeds g (andThen p k) s Q:=by
 refine Solo.bind hp ?_
 rintro (m | x) t hr
 ·exact succeeds_error
 ·exact hk x t (hr x rfl)
lemma succeeds_head:Succeeds g (ask .head) s (fun c t=>t=s∧c=s.mirror.commits.getLast?):=
 Solo.call (fun _=>succeeds_attempt ⟨rfl,rfl⟩)
lemma succeeds_resumeSeq(hs:Sound g s):
 Succeeds g resumeSeq s (fun resume t=>t=s∧∀ seq,resume=some seq→At g s (.resumed seq)):=by
 refine Solo.bind succeeds_head ?_
 rintro (m | _ | c) t hr
 ·exact succeeds_error
 ·obtain ⟨rfl,hc⟩:=hr _ rfl
  exact succeeds_ok ⟨rfl,fun seq hseq=>Option.some.inj hseq▸hs.resumed_none hc.symm⟩
 ·obtain ⟨rfl,hc⟩:=hr _ rfl
  dsimp only
  split
  ·exact succeeds_ok ⟨rfl,nofun⟩
  refine Solo.call fun o=>succeeds_ok ⟨rfl,fun seq hseq=>?_⟩
  have hres:(step g (.selectSeq (revisionFromMessage c.message)) o t).1=none∨
   (step g (.selectSeq (revisionFromMessage c.message)) o t).1=selectSeq t.db (revisionFromMessage c.message):=
   ite_eq_or_eq _ _ _
  rw[hseq] at hres
  exact hs.resumed_some ⟨c,hc.symm,rfl⟩ (hres.resolve_left nofun).symm
lemma succeeds_discard(hs:Sound g s){resume}(h:∀ seq,resume=some seq→At g s (.resumed seq)):
 Succeeds g (discard resume) s (fun seq t=>t.db=s.db∧Sound g t∧At g t (.resumed seq)):=by
 cases resume with
 | some seq=>exact succeeds_ok ⟨rfl,hs,h seq rfl⟩
 | none=>
  have hask:Succeeds g (ask .removeAll) s (fun _ t=>t={s with mirror:={},read:=0}):=
   Solo.call (fun _=>succeeds_attempt rfl)
  refine succeeds_andThen hask ?_
  rintro _ _ rfl
  exact succeeds_ok ⟨rfl,hs.emptied⟩
lemma succeeds_replayRows{done pending}(h:Cached g s done pending):
 Succeeds g (replayRows pending) s (fun _ t=>t.db=s.db∧t.mirror.refs=s.mirror.refs∧
  t.mirror.commits=(replayed g (done++pending)).1):=by
 induction pending generalizing s done with
 | nil=>exact succeeds_ok ⟨rfl,rfl,by rw[append_nil]; exact h.commits⟩
 | cons r rest ih=>
  have hstage:Succeeds g (ask (.stage r)) s (fun _ t=>t.db=s.db∧t.mirror.refs=s.mirror.refs∧
   Cached g t done (r::rest)∧t.mirror.files=stageRow g r (replayed g done).2):=
   Solo.call (fun _=>succeeds_attempt ⟨rfl,rfl,⟨h.read,h.commits,.inr ⟨r,rest,rfl,h.stage⟩⟩,h.stage⟩)
  refine Solo.bind hstage ?_
  rintro (m | x) t ht
  ·exact succeeds_error
  obtain ⟨hdb₁,hrefs₁,hcached,hfiles⟩:=ht x rfl
  have hcommit:Succeeds g (ask (.commit r)) t
   (fun _ u=>u.db=s.db∧u.mirror.refs=s.mirror.refs∧Cached g u (done++[r]) rest):=
   Solo.call (fun _=>succeeds_attempt ⟨hdb₁,hrefs₁,hcached.commit hfiles⟩)
  refine Solo.bind hcommit ?_
  rintro (m | y) t ht
  ·exact succeeds_error
  obtain ⟨hdb,hrefs,hc⟩:=ht y rfl
  refine (ih hc).mono fun r' u hu x hx=>?_
  obtain ⟨hdb',hrefs',hcommits⟩:=hu x hx
  refine ⟨hdb'.trans hdb,hrefs'.trans hrefs,?_⟩
  rw[hcommits,append_assoc]
  rfl
lemma succeeds_replay(hs:Sound g s){seq}(h:At g s (.resumed seq)):
 Succeeds g (replay seq) s (fun _ t=>t.db=s.db∧t.mirror.refs=s.mirror.refs∧
  t.mirror.commits=(replayed g s.db.log).1):=by
 obtain ⟨done,todo,hcached,rfl⟩:=h
 have hselect:Succeeds g (ask (.selectAfter (lastNum Logged.seq done))) s (fun pending t=>t.db=s.db∧
  t.mirror=s.mirror∧Cached g t done pending∧done++pending=s.db.log):=by
  refine Solo.call fun _=>succeeds_attempt ⟨rfl,rfl,hcached.select hs.ordered,?_⟩
  have hinc:=log_increasing hs.ordered
  have hpos:=log_positive hs.ordered
  have hsplit:=hcached.split hs.ordered
  rw[hsplit] at hinc hpos
  have hafter:=after_lastNum hinc hpos
  rw[←hsplit] at hafter
  rw[hafter,←hsplit]
 refine Solo.bind hselect ?_
 rintro (m | pending) t ht
 ·exact succeeds_error
 obtain ⟨hdb,hm,hc,hlog⟩:=ht pending rfl
 refine (succeeds_replayRows hc).mono fun r u hu x hx=>?_
 obtain ⟨hdb',hrefs,hcommits⟩:=hu x hx
 exact ⟨hdb'.trans hdb,hrefs.trans (congrArg Mirror.refs hm),hcommits.trans (by rw[hlog])⟩

omit [DecidableEq α] in
def tagEnv(byRevision:String→Option String)(refs:Table String Ref Ref.name)(e:EnvRef):
 Table String Ref Ref.name:=
 match byRevision e.revision with
 | none=>refs
 | some h=>refs.upsert ⟨GitWorkspace.envTag e.graphID e.env,.commit h⟩

omit [DecidableEq α] in
def tagLabel(g:Synth α β)(commits:List (Commit β))(refs:Table String Ref Ref.name)(l:LabelRef):
 Table String Ref Ref.name:=
 match commitIndex g commits l.revision with
 | none=>refs
 | some h=>
  match commitObject g commits h with
  | none=>refs
  | some c=>refs.upsert ⟨labelTag l.graphID h,.tag h l.label c.committed⟩

omit [DecidableEq α] in
def refsOf(g:Synth α β)(commits:List (Commit β))(db:Database α):Table String Ref Ref.name:=
 (selectLabels db).foldl (tagLabel g commits)
  ((selectEnvs db).foldl (tagEnv (commitIndex g commits)) empty)

omit [DecidableEq α] in
lemma table_empty{κ ρ:Type}{key:ρ→κ}{t:Table κ ρ key}(h:t.rows=[]):t=empty:=by
 cases t
 dsimp only at h
 subst h
 rfl
lemma succeeds_removeRefs(names):
 Succeeds g (removeRefs names) s (fun _ t=>∃ refs,t=s.setRefs refs∧
  ∀ r∈refs.rows,r∈s.mirror.refs.rows∧r.name∉names):=by
 induction names generalizing s with
 | nil=>exact succeeds_ok ⟨s.mirror.refs,rfl,fun r hr=>⟨hr,not_mem_nil⟩⟩
 | cons name rest ih=>
  have hask:Succeeds g (ask (.removeReference name)) s
   (fun _ t=>t=s.setRefs (s.mirror.refs.erase fun r=>r.name==name)):=
   Solo.call (fun _=>succeeds_attempt rfl)
  refine Solo.bind hask ?_
  rintro (m | x) t ht
  ·exact succeeds_error
  obtain rfl:=ht x rfl
  refine ih.mono fun r u hu x hx=>?_
  obtain ⟨refs,rfl,hrefs⟩:=hu x hx
  refine ⟨refs,rfl,fun r hr=>?_⟩
  obtain ⟨hmem,hnot⟩:=hrefs r hr
  obtain ⟨hmem,hname⟩:=mem_filter.1 hmem
  refine ⟨hmem,?_⟩
  rw[mem_cons,not_or]
  exact ⟨by simpa using hname,hnot⟩
lemma succeeds_tagEnvs(byRevision:String→Option String)(envs):
 Succeeds g (tagEnvs byRevision envs) s
  (fun _ t=>t=s.setRefs (envs.foldl (tagEnv byRevision) s.mirror.refs)):=by
 induction envs generalizing s with
 | nil=>exact succeeds_ok rfl
 | cons e rest ih=>
  unfold tagEnvs
  rw[foldl_cons]
  cases hidx:byRevision e.revision with
  | none=>
   have hsame:tagEnv byRevision s.mirror.refs e=s.mirror.refs:=by rw[tagEnv,hidx]
   rw[hsame]
   exact ih
  | some h=>
   have hask:Succeeds g (ask (.setReference (GitWorkspace.envTag e.graphID e.env) h)) s
    (fun _ t=>t=s.setRefs (tagEnv byRevision s.mirror.refs e)):=
    Solo.call (fun _=>succeeds_attempt (by simp only[tagEnv,hidx]))
   refine Solo.bind hask ?_
   rintro (m | x) t ht
   ·exact succeeds_error
   obtain rfl:=ht x rfl
   exact ih
lemma succeeds_tagLabels(commits labels)(hc:s.mirror.commits=commits):
 Succeeds g (tagLabels (commitIndex g commits) labels) s
  (fun _ t=>t=s.setRefs (labels.foldl (tagLabel g commits) s.mirror.refs)):=by
 induction labels generalizing s with
 | nil=>exact succeeds_ok rfl
 | cons l rest ih=>
  unfold tagLabels
  rw[foldl_cons]
  cases hidx:commitIndex g commits l.revision with
  | none=>
   have hsame:tagLabel g commits s.mirror.refs l=s.mirror.refs:=by rw[tagLabel,hidx]
   rw[hsame]
   exact ih hc
  | some h=>
   have hask:Succeeds g (ask (.createTag (labelTag l.graphID h) h l.label)) s
    (fun _ t=>t=s.setRefs (tagLabel g commits s.mirror.refs l)):=by
    refine Solo.call fun o=>?_
    simp only[step,hc]
    cases hobj:commitObject g commits h with
    | none=>exact succeeds_error
    | some c=>
     dsimp only
     split_ifs
     ·exact succeeds_error
     ·exact succeeds_attempt (by simp only[tagLabel,hidx,hobj])
   refine Solo.bind hask ?_
   rintro (m | x) t ht
   ·exact succeeds_error
   obtain rfl:=ht x rfl
   exact ih hc
lemma succeeds_syncRefs:
 Succeeds g (syncRefs g) s (fun _ t=>t=s.setRefs (refsOf g s.mirror.commits s.db)):=by
 have hlog:Succeeds g (ask .log) s (fun commits t=>t=s∧commits=s.mirror.commits):=
  Solo.call (fun _=>succeeds_attempt ⟨rfl,rfl⟩)
 refine succeeds_andThen hlog ?_
 rintro _ t ⟨ht,rfl⟩
 rw[ht]
 have hnames:Succeeds g (ask .references) s (fun names t=>t=s∧names=s.mirror.refs.rows.map Ref.name):=
  Solo.call (fun _=>succeeds_attempt ⟨rfl,rfl⟩)
 refine succeeds_andThen hnames ?_
 rintro _ t ⟨ht,rfl⟩
 rw[ht]
 refine succeeds_andThen (succeeds_removeRefs _) ?_
 rintro _ _ ⟨refs,rfl,hrefs⟩
 obtain rfl:refs=empty:=by
  refine table_empty (eq_nil_iff_forall_not_mem.2 fun r hr=>?_)
  exact (hrefs r hr).2 (mem_map_of_mem (hrefs r hr).1)
 have henvs:Succeeds g (ask .selectEnvs) (s.setRefs empty) (fun envs t=>t=s.setRefs empty∧envs=selectEnvs s.db):=
  Solo.call (fun _=>succeeds_attempt ⟨rfl,rfl⟩)
 refine succeeds_andThen henvs ?_
 rintro _ _ ⟨rfl,rfl⟩
 refine succeeds_andThen (succeeds_tagEnvs _ _) ?_
 rintro _ _ rfl
 have hlabels:∀ refs,Succeeds g (ask .selectLabels) (s.setRefs refs)
  (fun labels t=>t=s.setRefs refs∧labels=selectLabels s.db):=
  fun _=>Solo.call (fun _=>succeeds_attempt ⟨rfl,rfl⟩)
 refine succeeds_andThen (hlabels _) ?_
 rintro _ _ ⟨rfl,rfl⟩
 exact succeeds_tagLabels s.mirror.commits _ rfl

omit [DecidableEq α] in
def synthRefs(g:Synth α β)(db:Database α):Table String Ref Ref.name:=
 if db.log=[] then empty else refsOf g (replayed g db.log).1 db

lemma succeeds_sync(hs:Sound g s):Succeeds g (sync g) s (fun _ t=>t.db=s.db∧
 t.mirror.commits=(replayed g s.db.log).1∧t.mirror.refs=synthRefs g s.db):=by
 refine succeeds_andThen (succeeds_resumeSeq hs) ?_
 rintro resume s' ⟨hs',hresume⟩
 rw[hs']
 refine succeeds_andThen (succeeds_discard hs hresume) ?_
 rintro seq t ⟨hdb,hst,hat⟩
 obtain ⟨done,todo,hcached,-⟩:=id hat
 refine succeeds_andThen (succeeds_replay hst hat) ?_
 rintro _ u ⟨hdbu,hrefs,hcommits⟩
 rw[hdb] at hdbu hcommits
 refine succeeds_andThen succeeds_head ?_
 rintro head _ ⟨rfl,hhead⟩
 have hlast:=getLast?_replayed g s.db.log
 rw[←hcommits,←hhead] at hlast
 cases head with
 | none=>
  have hempty:s.db.log=[]:=by
   rw[Option.map_none,eq_comm,Option.map_eq_none_iff,getLast?_eq_none_iff] at hlast
   exact hlast
  have hdone:done=[]:=by
   have hsplit:=hcached.split hst.ordered
   rw[hdb,hempty,eq_comm,append_eq_nil_iff] at hsplit
   exact hsplit.1
  refine succeeds_ok ⟨hdbu,hcommits,?_⟩
  rw[hrefs,hst.bare (by rw[hcached.commits,hdone]; rfl),synthRefs,if_pos hempty]
 | some c=>
  have hne:s.db.log≠[]:=by
   intro hempty
   rw[hempty] at hlast
   cases hlast
  refine succeeds_andThen succeeds_syncRefs ?_
  rintro _ _ rfl
  refine succeeds_ok ⟨hdbu,hcommits,?_⟩
  rw[synthRefs,if_neg hne,←hcommits,←hdbu]
  rfl
lemma succeeds_push(hs:Sound g s):Succeeds g (push g) s (fun _ t=>t.db=s.db∧
 t.mirror.commits=(replayed g s.db.log).1∧t.mirror.refs=synthRefs g s.db):=by
 refine Solo.bind (Q:=fun _ t=>t={s with locked:=true}) (Solo.call fun _=>Solo.done rfl) ?_
 rintro _ _ rfl
 refine Solo.bind (succeeds_sync (hs.mutex true)) ?_
 intro r t hr
 exact Solo.call fun _=>Solo.done hr

end Alone

def cold(s:State α β):State α β:={s with mirror:={},read:=0}

/-- In a run whose writers leave the mirror alone, a sync that nobody disturbs ends with
 the commits and the references of a rebuild. -/
theorem mirror_is_cache(g:Synth α β){P:Pool (machine g)}(h:Reach (calmRuns g) (fresh g) P)
 {o o':Nat→Oracle}{n n' m m':Nat}{b b':Bool}{t t':State α β}
 (hsync:(push g).alone (machine g) o n P.state=some (.ok b,m,t))
 (hcold:(push g).alone (machine g) o' n' (cold P.state)=some (.ok b',m',t')):
 t.mirror.commits=t'.mirror.commits∧t.mirror.refs=t'.mirror.refs:=by
 have hsound:=(inv_of_reach g h).sound
 obtain ⟨-,hcommits,hrefs⟩:=(succeeds_push hsound).of_run hsync b rfl
 obtain ⟨-,hcommits',hrefs'⟩:=(succeeds_push hsound.emptied.1).of_run hcold b' rfl
 exact ⟨hcommits.trans hcommits'.symm,hrefs.trans hrefs'.symm⟩

def plain:Synth Nat Nat where
 canonicalGraphJSON:=fun n=>n
 hash:=fun history=>"c"++itoa history.length

def writes(i:Nat)(w:WorkspaceBackends.Write Nat)(now:Int)(id:String)(seq:Nat):List (Action (machine plain)):=
 [.start (.write w),.step i {draw:=⟨now,now,id,seq⟩}]

def syncs(i k:Nat):List (Action (machine plain)):=.start .push::replicate k (.step i {})

def quiet:Nat→Oracle:=fun _=>{}

def synced(s:State Nat Nat):State Nat Nat:=
 match (push plain).alone (machine plain) quiet 0 s with
 | some (_,_,t)=>t
 | none=>s

def completes(s:State Nat Nat):Bool:=
 match (push plain).alone (machine plain) quiet 0 s with
 | some (.ok _,_,_)=>true
 | _=>false

lemma alone_of_completes{s}(h:completes s):
 ∃ b m,(push plain).alone (machine plain) quiet 0 s=some (.ok b,m,synced s):=by
 unfold completes synced at *
 split at h
 ·case h_1 b m t heq=>
  rw[heq]
  exact ⟨b,m,rfl⟩
 ·cases h

-- saved and mirrored, changed by a burst of autosaves and mirrored, then back to what it was
def revertedBurst:List (Action (machine plain)):=
 writes 0 (.save "f" 1 "ann" false) 0 "a1" 1++syncs 1 11++writes 2 (.save "f" 2 "ann" true) 5 "a2" 2 ++
  [.start (.upsertEnv "f" "published" "a1"),.step 3 {}]++syncs 4 13++writes 5 (.save "f" 1 "ann" true) 9 "a3" 3

/-- The next sync finds its last commit gone and starts again. -/
theorem reverted_burst_mirrored:∃ t t':State Nat Nat,∃ m m' b b',
 (push plain).alone (machine plain) quiet 0 ((fresh plain).after (calmRuns plain) revertedBurst).state=some (.ok b,m,t)∧
 (push plain).alone (machine plain) quiet 0 (cold ((fresh plain).after (calmRuns plain) revertedBurst).state) =
  some (.ok b',m',t')∧
 t.mirror.commits=t'.mirror.commits∧t.mirror.refs=t'.mirror.refs:=by
 have hreach:Reach (calmRuns plain) (fresh plain) ((fresh plain).after (calmRuns plain) revertedBurst):=
  reach_after (by decide +kernel)
 obtain ⟨b,m,hsync⟩:=alone_of_completes
  (s:=((fresh plain).after (calmRuns plain) revertedBurst).state) (by decide +kernel)
 obtain ⟨b',m',hcold⟩:=alone_of_completes
  (s:=cold ((fresh plain).after (calmRuns plain) revertedBurst).state) (by decide +kernel)
 exact ⟨_,_,m,m',b,b',hsync,hcold,mirror_is_cache plain hreach hsync hcold⟩

-- an autosave is mirrored and then amended in place
def amendedRow:List (Action (machine plain)):=
 writes 0 (.save "f" 1 "ann" true) 0 "a1" 1++syncs 1 11++writes 2 (.save "f" 2 "ann" true) 5 "a2" 2

-- an autosave is mirrored with a later save of another flow, and then dropped
def droppedRow:List (Action (machine plain)):=
 writes 0 (.save "f" 1 "ann" false) 0 "a1" 1++writes 1 (.save "f" 2 "ann" true) 1 "a2" 2 ++
  writes 2 (.save "h" 7 "bob" false) 2 "a3" 3++syncs 3 15++writes 4 (.save "f" 1 "ann" true) 5 "a4" 4

-- the transaction with the lower number commits after the sync
def overtakenRow:List (Action (machine plain)):=
 writes 0 (.save "f" 1 "ann" false) 1 "a2" 2++syncs 1 11++writes 2 (.save "h" 7 "bob" false) 0 "a1" 1

-- the author's name holds a trailer that names the revision before
def forgedTrailer:List (Action (machine plain)):=
 writes 0 (.save "f" 1 "ann" false) 0 "a1" 1 ++
  writes 1 (.save "f" 2 "eve\nDazyflow-Revision: a1\n" false) 1 "a2" 2++syncs 2 13

def differs(P:Pool (machine plain)):Bool:=
 completes P.state&&completes (cold P.state) &&
  (synced P.state).mirror.commits != (synced (cold P.state)).mirror.commits

/-- After the run a sync completes and leaves other commits than a rebuild. -/
def Diverges(run:List (Action (machine plain))):Prop:=
 ∃ P,(fresh plain).follow (mirrorRuns plain) run=some P∧Reach (mirrorRuns plain) (fresh plain) P∧
  P.state.locked=false∧∃ t t':State Nat Nat,∃ m m' b b',
   (push plain).alone (machine plain) quiet 0 P.state=some (.ok b,m,t)∧
   (push plain).alone (machine plain) quiet 0 (cold P.state)=some (.ok b',m',t')∧
   t.mirror.commits≠t'.mirror.commits

lemma diverges_of_check{run}
 (h:((fresh plain).follow (mirrorRuns plain) run).any fun P=>!P.state.locked&&differs P):
 Diverges run:=by
 obtain ⟨P,hfollow,hP⟩:=(Option.any_eq_true _ _).1 h
 simp only[differs,Bool.and_eq_true,Bool.not_eq_true',bne_iff_ne] at hP
 obtain ⟨hfree,⟨hsync,hcold⟩,hne⟩:=hP
 obtain ⟨b,m,hsync⟩:=alone_of_completes hsync
 obtain ⟨b',m',hcold⟩:=alone_of_completes hcold
 exact ⟨P,hfollow,reach_of_follow _ .init hfollow,hfree,_,_,m,m',b,b',hsync,hcold,hne⟩

theorem mirror_diverges:Diverges amendedRow∧Diverges droppedRow∧Diverges overtakenRow∧Diverges forgedTrailer:=
 ⟨diverges_of_check (by decide +kernel),diverges_of_check (by decide +kernel),diverges_of_check (by decide +kernel),
  diverges_of_check (by decide +kernel)⟩

end Dazyflow.MirrorCache
