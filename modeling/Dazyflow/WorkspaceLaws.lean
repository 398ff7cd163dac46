import Dazyflow.PgOutcomes
import Dazyflow.PublishedRevisions
import Dazyflow.WorkspaceBackends

/-!
# What the methods of either backend do to a flow

The laws say what a method does to the draft, the environments and the published revision of each flow.
-/
namespace Dazyflow.WorkspaceLaws
open WorkspaceStore KeyedTable WorkspaceBackends Function Option
open GoStrings (quote trimSpace)

variable {α:Type}

/-- `Sound` holds of every state; `Pinned` of a flow whose published revision is one that
 can be read. -/
structure Invariants(B:Backend α) where
 Sound:B.State→Prop
 Pinned:B.State→String→Prop

variable {B:Backend α}

structure Saved(I:Invariants B)(s:B.State)(graphID:String)(content:α)(r:Except String String)
 (s':B.State):Prop where
 sound:I.Sound s'
 ok:∀ rev,r=.ok rev→B.load s' graphID=.ok content
 error:∀ message,r=.error message → s'=s
 others:∀ f,f≠graphID→B.load s' f=B.load s f
 envs:∀ f env,B.envCommit s' f env=B.envCommit s f env
 published:∀ f,I.Pinned s f→I.Pinned s' f∧B.loadPublished s' f=B.loadPublished s f

structure Deleted(I:Invariants B)(s:B.State)(graphID:String)(r:Except String String)
 (s':B.State):Prop where
 sound:I.Sound s'
 ok:∀ rev,r=.ok rev→B.load s' graphID=.error .graphNotFound
 error:∀ message,r=.error message → s'=s
 others:∀ f,f≠graphID→B.load s' f=B.load s f∧∀ env,B.envCommit s' f env=B.envCommit s f env
 envs:∀ env,B.envCommit s' graphID env=""∨B.envCommit s' graphID env=B.envCommit s graphID env

structure Laws(I:Invariants B):Prop where
 initial:I.Sound B.initial∧∀ f,I.Pinned B.initial f
 save:∀ s c graphID content author coalesce,I.Sound s→B.fits s c (.save graphID content author coalesce)→
  Saved I s graphID content (B.write c (.save graphID content author coalesce) s).1
   (B.write c (.save graphID content author coalesce) s).2
 delete:∀ s c graphID author,I.Sound s→B.fits s c (.delete graphID author)→
  Deleted I s graphID (B.write c (.delete graphID author) s).1 (B.write c (.delete graphID author) s).2
 setEnv:∀ s graphID env commit,I.Sound s→
  I.Sound (B.setEnv graphID env commit s).2∧∀ f,B.load (B.setEnv graphID env commit s).2 f=B.load s f
 setEnv_error:∀ s graphID env commit message,(B.setEnv graphID env commit s).1=.error message→
  (B.setEnv graphID env commit s).2=s
 setEnv_other:∀ s graphID env commit f,validGraphID f → graphID≠f∨env≠publishedEnv→
  B.publishedCommit (B.setEnv graphID env commit s).2 f=B.publishedCommit s f
 publish:∀ s graphID commit content,I.Sound s→I.Pinned s graphID→B.loadAt s commit graphID=.ok content→
  I.Pinned (B.setEnv graphID publishedEnv commit s).2 graphID∧
   B.loadPublished (B.setEnv graphID publishedEnv commit s).2 graphID=.ok content
 clearEnv:∀ s graphID env,I.Sound s→
  I.Sound (B.clearEnv graphID env s).2∧(∀ f,B.load (B.clearEnv graphID env s).2 f=B.load s f)∧
   ∀ f,B.publishedCommit (B.clearEnv graphID env s).2 f=""∨
    B.publishedCommit (B.clearEnv graphID env s).2 f=B.publishedCommit s f
 setLabel:∀ s graphID commit label,I.Sound s→
  I.Sound (B.setLabel graphID commit label s).2∧(∀ f,B.load (B.setLabel graphID commit label s).2 f=B.load s f)∧
   ∀ f,I.Pinned s f→I.Pinned (B.setLabel graphID commit label s).2 f∧
    B.loadPublished (B.setLabel graphID commit label s).2 f=B.loadPublished s f
 invalid:∀ s f,I.Sound s→validGraphID f=false→
  (∃ e,B.load s f=.error e)∧∀ ref,∃ e,B.loadAt s ref f=.error e

section Git

open GitWorkspace

variable [DecidableEq α] {git:Revisions α}

@[reducible] def gitInvariants(git:Revisions α):Invariants (gitBackend git) where
 Sound:=fun repo=>Stored repo∧Synced repo
 Pinned:=fun repo f=>∀ t,repo.tags.find? (envTag f publishedEnv)=some t→
  ∃ c,repo.commits.find? t.hash=some c

lemma loadPublished_git{repo}(hs:Stored repo){f}(hp:(gitInvariants git).Pinned repo f):
 (gitBackend git).loadPublished repo f=match repo.tags.find? (envTag f publishedEnv) with
  | none=>.error .notPublished
  | some t=>readAtHash repo t.hash f:=by
 have henv:(gitBackend git).publishedCommit repo f =
  ((repo.tags.find? (envTag f publishedEnv)).map EnvTag.hash).getD "":=rfl
 unfold Backend.loadPublished
 rw[henv]
 cases ht:repo.tags.find? (envTag f publishedEnv) with
 | none=>rfl
 | some t=>
  obtain ⟨c,hc⟩:=hp t ht
  simp only[map_some,getD_some,if_neg (hs.hashes t.hash c hc)]
  exact loadAt_hash hc f
lemma published_kept{repo repo'}(hs:Stored repo)(hs':Stored repo')(htags:repo'.tags=repo.tags)
 (hkept:∀ h c,repo.commits.find? h=some c → repo'.commits.find? h=some c){f}
 (hp:(gitInvariants git).Pinned repo f):
 (gitInvariants git).Pinned repo' f∧
  (gitBackend git).loadPublished repo' f=(gitBackend git).loadPublished repo f:=by
 have hp':(gitInvariants git).Pinned repo' f:=by
  intro t ht
  rw[htags] at ht
  obtain ⟨c,hc⟩:=hp t ht
  exact ⟨c,hkept _ c hc⟩
 refine ⟨hp',?_⟩
 rw[loadPublished_git hs' hp',loadPublished_git hs hp,htags]
 cases ht:repo.tags.find? (envTag f publishedEnv) with
 | none=>rfl
 | some t=>
  obtain ⟨c,hc⟩:=hp t ht
  exact readAtHash_kept hc (hkept _ c hc) f
lemma git_saved(repo c graphID)(content:α)(author coalesce)
 (hs:Stored repo∧Synced repo)(hc:gitFits repo c (.save graphID content author coalesce)):
 Saved (gitInvariants git) repo graphID content (GitWorkspace.save c graphID content author coalesce repo).1
  (GitWorkspace.save c graphID content author coalesce repo).2:=by
 unfold GitWorkspace.save
 by_cases hvalid:validGraphID graphID=false
 ·rw[if_pos hvalid]
  exact ⟨hs,nofun,fun _ _=>rfl,fun _ _=>rfl,fun _ _=>rfl,fun f hp=>⟨hp,rfl⟩⟩
 rw[if_neg hvalid]
 have hfiles:∀ k,(stage graphID content repo).files.lookup k=if k=graphID then some content
  else repo.files.lookup k:=lookup_setFile graphID content repo.files
 have hids:∀ id x,(stage graphID content repo).files.lookup id=some x→validGraphID id:=by
  intro id x hx
  rw[hfiles] at hx
  by_cases hk:id=graphID
  ·rw[hk]
   exact Bool.not_eq_false _ |>.mp hvalid
  ·rw[if_neg hk] at hx
   exact files_valid hs hx
 have hne:(stage graphID content repo).files≠[]:=by
  intro h
  have hown:=hfiles graphID
  rw[h,if_pos rfl] at hown
  cases hown
 have hstored:Stored (stage graphID content repo):=⟨hs.1.head,hs.1.hashes,hs.1.parents,hs.1.ids⟩
 obtain ⟨h,hok,hset⟩:=settled_saveStaged hstored hne hids hc
 have hsound:Stored _∧Synced _:=⟨hset.stored,hset.synced⟩
 refine ⟨hsound,fun _ _=>?_,fun m hm=>?_,fun f hf=>?_,fun f env=>envCommit_of_tags hset.tags f env,
  fun f hp=>published_kept hs.1 hset.stored hset.tags hset.kept hp⟩
 ·change GitWorkspace.load _ graphID=_
  rw[load_synced hset.stored hset.synced,hset.files,hfiles,if_pos rfl]
 ·rw[hok] at hm
  cases hm
 ·exact load_eq hs hsound (by rw[hset.files,hfiles,if_neg hf])
lemma git_deleted(repo c graphID author)(hs:Stored repo∧Synced repo)
 (hc:gitFits repo c (.delete graphID author)):
 Deleted (gitInvariants git) repo graphID (GitWorkspace.delete c graphID author repo).1
  (GitWorkspace.delete c graphID author repo).2:=by
 unfold GitWorkspace.delete
 split
 ·exact ⟨hs,nofun,fun _ _=>rfl,fun _ _=>⟨rfl,fun _=>rfl⟩,fun _=>.inr rfl⟩
 by_cases habsent:(repo.files.lookup graphID).isNone
 ·rw[if_pos habsent]
  refine ⟨hs,fun _ _=>?_,fun _ _=>rfl,fun _ _=>⟨rfl,fun _=>rfl⟩,fun _=>.inr rfl⟩
  change GitWorkspace.load repo graphID=_
  rw[load_synced hs.1 hs.2,isNone_iff_eq_none.1 habsent]
 rw[if_neg habsent]
 have hfiles:∀ k,(unstage graphID repo).files.lookup k=if k=graphID then none else repo.files.lookup k:=
  lookup_removeFile graphID repo.files
 have hids:∀ id x,(unstage graphID repo).files.lookup id=some x→validGraphID id:=by
  intro id x hx
  rw[hfiles] at hx
  by_cases hk:id=graphID
  ·rw[if_pos hk] at hx
   cases hx
  ·rw[if_neg hk] at hx
   exact files_valid hs hx
 have hstored:Stored (unstage graphID repo):=⟨hs.1.head,hs.1.hashes,hs.1.parents,hs.1.ids⟩
 obtain ⟨h,hok,hset⟩:=settled_deleteStaged hstored hids hc
 have hsound:Stored _∧Synced _:=⟨hset.stored,hset.synced⟩
 refine ⟨hsound,fun _ _=>?_,fun m hm=>?_,fun f hf=>⟨?_,envCommit_of_tags hset.tags f⟩,
  fun env=>.inr (envCommit_of_tags hset.tags graphID env)⟩
 ·change GitWorkspace.load _ graphID=_
  rw[load_synced hset.stored hset.synced,hset.files,hfiles,if_pos rfl]
 ·rw[hok] at hm
  cases hm
 ·exact load_eq hs hsound (by rw[hset.files,hfiles,if_neg hf])
lemma git_publish(repo graphID commit)(content:α)(hs:Stored repo∧Synced repo)
 (hload:GitWorkspace.loadAt git repo commit graphID=.ok content):
 (gitInvariants git).Pinned (GitWorkspace.setEnv git graphID publishedEnv commit repo).2 graphID∧
  (gitBackend git).loadPublished (GitWorkspace.setEnv git graphID publishedEnv commit repo).2 graphID =
   .ok content:=by
 unfold GitWorkspace.loadAt at hload
 cases hr:resolveHash git repo commit with
 | none=>
  rw[hr] at hload
  cases hload
 | some h=>
  rw[hr] at hload
  have hset:(GitWorkspace.setEnv git graphID publishedEnv commit repo).2 =
   {repo with tags:=repo.tags.upsert ⟨graphID,publishedEnv,h⟩}:=by
   unfold GitWorkspace.setEnv
   rw[if_neg (by decide),hr]
  obtain ⟨c,hc⟩:∃ c,repo.commits.find? h=some c:=by
   cases hf:repo.commits.find? h with
   | none=>simp[readAtHash,Repo.treeOf,hf] at hload
   | some c=>exact ⟨c,rfl⟩
  have htag:(repo.tags.upsert ⟨graphID,publishedEnv,h⟩).find? (envTag graphID publishedEnv) =
   some ⟨graphID,publishedEnv,h⟩:=
   (find?_upsert _ _ _).trans (if_pos rfl)
  have hsound:=(refsOnly_setEnv git graphID publishedEnv commit repo).sound hs
  rw[hset] at hsound ⊢
  have hpin:(gitInvariants git).Pinned
   {repo with tags:=repo.tags.upsert ⟨graphID,publishedEnv,h⟩} graphID:=by
   intro t ht
   rw[htag] at ht
   cases ht
   exact ⟨c,hc⟩
  refine ⟨hpin,?_⟩
  rw[loadPublished_git hsound.1 hpin]
  simp only[htag]
  exact hload
lemma git_laws:Laws (gitInvariants git) where
 initial:=⟨stored_openOrInit git,fun f t ht=>(nomatch ht)⟩
 save:=fun s c graphID content author coalesce hs hc=>git_saved s c graphID content author coalesce hs hc
 delete:=fun s c graphID author hs hc=>git_deleted s c graphID author hs hc
 setEnv:=fun repo graphID env commit hs=>
  ⟨(refsOnly_setEnv git graphID env commit repo).sound hs,(refsOnly_setEnv git graphID env commit repo).load⟩
 setEnv_error:=by
  intro repo graphID env commit message
  change (GitWorkspace.setEnv git graphID env commit repo).1=_→(GitWorkspace.setEnv git graphID env commit repo).2=_
  unfold GitWorkspace.setEnv
  split_ifs
  ·exact fun _=>rfl
  ·cases resolveHash git repo commit with
   | none=>exact fun _=>rfl
   | some h=>exact nofun
 setEnv_other:=by
  intro repo graphID env commit f hf hne
  change GitWorkspace.envCommit (GitWorkspace.setEnv git graphID env commit repo).2 f publishedEnv =
   GitWorkspace.envCommit repo f publishedEnv
  unfold GitWorkspace.setEnv
  split_ifs
  ·rfl
  cases resolveHash git repo commit with
  | none=>rfl
  | some h=>?_
  have hname:envTag f publishedEnv≠EnvTag.name ⟨graphID,env,h⟩:=by
   intro heq
   obtain ⟨hg,he⟩:=envTag_inj (not_mem_of_valid hf (by decide)) (by decide) heq.symm
   rcases hne with hne | hne
   ·exact hne hg
   ·exact hne he
  simp only[GitWorkspace.envCommit,find?_upsert,if_neg hname]
 publish:=fun repo graphID commit content hs _ hload=>git_publish repo graphID commit content hs hload
 clearEnv:=by
  intro repo graphID env hs
  have hrefs:=refsOnly_clearEnv graphID env repo
  refine ⟨hrefs.sound hs,hrefs.load,fun f=>?_⟩
  change GitWorkspace.envCommit (GitWorkspace.clearEnv graphID env repo).2 f publishedEnv=""∨
   GitWorkspace.envCommit (GitWorkspace.clearEnv graphID env repo).2 f publishedEnv =
    GitWorkspace.envCommit repo f publishedEnv
  unfold GitWorkspace.clearEnv
  split_ifs
  ·exact .inr rfl
  simp only[GitWorkspace.envCommit,find?_erase]
  cases repo.tags.find? (envTag f publishedEnv) with
  | none=>exact .inl rfl
  | some t=>
   by_cases ht:(t.name==envTag graphID env)
   ·exact .inl (by simp[filter_some,ht])
   ·exact .inr (by simp[filter_some,ht])
 setLabel:=by
  intro repo graphID commit label hs
  obtain ⟨hrefs,htags⟩:=refsOnly_setLabel git graphID commit label repo
  refine ⟨hrefs.sound hs,hrefs.load,fun f hp=>?_⟩
  exact published_kept hs.1 (hrefs.sound hs).1 htags (fun h c hc=>hrefs.commits▸hc) hp
 invalid:=by
  intro repo f hs hf
  constructor
  ·refine ⟨.graphNotFound,?_⟩
   change GitWorkspace.load repo f=_
   rw[load_synced hs.1 hs.2]
   cases hl:repo.files.lookup f with
   | none=>rfl
   | some content=>
    rw[files_valid hs hl] at hf
    cases hf
  intro ref
  change ∃ e,GitWorkspace.loadAt git repo ref f=.error e
  unfold GitWorkspace.loadAt
  cases resolveHash git repo ref with
  | none=>exact ⟨_,rfl⟩
  | some h=>?_
  dsimp only[readAtHash]
  cases ht:repo.treeOf h with
  | none=>exact ⟨_,rfl⟩
  | some tree=>
   cases hl:tree.lookup f with
   | none=>exact ⟨.graphNotFound,by simp only[hl]⟩
   | some content=>
    rw[hs.1.ids h tree f content ht hl] at hf
    cases hf

end Git

open PgWorkspace PgTransactions PgOutcomes PublishedRevisions FlowRows

section Rows

structure Headed(rows:FlowRows α)(graphID:String):Prop where
 head:∀ h,rows.head=some h→h≠""∧∃ r,rows.find? h=some r
 invalid:validGraphID graphID=false→∀ k,rows.find? k=none

variable {rows rows':FlowRows α}{graphID:String}

lemma readAt_head{h content}(hh:rows.head=some h)(hne:h≠"")
 (hc:rows.contentOf h=some (some content)):rows.readAt "HEAD"=.ok content:=by
 have hres:rows.resolve "HEAD"=h:=by
  rw[FlowRows.resolve,if_pos (.inr rfl),hh]
  rfl
 unfold readAt
 rw[hres,if_neg hne,hc]

structure RowsSaved(rows:FlowRows α)(graphID:String)(content:α)(r:Except String String)
 (rows':FlowRows α):Prop where
 headed:Headed rows' graphID
 ok:∀ rev,r=.ok rev → rows'.readAt "HEAD"=.ok content
 error:∀ message,r=.error message → rows'=rows
 envs:rows'.envs=rows.envs
 names:∀ rev r,rows'.find? rev=some r→(∃ r',rows.find? rev=some r')∨rev≠publishedEnv
 leaves:Sound rows→Leaves rows rows'

lemma rowsSaved{content r}
 (hvalid:validGraphID graphID)(h:SaveOutcome (minted rows) rows content r rows')
 (hh:Headed rows graphID):RowsSaved rows graphID content r rows':=by
 have hval:validGraphID graphID=false→∀ rows'':FlowRows α,∀ k,rows''.find? k=none:=by
  rw[hvalid]
  exact nofun
 cases h with
 | refused message=>
  exact ⟨hh,nofun,fun _ _=>rfl,rfl,fun _ r hr=>.inl ⟨r,hr⟩,fun hs=>⟨hs,fun _ _=>rfl⟩⟩
 | same hhead hne hc=>
  exact ⟨hh,fun _ _=>readAt_head hhead hne hc,nofun,rfl,fun _ r hr=>.inl ⟨r,hr⟩,
   fun hs=>⟨hs,fun _ _=>rfl⟩⟩
 | created r hid hfresh hparent hc=>
  have hfind:∀ k,((rows.write (.insertRevision r)).write (.setHead r.revision)).find? k =
   if k=r.revision then some r else rows.find? k:=find?_insertRevision rows r hfresh
  have hown:=(hfind r.revision).trans (if_pos rfl)
  have hunused:=unused_of_fresh hid.1
  refine ⟨⟨fun h hhd=>?_,fun hv=>hval hv _⟩,fun _ _=>readAt_head rfl hunused.name.1 ?_,nofun,
   insertRevision_envs rows r,fun rev r' hr=>?_,fun hs=>?_⟩
  ·cases hhd
   exact ⟨hunused.name.1,r,hown⟩
  ·rw[contentOf,hown,map_some,hc]
  ·rw[hfind] at hr
   by_cases hk:rev=r.revision
   ·exact .inr (hk▸hid.2)
   ·rw[if_neg hk] at hr
    exact .inl ⟨r',hr⟩
  ·refine leaves_advanced hs ⟨rfl,hparent,hunused⟩ rfl rfl rfl fun e he=>?_
   rw[←insertRevision_envs rows r]
   exact he
 | @amended head message now hhead hne hrow hfree=>
  have hfind:=find?_setContent rows head content message now
  obtain ⟨row,hrow⟩:=hrow
  have hown:(rows.write (.setContent head content message now)).find? head =
   some {row with content:=some content,message:=message,createdAt:=now}:=by
   rw[hfind,if_pos rfl,hrow]
   rfl
  refine ⟨⟨fun h hhd=>?_,fun hv=>hval hv _⟩,fun _ _=>readAt_head hhead hne ?_,nofun,rfl,fun rev r' hr=>?_,
   fun hs=>leaves_amended content message now hs hfree⟩
  ·rw[show h=head from Option.some.inj (hhd.symm.trans hhead)]
   exact ⟨hne,_,hown⟩
  ·rw[contentOf,hown]
   rfl
  ·rw[hfind] at hr
   by_cases hk:rev=head
   ·exact .inl ⟨row,hk▸hrow⟩
   ·rw[if_neg hk] at hr
    exact .inl ⟨r',hr⟩
 | @dropped head parent hhead hfree hne hnonempty hc=>
  have hfind:∀ k,((rows.write (.deleteRevision head)).write (.setHead parent)).find? k =
   if k=head then none else rows.find? k:=find?_deleteRevision rows head
  have hown:=(hfind parent).trans (if_neg hne)
  obtain ⟨row,hrow,hcontent⟩:=map_eq_some_iff.1 hc
  refine ⟨⟨fun h hhd=>?_,fun hv=>hval hv _⟩,fun _ _=>readAt_head rfl hnonempty ?_,nofun,rfl,
   fun rev r' hr=>?_,fun hs=>leaves_moved hs hfree ⟨row,hrow⟩ hne⟩
  ·cases hhd
   exact ⟨hnonempty,row,hown.trans hrow⟩
  ·rw[contentOf,hown,hrow,map_some,hcontent]
  ·rw[hfind] at hr
   split_ifs at hr
   exact .inl ⟨r',hr⟩
lemma readAt_head_absent(h:∀ head,rows.head=some head→head=""∨rows.contentOf head=some none):
 rows.readAt "HEAD"=.error .graphNotFound:=by
 unfold readAt FlowRows.resolve
 rw[if_pos (Or.inr rfl)]
 cases hh:rows.head with
 | none=>rfl
 | some head=>
  rcases h head hh with rfl | hc
  ·rfl
  ·rw[getD_some,hc]
   split_ifs<;>rfl

structure RowsDeleted(rows:FlowRows α)(graphID:String)(r:Except String String)(rows':FlowRows α):Prop where
 headed:Headed rows' graphID
 ok:∀ rev,r=.ok rev → rows'.readAt "HEAD"=.error .graphNotFound
 error:∀ message,r=.error message → rows'=rows
 envs:(∀ env,rows'.readEnv env="")∨rows'=rows

lemma rowsDeleted{r}
 (h:DeleteOutcome (minted rows) rows r rows')(hh:Headed rows graphID):RowsDeleted rows graphID r rows':=by
 cases h with
 | refused message=>exact ⟨hh,nofun,fun _ _=>rfl,.inr rfl⟩
 | absent h=>exact ⟨hh,fun _ _=>readAt_head_absent h,nofun,.inr rfl⟩
 | buried r _ hid hfresh hparent hold hc hrev hhead henvs=>?_
 have hfind:∀ k,rows'.find? k=if k=r.revision then some r else rows.find? k:=by
  intro k
  rw[←find?_insertRevision rows r hfresh k]
  unfold FlowRows.find?
  rw[hrev]
 have hown:=(hfind r.revision).trans (if_pos rfl)
 refine ⟨⟨fun h hhd=>?_,fun hv=>?_⟩,fun _ _=>readAt_head_absent fun h hhd=>.inr ?_,nofun,
  .inl fun env=>?_⟩
 ·rw[show h=r.revision from Option.some.inj (hhd.symm.trans hhead)]
  exact ⟨(unused_of_fresh hid.1).name.1,r,hown⟩
 · -- a flow that cannot be saved has nothing to delete
  obtain ⟨x,hx⟩:=hold
  rw[contentOf,hh.invalid hv] at hx
  cases hx
 ·rw[show h=r.revision from Option.some.inj (hhd.symm.trans hhead),contentOf,hown,map_some,hc]
 ·unfold readEnv
  rw[henvs]
  rfl
lemma Headed.with_envs(h:Headed rows graphID)
 (envs):Headed {rows with envs:=envs} graphID:=⟨h.head,h.invalid⟩
lemma readAt_head_congr(hhead:rows'.head=rows.head)
 (hc:∀ k,rows'.contentOf k=rows.contentOf k):rows'.readAt "HEAD"=rows.readAt "HEAD":=by
 unfold readAt FlowRows.resolve
 rw[if_pos (Or.inr rfl),if_pos (Or.inr rfl),hhead,hc]
lemma Headed.relabel(h:Headed rows graphID)(rev label):
 Headed (rows.relabel rev label) graphID:=by
 refine ⟨fun hd hhd=>⟨(h.head hd hhd).1,?_⟩,fun hv k=>?_⟩
 ·rw[←isSome_find?,isSome_relabel,isSome_find?]
  exact (h.head hd hhd).2
 ·rw[←not_isSome_iff_eq_none,isSome_relabel,h.invalid hv k]
  exact nofun
lemma readPublished_congr(hs:Sound rows)(hs':Sound rows')
 (henv:rows'.envs.find? publishedEnv=rows.envs.find? publishedEnv)
 (hc:∀ e,rows.envs.find? publishedEnv=some e → rows'.contentOf e.revision=rows.contentOf e.revision):
 rows'.readPublished=rows.readPublished:=by
 rw[readPublished_eq hs,readPublished_eq hs',henv]
 cases he:rows.envs.find? publishedEnv with
 | none=>rfl
 | some e=>simp only[hc e he]
lemma set_cases{P:FlowRows α→String→Prop}{s:Rows α}
 (hs:∀ f,P (s f) f)(h:P rows graphID):∀ f,P (s.set graphID rows f) f:=by
 intro f
 by_cases hf:f=graphID
 ·subst hf
  rw[Rows.set,update_self]
  exact h
 ·rw[Rows.set,update_of_ne hf]
  exact hs f
lemma readAt_set{s:Rows α}
 (h:rows.readAt "HEAD"=(s graphID).readAt "HEAD")(f):
 (s.set graphID rows f).readAt "HEAD"=(s f).readAt "HEAD":=by
 by_cases hf:f=graphID
 ·subst hf
  rw[Rows.set,update_self,h]
 ·rw[Rows.set,update_of_ne hf]

end Rows

section Postgres

variable [DecidableEq α]{β:Type}

lemma runMethod_ends{ids:String→Prop}{graphID p}
 {rows}{Q:Except String β→FlowRows α→Prop}(h:Ends ids graphID p {rows:=rows} Q)
 {o}(ho:∀ k,ids (o k).newID):
 Q (runMethod graphID p o rows).1 (runMethod graphID p o rows).2:=by
 obtain ⟨a,n',t,hr,-,hQ⟩:=h o 0 ho
 unfold runMethod
 rw[hr]
 exact hQ

variable (α) in
@[reducible] def pgInvariants:Invariants (pgBackend α) where
 Sound:=fun s=>∀ f,Headed (s f) f
 Pinned:=fun s f=>Sound (s f)∧∀ rev r,(s f).find? rev=some r → rev≠publishedEnv

lemma pg_saved(s)(o:Nat→Oracle)(graphID)(content:α)(author coalesce)
 (hs:∀ f,Headed (s f) f)(hc:∀ k,minted (s graphID) (o k).newID):
 Saved (pgInvariants α) s graphID content (pgWrite o (.save graphID content author coalesce) s).1
  (pgWrite o (.save graphID content author coalesce) s).2:=by
 have hrows:RowsSaved (s graphID) graphID content (pgWrite o (.save graphID content author coalesce) s).1
  ((pgWrite o (.save graphID content author coalesce) s).2 graphID):=by
  rw[show (pgWrite o (.save graphID content author coalesce) s).2 graphID =
   (runMethod graphID (PgWorkspace.save graphID content author coalesce) o (s graphID)).2 from
    update_self graphID _ s]
  cases hvalid:validGraphID graphID with
  | false=>
   have hrun:runMethod graphID (PgWorkspace.save graphID content author coalesce) o (s graphID) =
    (.error "invalid flow id",s graphID):=by
    unfold runMethod PgWorkspace.save
    rw[if_pos hvalid]
    rfl
   rw[pgWrite,hrun]
   exact ⟨hs graphID,nofun,fun _ _=>rfl,rfl,fun _ r hr=>.inl ⟨r,hr⟩,fun hs=>⟨hs,fun _ _=>rfl⟩⟩
  | true=>exact rowsSaved hvalid (runMethod_ends (ends_save author coalesce) hc) (hs graphID)
 have hother:∀ f,f≠graphID→(pgWrite o (.save graphID content author coalesce) s).2 f=s f:=
  fun f hf=>update_of_ne hf _ s
 generalize (pgWrite o (.save graphID content author coalesce) s).2=s' at hrows hother ⊢
 refine ⟨fun f=>?_,hrows.ok,fun m hm=>?_,fun f hf=>?_,fun f env=>?_,fun f hp=>?_⟩
 ·by_cases hf:f=graphID
  ·exact hf▸hrows.headed
  ·rw[hother f hf]
   exact hs f
 ·funext f
  by_cases hf:f=graphID
  ·rw[hf]
   exact hrows.error m hm
  ·exact hother f hf
 ·change (s' f).readAt "HEAD"=_
  rw[hother f hf]
 ·change (s' f).readEnv env=(s f).readEnv env
  by_cases hf:f=graphID
  ·rw[hf,readEnv,hrows.envs]
   rfl
  ·rw[hother f hf]
 ·by_cases hf:f=graphID
  ·subst hf
   obtain ⟨hsound,hnames⟩:=hp
   have hleaves:=hrows.leaves hsound
   refine ⟨⟨hleaves.sound,fun rev r hr=>?_⟩,?_⟩
   ·rcases hrows.names rev r hr with ⟨r',hr'⟩ | hne
    ·exact hnames rev r' hr'
    ·exact hne
   ·refine readPublished_congr hsound hleaves.sound (by rw[hrows.envs]) fun e he=>?_
    unfold contentOf
    rw[hleaves.held _ (.inl ⟨e,((find?_eq_some_iff _ _ _).1 he).1,rfl⟩)]
  ·change (Sound (s' f)∧_)∧(s' f).readPublished=(s f).readPublished
   rw[hother f hf]
   exact ⟨hp,rfl⟩
lemma pg_rowsDeleted(s:Rows α)(o:Nat→Oracle)(graphID author:String)(hs:Headed (s graphID) graphID)
 (hc:∀ k,minted (s graphID) (o k).newID):
 RowsDeleted (s graphID) graphID (pgWrite o (.delete graphID author) s).1
  ((pgWrite o (.delete graphID author) s).2 graphID):=by
 rw[show (pgWrite o (.delete graphID author) s).2 graphID =
  (runMethod graphID (PgWorkspace.delete (α:=α) graphID author) o (s graphID)).2 from
   update_self graphID _ s]
 exact rowsDeleted (runMethod_ends (ends_delete author) hc) hs
lemma pg_deleted(s:Rows α)(o:Nat→Oracle)(graphID author:String)(hs:∀ f,Headed (s f) f)
 (hc:∀ k,minted (s graphID) (o k).newID):
 Deleted (pgInvariants α) s graphID (pgWrite o (.delete graphID author) s).1
  (pgWrite o (.delete graphID author) s).2:=by
 have hrows:=pg_rowsDeleted s o graphID author (hs graphID) hc
 have hother:∀ f,f≠graphID→(pgWrite o (.delete graphID author) s).2 f=s f:=
  fun f hf=>update_of_ne hf _ s
 generalize (pgWrite o (.delete graphID author) s).2=s' at hrows hother ⊢
 refine ⟨fun f=>?_,hrows.ok,fun m hm=>?_,fun f hf=>?_,fun env=>?_⟩
 ·by_cases hf:f=graphID
  ·exact hf▸hrows.headed
  ·rw[hother f hf]
   exact hs f
 ·funext f
  by_cases hf:f=graphID
  ·rw[hf]
   exact hrows.error m hm
  ·exact hother f hf
 ·change (s' f).readAt "HEAD"=(s f).readAt "HEAD"∧∀ env,(s' f).readEnv env=(s f).readEnv env
  rw[hother f hf]
  exact ⟨rfl,fun _=>rfl⟩
 ·rcases hrows.envs with h | h
  ·exact .inl (h env)
  ·exact .inr (by change (s' graphID).readEnv env=_; rw[h])
lemma pg_delete_clears(s:Rows α)(o:Nat→Oracle)(graphID author:String){content rev}
 (hs:∀ f,Headed (s f) f)(hc:∀ k,minted (s graphID) (o k).newID)
 (hload:(s graphID).readAt "HEAD"=.ok content)(hok:(pgWrite o (.delete graphID author) s).1=.ok rev)
 (env:String):((pgWrite o (.delete graphID author) s).2 graphID).readEnv env="":=by
 have hrows:=pg_rowsDeleted s o graphID author (hs graphID) hc
 rcases hrows.envs with h | h
 ·exact h env
 ·have hgone:=hrows.ok rev hok
  rw[h,hload] at hgone
  cases hgone
lemma runMethod_resolve(graphID commit)(k:String→PgWorkspace.Prog α (Except String β))
 (o:Nat→Oracle)(rows):
 ∃ n,runMethod graphID (resolveGraph commit>>=k) o rows =
  match (k (rows.resolve commit)).alone (backend α graphID) o n {rows:=rows} with
  | some (r,_,s)=>(r,s.rows)
  | none=>(.error "",rows):=by
 obtain ⟨a,n,t,hr,rfl,rfl⟩:=solo_resolveGraph graphID {rows:=rows} commit o 0
 refine ⟨n,?_⟩
 unfold runMethod
 rw[Interleaving.Prog.alone_bind,hr]
 rfl
lemma runMethod_setEnv(graphID env commit:String)(o:Nat→Oracle)(rows:FlowRows α):
 runMethod graphID (PgWorkspace.setEnv env commit) o rows =
  if env="" then (.error "env required",rows)
  else if rows.resolve commit="" then (.error ("could not resolve "++quote commit),rows)
  else (.ok (),rows.point env (rows.resolve commit)):=by
 unfold PgWorkspace.setEnv
 by_cases henv:env=""
 ·rw[if_pos henv,if_pos henv]
  rfl
 ·rw[if_neg henv,if_neg henv]
  obtain ⟨n,hrun⟩:=runMethod_resolve graphID commit (fun rev=>if rev="" then
   pure (.error ("could not resolve "++quote commit)) else do
    exec (.upsertEnv env rev)
    pure (.ok ())) o rows
  rw[hrun]
  by_cases hrev:rows.resolve commit=""
  ·rw[if_pos hrev,if_pos hrev]
   rfl
  ·rw[if_neg hrev,if_neg hrev]
   rfl
lemma runMethod_setLabel(graphID commit label:String)(o:Nat→Oracle)(rows:FlowRows α):
 (runMethod graphID (PgWorkspace.setLabel graphID commit label) o rows).2 =
  if graphID=""∨rows.resolve commit="" then rows
  else rows.relabel (rows.resolve commit) (trimSpace label):=by
 unfold PgWorkspace.setLabel
 by_cases hid:graphID=""
 ·rw[if_pos hid,if_pos (.inl hid)]
  rfl
 ·rw[if_neg hid]
  obtain ⟨n,hrun⟩:=runMethod_resolve graphID commit (fun rev=>if rev="" then
   pure (.error ("could not resolve "++quote commit)) else do
    exec (.updateLabel rev (trimSpace label))
    pure (.ok ())) o rows
  rw[hrun]
  by_cases hrev:rows.resolve commit=""
  ·rw[if_pos hrev,if_pos (.inr hrev)]
   rfl
  ·rw[if_neg hrev,if_neg (not_or.2 ⟨hid,hrev⟩)]
   rfl
lemma runMethod_clearEnv(graphID env:String)(o:Nat→Oracle)(rows:FlowRows α):
 (runMethod graphID (PgWorkspace.clearEnv env) o rows).2 =
  if env="" then rows else rows.write (.deleteEnv env):=by
 unfold runMethod PgWorkspace.clearEnv
 split_ifs<;>rfl
lemma pg_setEnv(s:Rows α)(graphID env commit:String)(hs:∀ f,Headed (s f) f):
 (∀ f,Headed ((pgCall graphID (PgWorkspace.setEnv env commit) s).2 f) f)∧
  ∀ f,((pgCall graphID (PgWorkspace.setEnv env commit) s).2 f).readAt "HEAD"=(s f).readAt "HEAD":=by
 unfold pgCall
 dsimp only
 rw[runMethod_setEnv]
 split_ifs
 ·exact ⟨set_cases hs (hs graphID),readAt_set rfl⟩
 ·exact ⟨set_cases hs (hs graphID),readAt_set rfl⟩
 ·exact ⟨set_cases hs ((hs graphID).with_envs _),readAt_set (readAt_head_congr rfl fun _=>rfl)⟩
lemma pg_setEnv_error(s:Rows α)(graphID env commit message:String)
 (h:(pgCall graphID (PgWorkspace.setEnv env commit) s).1=.error message):
 (pgCall graphID (PgWorkspace.setEnv env commit) s).2=s:=by
 unfold pgCall at h ⊢
 dsimp only at h ⊢
 rw[runMethod_setEnv] at h ⊢
 split_ifs at h ⊢<;>exact update_eq_self graphID s
lemma pg_setEnv_other(s:Rows α)(graphID env commit f:String)(hne:graphID≠f∨env≠publishedEnv):
 ((pgCall graphID (PgWorkspace.setEnv env commit) s).2 f).readEnv publishedEnv=(s f).readEnv publishedEnv:=by
 unfold pgCall
 dsimp only
 rw[runMethod_setEnv]
 by_cases hf:f=graphID
 ·subst hf
  rw[Rows.set,update_self]
  split_ifs
  ·rfl
  ·rfl
  ·have henv:publishedEnv≠env:=Ne.symm (hne.resolve_left fun h=>h rfl)
   unfold readEnv point
   rw[find?_upsert,if_neg henv]
 ·rw[Rows.set,update_of_ne hf]
lemma pg_publish(s:Rows α)(graphID commit:String)(content:α)(hp:(pgInvariants α).Pinned s graphID)
 (hload:(s graphID).readAt commit=.ok content):
 (pgInvariants α).Pinned (pgCall graphID (PgWorkspace.setEnv publishedEnv commit) s).2 graphID∧
  ((pgCall graphID (PgWorkspace.setEnv publishedEnv commit) s).2 graphID).readPublished=.ok content:=by
 obtain ⟨hsound,hnames⟩:=hp
 have hne:(s graphID).resolve commit≠"":=by
  intro h
  rw[readAt,if_pos h] at hload
  cases hload
 have hc:(s graphID).contentOf ((s graphID).resolve commit)=some (some content):=by
  rw[readAt,if_neg hne] at hload
  cases h:(s graphID).contentOf ((s graphID).resolve commit) with
  | none=>
   rw[h] at hload
   cases hload
  | some c=>
   cases c with
   | none=>
    rw[h] at hload
    cases hload
   | some c=>
    rw[h] at hload
    cases hload
    rfl
 obtain ⟨row,hrow,-⟩:=map_eq_some_iff.1 hc
 have hset:(pgCall graphID (PgWorkspace.setEnv publishedEnv commit) s).2 graphID =
  (s graphID).point publishedEnv ((s graphID).resolve commit):=by
  rw[show (pgCall graphID (PgWorkspace.setEnv publishedEnv commit) s).2 graphID=_ from
   update_self graphID _ s,runMethod_setEnv,if_neg (by decide),if_neg hne]
 have hfree:(s graphID).find? publishedEnv=none:=by
  cases h:(s graphID).find? publishedEnv with
  | none=>rfl
  | some r=>exact absurd rfl (hnames publishedEnv r h)
 have hsound':=sound_point hsound ⟨row,hrow⟩ hfree
 change (Sound _∧_)∧_
 rw[hset]
 refine ⟨⟨hsound',hnames⟩,?_⟩
 have henv:((s graphID).point publishedEnv ((s graphID).resolve commit)).envs.find? publishedEnv =
  some ⟨publishedEnv,(s graphID).resolve commit⟩:=(find?_upsert _ _ _).trans (if_pos rfl)
 rw[readPublished_eq hsound',henv]
 have hc':((s graphID).point publishedEnv ((s graphID).resolve commit)).contentOf ((s graphID).resolve commit) =
  some (some content):=hc
 simp only[hc']
lemma pg_clearEnv(s:Rows α)(graphID env:String)(hs:∀ f,Headed (s f) f):
 (∀ f,Headed ((pgCall graphID (PgWorkspace.clearEnv env) s).2 f) f)∧
  (∀ f,((pgCall graphID (PgWorkspace.clearEnv env) s).2 f).readAt "HEAD"=(s f).readAt "HEAD")∧
  ∀ f,((pgCall graphID (PgWorkspace.clearEnv env) s).2 f).readEnv publishedEnv=""∨
   ((pgCall graphID (PgWorkspace.clearEnv env) s).2 f).readEnv publishedEnv=(s f).readEnv publishedEnv:=by
 have henv:∀ rows:FlowRows α,(rows.write (.deleteEnv env)).readEnv publishedEnv=""∨
  (rows.write (.deleteEnv env)).readEnv publishedEnv=rows.readEnv publishedEnv:=by
  intro rows
  unfold readEnv FlowRows.write
  rw[find?_erase]
  cases rows.envs.find? publishedEnv with
  | none=>exact .inl rfl
  | some e=>
   by_cases he:(e.env==env)
   ·exact .inl (by simp[filter_some,he])
   ·exact .inr (by simp[filter_some,he])
 unfold pgCall
 dsimp only
 rw[runMethod_clearEnv]
 split_ifs
 ·exact ⟨set_cases hs (hs graphID),readAt_set rfl,fun f=>.inr (by
   by_cases hf:f=graphID
   ·subst hf
    rw[Rows.set,update_self]
   ·rw[Rows.set,update_of_ne hf])⟩
 ·refine ⟨set_cases hs ((hs graphID).with_envs _),readAt_set (readAt_head_congr rfl fun _=>rfl),fun f=>?_⟩
  by_cases hf:f=graphID
  ·subst hf
   rw[Rows.set,update_self]
   exact henv (s f)
  ·rw[Rows.set,update_of_ne hf]
   exact .inr rfl
lemma pg_setLabel(s:Rows α)(graphID commit label:String)(hs:∀ f,Headed (s f) f):
 (∀ f,Headed ((pgCall graphID (PgWorkspace.setLabel graphID commit label) s).2 f) f)∧
  (∀ f,((pgCall graphID (PgWorkspace.setLabel graphID commit label) s).2 f).readAt "HEAD"=(s f).readAt "HEAD")∧
  ∀ f,(pgInvariants α).Pinned s f→
   (pgInvariants α).Pinned (pgCall graphID (PgWorkspace.setLabel graphID commit label) s).2 f∧
    ((pgCall graphID (PgWorkspace.setLabel graphID commit label) s).2 f).readPublished=(s f).readPublished:=by
 unfold pgCall
 dsimp only
 rw[runMethod_setLabel]
 split_ifs
 ·refine ⟨set_cases hs (hs graphID),readAt_set rfl,fun f hp=>?_⟩
  rw[show s.set graphID (s graphID)=s from update_eq_self graphID s]
  exact ⟨hp,rfl⟩
 ·refine ⟨set_cases hs ((hs graphID).relabel _ _),readAt_set (readAt_head_congr rfl (contentOf_relabel _ _ _)),
   fun f hp=>?_⟩
  by_cases hf:f=graphID
  ·subst hf
   rw[Rows.set,update_self]
   have hsound:=sound_relabel ((s f).resolve commit) (trimSpace label) hp.1
   refine ⟨⟨hsound,fun rev r hr=>?_⟩,readPublished_congr hp.1 hsound rfl fun e _=>contentOf_relabel _ _ _ _⟩
   obtain ⟨r',hr'⟩:∃ r',(s f).find? rev=some r':=by
    rw[←isSome_find?,←isSome_relabel _ ((s f).resolve commit) (trimSpace label),isSome_find?]
    exact ⟨r,hr⟩
   exact hp.2 rev r' hr'
  ·rw[Rows.set,update_of_ne hf]
   exact ⟨hp,rfl⟩
lemma pg_laws:Laws (pgInvariants α) where
 initial:=⟨fun f=>⟨nofun,fun _ _=>rfl⟩,fun f=>⟨⟨nofun,nofun,nofun,nofun⟩,nofun⟩⟩
 save:=pg_saved
 delete:=pg_deleted
 setEnv:=pg_setEnv
 setEnv_error:=pg_setEnv_error
 setEnv_other:=fun s graphID env commit f _ hne=>pg_setEnv_other s graphID env commit f hne
 publish:=fun s graphID commit content _ hp hload=>pg_publish s graphID commit content hp hload
 clearEnv:=pg_clearEnv
 setLabel:=pg_setLabel
 invalid:=by
  intro s f hs hf
  have hnone:∀ ref,(s f).readAt ref=.error .graphNotFound:=by
   intro ref
   unfold readAt contentOf
   rw[(hs f).invalid hf]
   split_ifs<;>rfl
  exact ⟨⟨_,hnone "HEAD"⟩,fun ref=>⟨_,hnone ref⟩⟩

end Postgres

section Either

variable [DecidableEq α]

inductive Kind
 | git | postgres

@[reducible] def Kind.backend(git:GitWorkspace.Revisions α):Kind→Backend α
 | .git=>gitBackend git
 | .postgres=>pgBackend α

@[reducible] def Kind.invariants(git:GitWorkspace.Revisions α):(k:Kind)→Invariants (k.backend git)
 | .git=>gitInvariants git
 | .postgres=>pgInvariants α

lemma Kind.laws(git:GitWorkspace.Revisions α):(k:Kind)→Laws (k.invariants git)
 | .git=>git_laws
 | .postgres=>pg_laws

@[reducible] def plainBackend(k:Kind):Backend α:=k.backend GitWorkspace.plainRevisions

end Either

def pgID(id:String):Nat→Oracle:=fun _=>{newID:=id}

end Dazyflow.WorkspaceLaws
