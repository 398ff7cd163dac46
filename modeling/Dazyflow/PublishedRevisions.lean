import Dazyflow.PgTransactions

/-!
# Published and labelled revisions stay as they are

A coalescing save rewrites or drops the head revision after it has looked, in a statement of its own, that no
environment points at it and no label names it.
-/
namespace Dazyflow.PublishedRevisions
open PgWorkspace PgTransactions KeyedTable WorkspaceStore Interleaving Option Bool

variable {α:Type}

def headHeld(s:State α)(revision:String):Bool:=s.tx.any (fun tx=>tx.head==revision)

/-- A promote points at a revision that is there, under a name that is not itself a
 revision; it and a label keep away from a head that a transaction holds. -/
def careful(s:State α):Stmt α→Bool
 | .upsertEnv env revision=>
  (s.rows.find? revision).isSome&&(s.rows.find? env).isNone&&(s.view.find? env).isNone &&
   !headHeld s revision
 | .updateLabel revision _=>!headHeld s revision
 | _=>true

variable {s:State α}{c:Stmt α}{tx:Tx α}

lemma aside_step(o)(htx:s.tx=some tx)
 (hc:Stage.outside.allows c)(hp:possible s c)(hca:careful s c):
 (step c o s).2.tx=some tx∧Aside tx.head s.view s.rows (step c o s).2.rows:=by
 cases c with
 | lockHead=>simp[possible,htx] at hp
 | selectHeadRow | updateHead | deleteUnpinned | updateContent | insertRevision | upsertHead | deleteEnvs | commit
 | rollback | selectInTx=>simp[Stage.allows] at hc
 | selectHead | selectEnv | selectContent | newRevisionID | now=>exact ⟨htx,Aside.refl⟩
 | upsertEnv env rev=>
  simp only[careful,headHeld,htx,any_some,and_eq_true,not_eq_true',beq_eq_false_iff_ne,
   isNone_iff_eq_none] at hca
  obtain ⟨⟨⟨hrev,-⟩,hview⟩,hhead⟩:=hca
  refine ⟨htx,rfl,rfl,fun _=>rfl,fun e he=>?_⟩
  rcases mem_point he with rfl | ⟨hold,-⟩
  ·exact .inr ⟨Ne.symm hhead,isSome_find?.1 hrev,hview⟩
  ·exact .inl hold
 | deleteEnv env=>exact ⟨htx,rfl,rfl,fun _=>rfl,fun e he=>.inl (List.mem_of_mem_filter he)⟩
 | updateLabel rev label=>
  simp only[careful,headHeld,htx,any_some,not_eq_true',beq_eq_false_iff_ne] at hca
  refine ⟨htx,rfl,?_,fun k=>?_,fun e he=>.inl he⟩
  ·simp only[step,find?_relabel,if_neg hca]
  ·simp only[step,find?_relabel]
   by_cases hk:k=rev
   ·rw[if_pos hk,isSome_map,hk]
   ·rw[if_neg hk]

variable {n:Stage}

lemma fits_aside(o)(h:Fits s tx n)
 (hc:Stage.outside.allows c)(hp:possible s c)(hca:careful s c):
 Fits (step c o s).2 tx n:=by
 obtain ⟨htx,haside⟩:=aside_step o h.isOpen hc hp hca
 rw[h.head,view_of_tx h.isOpen] at haside
 exact ⟨htx,h.head,haside.kept▸h.locked,h.wrote.aside haside⟩

variable [DecidableEq α]

abbrev carefulRuns(graphID:String):Rules (backend α graphID):=
 Allowed (fun _ _=>True) (fun P _ c _=>possible P.state c∧careful P.state c)

section Kept

omit [DecidableEq α]

def Held(rows:FlowRows α)(rev:String):Prop:=
 (∃ e∈rows.envs.rows,e.revision=rev)∨∃ r,rows.find? rev=some r∧r.label≠""

variable {rows:FlowRows α}{head rev:String}

lemma not_held_of_free(h:Free rows head)(hr:Held rows rev):
 rev≠head:=by
 rintro rfl
 rcases hr with ⟨e,he,hrev⟩ | ⟨r,hr,hlabel⟩
 ·exact h.unpinned e he hrev
 ·exact hlabel (h.unlabelled r hr)

structure Leaves(rows rows':FlowRows α):Prop where
 sound:Sound rows'
 held:∀ rev,Held rows rev → rows'.find? rev=rows.find? rev

lemma leaves_moved{head parent:String}(hs:Sound rows)(hfree:Free rows head)
 (hpar:∃ r,rows.find? parent=some r)(hne:parent≠head):
 Leaves rows ((rows.write (.deleteRevision head)).write (.setHead parent)):=by
 have hfind:∀ k,((rows.write (.deleteRevision head)).write (.setHead parent)).find? k =
  if k=head then none else rows.find? k:=find?_deleteRevision rows head
 have hold:∀ rev r,((rows.write (.deleteRevision head)).write (.setHead parent)).find? rev=some r→
  rows.find? rev=some r:=by
  intro rev r hr
  rw[hfind] at hr
  split_ifs at hr
  exact hr
 refine ⟨⟨?_,?_,fun rev r hr=>hs.names rev r (hold rev r hr),fun rev r hr=>hs.parents rev r (hold rev r hr)⟩,?_⟩
 ·intro h hh
  cases hh
  rw[hfind,if_neg hne]
  exact hpar
 ·intro e he
  rw[hfind,if_neg (hfree.unpinned e he)]
  exact hs.envs e he
 ·intro rev hheld
  rw[hfind,if_neg (not_held_of_free hfree hheld)]
lemma leaves_amended{head:String}(content:α)(message now)
 (hs:Sound rows)(hfree:Free rows head):Leaves rows (rows.write (.setContent head content message now)):=by
 have hfind:=find?_setContent rows head content message now
 have hold:∀ rev r,(rows.write (.setContent head content message now)).find? rev=some r→
  ∃ r',rows.find? rev=some r'∧r'.parent=r.parent:=by
  intro rev r hr
  rw[hfind] at hr
  split_ifs at hr with hk
  ·obtain ⟨r',hr',rfl⟩:=map_eq_some_iff.1 hr
   exact ⟨r',hk▸hr',rfl⟩
  ·exact ⟨r,hr,rfl⟩
 have hnew:∀ rev,(∃ r,rows.find? rev=some r)→
  ∃ r,(rows.write (.setContent head content message now)).find? rev=some r:=by
  rintro rev ⟨r,hr⟩
  rw[hfind]
  by_cases hk:rev=head
  ·rw[if_pos hk,←hk,hr]
   exact ⟨_,rfl⟩
  ·rw[if_neg hk]
   exact ⟨r,hr⟩
 refine ⟨⟨fun h hh=>hnew h (hs.head h hh),fun e he=>hnew _ (hs.envs e he),?_,?_⟩,?_⟩
 ·intro rev r hr
  obtain ⟨r',hr',-⟩:=hold rev r hr
  exact hs.names rev r' hr'
 ·intro rev r hr
  obtain ⟨r',hr',hpar⟩:=hold rev r hr
  exact hpar▸hs.parents rev r' hr'
 ·intro rev hheld
  rw[hfind,if_neg (not_held_of_free hfree hheld)]
lemma leaves_advanced{rows rows':FlowRows α}{r:Revision α}(hs:Sound rows)
 (hi:Inserts rows r head rev)(hlock:rows.head.getD ""=head)
 (hrev:rows'.revisions=(rows.write (.insertRevision r)).revisions)(hhead:rows'.head=some rev)
 (henvs:∀ e∈rows'.envs.rows,e∈rows.envs.rows):Leaves rows rows':=by
 have hfind:∀ k,rows'.find? k=if k=rev then some r else rows.find? k:=by
  intro k
  have h:=find?_insertRevision rows r (hi.revision.symm▸hi.unused.row) k
  rw[hi.revision] at h
  rw[←h]
  unfold FlowRows.find?
  rw[hrev]
 have hthere:∀ k,(∃ r',rows.find? k=some r') → rows'.find? k=rows.find? k:=by
  rintro k ⟨r',hr'⟩
  rw[hfind,if_neg]
  rintro rfl
  rw[hi.unused.row] at hr'
  cases hr'
 refine ⟨⟨?_,?_,?_,?_⟩,?_⟩
 ·intro h hh
  rw[hhead] at hh
  cases hh
  exact ⟨r,by rw[hfind,if_pos rfl]⟩
 ·intro e he
  have hold:=hs.envs e (henvs e he)
  rw[hthere _ hold]
  exact hold
 ·intro k r' hr'
  have hnone:∀ x,rows.envs.find? x=none → rows'.envs.find? x=none:=by
   intro x hx
   rw[find?_eq_none_iff] at hx ⊢
   exact fun e he=>hx e (henvs e he)
  rw[hfind] at hr'
  split_ifs at hr' with hk
  ·rw[hk]
   refine ⟨hnone rev ?_,hi.unused.name⟩
   rw[find?_eq_none_iff]
   exact fun e he=>(hi.unused.env e he).1
  ·exact ⟨hnone k (hs.names k r' hr').1,(hs.names k r' hr').2⟩
 ·intro k r' hr'
  rw[hfind] at hr'
  split_ifs at hr' with hk
  ·cases hr'
   rw[hk,hi.parent,←hlock]
   -- the parent is the head, which is there or is no revision at all
   cases hh:rows.head with
   | none=>exact Ne.symm hi.unused.name.1
   | some h=>
    intro he
    obtain ⟨q,hq⟩:=hs.head h hh
    rw[show h=rev from he,hi.unused.row] at hq
    cases hq
  ·exact hs.parents k r' hr'
 ·intro k hheld
  refine hthere k ?_
  rcases hheld with ⟨e,he,rfl⟩ | ⟨r',hr',-⟩
  ·exact hs.envs e he
  ·exact ⟨r',hr'⟩
lemma leaves_commit(hs:Sound s.rows)(h:Fits s tx n)
 (hc:n.allows (α:=α) .commit):Leaves s.rows s.view:=by
 have hsame:tx.pending=[]→Leaves s.rows s.view:=by
  intro hp
  rw[h.view_eq hp]
  exact ⟨hs,fun _ _=>rfl⟩
 have hw:=h.wrote
 rcases hc with ⟨hd,rfl⟩ | ⟨hd,p,free,rfl⟩ | ⟨hd,p,rfl⟩ | ⟨hd,rfl⟩ | ⟨hd,rev,rfl⟩ | ⟨hd,rev,rfl⟩
 ·exact hsame hw
 ·exact hsame hw.1
 ·obtain ⟨hpend,hfree,hpar,hne⟩:=hw
  rw[view_of_tx h.isOpen,hpend]
  exact leaves_moved hs hfree hpar hne
 ·obtain ⟨hfree,c,m,t,hpend⟩:=hw
  rw[view_of_tx h.isOpen,hpend]
  exact leaves_amended c m t hs hfree
 ·obtain ⟨r,hi,hpend⟩:=hw
  rw[view_of_tx h.isOpen,hpend]
  refine leaves_advanced hs hi h.locked rfl rfl fun e he=>?_
  rw[List.foldl_cons,List.foldl_cons,List.foldl_nil] at he
  change e∈(s.rows.write (.insertRevision r)).envs.rows at he
  rwa[insertRevision_envs] at he
 ·obtain ⟨r,envs,hi,hpend⟩:=hw
  rw[view_of_tx h.isOpen,hpend,List.foldl_cons,List.foldl_cons]
  obtain ⟨hr,hh,he⟩:=foldl_deleteEnv envs ((s.rows.write (.insertRevision r)).write (.setHead rev))
  refine leaves_advanced hs hi h.locked hr hh fun e hmem=>?_
  have hmem:=he e hmem
  change e∈(s.rows.write (.insertRevision r)).envs.rows at hmem
  rwa[insertRevision_envs] at hmem
lemma sound_point{env rev:String}(hs:Sound rows)
 (hrev:∃ r,rows.find? rev=some r)(henv:rows.find? env=none):
 Sound (rows.point env rev):=by
 refine ⟨hs.head,fun e he=>?_,fun k r hr=>⟨?_,(hs.names k r hr).2⟩,hs.parents⟩
 ·rcases mem_point he with rfl | ⟨hold,-⟩
  ·exact hrev
  ·exact hs.envs e hold
 ·change (rows.envs.upsert ⟨env,rev⟩).find? k=none
  rw[find?_upsert,if_neg]
  ·exact (hs.names k r hr).1
  ·rintro rfl
   have hr':rows.find? k=some r:=hr
   rw[show rows.find? k=none from henv] at hr'
   cases hr'
lemma sound_fewer_envs{envs:Table String EnvRow EnvRow.env}(hs:Sound rows)
 (h:∀ e∈envs.rows,e∈rows.envs.rows):Sound {rows with envs:=envs}:=by
 refine ⟨hs.head,fun e he=>hs.envs e (h e he),fun k r hr=>⟨?_,(hs.names k r hr).2⟩,hs.parents⟩
 have hnone:=(hs.names k r hr).1
 rw[find?_eq_none_iff] at hnone ⊢
 exact fun e he=>hnone e (h e he)
lemma sound_relabel(rev label)(hs:Sound rows):
 Sound (rows.relabel rev label):=by
 have hnew:∀ k,(∃ r,rows.find? k=some r)→∃ r,(rows.relabel rev label).find? k=some r:=by
  intro k hk
  rw[←isSome_find?,isSome_relabel,isSome_find?]
  exact hk
 have hold:∀ k r,(rows.relabel rev label).find? k=some r→
  ∃ r',rows.find? k=some r'∧r'.parent=r.parent:=by
  intro k r hr
  rw[find?_relabel] at hr
  split_ifs at hr with hk
  ·obtain ⟨r',hr',rfl⟩:=map_eq_some_iff.1 hr
   exact ⟨r',hk▸hr',rfl⟩
  ·exact ⟨r,hr,rfl⟩
 refine ⟨fun h hh=>hnew h (hs.head h hh),fun e he=>hnew _ (hs.envs e he),?_,?_⟩
 ·intro k r hr
  obtain ⟨r',hr',-⟩:=hold k r hr
  exact hs.names k r' hr'
 ·intro k r hr
  obtain ⟨r',hr',hpar⟩:=hold k r hr
  exact hpar▸hs.parents k r' hr'

def leavesEnv(env:String)(s:State α):Stmt α→Bool
 | .upsertEnv e _ | .deleteEnv e=>e != env
 | .commit=>!pendingAny s (locksEnv env)
 | _=>true

def leavesLabel(rev:String):Stmt α→Bool
 | .updateLabel r _=>r != rev
 | _=>true

lemma envs_foldl(env:String)(pending:List (Write α))(rows:FlowRows α)
 (h:pending.any (locksEnv env)=false):
 (pending.foldl FlowRows.write rows).envs.find? env=rows.envs.find? env:=by
 induction pending generalizing rows with
 | nil=>rfl
 | cons w pending ih=>
  rw[List.any_cons,or_eq_false_iff] at h
  rw[List.foldl_cons,ih _ h.2]
  cases w with
  | insertRevision r=>rw[insertRevision_envs]
  | setContent | deleteRevision | setHead=>rfl
  | deleteEnv e=>?_
  have hne:e≠env:=by simpa[locksEnv] using h.1
  change (rows.envs.erase _).find? env=_
  rw[find?_erase]
  cases hf:rows.envs.find? env with
  | none=>rfl
  | some row=>
   have hrow:row.env=env:=key_of_find? hf
   simp[hrow,Ne.symm hne]

structure StepKeeps(s:State α)(c:Stmt α)(rows':FlowRows α):Prop where
 sound:Sound rows'
 content:∀ rev,Held s.rows rev → rows'.contentOf rev=s.rows.contentOf rev
 label:∀ rev r,s.rows.find? rev=some r → r.label≠""→leavesLabel rev c→
  ∃ r',rows'.find? rev=some r'∧r'.label≠""
 env:∀ env,leavesEnv env s c → rows'.envs.find? env=s.rows.envs.find? env

lemma StepKeeps.same(hs:Sound s.rows):StepKeeps s c s.rows:=
 ⟨hs,fun _ _=>rfl,fun _ r hr hl _=>⟨r,hr,hl⟩,fun _ _=>rfl⟩
lemma stepKeeps(o:Oracle)(hs:Sound s.rows)
 (hfit:n≠.outside→∃ tx,Fits s tx n)(hc:n.allows c)(hca:careful s c):
 StepKeeps s c (step c o s).2.rows:=by
 cases c with
 | lockHead | selectHeadRow | selectInTx | rollback | selectHead | selectEnv | selectContent | newRevisionID | now
 | upsertHead=>exact StepKeeps.same hs
 | deleteUnpinned | updateHead | updateContent | insertRevision=>
  have hrows:∀ c:Stmt α,(∃ rev,c=.deleteUnpinned rev)∨(∃ rev,c=.updateHead rev)∨
   (∃ rev k m,c=.updateContent rev k m)∨(∃ rev p a m k,c=.insertRevision rev p a m k)→
   (step c o s).2.rows=s.rows:=by
   rintro c (⟨rev,rfl⟩ | ⟨rev,rfl⟩ | ⟨rev,k,m,rfl⟩ | ⟨rev,p,a,m,k,rfl⟩) <;>
    (simp only[step]; split_ifs<;>rfl)
  rw[hrows _ (by simp)]
  exact StepKeeps.same hs
 | deleteEnvs=>
  have hrows:(step .deleteEnvs o s).2.rows=s.rows:=by
   obtain ⟨hd,rev,rfl⟩:=hc
   obtain ⟨tx,htx⟩:=hfit fun h=>by cases h
   obtain ⟨-,-,-,-,hr⟩:=record_foldl s.view.envs.rows htx.isOpen
   exact hr
  rw[hrows]
  exact StepKeeps.same hs
 | commit=>
  have hin:n≠.outside:=by
   rcases hc with ⟨hd,rfl⟩ | ⟨hd,p,free,rfl⟩ | ⟨hd,p,rfl⟩ | ⟨hd,rfl⟩ | ⟨hd,rev,rfl⟩ | ⟨hd,rev,rfl⟩ <;>
    rintro ⟨⟩
  obtain ⟨tx,hfits⟩:=hfit hin
  have hleaves:=leaves_commit hs hfits hc
  refine ⟨hleaves.sound,fun rev hr=>?_,fun rev r hr hl _=>⟨r,?_,hl⟩,fun env hl=>?_⟩
  ·change s.view.contentOf rev=_
   unfold FlowRows.contentOf
   rw[hleaves.held rev hr]
  ·rw[←hr]
   exact hleaves.held rev (.inr ⟨r,hr,hl⟩)
  ·simp only[leavesEnv,pendingAny,hfits.isOpen,any_some,not_eq_true'] at hl
   change s.view.envs.find? env=_
   rw[view_of_tx hfits.isOpen]
   exact envs_foldl env tx.pending s.rows hl
 | upsertEnv env rev=>
  simp only[careful,and_eq_true,isNone_iff_eq_none] at hca
  obtain ⟨⟨⟨hrev,henv⟩,-⟩,-⟩:=hca
  refine ⟨sound_point hs (isSome_find?.1 hrev) henv,fun _ _=>rfl,fun _ r hr hl _=>⟨r,hr,hl⟩,fun e he=>?_⟩
  have hne:e≠env:=by
   rintro rfl
   simp[leavesEnv] at he
  simp only[step,FlowRows.point,find?_upsert,if_neg hne]
 | deleteEnv env=>
  refine ⟨sound_fewer_envs hs fun e he=>List.mem_of_mem_filter he,fun _ _=>rfl,
   fun _ r hr hl _=>⟨r,hr,hl⟩,fun e he=>?_⟩
  exact envs_foldl e [.deleteEnv env] s.rows (by simpa[leavesEnv,locksEnv] using he)
 | updateLabel rev label=>
  refine ⟨sound_relabel rev label hs,fun k _=>contentOf_relabel s.rows rev label k,
   fun k r hr hl hk=>⟨r,?_,hl⟩,fun _ _=>rfl⟩
  ·have hne:k≠rev:=by
    rintro rfl
    simp[leavesLabel] at hk
   simp only[step,find?_relabel,if_neg hne,hr]

end Kept

structure Orderly(s:State α)(ns:List Stage):Prop where
 sound:Sound s.rows
 fits:∀ (i:Nat) (n:Stage),ns[i]? = some n → n≠.outside→∃ tx,Fits s tx n
 single:∀ (i j:Nat) (n m:Stage),ns[i]? = some n → ns[j]? = some m → n≠.outside→m≠.outside→i=j

omit [DecidableEq α] in
lemma orderly_empty:Orderly ({}:State α) []:=by
 refine ⟨⟨fun h hh=>(nomatch hh),fun e he=>(nomatch he),fun k r hr=>(nomatch hr),fun k r hr=>(nomatch hr)⟩,
  fun i n hn=>?_,fun i j n m hn=>?_⟩<;>simp at hn

variable {ns:List Stage}

omit [DecidableEq α] in
lemma Orderly.start(h:Orderly s ns):Orderly s (ns++[.outside]):=by
 have hold:∀ (i:Nat) (n:Stage),(ns++[Stage.outside])[i]? = some n → n≠.outside → ns[i]? = some n:=
  fun i n hn hin=>(append_cases hn).resolve_right fun hx=>hin hx.2
 refine ⟨h.sound,fun i n hn hin=>h.fits i n (hold i n hn hin) hin,fun i j n m hn hm hin him=>?_⟩
 exact h.single i j n m (hold i n hn hin) (hold j m hm him) hin him

omit [DecidableEq α] in
lemma Orderly.enters{i j:Nat}{n m:Stage}(o)
 (h:Orderly s ns)(hn:ns[i]? = some n)(hm:ns[j]? = some m)(hij:j≠i)(hc:n.allows c)
 (hp:possible s c)(hin:n.next c (step c o s).1≠.outside):m=.outside:=by
 by_contra hmin
 obtain ⟨tx,hfits⟩:=h.fits j m hm hmin
 by_cases hnout:n=.outside
 ·subst hnout
  cases c<;>simp_all[Stage.allows,Stage.next]
  simp[possible,hfits.isOpen] at hp
 ·exact hij (h.single j i m n hm hn hmin hnout)

omit [DecidableEq α] in
lemma Orderly.call{i:Nat}(o)
 (h:Orderly s ns)(hn:ns[i]? = some n)(hc:n.allows c)(hp:possible s c)
 (hca:careful s c):Orderly (step c o s).2 (ns.set i (n.next c (step c o s).1)):=by
 refine ⟨(stepKeeps o h.sound (h.fits i n hn) hc hca).sound,fun j m hm hmin=>?_,fun j k m m' hm hm' hin hin'=>?_⟩
 ·rcases set_cases hm with ⟨rfl,rfl⟩ | ⟨hij,hm⟩
  ·by_cases hnout:n=.outside
   · -- only the lock leads inside
    subst hnout
    cases c<;>simp_all[Stage.allows,Stage.next]
    exact ⟨_,rfl,rfl,rfl,rfl⟩
   ·obtain ⟨tx,hfits⟩:=h.fits j n hn hnout
    exact hfits.step_own o h.sound hc hp hmin
  ·obtain ⟨tx,hfits⟩:=h.fits j m hm hmin
   by_cases hnout:n=.outside
   ·exact ⟨tx,fits_aside o hfits (hnout▸hc) hp hca⟩
   ·exact absurd (h.single j i m n hm hn hmin hnout) hij
 ·rcases set_cases hm with ⟨hji,hmn⟩ | ⟨hij,hj⟩<;>rcases set_cases hm' with ⟨hki,hmn'⟩ | ⟨hik,hk⟩
  ·rw[hji,hki]
  ·exact absurd (h.enters o hn hk hik hc hp (hmn▸hin)) hin'
  ·exact absurd (h.enters o hn hj hij hc hp (hmn' ▸ hin')) hin
  ·exact h.single j k m m' hj hk hin hin'

variable {graphID:String}{P:Pool (backend α graphID)}

lemma orderly_reach(hr:Reach (carefulRuns graphID) {state:={} } P):
 Orderly P.state ((stages α graphID).stages P):=by
 refine (follows graphID).pool_inv rfl orderly_empty (fun s ns e h=>h.start) ?_ hr
 intro P i o c n ns hok hnext hn hc h
 obtain ⟨hp,hca⟩:=hok c hnext
 exact h.call o hn hc hp hca

omit [DecidableEq α] in
lemma readPublished_eq{rows:FlowRows α}(hs:Sound rows):
 rows.readPublished=match rows.envs.find? publishedEnv with
  | none=>.error .notPublished
  | some e=>match rows.contentOf e.revision with
   | some (some content)=>.ok content
   | _=>.error .graphNotFound:=by
 unfold FlowRows.readPublished FlowRows.readEnv FlowRows.readAt FlowRows.resolve
 cases he:rows.envs.find? publishedEnv with
 | none=>rfl
 | some e=>
  obtain ⟨r,hr⟩:=hs.envs e ((find?_eq_some_iff _ _ _).1 he).1
  obtain ⟨hnone,hne,hhead⟩:=hs.names _ r hr
  cases hc:rows.contentOf e.revision with
  | none=>simp[hne,hhead,hnone,hc]
  | some content=>cases content<;>simp[hne,hhead,hnone,hc]

abbrev quietRuns(graphID:String)(leaves:State α→Stmt α→Bool):
 Rules (backend α graphID):=
 Allowed (fun _ _=>True)
  fun P _ c _=>(possible P.state c∧careful P.state c)∧leaves P.state c

variable {leaves:State α→Stmt α→Bool}

lemma quietRuns_careful{a:Action (backend α graphID)}(h:quietRuns graphID leaves P a):carefulRuns graphID P a:=by
 cases a with
 | start e=>trivial
 | step i o=>exact fun c hc=>(h c hc).1
lemma kept_along{φ:FlowRows α→Prop}{P P':Pool (backend α graphID)}
 (hr:Reach (carefulRuns graphID) {state:={} } P)(hr':Reach (quietRuns graphID leaves) P P')
 (hφ:φ P.state.rows)
 (hstep:∀ s c rows',Sound s.rows→StepKeeps s c rows'→leaves s c→φ s.rows→φ rows'):
 φ P'.state.rows:=by
 induction hr' with
 | init=>exact hφ
 | @step Q Q' a hq ha he ih=>
  have hreach:=hr.trans (hq.mono fun _ _=>quietRuns_careful)
  have hord:=orderly_reach hreach
  have hm:=moves_of_exec he
  cases hm with
  | start e | invoke hproc=>exact ih
  | @call i o e log c k hproc=>
   obtain ⟨⟨hp,hca⟩,hl⟩:=ha c (Pool.next_of_call hproc)
   have hstage:=Protocol.stages_get (T:=stages α graphID) hproc
   have hc:=(follows graphID).allowed rfl hreach hproc
   exact hstep _ c _ hord.sound (stepKeeps o hord.sound (hord.fits i _ hstage) hc hca) hl ih

/-- In every run whose promotes and labels keep away from a head that a transaction
 holds: what `LoadPublished` returns changes only where the published environment
 is written, a labelled revision keeps its content while its label is left alone,
 and every environment and the head name a revision that is there. -/
theorem published_frozen{P:Pool (backend α graphID)}(hr:Reach (carefulRuns graphID) {state:={} } P):
 (∀ P',Reach (quietRuns graphID (leavesEnv publishedEnv)) P P'→
  P'.state.rows.readPublished=P.state.rows.readPublished)∧
 (∀ rev r,P.state.rows.find? rev=some r → r.label≠""→
  ∀ P',Reach (quietRuns graphID fun _=>leavesLabel rev) P P'→
   P'.state.rows.contentOf rev=P.state.rows.contentOf rev)∧
 (∀ e∈P.state.rows.envs.rows,∃ r,P.state.rows.find? e.revision=some r)∧
 ∀ h,P.state.rows.head=some h→∃ r,P.state.rows.find? h=some r:=by
 have hsound:=(orderly_reach hr).sound
 refine ⟨fun P' hr'=>?_,fun rev r hrow hlabel P' hr'=>?_,hsound.envs,hsound.head⟩
 ·refine kept_along (φ:=fun rows=>rows.readPublished=P.state.rows.readPublished) hr hr' rfl ?_
  intro s c rows' hs hkeep hl hφ
  rw[←hφ,readPublished_eq hkeep.sound,readPublished_eq hs,hkeep.env _ hl]
  cases he:s.rows.envs.find? publishedEnv with
  | none=>rfl
  | some e=>simp only[hkeep.content _ (.inl ⟨e,((find?_eq_some_iff _ _ _).1 he).1,rfl⟩)]
 ·have hφ:∀ P',Reach (quietRuns graphID fun _=>leavesLabel rev) P P'→
    (∃ r,P'.state.rows.find? rev=some r∧r.label≠"")∧
     P'.state.rows.contentOf rev=P.state.rows.contentOf rev:=by
   intro P' hr'
   refine kept_along (φ:=fun rows=>(∃ r,rows.find? rev=some r∧r.label≠"")∧
    rows.contentOf rev=P.state.rows.contentOf rev) hr hr' ⟨⟨r,hrow,hlabel⟩,rfl⟩ ?_
   rintro s c rows' hs hkeep hl ⟨⟨r',hr',hlabel'⟩,hcontent⟩
   exact ⟨hkeep.label rev r' hr' hlabel' hl,(hkeep.content rev (.inr ⟨r',hr',hlabel'⟩)).trans hcontent⟩
  exact (hφ P' hr').2

def oracle:Oracle:={newID:="r1" }

def steps(i n:Nat):List (Action (backend Nat "flow")):=List.replicate n (.step i oracle)

def promoted:Pool (backend Nat "flow"):=
 Pool.after (carefulRuns "flow") {state:={} }
  ([.start (.save 1 "ann" true)]++steps 0 5++[.start (.promote "published" "HEAD")]++steps 1 2 ++
   [.start (.save 2 "ann" true)])

lemma promoted_reached:Reach (carefulRuns "flow") {state:={} } promoted:=reach_after (by decide +kernel)

def savedLater:Pool (backend Nat "flow"):=
 Pool.after (quietRuns "flow" (leavesEnv publishedEnv)) promoted
  ((steps 2 3)++[.step 2 {newID:="r2" },.step 2 {newID:="r2" }]++steps 2 2)

/-- The later save lands on a revision of its own: the draft moves, the published flow does not. -/
theorem later_save_leaves_published:
 savedLater.state.rows.readAt "HEAD"=.ok 2∧savedLater.state.rows.readPublished=.ok 1:=by
 refine ⟨by decide +kernel,?_⟩
 have hkept:=(published_frozen promoted_reached).1 savedLater (reach_after (by decide +kernel))
 rw[hkept]
 decide +kernel

def promotedMeanwhile:Pool (backend Nat "flow"):=
 Pool.after (runs "flow") {state:={} }
  ([.start (.save 1 "ann" true)]++steps 0 5++[.start (.save 2 "ann" true)]++steps 1 2 ++
   [.start (.promote "published" "HEAD")]++steps 2 2)

abbrev looseRuns(graphID:String)(leaves:State α→Stmt α→Bool):
 Rules (backend α graphID):=
 Allowed (fun _ _=>True) (fun P _ c _=>possible P.state c∧leaves P.state c)

def overwritten:Pool (backend Nat "flow"):=
 Pool.after (looseRuns "flow" (leavesEnv publishedEnv)) promotedMeanwhile (steps 1 3)

/-- The promote has returned, nobody writes the environment, and what is published changes. -/
theorem published_overwritten:
 Reach (runs "flow") {state:={} } promotedMeanwhile∧
  (promotedMeanwhile.procs[2]?.map fun p=>p.prog.finished)=some true∧
  promotedMeanwhile.state.rows.readPublished=.ok 1∧
  Reach (looseRuns "flow" (leavesEnv publishedEnv)) promotedMeanwhile overwritten∧
  overwritten.state.rows.readPublished=.ok 2:=
 ⟨reach_after (by decide +kernel),by decide +kernel,by decide +kernel,reach_after (by decide +kernel),
  by decide +kernel⟩

end Dazyflow.PublishedRevisions
