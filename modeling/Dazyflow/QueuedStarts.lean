import Dazyflow.QueuedRuns

/-!
# Queued runs start as they were submitted

The phases of a queued run, told from its record, the records of its steps and the stages of all operations,
over every run in which promoters start a run only once its submission has returned.
-/
namespace Dazyflow.QueuedRuns
open FlowGraph JobRecords MemoryStore StoreOperations List Prod
open Daemon RunRecords DaemonContract RunOutcomes SeededRuns Interleaving Interleaving.Contract
open Memory (stamp startRunning)

variable {env:Env}{run:String}{g:Graph}

def Tracks(run:String)(e:Entry)(log:List (Event (daemon env))):Stage→Prop
 | .clear e'=>e'=e∧(∀ ev∈log,inserts run ev≠some true)∧log.countP (wins run)=0
 | .seeding g seeds _ | .handed g seeds=>
  (∃ p opts,e=.submit p g opts∧seeds=opts.seeds)∧(∃ ev∈log,inserts run ev=some true)∧
   log.countP (wins run)=0
 | .starting _ _=>(∀ ev∈log,inserts run ev≠some true)∧log.countP (wins run)=1
 | .lost=>True

variable {seeds left:Seeds}{w w':World}{ev:Event (daemon env)}{m:Memory}{now:Time}{e:Entry}
 {log:List (Event (daemon env))}{is:List Nat}{r:JobRecord}

lemma not_wins_inserts{k b}(h:inserts k ev=some b):
 wins run ev=false:=by
 obtain ⟨w,c,res,w'⟩:=ev
 cases c with
 | store site op=>
  cases op with
  | markGraphRunning id | markGraphRunningCapped id tenant limit=>cases h
  | _=>rfl
 | _=>rfl
lemma tracks_opened
 (he:∃ p opts,e=.submit p g opts∧seeds=opts.seeds)(hi:∃ ev∈log,inserts run ev=some true)
 (hw:log.countP (wins run)=0):Tracks run e log (.opened g seeds left):=by
 cases left with
 | nil | cons s left=>exact ⟨he,hi,hw⟩
lemma inserted_iff{p:Proc (daemon env)}:
 inserted run p↔∃ ev∈p.log,inserts run ev=some true:=by
 unfold inserted
 rw[any_eq_true]
 refine exists_congr fun ev=>and_congr_right (fun _=>?_)
 obtain ⟨w,c,res,w'⟩:=ev
 cases c with
 | store site op=>
  cases op with
  | enqueue rec=>
   cases res with
   | ok v=>
    refine beq_iff_eq.trans ⟨fun hid=>if_pos hid,fun hins=>?_⟩
    by_contra hid
    cases (if_neg hid).symm.trans hins
   | error e=>
    refine ⟨nofun,fun hins=>?_⟩
    by_cases hid:rec.id=run
    ·cases (if_pos hid).symm.trans hins
    ·cases (if_neg hid).symm.trans hins
  | _=>exact ⟨nofun,nofun⟩
 | _=>exact ⟨nofun,nofun⟩
lemma countP_wins_cons(h:wins run ev=false):
 (ev::log).countP (wins run)=log.countP (wins run):=by
 rw[countP_cons,h]
 rfl
lemma Tracks.step{n}(h:Tracks run e log n)
 (ev):Tracks run e (ev::log) (n.after run ev):=by
 have hold:(∀ ev∈log,inserts run ev≠some true)→inserts run ev≠some true→
  ∀ ev'∈ev::log,inserts run ev'≠some true:=fun hi hn=>forall_mem_cons.2 ⟨hn,hi⟩
 cases n with
 | clear e'=>
  obtain ⟨rfl,hi,hc⟩:=h
  by_cases hw:wins run ev
  ·have hn:inserts run ev≠some true:=by
    intro hn
    rw[not_wins_inserts hn] at hw
    cases hw
   rcases Stage.after_won (e:=e') hw with hl | ⟨_,hl⟩
   ·rw[hl]
    trivial
   ·rw[hl]
    exact ⟨hold hi hn,by rw[countP_cons,hc,hw]; rfl⟩
  ·rw[Bool.not_eq_true] at hw
   by_cases hn:inserts run ev=some true
   ·have hone:∃ ev'∈ev::log,inserts run ev'=some true:=⟨ev,mem_cons_self,hn⟩
    cases e' with
    | submit p g opts=>
     have ha:Stage.after run (.clear (.submit p g opts)) ev=.opened g opts.seeds opts.seeds:=by
      simp[Stage.after,hw,hn]
     rw[ha]
     exact tracks_opened ⟨p,opts,rfl,rfl⟩ hone (by rw[countP_wins_cons hw,hc])
    | _=>simp[Stage.after,hw,hn,Tracks]
   ·rw[Stage.after_clear hw hn]
    exact ⟨rfl,hold hi hn,by rw[countP_wins_cons hw,hc]⟩
 | seeding g seeds left=>
  obtain ⟨he,⟨ev',hev',hi⟩,hc⟩:=h
  have hone:∃ ev'∈ev::log,inserts run ev'=some true:=⟨ev',mem_cons_of_mem _ hev',hi⟩
  simp only[Stage.after]
  split
  ·rename_i hhead
   obtain ⟨s,_,hs⟩:=Option.bind_eq_some_iff.1 hhead
   exact tracks_opened he hone (by rw[countP_wins_cons (not_wins_inserts hs),hc])
  ·trivial
  ·split_ifs with hw
   ·trivial
   ·exact ⟨he,hone,by rw[countP_wins_cons (by simpa using hw),hc]⟩
 | handed g seeds=>
  obtain ⟨he,⟨ev',hev',hi⟩,hc⟩:=h
  simp only[Stage.after]
  split_ifs with hw
  ·trivial
  ·exact ⟨he,⟨ev',mem_cons_of_mem _ hev',hi⟩,by rw[countP_wins_cons (by simpa using hw),hc]⟩
 | starting found last=>
  simp only[Stage.after]
  split_ifs with hk
  ·exact ⟨hold h.1 hk.2.2,by rw[countP_wins_cons hk.2.1,h.2]⟩
  ·trivial
 | lost=>trivial
lemma tracks(e)(log:List (Event (daemon env))):Tracks run e log ((K env run).noteOf e log):=by
 induction log with
 | nil=>exact ⟨rfl,(fun _ h=>by cases h),rfl⟩
 | cons ev log ih=>exact ih.step ev

structure Fills(g:Graph)(run:String)(seeds:Seeds)(v:String→Option JobRecord):Prop where
 seeded:∀ s∈seeds,∃ now,v s.1=some (stamp now (seedRecord g run s.1 s.2))
 free:∀ id,id∉seeds.map fst→v id=none

def Others(ns:List Stage)(is:List Nat):Prop:=
 ∀ (k:Nat) (n:Stage),ns[k]? = some n→k∉is→∃ e,n=.clear e

inductive Phase(run:String):Option JobRecord→(String→Option JobRecord)→List Stage→Prop
 | fresh {ns}:Others ns []→Phase run none (fun _=>none) ns
 /-- the submission has inserted the record and the seeds before `left` -/
 | waiting {ns rec v} (i:Nat) (g:Graph) (pre left:Seeds):
  rec.status=.queued → rec.graphPayload=some g → g.nodes≠[]→((pre++left).map fst).Nodup→
  ns[i]? = some (.opened g (pre++left) left)→Others ns [i]→Fills g run pre v→
  Phase run (some rec) v ns
 | started {ns rec v} (i j:Nat) (g:Graph) (seeds:Seeds)
  (found:String→Option JobRecord):
  rec.status≠.queued → rec.graphPayload=some g → g.nodes≠[]→(seeds.map fst).Nodup→
  ns[i]? = some (.handed g seeds) → ns[j]? = some (.starting found v)→Others ns [i,j]→
  Fills g run seeds found→(∀ id r,found id=some r→v id=some r)→
  Phase run (some rec) v ns

variable {rec:Option JobRecord}{v:String→Option JobRecord}{ns:List Stage}{i:Nat}{n:Stage}

lemma Others.set(h:Others ns is)(i n):Others (ns.set i n) (i::is):=by
 intro k n' hk hne
 rw[mem_cons,not_or] at hne
 rw[getElem?_set_ne (Ne.symm hne.1)] at hk
 exact h k n' hk hne.2
lemma Others.mono{js}(h:Others ns is)(hj:∀ k∈is,k∈js):Others ns js:=
 fun k n hk hne=>h k n hk (fun hm=>hne (hj k hm))
lemma Others.append(h:Others ns is)(e):Others (ns++[.clear e]) is:=by
 intro k n hk hne
 rcases Nat.lt_or_ge k ns.length with hlt | hge
 ·rw[getElem?_append_left hlt] at hk
  exact h k n hk hne
 ·rw[getElem?_append_right hge] at hk
  exact ⟨e,mem_singleton.1 (mem_of_getElem? hk)⟩
lemma get_append{m:Stage}{k:Nat}(h:ns[k]? = some n):(ns++[m])[k]? = some n:=by
 rw[getElem?_append_left (List.getElem?_eq_some_iff.1 h).1,h]
lemma Phase.start(h:Phase run rec v ns)(e):Phase run rec v (ns++[.clear e]):=by
 cases h with
 | fresh ho=>exact .fresh (ho.append e)
 | waiting i g pre left hq hp hne hnd hi ho hf=>exact .waiting i g pre left hq hp hne hnd (get_append hi) (ho.append e) hf
 | started i j g seeds found hq hp hne hnd hi hj ho hf hk=>
  exact .started i j g seeds found hq hp hne hnd (get_append hi) (get_append hj) (ho.append e) hf hk
lemma Phase.not_lost(h:Phase run rec v ns):.lost∉ns:=by
 intro hl
 obtain ⟨i,hi,hn⟩:=mem_iff_getElem.1 hl
 have hn:ns[i]? = some .lost:=List.getElem?_eq_some_iff.2 ⟨hi,hn⟩
 cases h with
 | fresh ho=>
  obtain ⟨e,he⟩:=ho i _ hn (by simp)
  cases he
 | waiting i' g pre left hq hp hne hnd hi' ho hf=>
  by_cases hii:i=i'
  ·subst hii
   rw[hi'] at hn
   cases left<;>cases hn
  ·obtain ⟨e,he⟩:=ho i _ hn (by simpa using hii)
   cases he
 | started i' j g seeds found hq hp hne hnd hi' hj ho hf hk=>
  by_cases hii:i=i'
  ·subst hii
   rw[hi'] at hn
   cases hn
  ·by_cases hij:i=j
   ·subst hij
    rw[hj] at hn
    cases hn
   ·obtain ⟨e,he⟩:=ho i _ hn (by simp[hii,hij])
    cases he
lemma Phase.of_none(h:Phase run none v ns):v=(fun _=>none)∧Others ns []:=by
 cases h with
 | fresh ho=>exact ⟨rfl,ho⟩
lemma Phase.of_seeding{s}(h:Phase run rec v ns)
 (hn:ns[i]? = some (.seeding g seeds (s::left))):∃ r pre,rec=some r∧r.status=.queued∧
  r.graphPayload=some g∧g.nodes≠[]∧seeds=pre++s::left∧(seeds.map fst).Nodup∧
  Others ns [i]∧Fills g run pre v:=by
 cases h with
 | fresh ho=>
  obtain ⟨e,he⟩:=ho i _ hn (by simp)
  cases he
 | @waiting _ r _ i' g' pre left' hq hp hne hnd hi ho hf=>
  by_cases hii:i=i'
  ·subst hii
   rw[hi] at hn
   cases left' with
   | nil=>cases hn
   | cons s' left'=>
    cases hn
    exact ⟨r,pre,rfl,hq,hp,hne,rfl,hnd,ho,hf⟩
  ·obtain ⟨e,he⟩:=ho i _ hn (by simpa using hii)
   cases he
 | started i' j g' seeds' found hq hp hne hnd hi hj ho hf hk=>
  by_cases hii:i=i'
  ·subst hii
   rw[hi] at hn
   cases hn
  ·by_cases hij:i=j
   ·subst hij
    rw[hj] at hn
    cases hn
   ·obtain ⟨e,he⟩:=ho i _ hn (by simp[hii,hij])
    cases he
lemma Phase.of_queued(h:Phase run (some r) v ns)(hq:r.status=.queued)
 (hns:∀ g seeds left,.seeding g seeds left∉ns):∃ i g seeds,r.graphPayload=some g∧g.nodes≠[]∧
  (seeds.map fst).Nodup∧ns[i]? = some (.handed g seeds)∧Others ns [i]∧Fills g run seeds v:=by
 cases h with
 | waiting i g pre left _ hp hne hnd hi ho hf=>
  cases left with
  | nil=>
   rw[append_nil] at hnd hi
   exact ⟨i,g,pre,hp,hne,hnd,hi,ho,hf⟩
  | cons s left=>exact absurd (mem_of_getElem? hi) (hns _ _ _)
 | started i j g seeds found hq'=>exact absurd hq hq'
lemma Phase.of_starting{found last}(h:Phase run rec v ns)
 (hn:ns[i]? = some (.starting found last)):last=v∧∃ r i' g seeds,rec=some r∧r.status≠.queued∧
  r.graphPayload=some g∧g.nodes≠[]∧(seeds.map fst).Nodup∧ns[i']? = some (.handed g seeds)∧
  Others ns [i',i]∧Fills g run seeds found∧∀ id r,found id=some r→v id=some r:=by
 cases h with
 | fresh ho=>
  obtain ⟨e,he⟩:=ho i _ hn (by simp)
  cases he
 | waiting i' g pre left hq hp hne hnd hi ho hf=>
  by_cases hii:i=i'
  ·subst hii
   rw[hi] at hn
   cases left<;>cases hn
  ·obtain ⟨e,he⟩:=ho i _ hn (by simpa using hii)
   cases he
 | @started _ r _ i' j g seeds found' hq hp hne hnd hi hj ho hf hk=>
  by_cases hij:i=j
  ·subst hij
   rw[hj] at hn
   cases hn
   exact ⟨rfl,r,i',g,seeds,rfl,hq,hp,hne,hnd,hi,ho,hf,hk⟩
  ·by_cases hii:i=i'
   ·subst hii
    rw[hi] at hn
    cases hn
   ·obtain ⟨e,he⟩:=ho i _ hn (by simp[hii,hij])
    cases he
lemma set_self(hn:ns[i]? = some n):ns.set i n=ns:=by
 obtain ⟨hi,hget⟩:=List.getElem?_eq_some_iff.1 hn
 rw[←hget]
 exact set_getElem_self hi
lemma get_set(hn:ns[i]? = some n)(n'):(ns.set i n')[i]? = some n':=by
 rw[getElem?_set_self (List.getElem?_eq_some_iff.1 hn).1]

def Phased(run:String)(w:World)(ns:List Stage):Prop:=
 Phase run (w.store.get run) (view run w.store) ns

lemma Phased.elsewhere(h:Phased run w ns)(hn:ns[i]? = some n)
 (hb:ev.before=w)(ha:ev.after=w')(hc:Elsewhere run ev.call)
 (hv:view run w'.store=view run w.store)(hrec:w'.store.get run=w.store.get run):
 Phased run w' (ns.set i (n.after run ev)):=by
 subst hb ha
 have hsame:n.after run ev=n:=by
  rcases n.after_elsewhere hc hv with he | ⟨_,found,last,rfl,hne⟩
  ·exact he
  ·exact absurd (h.of_starting hn).1.symm hne
 rw[hsame,set_self hn,Phased,hv,hrec]
 exact h
lemma view_enqueue{rec}
 (hg:∀ k,(m.enqueueLocked now rec).2.get k=if k=rec.id then some (stamp now rec) else m.get k)
 (id):view run (m.enqueueLocked now rec).2 id =
  if nodeJobID run id=rec.id then some (stamp now rec) else view run m id:=
 hg (nodeJobID run id)
lemma Phased.insert(hs:SimpleID run){site p opts}
 (h:Phased run w ns)(hn:ns[i]? = some (.clear (.submit p g opts)))(hne:g.nodes≠[])
 (hnd:(opts.seeds.map fst).Nodup):
 Phased run {w with store:=(w.store.enqueueLocked now (submittedRecord g run false opts)).2}
  (ns.set i (Stage.after run (.clear (.submit p g opts)) (⟨w,.store site (.enqueue (submittedRecord g run false opts)),
   (w.store.enqueueLocked now (submittedRecord g run false opts)).1,
   {w with store:=(w.store.enqueueLocked now (submittedRecord g run false opts)).2}⟩:Event (daemon env)))):=by
 have hown:(submittedRecord g run false opts).id=run:=rfl
 rw[Stage.after_insert hown]
 rcases enqueueLocked_cases now w.store (submittedRecord g run false opts) with ⟨r,_,he⟩ | ⟨hnone,hok,hg⟩
 ·rw[he]
  simp only[Except.isOk,Except.toBool,Bool.false_eq_true,if_false]
  rw[set_self hn]
  exact h
 ·have hfree:w.store.get run=none:=hnone
  unfold Phased at h
  rw[hfree] at h
  obtain ⟨hv,ho⟩:=h.of_none
  have hview:view run (w.store.enqueueLocked now (submittedRecord g run false opts)).2=fun _=>none:=by
   funext id
   rw[view_enqueue hg,hown,if_neg (node_ne_run hs id),hv]
  rw[hok]
  simp only[Phased,Except.isOk,Except.toBool,if_true]
  rw[hg run,if_pos hown.symm,hview]
  exact .waiting i g [] opts.seeds rfl rfl hne hnd (get_set hn _) (ho.set i _) ⟨nofun,fun _ _=>rfl⟩
lemma Phased.seed(hs:SimpleID run){site}
 {s}(h:Phased run w ns)(hn:ns[i]? = some (.seeding g seeds (s::left))):
 Phased run {w with store:=(w.store.enqueueLocked now (seedRecord g run s.1 s.2)).2}
  (ns.set i (Stage.after run (.seeding g seeds (s::left)) (⟨w,.store site (.enqueue (seedRecord g run s.1 s.2)),
   (w.store.enqueueLocked now (seedRecord g run s.1 s.2)).1,
   {w with store:=(w.store.enqueueLocked now (seedRecord g run s.1 s.2)).2}⟩:Event (daemon env)))):=by
 obtain ⟨r,pre,hr,hq,hp,hne,rfl,hnd,ho,hf⟩:=h.of_seeding hn
 have hown:(seedRecord g run s.1 s.2).id=nodeJobID run s.1:=rfl
 have hpre:s.1∉pre.map fst:=by
  rw[map_append,map_cons] at hnd
  exact fun hm=>(nodup_append.1 hnd).2.2 _ hm _ mem_cons_self rfl
 have hfree:view run w.store s.1=none:=hf.free s.1 hpre
 rcases enqueueLocked_cases now w.store (seedRecord g run s.1 s.2) with ⟨r',hr',_⟩ | ⟨_,hok,hg⟩
 ·exact absurd (hfree.symm.trans hr') nofun
 have hview:∀ id,view run (w.store.enqueueLocked now (seedRecord g run s.1 s.2)).2 id =
  if id=s.1 then some (stamp now (seedRecord g run s.1 s.2)) else view run w.store id:=by
  intro id
  rw[view_enqueue hg,hown]
  by_cases hid:id=s.1
  ·rw[if_pos hid,if_pos (congrArg _ hid)]
  ·rw[if_neg hid,if_neg fun he=>hid (nodeJobID_inj run _ _ he)]
 have hopened:Stage.seeding g (pre++s::left) (s::left)=.opened g (pre++s::left) (s::left):=rfl
 rw[hopened,Stage.after_opened hown,hok]
 simp only[Phased,Except.isOk,Except.toBool,if_true]
 rw[hg run,hown,if_neg (Ne.symm (node_ne_run hs s.1)),hr]
 refine .waiting i g (pre++[s]) left hq hp hne (by simpa using hnd) (by simpa using get_set hn _)
  ((ho.set i _).mono (by simp)) ⟨?_,?_⟩
 ·intro s' hs'
  rw[hview]
  rcases mem_append.1 hs' with hs' | hs'
  ·have hne':s'.1≠s.1:=fun he=>hpre (he▸mem_map_of_mem hs')
   rw[if_neg hne']
   exact hf.seeded s' hs'
  ·obtain rfl:=mem_singleton.1 hs'
   exact ⟨now,if_pos rfl⟩
 ·intro id hid
  rw[map_append,mem_append,not_or] at hid
  rw[hview,if_neg fun he=>hid.2 (by simp[he])]
  exact hf.free id hid.1
lemma Fills.succeeded(hf:Fills g run seeds v):Seeded v:=by
 intro id r hr
 by_cases hid:id∈seeds.map fst
 ·obtain ⟨s,hs,rfl⟩:=mem_map.1 hid
  obtain ⟨now,hv⟩:=hf.seeded s hs
  rw[hr] at hv
  cases hv
  rfl
 ·rw[hf.free id hid] at hr
  cases hr
lemma Phased.win(hs:SimpleID run)
 (h:Phased run w ns)(hn:ns[i]? = some (.clear e))(hns:∀ g seeds left,.seeding g seeds left∉ns)
 (hb:ev.before=w)(ha:ev.after=w')(hw:wins run ev)
 (hq:∃ r,w.store.get run=some r∧r.kind=.graph∧r.status=.queued)
 (hstore:w'.store=w.store.update run (startRunning now) (Memory.startRunning_id now)):
 Phased run w' (ns.set i (Stage.after run (.clear e) ev)):=by
 subst hb ha
 obtain ⟨r,hr,_,hst⟩:=hq
 unfold Phased at h
 rw[hr] at h
 obtain ⟨i',g,seeds,hp,hne,hnd,hi',ho,hf⟩:=h.of_queued hst hns
 have hii:i≠i':=by
  rintro rfl
  rw[hn] at hi'
  cases hi'
 have hview:view run ev.after.store=view run ev.before.store:=by rw[hstore,view_start hs]
 have hafter:Stage.after run (.clear e) ev=.starting (view run ev.before.store) (view run ev.before.store):=by
  rcases Stage.after_won (e:=e) hw with hl | ⟨_,hl⟩
  ·exact absurd (((if_pos hw).trans (if_pos hf.succeeded)).symm.trans hl) nofun
  ·rw[hl,hview]
 rw[hafter,Phased,hview,hstore,get_update_self hr]
 refine .started i' i g seeds (view run ev.before.store) (by simp[startRunning]) hp hne hnd ?_ (get_set hn _)
  ((ho.set i _).mono (by simp)) hf (fun _ _ h=>h)
 rw[getElem?_set_ne hii]
 exact hi'
lemma Phased.hold{found last}
 (h:Phased run w ns)(hn:ns[i]? = some (.starting found last))(hb:ev.before=w)(ha:ev.after=w')
 (hw:wins run ev=false)(hi:inserts run ev≠some true)
 (hrec:∀ r,w.store.get run=some r→∃ r',w'.store.get run=some r'∧r'.graphPayload=r.graphPayload∧
  (r.status≠.queued → r'.status≠.queued))
 (hkept:∀ id r,view run w.store id=some r→view run w'.store id=some r):
 Phased run w' (ns.set i (Stage.after run (.starting found last) ev)):=by
 subst hb ha
 obtain ⟨rfl,r,i',g,seeds,hr,hq,hp,hne,hnd,hi',ho,hf,hk⟩:=h.of_starting hn
 obtain ⟨r',hr',hp',hq'⟩:=hrec r hr
 have hii:i≠i':=by
  rintro rfl
  rw[hn] at hi'
  cases hi'
 rw[Stage.after_kept rfl hw hi,Phased,hr']
 refine .started i' i g seeds found (hq' hq) (hp'.trans hp) hne hnd ?_ (get_set hn _) ((ho.set i _).mono (by simp)) hf
  fun id x hx=>hkept id x (hk id x hx)
 rw[getElem?_set_ne hii]
 exact hi'

variable (env) in
lemma mark_cases{tenant op}(h:May run (.clear (.promote tenant)) op)(site)
 (now tie w w'):
 marked (.store site op)=some run∧
 inserts run (⟨w,.store site op,(apply now tie w.store op).1,w'⟩:Event (daemon env))=none∧
 (wins run (⟨w,.store site op,(apply now tie w.store op).1,w'⟩:Event (daemon env))=false∧
  (apply now tie w.store op).2=w.store∨
  wins run (⟨w,.store site op,(apply now tie w.store op).1,w'⟩:Event (daemon env))∧
   (∃ r,w.store.get run=some r∧r.kind=.graph∧r.status=.queued)∧
   (apply now tie w.store op).2 =
    w.store.update run (startRunning now) (Memory.startRunning_id now)):=by
 cases op with
 | markGraphRunning id=>
  obtain rfl:id=run:=h
  refine ⟨rfl,rfl,?_⟩
  simp only[apply]
  rcases markGraphRunning_cases id now w.store with ⟨hm,hno⟩ | ⟨hq,hwon⟩
  ·refine .inl ⟨?_,hm⟩
   cases hres:(w.store.markGraphRunning now id).1 with
   | error e=>rfl
   | ok won=>
    cases won with
    | true=>exact absurd hres hno
    | false=>rfl
  ·rw[hwon]
   exact .inr ⟨beq_self_eq_true id,hq,rfl⟩
 | markGraphRunningCapped id t limit=>
  obtain rfl:id=run:=h
  refine ⟨rfl,rfl,?_⟩
  simp only[apply]
  rcases markGraphRunningCapped_cases id now w.store t limit with ⟨hm,hno⟩ | ⟨hq,hwon⟩
  ·refine .inl ⟨?_,hm⟩
   cases hres:(w.store.markGraphRunningCapped now id t limit).1 with
   | error e=>rfl
   | ok out=>
    obtain ⟨won,atCap⟩:=out
    cases won with
    | true=>exact absurd hres (hno atCap)
    | false=>rfl
  ·rw[hwon]
   exact .inr ⟨beq_self_eq_true id,hq,rfl⟩
 | _=>exact h.elim
lemma record_complete{status result}
 (hr:m.get run=some r):∃ r',(m.completeLocked now run "" status result).2.get run=some r'∧
  r'.graphPayload=r.graphPayload∧(r.status≠.queued → r'.status≠.queued):=by
 rcases completeLocked_cases now m run "" status result with ⟨e,he⟩ | ⟨r',hr',_,hst,_,_,he⟩
 ·rw[he]
  exact ⟨r,hr,rfl,fun h=>h⟩
 ·rw[he]
  refine ⟨_,get_update_self hr,rfl,fun _ hq=>?_⟩
  have hq:status=.queued:=hq
  subst hq
  rcases hst with h | h<;>cases h
lemma insert_keeps{op}(hop:(∃ rec,op=.enqueue rec)∨∃ recs,op=.enqueueNodes recs)(now)
 (tie){k}(hr:m.get k=some r):
 (apply now tie m op).2.get k=some r:=by
 have hd:∀ tenant,op≠.deleteByTenant tenant:=by
  rintro tenant rfl
  rcases hop with ⟨_,h⟩ | ⟨_,h⟩<;>cases h
 rcases apply_get_cases now tie m op hd k with he | ⟨hn,_⟩ | ⟨r,r',_,_,ht⟩
 ·exact he.trans hr
 ·rw[hr] at hn
  cases hn
 ·rcases hop with ⟨_,rfl⟩ | ⟨_,rfl⟩<;>cases ht<;>simp_all[StoreOp.completion,StoreOp.requeuing]
lemma Phased.call(hs:SimpleID run){c o}(h:Phased run w ns)
 (hn:ns[i]? = some n)(howes:Owes run n c)(hadm:notAdmitted c)
 (hmark:marked c=some run→∀ g seeds left,.seeding g seeds left∉ns):
 Phased run (stepWorld env c o w).2 (ns.set i (Stage.after run n
  (⟨w,c,(stepWorld env c o w).1,(stepWorld env c o w).2⟩:Event (daemon env)))):=by
 cases c with
 | store site op=>
  rcases howes hadm with ha | hm
  ·exact h.elsewhere hn rfl rfl ha (ha.view o.now o.tie w.store) (ha.record o.now o.tie w.store)
  cases n with
  | clear e=>
   cases e with
   | submit p g opts=>
    cases op with
    | enqueue rec=>
     obtain ⟨rfl,hne,hnd⟩:=hm
     exact h.insert hs hn hne hnd
    | _=>exact hm.elim
   | promote tenant=>
    obtain ⟨hmarked,hins,⟨hlose,hsame⟩ | ⟨hwin,hq,hstore⟩⟩:=
     mark_cases env hm site o.now o.tie w (stepWorld env (.store site op) o w).2
    ·have hafter:Stage.after run (.clear (.promote tenant)) (⟨w,.store site op,
      (stepWorld env (.store site op) o w).1,(stepWorld env (.store site op) o w).2⟩:Event (daemon env)) =
      .clear (.promote tenant):=Stage.after_clear hlose (fun hi=>by cases hins.symm.trans hi)
     rw[hafter,set_self hn]
     simp only[Phased,stepWorld,hsame]
     exact h
    ·exact h.win hs hn (hmark hmarked) rfl rfl hwin hq hstore
   | _=>cases op<;>exact hm.elim
  | seeding g seeds left=>
   cases left with
   | nil=>cases op<;>exact hm.elim
   | cons s left=>
    cases op with
    | enqueue rec=>
     obtain rfl:rec=seedRecord g run s.1 s.2:=hm
     exact h.seed hs hn
    | _=>exact hm.elim
  | handed g seeds=>cases op<;>exact hm.elim
  | starting found last=>
   cases op with
   | complete id status result=>
    obtain ⟨rfl,_⟩:=hm
    refine h.hold hn rfl rfl rfl (fun h=>by cases h) (fun r hr=>record_complete hr) fun x r hr=>?_
    exact (congrFun (view_complete hs o.now o.tie w.store) x).trans hr
   | enqueue rec=>
    have hkeep:=fun {k:String} {r:JobRecord} (hr:w.store.get k=some r)=>
     insert_keeps (.inl ⟨rec,rfl⟩) o.now o.tie hr
    refine h.hold hn rfl rfl rfl ?_ (fun r hr=>⟨r,hkeep hr,rfl,fun hq=>hq⟩) fun x r hr=>hkeep hr
    -- the run has its record already
    obtain ⟨_,r,_,_,_,hr,_⟩:=h.of_starting hn
    intro hins
    by_cases hid:rec.id=run
    ·rcases enqueueLocked_cases o.now w.store rec with ⟨_,_,he⟩ | ⟨hnone,_,_⟩
     ·have hres:(stepWorld env (.store site (.enqueue rec)) o w).1=.error .conflict:=congrArg fst he
      rw[hres] at hins
      cases (if_pos hid).symm.trans hins
     ·rw[hid,hr] at hnone
      cases hnone
    ·cases (inserts_other hid).symm.trans hins
   | enqueueNodes recs=>
    have hkeep:=fun {k:String} {r:JobRecord} (hr:w.store.get k=some r)=>
     insert_keeps (.inr ⟨recs,rfl⟩) o.now o.tie hr
    exact h.hold hn rfl rfl rfl (fun h=>by cases h) (fun r hr=>⟨r,hkeep hr,rfl,fun hq=>hq⟩) fun x r hr=>hkeep hr
   | _=>exact hm.elim
  | lost=>exact absurd (mem_of_getElem? hn) h.not_lost
 | _=>exact h.elsewhere hn rfl rfl trivial rfl rfl

def untimed(r:JobRecord):JobRecord:={r with enqueuedAt:=0,startedAt:=none,finishedAt:=none}

def startRecord(g:Graph)(run:String)(seeds:Seeds)(id:String):Option JobRecord:=
 match seeds.lookup id with
 | some result=>some (untimed (stamp 0 (seedRecord g run id result)))
 | none=>
  if id∈(roots g (seeds.map fst)).map Node.id++seedDependents g (seeds.map fst) (seeds.map fst) then
   some (untimed (stamp 0 (dependentRecord g run id)))
  else none

lemma Fills.seedsOnly(hf:Fills g run seeds (view run m)):
 SeedsOnly run (seeds.map fst) m:=by
 intro id
 by_cases hid:id∈seeds.map fst
 ·obtain ⟨s,hs,rfl⟩:=mem_map.1 hid
  obtain ⟨now,hr⟩:=hf.seeded s hs
  have hr:m.get (nodeJobID run s.1)=_:=hr
  rw[contains_iff_mem.2 hid]
  simp[succeededIn,hr,stamp,seedRecord]
 ·have hr:m.get (nodeJobID run id)=none:=hf.free id hid
  simp[succeededIn,hr,hid]
lemma mem_queued_congr{seeded seeded'}(h:∀ id,seeded.contains id=seeded'.contains id)(id):
 id∈(roots g seeded).map Node.id++seedDependents g seeded seeded↔
  id∈(roots g seeded').map Node.id++seedDependents g seeded' seeded':=by
 have hmem:∀ x,x∈seeded↔x∈seeded':=by
  intro x
  rw[←contains_iff_mem,←contains_iff_mem,h x]
 have hroots:roots g seeded=roots g seeded':=by simp only[roots,h]
 simp only[mem_append,mem_seedDependents,hroots,hmem]
lemma startRecord_of_adds{seeded m₀}(hnd:(seeds.map fst).Nodup)
 (hf:Fills g run seeds (view run m₀))(hs:SeedsOnly run seeded m₀)
 (ha:Adds (((roots g seeded).map Node.id++seedDependents g seeded seeded).map (dependentRecord g run)) m₀ m)
 (id):(view run m id).map untimed=startRecord g run seeds id:=by
 have hsame:∀ id,seeded.contains id=(seeds.map fst).contains id:=
  fun id=>(hs id).symm.trans (hf.seedsOnly id)
 unfold startRecord
 by_cases hid:id∈seeds.map fst
 ·obtain ⟨s,hs,rfl⟩:=mem_map.1 hid
  obtain ⟨now,hr⟩:=hf.seeded s hs
  have hr:view run m s.1=_:=ha.keeps hr
  rw[lookup_of_mem hnd hs,hr]
  rfl
 ·have hnone:seeds.lookup id=none:=by
   rw[lookup_eq_none_iff]
   intro p hp
   exact bne_iff_ne.2 fun he=>hid (he▸mem_map_of_mem hp)
  have hfree:m₀.get (nodeJobID run id)=none:=hf.free id hid
  rw[hnone]
  simp only
  by_cases hq:id∈(roots g (seeds.map fst)).map Node.id++seedDependents g (seeds.map fst) (seeds.map fst)
  ·rw[if_pos hq]
   have hq':=(mem_queued_congr hsame id).2 hq
   obtain ⟨r,hr⟩:=ha.added _ (mem_map_of_mem hq')
   rcases ha.kept (nodeJobID run id) with hk | ⟨_,rec,hrec,he,now,hk⟩
   ·exact absurd ((hk.trans hfree).symm.trans hr) (by simp)
   ·obtain ⟨id',_,rfl⟩:=mem_map.1 hrec
    obtain rfl:=nodeJobID_inj run _ _ he
    exact congrArg (Option.map untimed) hk
  ·rw[if_neg hq]
   rcases ha.kept (nodeJobID run id) with hk | ⟨_,rec,hrec,he,_⟩
   ·exact congrArg (Option.map untimed) (hk.trans hfree)
   ·obtain ⟨id',hid',rfl⟩:=mem_map.1 hrec
    obtain rfl:=nodeJobID_inj run _ _ he
    exact absurd ((mem_queued_congr hsame id').1 hid') hq
lemma solo_startRecord(w)(hnd:(seeds.map fst).Nodup)
 (hfresh:∀ id,w.store.get (nodeJobID run id)=none):
 Solo (daemon env) (populateSeededRun g run seeds) w
  (fun _ w'=>∀ id,(view run w'.store id).map untimed=startRecord g run seeds id):=by
 refine (solo_persistSeedsOnly seeds w).bind fun errs w₁ h₁=>?_
 obtain ⟨hseed,hfree⟩:=persisted hnd hfresh h₁
 have hf:Fills g run seeds (view run w₁.store):=⟨hseed,hfree⟩
 exact (solo_dispatchRoots w₁ hf.seedsOnly).bind
  fun out w₂ h₂=>Solo.done (startRecord_of_adds hnd hf hf.seedsOnly h₂)

section Pools

variable {w₀:World}{P:Pool (daemon env)}

section

variable (hs:SimpleID run)(hw:WellKept w₀.store∧Sound w₀.store)

include hs hw

lemma not_seeding(hr:Reach (handedOver env) {state:=w₀} P)(hsub:Submitted run P)(g seeds left):
 .seeding g seeds left∉(K env run).notes P:=by
 intro hm
 obtain ⟨p,hp,hn⟩:=mem_map.1 hm
 have htr:Tracks run p.entry p.log ((K env run).noteOf p.entry p.log):=tracks p.entry p.log
 rw[hn] at htr
 have hfin:=hsub p hp (inserted_iff.2 htr.2.1)
 rcases ((riding_holds hs hw).supported hr).final_of_finished hp hfin with h | h
 ·rw[hn] at h
  rcases h with h | ⟨_,h⟩ | ⟨_,_,h⟩<;>cases h
 ·rw[hn] at h
  rcases h with ⟨_,h⟩ | h | ⟨_,_,_,h,_⟩<;>cases h
lemma phased(hnew:w₀.store.get run=none)
 (hr:Reach (handedOver env) {state:=w₀} P):Phased run P.state ((K env run).notes P):=by
 refine pool_inv rfl ?_ ?_ ?_ hr
 ·have hview:view run w₀.store=fun _=>none:=by
   funext id
   cases hr:w₀.store.get (nodeJobID run id) with
   | none=>exact hr
   | some r=>
    -- a record of a step would come with the record of the run
    obtain ⟨hk,hrun,_⟩:=hw.1.node_at hs hr
    obtain ⟨rec,_,hrec,_⟩:=(hw.1.node hr hk).run
    rw[hrun,hnew] at hrec
    cases hrec
  change Phase run (w₀.store.get run) (view run w₀.store) []
  rw[hnew,hview]
  exact .fresh fun k n hk=>by cases hk
 ·intro P e _ _ h
  exact h.start e
 ·intro P i o e c k log hr ha hp h
  have hcall:=Allowed.call ha hp
  refine h.call hs (notes_get hp) (((riding_holds hs hw).supported hr).guar_of_call hp) hcall.2.1 ?_
  intro hm
  exact not_seeding hs hw hr (hcall.2.2 run hm)

def starts(run:String)(P:Pool (daemon env)):Nat:=(P.procs.flatMap Proc.log).countP (wins run)

def Stage.won:Stage→Nat
 | .starting _ _=>1
 | _=>0

omit hs hw in
lemma starts_eq(h: .lost∉(K env run).notes P):starts run P=(((K env run).notes P).map Stage.won).sum:=by
 have hlog:∀ p∈P.procs,p.log.countP (wins run)=Stage.won ((K env run).noteOf p.entry p.log):=by
  intro p hp
  have htr:Tracks run p.entry p.log ((K env run).noteOf p.entry p.log):=tracks p.entry p.log
  have hnl:(K env run).noteOf p.entry p.log≠Stage.lost:=fun hl=>h (hl▸mem_map_of_mem hp)
  revert htr hnl
  cases (K env run).noteOf p.entry p.log with
  | lost=>exact fun _ hnl=>absurd rfl hnl
  | clear e | seeding g seeds left | handed g seeds=>exact fun htr _=>htr.2.2
  | starting found last=>exact fun htr _=>htr.2
 rw[starts,countP_flatMap]
 refine congrArg sum ((map_congr_left hlog).trans ?_)
 exact (map_map (f:=fun p=>(K env run).noteOf p.entry p.log) (g:=Stage.won) (l:=P.procs)).symm
omit hs hw in
lemma sum_won_zero(h:∀ (k:Nat) n,ns[k]? = some n→Stage.won n=0):(ns.map Stage.won).sum=0:=by
 induction ns with
 | nil=>rfl
 | cons a rest ih=>rw[map_cons,sum_cons,h 0 a rfl,ih fun k n hk=>h (k+1) n hk]
omit hs hw in
lemma sum_won{j}(hj:ns[j]? = some n)(ho:∀ (k:Nat) n,ns[k]? = some n→k≠j→Stage.won n=0):
 (ns.map Stage.won).sum=n.won:=by
 induction ns generalizing j with
 | nil=>cases hj
 | cons a rest ih=>
  rw[map_cons,sum_cons]
  cases j with
  | zero=>
   cases hj
   rw[sum_won_zero fun k n hk=>ho (k+1) n hk (Nat.succ_ne_zero k),Nat.add_zero]
  | succ j=>
   rw[ho 0 a rfl (Nat.succ_ne_zero j).symm,Nat.zero_add]
   exact ih (j:=j) hj fun k n hk hne=>ho (k+1) n hk (by simpa using hne)
omit hs hw in
lemma Phase.sum_won(h:Phase run rec v ns):
 (ns.map Stage.won).sum=if rec.all (fun r=>r.status==.queued) then 0 else 1:=by
 have hclear:∀ {is:List Nat},Others ns is→∀ k n,ns[k]? = some n→k∉is → n.won=0:=by
  intro is ho k n hk hne
  obtain ⟨e,rfl⟩:=ho k n hk hne
  rfl
 cases h with
 | fresh ho=>exact sum_won_zero (fun k n hk=>hclear ho k n hk (by simp))
 | waiting i g pre left hq hp hne hnd hi ho hf=>
  simp only[Option.all_some,hq,beq_self_eq_true,if_true]
  refine sum_won_zero fun k n hk=>?_
  by_cases hki:k=i
  ·subst hki
   rw[hi] at hk
   cases left<;>cases hk<;>rfl
  ·exact hclear ho k n hk (by simpa using hki)
 | started i j g seeds found hq hp hne hnd hi hj ho hf hk=>
  simp only[Option.all_some,beq_iff_eq,hq,if_false]
  refine QueuedRuns.sum_won hj fun k n hk hkj=>?_
  by_cases hki:k=i
  ·subst hki
   rw[hi] at hk
   cases hk
   rfl
  ·exact hclear ho k n hk (by simp[hki,hkj])
lemma owed(hnew:w₀.store.get run=none)
 (hr:Reach (handedOver env) {state:=w₀} P):∀ p∈P.procs,∀ ev∈p.log,
  ∃ n:Stage,n≠.lost∧Owes run n ev.call∧notAdmitted ev.call:=by
 intro p hp ev hev
 obtain ⟨newer,older,hlog⟩:=append_of_mem hev
 obtain ⟨Q,i,o,hm⟩:=hr.made (by simp) p hp newer ev older hlog
 obtain ⟨hg,_,hl⟩:=(riding_holds hs hw).guar_of_made hm
 obtain ⟨k,hproc⟩:=hm.proc
 refine ⟨(K env run).noteOf p.entry older,fun hlost=>?_,hg,hl.1.2⟩
 exact (phased hs hw hnew hm.reach).not_lost (hlost▸mem_of_getElem? (notes_get hproc))

end

abbrev Queues(run:String)(g:Graph)(opts:SubmitOpts)(ev:Event (daemon env)):Prop:=
 ev.call=.store .plain (.enqueue (submittedRecord g run false opts))∧inserts run ev=some true

lemma Queues.fresh{opts:SubmitOpts}{ev:Event (daemon env)}{o:Oracle}(h:Queues run g opts ev)
 (heff:stepWorld env ev.call o ev.before=(ev.res,ev.after)):
 ev.before.store.get run=none∧∃ r,ev.after.store.get run=some r∧r.kind=.graph:=by
 obtain ⟨w,c,res,w'⟩:=ev
 obtain ⟨rfl,hins⟩:=h
 have hstore:(w.store.enqueueLocked o.now (submittedRecord g run false opts)).2=w'.store:=
  congrArg (fun x=>x.2.store) heff
 have hres:(w.store.enqueueLocked o.now (submittedRecord g run false opts)).1=res:=congrArg fst heff
 have hown:(submittedRecord g run false opts).id=run:=rfl
 rcases enqueueLocked_cases o.now w.store (submittedRecord g run false opts) with ⟨r,hr,he⟩ | ⟨hnone,_,hg⟩
 ·rw[he] at hres
  subst hres
  cases (if_pos hown).symm.trans hins
 ·refine ⟨hnone,stamp o.now (submittedRecord g run false opts),?_,rfl⟩
  rw[←hstore,hg run,if_pos hown.symm]
lemma Queues.new{opts ev p}(h:Queues run g opts ev)
 (hw:WellKept w₀.store∧Sound w₀.store)(hr:Reach (handedOver env) {state:=w₀} P)(hp:p∈P.procs)
 (hev:ev∈p.log):SimpleID run∧w₀.store.get run=none:=by
 obtain ⟨newer,older,hlog⟩:=append_of_mem hev
 obtain ⟨Q,i,o,hm⟩:=hr.made (by simp) p hp newer ev older hlog
 have hholds:(contract env).Holds (fun _ _=>True) (handedOver env) {state:=w₀}:=handedOver_holds hw
 obtain ⟨hbefore,r,hafter,hk⟩:=h.fresh hm.effect
 refine ⟨((hholds.rely_of_made hm).2.1.simple_iff hafter).2 hk,?_⟩
 cases hold:w₀.store.get run with
 | none=>rfl
 | some r₀=>
  obtain ⟨r',hr',_⟩:=(hholds.since_start hm.reach).job run r₀ hold
  rw[hm.before,hbefore] at hr'
  cases hr'

def failsRun(run:String):Call→Bool
 | .store _ op=>op.completion.any (fun c=>c.1==run&&c.2.2.1==.failed)
 | _=>false

lemma Apart.not_fails{op site}(h:Apart run op):failsRun run (.store site op)=false:=by
 cases op with
 | complete id status result=>
  have hne:id≠run:=h.1
  simp[failsRun,StoreOp.completion,hne]
 | completeOwned id worker status result | completeAndEnqueue id worker status result deps=>cases h
 | _=>rfl
lemma May.not_fails{n op site}(hn:n≠.lost)(h:May run n op):
 failsRun run (.store site op)=false:=by
 cases n with
 | clear e=>cases e<;>cases op<;>first | rfl | exact h.elim
 | seeding g seeds left=>cases left<;>cases op<;>first | rfl | exact h.elim
 | handed g seeds=>cases op<;>exact h.elim
 | starting found last=>
  cases op with
  | complete id status result=>simp[failsRun,StoreOp.completion,h.2]
  | completeOwned id worker status result | completeAndEnqueue id worker status result deps=>exact h.elim
  | _=>rfl
 | lost=>exact absurd rfl hn
lemma not_failsRun{n c}(hn:n≠.lost)(ho:Owes run n c)(ha:notAdmitted c):
 failsRun run c=false:=by
 cases c with
 | store site op=>
  rcases ho ha with h | h
  ·exact h.not_fails
  ·exact h.not_fails hn
 | _=>rfl

def Stage.owner:Stage→Option (Graph×Seeds)
 | .seeding g seeds _ | .handed g seeds=>some (g,seeds)
 | _=>none

lemma owner_opened(g seeds left):(Stage.opened g seeds left).owner=some (g,seeds):=by
 cases left<;>rfl
lemma Phase.owned(h:Phase run rec v ns){g seeds}(hn:n∈ns)(ho:n.owner=some (g,seeds)):
 (∃ r,rec=some r)∧(seeds.map fst).Nodup∧
  (∀ s∈seeds,∀ r,v s.1=some r → r.status=.succeeded)∧
  ∀ n'∈ns,∀ x,n'.owner=some x→x=(g,seeds):=by
 have hindex:∀ {n:Stage},n∈ns→∃ k:Nat,ns[k]? = some n:=by
  intro n hn
  obtain ⟨k,hk,hn⟩:=mem_iff_getElem.1 hn
  exact ⟨k,List.getElem?_eq_some_iff.2 ⟨hk,hn⟩⟩
 cases h with
 | fresh hother=>
  obtain ⟨k,hk⟩:=hindex hn
  obtain ⟨e,rfl⟩:=hother k n hk (by simp)
  cases ho
 | @waiting _ r _ i g' pre left hq hp hne hnd hi hother hf=>
  have hall:∀ n'∈ns,∀ x,n'.owner=some x→x=(g',pre++left):=by
   intro n' hn' x hx
   obtain ⟨k,hk⟩:=hindex hn'
   by_cases hki:k=i
   ·subst hki
    rw[hi] at hk
    cases hk
    exact (Option.some.inj ((owner_opened g' _ left).symm.trans hx)).symm
   ·obtain ⟨e,rfl⟩:=hother k n' hk (by simpa using hki)
    cases hx
  cases hall n hn _ ho
  exact ⟨⟨r,rfl⟩,hnd,fun s _ x hx=>hf.succeeded s.1 x hx,hall⟩
 | @started _ r _ i j g' seeds' found hq hp hne hnd hi hj hother hf hk=>
  have hall:∀ n'∈ns,∀ x,n'.owner=some x→x=(g',seeds'):=by
   intro n' hn' x hx
   obtain ⟨k,hk⟩:=hindex hn'
   by_cases hki:k=i
   ·subst hki
    rw[hi] at hk
    cases hk
    exact (Option.some.inj hx).symm
   ·by_cases hkj:k=j
    ·subst hkj
     rw[hj] at hk
     cases hk
     cases hx
    ·obtain ⟨e,rfl⟩:=hother k n' hk (by simp[hki,hkj])
     cases hx
  cases hall n hn _ ho
  refine ⟨⟨r,rfl⟩,hnd,fun s hs x hx=>?_,hall⟩
  obtain ⟨now,hfound⟩:=hf.seeded s hs
  exact hf.succeeded s.1 x (hfound.trans ((hk s.1 _ hfound).symm.trans hx))
lemma started_records(hs:SimpleID run)(hw:WellKept w₀.store∧Sound w₀.store)(hnew:w₀.store.get run=none)
 (hr:Reach (handedOver env) {state:=w₀} P){q}(hq:q∈P.procs)
 (hwon:q.log.any (wins run))(hfin:q.prog.finished):
 ∃ g seeds,.handed g seeds∈(K env run).notes P∧
  ∀ id,(view run P.state.store id).map untimed=startRecord g run seeds id:=by
 have hph:=phased hs hw hnew hr
 have hend:=((riding_holds hs hw).supported hr).final_of_finished hq hfin
 obtain ⟨i,hi,hget⟩:=mem_iff_getElem.1 hq
 have hn:=notes_get (K:=K env run) (List.getElem?_eq_some_iff.2 ⟨hi,hget⟩)
 have htr:Tracks run q.entry q.log ((K env run).noteOf q.entry q.log):=tracks q.entry q.log
 have hpos:q.log.countP (wins run)≠0:=by
  obtain ⟨ev,hev,hw⟩:=any_eq_true.1 hwon
  exact (countP_pos_iff.2 ⟨ev,hev,hw⟩).ne'
 revert hn htr hend
 cases (K env run).noteOf q.entry q.log with
 | clear e | seeding g seeds left | handed g seeds=>exact fun _ _ htr=>absurd htr.2.2 hpos
 | lost=>exact fun _ hn=>absurd (mem_of_getElem? hn) hph.not_lost
 | starting found last=>?_
 intro hend hn _
 obtain ⟨rfl,r,i',g,seeds,hrec,_,hp,hne,hnd,hi',_,hf,_⟩:=hph.of_starting hn
 rcases hend with (h | ⟨_,h⟩ | ⟨_,_,h⟩) | ⟨_,h⟩ | h | ⟨found',last',g',h,hst,hb⟩
 ·cases h
 ·cases h
 ·cases h
 ·cases h
 ·cases h
 cases h
 obtain ⟨r',hr',_,hp',_⟩:=hst
 rw[hrec] at hr'
 cases hr'
 rw[hp] at hp'
 cases hp'
 obtain ⟨m₀,m,seeded,hfound,hlast,hseeds,hadds⟩:=hb hne
 refine ⟨g,seeds,mem_of_getElem? hi',fun id=>?_⟩
 rw[←hlast]
 exact startRecord_of_adds hnd (hfound▸hf) hseeds hadds id

/-- A queued run starts exactly as it was submitted, whatever promoters run beside its submission, when
 each of them starts a run only after the run's submission has returned. -/
theorem handed_over_run_starts_as_submitted(hw:WellKept w₀.store∧Sound w₀.store)
 (hr:Reach (handedOver env) {state:=w₀} P){p:Proc (daemon env)}{pr:Principal}{g:Graph}
 {opts:SubmitOpts}{ev:Event (daemon env)}(hp:p∈P.procs)(he:p.entry=.submit pr g opts)
 (hev:ev∈p.log)(hq:Queues run g opts ev):
 (starts run P=if (P.state.store.get run).any (fun r=>r.status==.queued) then 0 else 1)∧
 (∀ s∈opts.seeds,∀ r,P.state.store.get (nodeJobID run s.1)=some r → r.status=.succeeded)∧
 (∀ q∈P.procs,∀ ev∈q.log,failsRun run ev.call=false)∧
 (∀ q∈P.procs,q.log.any (wins run)→q.prog.finished→
  ∀ w:World,(∀ id,w.store.get (nodeJobID run id)=none)→
   Solo (daemon env) (populateSeededRun g run opts.seeds) w fun _ w'=>
    ∀ id,(P.state.store.get (nodeJobID run id)).map untimed =
     (w'.store.get (nodeJobID run id)).map untimed):=by
 obtain ⟨hs,hnew⟩:=hq.new hw hr hp hev
 have hph:=phased hs hw hnew hr
 -- the submission owns the run
 have howner:(Stage.owner ((K env run).noteOf p.entry p.log))=some (g,opts.seeds):=by
  have htr:Tracks run p.entry p.log ((K env run).noteOf p.entry p.log):=tracks p.entry p.log
  have hnl:(K env run).noteOf p.entry p.log≠Stage.lost:=fun hl=>hph.not_lost (hl▸mem_map_of_mem hp)
  revert htr hnl
  cases (K env run).noteOf p.entry p.log with
  | clear e=>exact fun htr _=>absurd hq.2 (htr.2.1 ev hev)
  | starting found last=>exact fun htr _=>absurd hq.2 (htr.1 ev hev)
  | lost=>exact fun _ hnl=>absurd rfl hnl
  | seeding g' seeds left | handed g' seeds=>
   rintro ⟨⟨pr',opts',he',rfl⟩,_⟩ _
   rw[he] at he'
   cases he'
   rfl
 obtain ⟨⟨r,hrec⟩,hnd,hseeds,hone⟩:=hph.owned (mem_map_of_mem hp) howner
 refine ⟨?_,fun s hs r hr=>hseeds s hs r hr,fun q hq ev hev=>?_,fun q hq hwon hfin w hfresh=>?_⟩
 ·rw[starts_eq hph.not_lost,hph.sum_won,hrec]
  rfl
 ·obtain ⟨n,hn,ho,ha⟩:=owed hs hw hnew hr q hq ev hev
  exact not_failsRun hn ho ha
 ·obtain ⟨g',seeds,hmem,hstart⟩:=started_records hs hw hnew hr hq hwon hfin
  cases hone _ hmem _ rfl
  exact (solo_startRecord w hnd hfresh).mono fun _ w' h id=>(hstart id).trans (h id).symm

end Pools

deriving instance DecidableEq for Daemon.Entry

def twoSteps:Graph:=
 { id:="g",tenant:="t",workspace:="w"
   nodes:=[{id:="a",module:="m" },{id:="b",module:="m" }]
   edges:=[{source:="a",fromPort:="out",target:="b",toPort:="in" }]}

def firstSeeded:SubmitOpts:={seeds:=[("a",{status:=.ok})]}

def slots(limit:Int):(q:Query)→q.Answer
 | .concurrencyLimit _=>limit
 | q=>bareAnswer q

def busy:World:=
 ((idleDaemon bareEnv).after (anyRun bareEnv) ([.start (.submit owner router {})]++steps 0 6 (fun
  | .newID=>"busy"
  | q=>bareAnswer q))).state

lemma busy_kept:WellKept busy.store∧Sound busy.store:=
 ((anyRun_holds bareEnv).supported (reach_after (by decide +kernel))).inv

def submission(calls:Nat):List (Action (daemon bareEnv)):=
 [.start (.submit owner twoSteps firstSeeded)]++steps 0 calls (slots 1)

def sweep(calls:Nat):List (Action (daemon bareEnv)):=[.start (.promote "t")]++steps 1 calls (slots 2)

abbrev Submits(P:Pool (daemon bareEnv)):Prop:=
 ∃ p∈P.procs,p.entry=.submit owner twoSteps firstSeeded∧∃ ev∈p.log,Queues "run" twoSteps firstSeeded ev

/-- The sweep starts the run before the seed is in: the seeded step is queued, and the
 submission fails the run. -/
theorem early_sweep_queues_seed:
 ∃ P,Reach (queuedRuns bareEnv) {state:=busy} P∧Submits P∧
  (∃ r,P.state.store.get (nodeJobID "run" "a")=some r∧r.status=.queued)∧
  ∃ q∈P.procs,∃ ev∈q.log,failsRun "run" ev.call:=by
 obtain ⟨P,hr,hc⟩:=reach_of_check (queuedRuns bareEnv) {state:=busy}
  (submission 6++sweep 7++steps 0 2 (slots 1))
  (fun P=>decide (Submits P)&&(P.state.store.get (nodeJobID "run" "a")).any (fun r=>r.status==.queued) &&
   P.procs.any fun q=>q.log.any fun ev=>failsRun "run" ev.call)
  (by decide +kernel)
 simp only[Bool.and_eq_true,decide_eq_true_eq,Option.any_eq_true,any_eq_true,beq_iff_eq] at hc
 exact ⟨P,hr,hc.1.1,hc.1.2,hc.2⟩

/-- A sweep after the submission starts the run once, as it was submitted. -/
theorem late_sweep_starts_run:
 ∃ P,Reach (handedOver bareEnv) {state:=busy} P∧starts "run" P=1∧
  (∃ q∈P.procs,q.log.any (wins "run")∧q.prog.finished)∧
  ∀ w:World,(∀ id,w.store.get (nodeJobID "run" id)=none)→
   Solo (daemon bareEnv) (populateSeededRun twoSteps "run" firstSeeded.seeds) w (fun _ w'=>
    ∀ id,(P.state.store.get (nodeJobID "run" id)).map untimed =
     (w'.store.get (nodeJobID "run" id)).map untimed):=by
 obtain ⟨P,hr,hc⟩:=reach_of_check (handedOver bareEnv) {state:=busy} (submission 7++sweep 8)
  (fun P=>decide (Submits P)&&(P.state.store.get "run").all (fun r=>r.status != .queued) &&
   P.procs.any fun q=>q.log.any (wins "run")&&q.prog.finished)
  (by decide +kernel)
 simp only[Bool.and_eq_true,decide_eq_true_eq,any_eq_true] at hc
 obtain ⟨⟨⟨p,hp,he,ev,hev,hq⟩,hrun⟩,q,hqp,hwon,hfin⟩:=hc
 have hwon:q.log.any (wins "run"):=any_eq_true.2 hwon
 obtain ⟨hstarts,_,_,hrecords⟩:=handed_over_run_starts_as_submitted busy_kept hr hp he hev hq
 refine ⟨P,hr,?_,⟨q,hqp,hwon,hfin⟩,hrecords q hqp hwon hfin⟩
 rw[hstarts,if_neg]
 intro hany
 obtain ⟨r,hget,hst⟩:=(Option.any_eq_true _ _).1 hany
 rw[hget,Option.all_some,bne_iff_ne] at hrun
 exact hrun (by simpa using hst)

end Dazyflow.QueuedRuns
