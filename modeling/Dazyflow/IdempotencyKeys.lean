import Dazyflow.IdempotentCalls

/-!
# One run for an Idempotency-Key

Within a key's time to live, and while the store has room, the requests that carry the key start at most one
run between them.
-/
namespace Dazyflow.IdempotentCalls
open Interleaving KeyedTable List
open Stage (answered joined loaded settle)

section Store

variable {s:State}{key:String}

lemma evict_of_le{entries}(h:entries.rows.length ≤ idempotencyMaxCache)(order):
 evict order entries=(order,entries):=by
 cases order with
 | nil=>rfl
 | cons key order=>rw[evict,if_neg (Nat.not_lt.2 h)]
lemma length_upsert(t:Entries)(e:String×Nat):(t.upsert e).rows.length ≤ t.rows.length+1:=by
 unfold Table.upsert
 split_ifs
 ·simp[Table.insert]
 ·simp

structure Stored(s:State)(key:String)(entry:Entry)(s':State):Prop where
 cells:s'.cells=s.cells++[⟨key,entry⟩]
 runs:s'.runs=s.runs
 find:∀ k,s'.find k=if k=key then some s.cells.length else s.find k

structure Dropped(s:State)(key:String)(s':State):Prop where
 cells:s'.cells=s.cells
 runs:s'.runs=s.runs
 find:∀ k,s'.find k=if k=key then none else s.find k

lemma stored_put(key:String)(hlen:s.entries.rows.length < idempotencyMaxCache)(order:List String)(entry:Entry):
 Stored s key entry ({s with order:=order}.put key entry).evictLocked:=by
 have hle:(s.entries.upsert (key,s.cells.length)).rows.length ≤ idempotencyMaxCache:=
  (length_upsert _ _).trans hlen
 refine ⟨rfl,rfl,fun k=>?_⟩
 simp only[State.find,State.evictLocked,State.put,evict_of_le hle,find?_upsert]
 by_cases hk:k=key<;>simp[hk]
lemma dropped_drop(s key):Dropped s key (s.drop key):=by
 refine ⟨rfl,rfl,fun k=>?_⟩
 simp only[State.find,State.drop,find?_erase]
 by_cases hk:k=key
 ·subst hk
  rw[if_pos rfl]
  cases h:s.entries.find? k with
  | none=>rfl
  | some e=>simp[key_of_find? h]
 ·rw[if_neg hk]
  cases h:s.entries.find? k with
  | none=>rfl
  | some e=>
   have hek:e.1=k:=key_of_find? h
   simp only[Option.filter_some,hek,hk,decide_false,Bool.not_false,if_true]
lemma length_drop(s:State)(key:String):(s.drop key).entries.rows.length ≤ s.entries.rows.length:=
 length_filter_le _ _
lemma Stored.of_dropped{s' s'' entry}(hd:Dropped s key s')(h:Stored s' key entry s''):
 Stored s key entry s'':=by
 refine ⟨by rw[h.cells,hd.cells],by rw[h.runs,hd.runs],fun k=>?_⟩
 rw[h.find,hd.find,hd.cells]
 by_cases hk:k=key<;>simp[hk]
lemma start_cases{reqHash}(now:Nat)(hlen:s.entries.rows.length < idempotencyMaxCache):
 (∃ object,s.find key=some object∧s.start key reqHash now=(some object,s))∨
 ((s.start key reqHash now).1=none∧Stored s key {storedAt:=now,reqHash:=reqHash} (s.start key reqHash now).2∧
  ∀ object,s.find key=some object→¬now-(s.entry object).storedAt ≤ idempotencyTTL):=by
 unfold State.start
 cases hfind:s.find key with
 | none=>exact .inr ⟨rfl,stored_put key hlen (s.order++[key]) _,by simp⟩
 | some object=>?_
 by_cases hlive:now-(s.entry object).storedAt ≤ idempotencyTTL
 ·exact .inl ⟨object,rfl,if_pos hlive⟩
 simp only[if_neg hlive]
 have hstored:=stored_put key ((length_drop s key).trans_lt hlen) ((s.drop key).order++[key])
  {storedAt:=now,reqHash:=reqHash}
 refine .inr ⟨trivial,hstored.of_dropped (dropped_drop s key),fun object' h=>?_⟩
 cases h
 exact hlive
lemma stored_commit{response}(now)(hlen:s.entries.rows.length < idempotencyMaxCache):
 ∃ entry,Stored s key entry (s.commit key response now)∧entry.response=some response∧
  ∀ object,s.find key=some object→
   entry.reqHash=(s.entry object).reqHash∧entry.runID=(s.entry object).runID:=by
 unfold State.commit
 cases hfind:s.find key with
 | none=>exact ⟨_,stored_put key hlen _ _,rfl,by simp⟩
 | some object=>
  refine ⟨_,stored_put key hlen s.order _,rfl,fun object' h=>?_⟩
  cases h
  exact ⟨rfl,rfl⟩
lemma abort_cases(s key):s.abort key=s∨Dropped s key (s.abort key):=by
 unfold State.abort
 cases s.find key with
 | none=>exact .inl rfl
 | some object=>
  dsimp only
  split_ifs
  ·exact .inl rfl
  ·exact .inr (dropped_drop s key)

end Store

def Refused(response:Response):Prop:=(∃ message,response.body=.error message)∧400 ≤ response.status

/-- The key is in the store for less than its time to live whenever somebody asks for it,
 the store has room for one more, and a submission that is refused created no run. -/
def within(k:String)(s:State)(o:Oracle):Call→Bool
 | .start key _=>
  decide (s.entries.rows.length < idempotencyMaxCache) &&
   (key≠k||(s.find k).all fun object=>o.now-(s.entry object).storedAt ≤ idempotencyTTL)
 | .commit _ _=>s.entries.rows.length < idempotencyMaxCache
 | .submit _ _=>!o.applied
 | _=>true

/-- Every way a program of this stage can move within these limits, with the state it
 leaves. -/
inductive Shift(k:String)(s:State):Stage→State→Stage→Prop
 | loads {q g}:Shift k s (.arriving q) s (.loaded q g)
 | finds {t g key object} (hkey:t.key=some key) (hplain:t.holder=false)
  (hfind:s.find key=some object):Shift k s (.claiming t g) s (.meeting t g object)
 | reserves {t g key now s'} (hkey:t.key=some key)
  (hfree:key=k → s.find k=none) (hs:Stored s key {storedAt:=now,reqHash:=callRequestHash t.q} s'):
  Shift k s (.claiming t g) s' (.ready {t with holder:=true} g)
 | looks {t g object}:Shift k s (.meeting t g object) s (.met t g (s.entry object))
 | submits {t g}:
  Shift k s (.submitting t g) (s.submit t.claim t.q)
   (if t.holder then .attaching t g s.runs.length else .joined t g s.runs.length)
 | refuses {t g response} (hr:Refused response):
  Shift k s (.submitting t g) s (.answering t false (some response))
 | attaches {t g run key} (hkey:t.claim=some key):
  Shift k s (.attaching t g run) (s.attach key run) (.joined t g run)
 | replies {t g run response}
  (hr:replyIn g.replies ((s.records run).take callNodeRecordLimit)=some response):
  Shift k s (.listing t g run) s (.answering t true (some (t.relay response)))
 | lists {t g run}:Shift k s (.listing t g run) s (.checking t g run)
 | settles {t g run status succeeded}:
  Shift k s (.checking t g run) s (.answering t true (some (t.relay ⟨status,.settled run succeeded,none⟩)))
 | checks {t g run}:Shift k s (.checking t g run) s (.waiting t g run)
 | wakes {t g run}:Shift k s (.waiting t g run) s (.settle t g run)
 | expires {t g run}:
  Shift k s (.waiting t g run) s (.answering t true (some (t.relay (writeCallPending run))))
 | leaves {t g run}:Shift k s (.waiting t g run) s (.answering t true none)
 | responds {t ran response}:
  Shift k s (.answering t ran response) s (.answered t ran response)
 | releases {t response key s'} (hkey:t.claim=some key)
  (hs:s'=s∨Dropped s key s'):Shift k s (.releasing t response) s' (.closed t response)
 | commits {t response key entry s'} (hkey:t.claim=some key)
  (hs:Stored s key entry s') (hr:entry.response=some response)
  (hold:∀ object,s.find key=some object→
   entry.reqHash=(s.entry object).reqHash∧entry.runID=(s.entry object).runID):
  Shift k s (.committing t response) s' (.closed t (some response))
 /-- The gateway's own requests, of which only the keys matter. -/
 | gates {n n' key s'} (hn:n.gateKey=some key) (hn':n'.gateKey=some key∨n'=.ended)
  (hs:s'=s∨Dropped s key s'∨∃ entry,Stored s key entry s'):Shift k s n s' n'
 | reports {run rec}:Shift k s (.reporting run rec) (s.report run rec) .ended
 | finishes {run succeeded}:Shift k s (.finishing run succeeded) (s.finish run succeeded) .ended

section Shift

variable {k:String}{s s':State}{n n':Stage}{ns:List Stage}{i:Nat}

abbrev Moves(k:String)(s:State)(o:Oracle)(n:Stage)(c:Call):Prop:=Shift k s n (step c o s).2 (n.next c (step c o s).1)

section Moves

variable {o:Oracle}{t:Ticket}{g:Flow}{key:String}{run:RunID}

lemma moves_start(hkey:t.key=some key)(hplain:t.holder=false)(hok:within k s o (.start key (callRequestHash t.q))):
 Moves k s o (.claiming t g) (.start key (callRequestHash t.q)):=by
 simp only[within,Bool.and_eq_true,Bool.or_eq_true,decide_eq_true_eq,Option.all_eq_true] at hok
 obtain ⟨hlen,hlive⟩:=hok
 simp only[Moves,step]
 rcases start_cases o.now hlen with ⟨object,hfind,hst⟩ | ⟨hnone,hs,hdead⟩
 ·rw[hst]
  exact .finds hkey hplain hfind
 ·rw[hnone]
  refine .reserves hkey (fun hk=>?_) hs
  cases hfind:s.find k with
  | none=>rfl
  | some object=>
   subst hk
   exact absurd ((hlive.resolve_left (by simp)) object hfind) (hdead object hfind)
lemma moves_submit(hok:within k s o (.submit t.claim t.q)):Moves k s o (.submitting t g) (.submit t.claim t.q):=by
 simp only[within,Bool.not_eq_true'] at hok
 simp only[Moves,step,hok,Bool.false_eq_true,if_false]
 match o.refusal with
 | none=>exact .submits
 | some (.ok run)=>exact .submits
 | some .triggerLoop=>exact .refuses ⟨⟨_,rfl⟩,by decide⟩
 | some (.failed message)=>exact .refuses ⟨⟨_,rfl⟩,(by decide:400≤500)⟩
lemma moves_list:Moves k s o (.listing t g run) (.listNodeRecords run):=by
 cases hf:o.fails with
 | true=>
  simp only[Moves,step,hf,if_true,Stage.next,Option.bind_none]
  exact .lists
 | false=>
  simp only[Moves,step,hf,Bool.false_eq_true,if_false,Stage.next,Option.bind_some]
  split
  ·case h_1 response hr=>exact .replies hr
  ·exact .lists
lemma moves_check:Moves k s o (.checking t g run) (.getRun run):=by
 simp only[Moves,step,Stage.next]
 generalize (if o.fails then none else (s.runs[run]?).map Run.finished)=status
 rcases status with _ | _ | _ | _
 ·exact .checks
 ·exact .checks
 ·exact .settles
 ·exact .settles
lemma moves_gate{reqHash}(hok:within k s o (.start key reqHash)):Moves k s o (.gate key reqHash) (.start key reqHash):=by
 simp only[within,Bool.and_eq_true,decide_eq_true_eq] at hok
 simp only[Moves,step]
 rcases start_cases o.now hok.1 with ⟨object,_,hst⟩ | ⟨hnone,hs,_⟩
 ·rw[hst]
  exact .gates rfl (.inl rfl) (.inl rfl)
 ·rw[hnone]
  exact .gates rfl (.inl rfl) (.inr (.inr ⟨_,hs⟩))

end Moves

lemma shift_of_allows{c}(hall:n.allows c)(o)(hok:within k s o c):Moves k s o n c:=by
 cases n with
 | arriving q=>
  cases c<;>cases hall
  exact .loads
 | claiming t g=>
  cases c<;>obtain ⟨hkey,hplain,rfl⟩:=hall
  exact moves_start hkey hplain hok
 | meeting t g object=>
  cases c<;>cases hall
  exact .looks
 | submitting t g=>
  cases c<;>obtain ⟨rfl,rfl⟩:=hall
  exact moves_submit hok
 | attaching t g run=>
  cases c<;>obtain ⟨hkey,rfl⟩:=hall
  exact .attaches hkey
 | listing t g run=>
  cases c<;>cases hall
  exact moves_list
 | checking t g run=>
  cases c<;>cases hall
  exact moves_check
 | waiting t g run=>
  cases c<;>cases hall
  simp only[Moves,step]
  cases o.wake with
  | look=>exact .wakes
  | deadline=>exact .expires
  | hungUp=>exact .leaves
 | answering t ran response=>
  cases c<;>cases hall
  exact .responds
 | releasing t response=>
  cases c<;>simp only[Stage.allows] at hall
  exact .releases hall (abort_cases s _)
 | committing t response=>
  cases c<;>obtain ⟨hkey,rfl⟩:=hall
  obtain ⟨entry,hs,hr,hold⟩:=stored_commit o.now (of_decide_eq_true hok)
  exact .commits hkey hs hr hold
 | gate key reqHash=>
  cases c<;>obtain ⟨rfl,rfl⟩:=hall
  exact moves_gate hok
 | gateMeets key reqHash object=>
  cases c<;>cases hall
  exact .gates rfl (.inl rfl) (.inl rfl)
 | gateAnswers key response=>
  cases c<;>cases hall
  exact .gates rfl (.inr rfl) (.inl rfl)
 | gateServes key=>
  cases c<;>cases hall
  refine .gates rfl (.inl ?_) (.inl rfl)
  simp only[Stage.next]
  split_ifs<;>rfl
 | gateCommits key response=>
  cases c<;>obtain ⟨rfl,rfl⟩:=hall
  obtain ⟨entry,hs,_⟩:=stored_commit o.now (of_decide_eq_true hok)
  exact .gates rfl (.inr rfl) (.inr (.inr ⟨entry,hs⟩))
 | gateAborts key=>
  cases c<;>cases hall
  exact .gates rfl (.inr rfl) ((abort_cases s _).imp_right .inl)
 | reporting run rec=>
  cases c<;>obtain ⟨rfl,rfl⟩:=hall
  exact .reports
 | finishing run succeeded=>
  cases c<;>obtain ⟨rfl,rfl⟩:=hall
  exact .finishes
 | _=>cases c<;>cases hall

def RunWith(s:State)(k:String)(run:RunID)(reqHash:String):Prop:=
 ∃ r,s.runs[run]? = some r∧r.claim=some k∧callRequestHash r.request=reqHash

def ReplyOf(s:State)(run:RunID)(content:String):Prop:=
 ∃ rec∈s.records run,∃ v∈rec.output,v.encode=some content

def Tells(s:State)(run:RunID)(response:Response):Prop:=
 response.body.runID=some run∨(∃ content,response.body=.reply content∧ReplyOf s run content)∨Refused response

structure Sound(k:String)(s:State)(e:Entry):Prop where
 hashed:e.reqHash≠""
 run:∀ run,e.runID=some run→RunWith s k run e.reqHash
 stored:∀ response,e.response=some response→∃ run,RunWith s k run e.reqHash∧Tells s run response

def Linked(s:State):Prop:=
 ∀ (key:String) (object:Nat),s.find key=some object→∃ c,s.cells[object]? = some c∧c.key=key

structure Core(k:String)(s:State):Prop where
 only:∀ run run' h h',RunWith s k run h→RunWith s k run' h' → run=run'
 kept:∀ run h,RunWith s k run h→∃ object,s.find k=some object∧(s.entry object).reqHash=h
 linked:Linked s
 cells:∀ (object:Nat) (c:Cell),s.cells[object]? = some c→c.key=k→Sound k s c.entry

def Reserved(k:String)(s:State)(q:Request):Prop:=
 (∀ run h,¬RunWith s k run h)∧∃ object,s.find k=some object∧(s.entry object).reqHash=callRequestHash q

structure Grows(s s':State):Prop where
 cells:∀ (object:Nat) (c:Cell),s.cells[object]? = some c→∃ c':Cell,s'.cells[object]? = some c'∧c'.key=c.key
 runs:∀ (run:RunID) (r:Run),s.runs[run]? = some r→∃ r':Run,s'.runs[run]? = some r'∧r'.claim=r.claim∧
  r'.request=r.request∧∀ rec∈r.records,rec∈r'.records

lemma Grows.refl(s):Grows s s:=⟨fun _ c h=>⟨c,h,rfl⟩,fun _ r h=>⟨r,h,rfl,rfl,fun _ hr=>hr⟩⟩

variable {t:Ticket}{key:String}{q:Request}{entry:Entry}{response:Option Response}{g:Flow}{c:Cell}

lemma Stored.grows(h:Stored s key entry s'):Grows s s':=by
 refine ⟨fun object c hc=>⟨c,?_,rfl⟩,fun run r hr=>⟨r,h.runs▸hr,rfl,rfl,fun _ h=>h⟩⟩
 rw[h.cells,getElem?_append_left (List.getElem?_eq_some_iff.1 hc).1,hc]
lemma Dropped.grows(h:Dropped s key s'):Grows s s':=
 ⟨fun _ c hc=>⟨c,h.cells▸hc,rfl⟩,fun _ r hr=>⟨r,h.runs▸hr,rfl,rfl,fun _ h=>h⟩⟩
lemma grows_submit(s claim q):Grows s (s.submit claim q):=by
 refine ⟨fun _ c hc=>⟨c,hc,rfl⟩,fun run r hr=>⟨r,?_,rfl,rfl,fun _ h=>h⟩⟩
 rw[State.submit,getElem?_append_left (List.getElem?_eq_some_iff.1 hr).1,hr]
lemma grows_attach(s key run):Grows s (s.attach key run):=by
 unfold State.attach
 cases s.find key with
 | none=>exact .refl s
 | some object=>?_
 dsimp only
 split_ifs
 ·exact .refl s
 ·refine ⟨fun a c hc=>?_,fun _ r hr=>⟨r,hr,rfl,rfl,fun _ h=>h⟩⟩
  simp only[getElem?_modify,hc,Option.map_eq_map,Option.map_some]
  exact ⟨_,rfl,by split_ifs<;>rfl⟩
lemma grows_modify(s run)(f:Run→Run)
 (hf:∀ r,(f r).claim=r.claim∧(f r).request=r.request∧∀ rec∈r.records,rec∈(f r).records):
 Grows s {s with runs:=s.runs.modify run f}:=by
 refine ⟨fun _ c hc=>⟨c,hc,rfl⟩,fun a r hr=>?_⟩
 simp only[getElem?_modify,hr,Option.map_eq_map,Option.map_some]
 by_cases ha:run=a
 ·exact ⟨_,rfl,by simpa[ha] using hf r⟩
 ·exact ⟨_,rfl,by simp[ha]⟩
lemma RunWith.grows{run h}(hr:RunWith s k run h)(hg:Grows s s'):RunWith s' k run h:=by
 obtain ⟨r,hr,hc,hh⟩:=hr
 obtain ⟨r',hr',hc',hq,_⟩:=hg.runs run r hr
 exact ⟨r',hr',hc'.trans hc,hq▸hh⟩
lemma ReplyOf.grows{run content}(h:ReplyOf s run content)(hg:Grows s s'):
 ReplyOf s' run content:=by
 obtain ⟨rec,hmem,hv⟩:=h
 unfold State.records at hmem
 cases hr:s.runs[run]? with
 | none=>simp[hr] at hmem
 | some r=>
  obtain ⟨r',hr',_,_,hrec⟩:=hg.runs run r hr
  refine ⟨rec,?_,hv⟩
  simpa[State.records,hr'] using hrec rec (by simpa[hr] using hmem)
lemma Tells.grows{run response}(h:Tells s run response)(hg:Grows s s'):
 Tells s' run response:=
 h.imp_right (Or.imp_left fun ⟨content,hb,hr⟩=>⟨content,hb,hr.grows hg⟩)
lemma Sound.grows{e}(h:Sound k s e)(hg:Grows s s'):Sound k s' e:=by
 refine ⟨h.hashed,fun run hr=>(h.run run hr).grows hg,fun response hr=>?_⟩
 obtain ⟨run,hrun,ht⟩:=h.stored response hr
 exact ⟨run,hrun.grows hg,ht.grows hg⟩

def Stage.holds:Stage→Option String
 | .submitting t _=>t.claim
 | .attaching t _ _=>t.claim
 | .listing t _ _=>t.claim
 | .checking t _ _=>t.claim
 | .waiting t _ _=>t.claim
 | .answering t _ _=>t.claim
 | .releasing t _=>t.claim
 | .committing t _=>t.claim
 | _=>none

def Stage.reserving:Stage→Option (Option String×Request)
 | .submitting t _=>some (t.claim,t.q)
 | .answering t false _=>some (t.claim,t.q)
 | .releasing t _=>some (t.claim,t.q)
 | _=>none

def Stage.awaits:Stage→Option (Ticket×RunID)
 | .attaching t _ run=>some (t,run)
 | .listing t _ run=>some (t,run)
 | .checking t _ run=>some (t,run)
 | .waiting t _ run=>some (t,run)
 | _=>none

def Stage.told:Stage→Option (Ticket×Response)
 | .answering t _ response=>response.map (fun r=>(t,r))
 | .releasing t response=>response.map (fun r=>(t,r))
 | .committing t response=>some (t,response)
 | .closed t response=>response.map (fun r=>(t,r))
 | _=>none

def Stage.ran:Stage→Option (Ticket×Response)
 | .answering t true response=>response.map (fun r=>(t,r))
 | .committing t response=>some (t,response)
 | _=>none

def Stage.submits:Stage→Option Ticket
 | .submitting t _=>some t
 | _=>none

def Stage.meets:Stage→Option (Ticket×Nat)
 | .meeting t _ object=>some (t,object)
 | _=>none

structure Fits(k:String)(s:State)(n:Stage):Prop where
 gate:n.gateKey≠some k
 own:∀ t,n.submits=some t→t.key=some k→t.holder
 object:∀ t object,n.meets=some (t,object)→
  t.holder=false∧(t.key=some k→∃ c,s.cells[object]? = some c∧c.key=k)
 awaits:∀ t run,n.awaits=some (t,run)→t.key=some k→RunWith s k run (callRequestHash t.q)
 told:∀ t response,n.told=some (t,response)→t.key=some k→
  Refused response∨∃ run,RunWith s k run (callRequestHash t.q)∧Tells s run response
 ran:∀ t response,n.ran=some (t,response)→t.key=some k→
  ∃ run,RunWith s k run (callRequestHash t.q)∧Tells s run response

lemma Fits.grows(h:Fits k s n)(hg:Grows s s'):Fits k s' n:=by
 have hup:∀ {h:String} {response:Response},(∃ run,RunWith s k run h∧Tells s run response)→
  ∃ run,RunWith s' k run h∧Tells s' run response:=
  fun ⟨run,hr,ht⟩=>⟨run,hr.grows hg,ht.grows hg⟩
 refine ⟨h.gate,h.own,fun t object hn=>⟨(h.object t object hn).1,fun hk=>?_⟩,fun t run ha hk=>(h.awaits t run ha hk).grows hg,
  fun t r ha hk=>(h.told t r ha hk).imp_right hup,fun t r ha hk=>hup (h.ran t r ha hk)⟩
 obtain ⟨c,hc,hck⟩:=(h.object t object hn).2 hk
 obtain ⟨c',hc',hkey⟩:=hg.cells object c hc
 exact ⟨c',hc',hkey.trans hck⟩

structure Single(k:String)(s:State)(ns:List Stage):Prop where
 core:Core k s
 fits:∀ n∈ns,Fits k s n
 sole:∀ (i j:Nat) n m,ns[i]? = some n → ns[j]? = some m → n.holds=some k→m.holds=some k→i=j
 standing:∀ n∈ns,n.holds=some k→∃ object,s.find k=some object
 reserved:∀ n∈ns,∀ q,n.reserving=some (some k,q)→Reserved k s q

lemma holds_of_reserving{o}(h:n.reserving=some (o,q)):n.holds=o:=by
 cases n with
 | answering t ran response=>
  cases ran with
  | true=>cases h
  | false=>cases h; rfl
 | _=>cases h; try rfl
lemma claim_key(h:t.claim=some k):t.key=some k∧t.holder:=by
 unfold Ticket.claim at h
 split_ifs at h with hh
 exact ⟨h,hh⟩
lemma relay_status(t:Ticket)(response:Response):(t.relay response).status=response.status:=by
 unfold Ticket.relay Response.replayed
 split_ifs<;>rfl
lemma relay_body(t:Ticket)(response:Response):(t.relay response).body=response.body:=by
 unfold Ticket.relay Response.replayed
 split_ifs<;>rfl
lemma Tells.congr{run r r'}(h:Tells s run r)(hb:r'.body=r.body)(hs:r'.status=r.status):
 Tells s run r':=by
 simpa only[Tells,Refused,hb,hs] using h
lemma fits_of(hg:n.gateKey≠some k)(ho:n.submits=none)(hm:n.meets=none)
 (ha:∀ t run,n.awaits=some (t,run)→t.key=some k→RunWith s k run (callRequestHash t.q))
 (ht:∀ t response,n.told=some (t,response)→t.key=some k→
  Refused response∨∃ run,RunWith s k run (callRequestHash t.q)∧Tells s run response)
 (hr:∀ t response,n.ran=some (t,response)→t.key=some k→
  ∃ run,RunWith s k run (callRequestHash t.q)∧Tells s run response):Fits k s n:=
 ⟨hg,fun t h=>by simp[ho] at h,fun t object h=>by simp[hm] at h,ha,ht,hr⟩
lemma fits_idle(hg:n.gateKey≠some k)(ho:n.submits=none)(hm:n.meets=none)(ha:n.awaits=none)
 (ht:n.told=none)(hr:n.ran=none):Fits k s n:=
 fits_of hg ho hm (fun t run h=>by simp[ha] at h) (fun t r h=>by simp[ht] at h) (fun t r h=>by simp[hr] at h)
lemma fits_refusal{response}(hr:Refused response):
 Fits k s (.answering t false (some response)):=by
 refine fits_of nofun rfl rfl nofun (fun t' r h _=>.inl ?_) nofun
 cases h
 exact hr
lemma fits_awaits{run}(hn:n.awaits=some (t,run))
 (h:t.key=some k→RunWith s k run (callRequestHash t.q)):Fits k s n:=by
 cases n<;>cases hn
 all_goals
  exact fits_of nofun rfl rfl (fun t' run' h' hk=>by cases h'; exact h hk) nofun nofun
lemma fits_answer
 (h:∀ r∈response,t.key=some k→∃ run,RunWith s k run (callRequestHash t.q)∧Tells s run r):
 Fits k s (.answering t true response):=by
 have hsome:∀ t' r,response.map (fun r=>(t,r))=some (t',r)→t'.key=some k→
  ∃ run,RunWith s k run (callRequestHash t'.q)∧Tells s run r:=by
  intro t' r hr hk
  obtain ⟨r',hr',heq⟩:=Option.map_eq_some_iff.1 hr
  cases heq
  exact h r hr' hk
 exact fits_of nofun rfl rfl nofun (fun t' r hr hk=>.inr (hsome t' r hr hk)) hsome
lemma fits_settle{run}(h:t.key=some k→RunWith s k run (callRequestHash t.q)):
 Fits k s (.settle t g run):=by
 unfold settle
 split_ifs<;>exact fits_awaits rfl h
lemma fits_joined{run}(h:t.key=some k→RunWith s k run (callRequestHash t.q)):
 Fits k s (.joined t g run):=by
 unfold joined
 split_ifs
 ·refine fits_answer fun r hr hk=>⟨run,h hk,?_⟩
  cases hr
  exact Tells.congr (r:=writeCallPending run) (.inl rfl) (relay_body _ _) (relay_status _ _)
 ·exact fits_settle h
lemma fits_ready(ht:t.key=some k→t.holder):Fits k s (.ready t g):=by
 unfold Stage.ready
 split_ifs
 ·exact fits_refusal ⟨⟨_,rfl⟩,by decide⟩
 ·exact ⟨nofun,fun t' heq hk=>by cases heq; exact ht hk,nofun,nofun,
   nofun,nofun⟩
lemma fits_loaded(q g):Fits k s (.loaded q g):=by
 cases g with
 | none=>exact fits_refusal ⟨⟨_,rfl⟩,by decide⟩
 | some g=>?_
 dsimp only[loaded]
 split_ifs
 ·exact fits_refusal ⟨⟨_,rfl⟩,by decide⟩
 ·exact fits_refusal ⟨⟨_,rfl⟩,by decide⟩
 ·exact fits_ready nofun
 ·exact fits_refusal ⟨⟨_,rfl⟩,by decide⟩
 ·exact fits_idle nofun rfl rfl rfl rfl rfl
lemma fits_met{e}(he:t.key=some k→Sound k s e):Fits k s (.met t g e):=by
 unfold Stage.met
 split_ifs with hhash hdone
 ·exact fits_refusal ⟨⟨_,rfl⟩,by decide⟩
 ·refine fits_answer fun r hr hk=>?_
  obtain ⟨r',hr',rfl⟩:=Option.map_eq_some_iff.1 hr
  obtain ⟨run,hrun,ht⟩:=(he hk).stored r' hr'
  have hsame:e.reqHash=callRequestHash t.q:=by
   by_contra hne
   exact hhash ⟨(he hk).hashed,hne⟩
  exact ⟨run,hsame▸hrun,ht.congr rfl rfl⟩
 ·cases hrun:e.runID with
  | none=>exact fits_refusal ⟨⟨_,rfl⟩,by decide⟩
  | some run=>
   refine fits_joined fun hk=>?_
   have hsame:e.reqHash=callRequestHash t.q:=by
    by_contra hne
    exact hhash ⟨(he hk).hashed,hne⟩
   exact hsame▸(he hk).run run hrun
lemma Fits.after{m}(h:Fits k s n)(hg:m.gateKey=none)(ho:m.submits=none)(hm:m.meets=none)
 (ha:m.awaits=none)(ht:∀ t r,m.told=some (t,r) → n.told=some (t,r))
 (hr:∀ t r,m.ran=some (t,r) → n.ran=some (t,r)):Fits k s m:=
 ⟨by simp[hg],fun t h=>by simp[ho] at h,fun t object h=>by simp[hm] at h,fun t run h=>by simp[ha] at h,
  fun t r h'=>h.told t r (ht t r h'),fun t r h'=>h.ran t r (hr t r h')⟩
lemma fits_answered{ran}(h:Fits k s (.answering t ran response)):
 Fits k s (.answered t ran response):=by
 unfold answered
 split_ifs with hh hran
 ·subst hran
  cases response with
  | none=>exact h.after rfl rfl rfl rfl nofun nofun
  | some r=>
   dsimp only
   split_ifs
   ·exact h.after rfl rfl rfl rfl (fun _ _ h=>h) fun _ _ h=>h
   ·exact h.after rfl rfl rfl rfl (fun _ _ h=>h) nofun
 ·exact h.after rfl rfl rfl rfl (fun _ _ h=>h) nofun
 ·exact h.after rfl rfl rfl rfl (fun _ _ h=>h) nofun

structure Same(k:String)(s s':State):Prop where
 find:s'.find k=s.find k
 hash:∀ object,s.find k=some object→(s'.entry object).reqHash=(s.entry object).reqHash
 runs:∀ run h,RunWith s' k run h→RunWith s k run h

lemma Reserved.same(h:Reserved k s q)(hs:Same k s s'):Reserved k s' q:=by
 obtain ⟨hno,object,hfind,hhash⟩:=h
 exact ⟨fun run h hr=>hno run h (hs.runs run h hr),object,hs.find.trans hfind,(hs.hash object hfind).trans hhash⟩

def Apart(k:String)(ns:List Stage)(i:Nat):Prop:=∀ j m,j≠i → ns[j]? = some m→m.holds≠some k

lemma Single.apart(h:Single k s ns)(hn:ns[i]? = some n)(hhold:n.holds=some k):Apart k ns i:=
 fun j m hji hm hk=>hji (h.sole j i m n hm hn hk hhold)
lemma Single.move{ns'}(h:Single k s ns)(hrep:Replaces ns ns' i n')(hcore:Core k s')(hgrow:Grows s s')(hfit:Fits k s' n')
 (hsame:Apart k ns i∨Same k s s')(hhold:n'.holds=some k→Apart k ns i∧∃ object,s'.find k=some object)
 (hres:∀ q,n'.reserving=some (some k,q)→Reserved k s' q):Single k s' ns':=by
 refine ⟨hcore,fun m hm=>?_,fun a b m m' ha hb hm hm'=>?_,fun m hm hk=>?_,fun m hm q hq=>?_⟩
 ·rcases hrep.mem hm with rfl | ⟨j,_,hj⟩
  ·exact hfit
  ·exact (h.fits m (mem_of_getElem? hj)).grows hgrow
 ·rcases hrep.get ha with ⟨rfl,rfl⟩ | ⟨hai,ham⟩
  ·rcases hrep.get hb with ⟨rfl,_⟩ | ⟨hbi,hbm⟩
   ·rfl
   ·exact absurd hm' ((hhold hm).1 b m' hbi hbm)
  ·rcases hrep.get hb with ⟨rfl,rfl⟩ | ⟨hbi,hbm⟩
   ·exact absurd hm ((hhold hm').1 a m hai ham)
   ·exact h.sole a b m m' ham hbm hm hm'
 ·rcases hrep.mem hm with rfl | ⟨j,hji,hj⟩
  ·exact (hhold hk).2
  ·rcases hsame with hap | hsame
   ·exact absurd hk (hap j m hji hj)
   ·rw[hsame.find]
    exact h.standing m (mem_of_getElem? hj) hk
 ·rcases hrep.mem hm with rfl | ⟨j,hji,hj⟩
  ·exact hres q hq
  ·rcases hsame with hap | hsame
   ·exact absurd (holds_of_reserving hq) (hap j m hji hj)
   ·exact (h.reserved m (mem_of_getElem? hj) q hq).same hsame
lemma Same.refl(k s):Same k s s:=⟨rfl,fun _ _=>rfl,fun _ _ h=>h⟩
lemma Single.stay(h:Single k s ns)(hn:ns[i]? = some n)(hfit:Fits k s n')(hhold:n'.holds=some k → n.holds=some k)
 (hres:∀ q,n'.reserving=some (some k,q) → n.reserving=some (some k,q)):Single k s (ns.set i n'):=by
 have hmem:n∈ns:=mem_of_getElem? hn
 refine h.move (replaces_set hn) h.core (.refl s) hfit (.inr (.refl k s)) (fun hk=>?_)
  fun q hq=>h.reserved n hmem q (hres q hq)
 exact ⟨h.apart hn (hhold hk),h.standing n hmem (hhold hk)⟩
lemma entry_of_cell{object}(h:s.cells[object]? = some c):s.entry object=c.entry:=by
 simp[State.entry,h]
lemma Linked.frame(h:Linked s)(hg:Grows s s')(hfind:∀ key object,s'.find key=some object → s.find key=some object):
 Linked s':=by
 intro key object hf
 obtain ⟨c,hc,hk⟩:=h key object (hfind key object hf)
 obtain ⟨c',hc',hk'⟩:=hg.cells object c hc
 exact ⟨c',hc',hk'.trans hk⟩
lemma Linked.stored(h:Linked s)(hs:Stored s key entry s'):Linked s':=by
 intro k' object hf
 rw[hs.find] at hf
 split_ifs at hf with hk
 ·cases hf
  exact ⟨⟨key,entry⟩,by simp[hs.cells],hk.symm⟩
 ·obtain ⟨c,hc,hck⟩:=h k' object hf
  obtain ⟨c',hc',hkey⟩:=hs.grows.cells object c hc
  exact ⟨c',hc',hkey.trans hck⟩
lemma Linked.dropped(h:Linked s)(hs:Dropped s key s'):Linked s':=by
 refine h.frame hs.grows fun k' object hf=>?_
 rw[hs.find] at hf
 split_ifs at hf
 exact hf
lemma Core.of_same(h:Core k s)(hl:Linked s')(hs:Same k s s')
 (hcells:∀ (object:Nat) (c:Cell),s'.cells[object]? = some c→c.key=k→Sound k s' c.entry):Core k s':=by
 refine ⟨fun run run' h₁ h₂ hr hr'=>h.only run run' h₁ h₂ (hs.runs _ _ hr) (hs.runs _ _ hr'),fun run hash hr=>?_,
  hl,hcells⟩
 obtain ⟨object,hf,hh⟩:=h.kept run hash (hs.runs _ _ hr)
 exact ⟨object,hs.find.trans hf,(hs.hash object hf).trans hh⟩
lemma runWith_of_runs(h:s'.runs=s.runs){run hash}(hr:RunWith s' k run hash):
 RunWith s k run hash:=by
 obtain ⟨r,hr,hc⟩:=hr
 exact ⟨r,h▸hr,hc⟩
lemma Stored.cell_cases(hs:Stored s key entry s'){object:Nat}
 (hc:s'.cells[object]? = some c):s.cells[object]? = some c∨c=⟨key,entry⟩:=by
 rw[hs.cells] at hc
 exact (append_cases hc).imp_right And.right
lemma Stored.other(h:Core k s)(hs:Stored s key entry s')(hne:key≠k):
 Core k s'∧Same k s s':=by
 have hsame:Same k s s':=by
  refine ⟨by rw[hs.find,if_neg (Ne.symm hne)],fun object hf=>?_,fun _ _=>runWith_of_runs hs.runs⟩
  obtain ⟨c,hc,_⟩:=h.linked k object hf
  have hc':s'.cells[object]? = some c:=by
   rw[hs.cells,getElem?_append_left (List.getElem?_eq_some_iff.1 hc).1,hc]
  rw[entry_of_cell hc,entry_of_cell hc']
 refine ⟨h.of_same (h.linked.stored hs) hsame fun object c hc hk=>?_,hsame⟩
 rcases hs.cell_cases hc with hc | rfl
 ·exact (h.cells object c hc hk).grows hs.grows
 ·exact absurd hk hne
lemma Stored.own(h:Core k s)(hs:Stored s k entry s')(hsound:Sound k s entry)
 (hhash:∀ run hash,RunWith s k run hash→entry.reqHash=hash):Core k s':=by
 have hnew:s'.cells[s.cells.length]? = some ⟨k,entry⟩:=by simp[hs.cells]
 have hfind:s'.find k=some s.cells.length:=by rw[hs.find,if_pos rfl]
 refine ⟨fun run run' h₁ h₂ hr hr'=>h.only run run' h₁ h₂ (runWith_of_runs hs.runs hr) (runWith_of_runs hs.runs hr'),
  fun run hash hr=>⟨_,hfind,?_⟩,h.linked.stored hs,fun object c hc hk=>?_⟩
 ·rw[entry_of_cell hnew]
  exact hhash run hash (runWith_of_runs hs.runs hr)
 ·rcases hs.cell_cases hc with hc | rfl
  ·exact (h.cells object c hc hk).grows hs.grows
  ·exact hsound.grows hs.grows
lemma Dropped.other(h:Core k s)(hs:Dropped s key s')(hne:key≠k):Core k s'∧Same k s s':=by
 have hsame:Same k s s':=by
  refine ⟨by rw[hs.find,if_neg (Ne.symm hne)],fun object _=>?_,fun _ _=>runWith_of_runs hs.runs⟩
  simp only[State.entry,hs.cells]
 exact ⟨h.of_same (h.linked.dropped hs) hsame
  (fun object c hc hk=>(h.cells object c (hs.cells▸hc) hk).grows hs.grows),hsame⟩
lemma Dropped.own(h:Core k s)(hs:Dropped s k s')(hno:∀ run hash,¬RunWith s k run hash):Core k s':=by
 refine ⟨fun run run' h₁ h₂ hr hr'=>h.only run run' h₁ h₂ (runWith_of_runs hs.runs hr) (runWith_of_runs hs.runs hr'),
  fun run hash hr=>absurd (runWith_of_runs hs.runs hr) (hno run hash),h.linked.dropped hs,
  fun object c hc hk=>(h.cells object c (hs.cells▸hc) hk).grows hs.grows⟩
lemma runWith_submit{claim run hash}
 (h:RunWith (s.submit claim q) k run hash):
 RunWith s k run hash∨run=s.runs.length∧claim=some k∧hash=callRequestHash q:=by
 obtain ⟨r,hr,hc,hh⟩:=h
 rcases append_cases hr with hr | ⟨hlen,rfl⟩
 ·exact .inl ⟨r,hr,hc,hh⟩
 ·exact .inr ⟨hlen,hc,hh.symm⟩
lemma submit_other{claim}(h:Core k s)(hne:claim≠some k):
 Core k (s.submit claim q)∧Same k s (s.submit claim q):=by
 have hsame:Same k s (s.submit claim q):=
  ⟨rfl,fun _ _=>rfl,fun run hash hr=>(runWith_submit hr).resolve_right fun hnew=>hne hnew.2.1⟩
 exact ⟨h.of_same h.linked hsame
  (fun object c hc hk=>(h.cells object c hc hk).grows (grows_submit s claim q)),hsame⟩
lemma submit_own(h:Core k s)(hres:Reserved k s q):Core k (s.submit (some k) q):=by
 have hnew:∀ run hash,RunWith (s.submit (some k) q) k run hash → run=s.runs.length∧hash=callRequestHash q:=by
  intro run hash hr
  rcases runWith_submit hr with hr | ⟨hrun,_,hhash⟩
  ·exact absurd hr (hres.1 run hash)
  ·exact ⟨hrun,hhash⟩
 refine ⟨fun run run' h₁ h₂ hr hr'=>(hnew run h₁ hr).1.trans (hnew run' h₂ hr').1.symm,fun run hash hr=>?_,
  h.linked,fun object c hc hk=>(h.cells object c hc hk).grows (grows_submit s _ q)⟩
 obtain ⟨object,hf,hh⟩:=hres.2
 exact ⟨object,hf,hh.trans (hnew run hash hr).2.symm⟩
lemma runWith_submitted:RunWith (s.submit (some k) q) k s.runs.length (callRequestHash q):=
 ⟨{claim:=some k,request:=q},by simp[State.submit],rfl,rfl⟩
lemma attach_cell{run object}(hc:(s.attach key run).cells[object]? = some c):
 s.cells[object]? = some c∨s.find key=some object∧
  ∃ c₀,s.cells[object]? = some c₀∧c=⟨c₀.key,{c₀.entry with runID:=some run}⟩:=by
 unfold State.attach at hc
 cases hf:s.find key with
 | none=>
  rw[hf] at hc
  exact .inl hc
 | some a=>
  rw[hf] at hc
  dsimp only at hc
  split_ifs at hc
  ·exact .inl hc
  rw[getElem?_modify] at hc
  obtain ⟨c₀,hc₀,hcc⟩:=Option.map_eq_some_iff.1 hc
  by_cases ha:a=object
  ·subst ha
   rw[if_pos rfl] at hcc
   exact .inr ⟨rfl,c₀,hc₀,hcc.symm⟩
  ·rw[if_neg ha] at hcc
   exact .inl (hc₀.trans (congrArg some hcc))
lemma attach_frame(s:State)(key:String)(run:RunID):
 (s.attach key run).runs=s.runs∧∀ k,(s.attach key run).find k=s.find k:=by
 unfold State.attach
 cases s.find key with
 | none=>exact ⟨rfl,fun _=>rfl⟩
 | some a=>
  dsimp only
  split_ifs<;>exact ⟨rfl,fun _=>rfl⟩
lemma attach_core{run}(h:Core k s)
 (hrun:key=k→∃ hash,RunWith s k run hash):Core k (s.attach key run)∧Same k s (s.attach key run):=by
 obtain ⟨hruns,hfind⟩:=attach_frame s key run
 have hg:=grows_attach s key run
 have hsame:Same k s (s.attach key run):=by
  refine ⟨hfind k,fun object hf=>?_,fun _ _=>runWith_of_runs hruns⟩
  obtain ⟨c,hc,_⟩:=h.linked k object hf
  obtain ⟨c',hc',_⟩:=hg.cells object c hc
  rw[entry_of_cell hc,entry_of_cell hc']
  rcases attach_cell hc' with hold | ⟨_,c₀,hc₀,rfl⟩
  ·rw[hc] at hold
   cases hold
   rfl
  ·rw[hc] at hc₀
   cases hc₀
   rfl
 refine ⟨h.of_same (h.linked.frame hg fun k' object hf=>(hfind k').symm.trans hf) hsame fun object c hc hk=>?_,hsame⟩
 rcases attach_cell hc with hc | ⟨hf,c₀,hc₀,rfl⟩
 ·exact (h.cells object c hc hk).grows hg
 have hold:=(h.cells object c₀ hc₀ hk).grows hg
 refine ⟨hold.hashed,fun run' hr=>?_,hold.stored⟩
 cases hr
 -- the object is the key's, and the run hashes like it
 obtain ⟨c₁,hc₁,hkey⟩:=h.linked key object hf
 rw[hc₀] at hc₁
 cases hc₁
 obtain rfl:key=k:=hkey.symm.trans hk
 obtain ⟨hash,hr⟩:=hrun rfl
 obtain ⟨object',hf',hh⟩:=h.kept run hash hr
 rw[hf] at hf'
 cases hf'
 rw[entry_of_cell hc₀] at hh
 subst hh
 exact hr.grows hg
lemma modify_core(run:RunID){f}(h:Core k s)
 (hf:∀ r,(f r).claim=r.claim∧(f r).request=r.request∧∀ rec∈r.records,rec∈(f r).records):
 Core k {s with runs:=s.runs.modify run f}∧Same k s {s with runs:=s.runs.modify run f}:=by
 have hg:=grows_modify s run f hf
 have hsame:Same k s {s with runs:=s.runs.modify run f}:=by
  refine ⟨rfl,fun _ _=>rfl,fun run' hash ⟨r',hr',hc,hh⟩=>?_⟩
  rw[getElem?_modify] at hr'
  obtain ⟨r,hr,hrr⟩:=Option.map_eq_some_iff.1 hr'
  refine ⟨r,hr,?_⟩
  split_ifs at hrr with hrun
  ·subst hrr
   exact ⟨(hf r).1▸hc,(hf r).2.1▸hh⟩
  ·obtain rfl:r=r':=hrr
   exact ⟨hc,hh⟩
 exact ⟨h.of_same h.linked hsame fun object c hc hk=>(h.cells object c hc hk).grows hg,hsame⟩
lemma holds_settle(t g run):
 (settle t g run).holds=t.claim∧(settle t g run).reserving=none:=by
 unfold settle
 split_ifs<;>exact ⟨rfl,rfl⟩
lemma holds_joined(t g run):
 (joined t g run).holds=t.claim∧(joined t g run).reserving=none:=by
 unfold joined
 split_ifs
 ·exact ⟨rfl,rfl⟩
 ·exact holds_settle t g run
lemma holds_ready(t g):
 (Stage.ready t g).holds=t.claim∧(Stage.ready t g).reserving=some (t.claim,t.q):=by
 unfold Stage.ready
 split_ifs<;>exact ⟨rfl,rfl⟩
lemma holds_met(ht:t.holder=false)(g e):(Stage.met t g e).holds=none:=by
 have hclaim:t.claim=none:=by simp[Ticket.claim,ht]
 unfold Stage.met
 split_ifs
 ·exact hclaim
 ·exact hclaim
 ·cases e.runID with
  | none=>exact hclaim
  | some run=>exact (holds_joined t g run).1.trans hclaim
lemma holds_loaded(q g):(loaded q g).holds=none:=by
 cases g with
 | none=>rfl
 | some g=>?_
 dsimp only[loaded]
 split_ifs
 ·rfl
 ·rfl
 ·exact (holds_ready _ g).1
 ·rfl
 ·rfl
lemma holds_answered{ran}
 (h:(answered t ran response).holds=some k):t.claim=some k:=by
 unfold answered at h
 split_ifs at h
 ·cases response with
  | none=>cases h
  | some r=>
   dsimp only at h
   split_ifs at h
   ·exact h
   ·cases h
 ·exact h
 ·cases h
lemma reserving_answered{ran x}
 (h:(answered t ran response).reserving=some x):(Stage.answering t ran response).reserving=some x:=by
 unfold answered at h
 split_ifs at h with hh hran
 ·cases response with
  | none=>cases h
  | some r=>
   dsimp only at h
   split_ifs at h<;>cases h
 ·obtain rfl:ran=false:=by simpa using hran
  exact h
 ·cases h
lemma Single.start(h:Single k s ns)(e)(he:∀ key hash,e=.gateway key hash→key≠k):
 Single k s (ns++[Stage.first e]):=by
 have hholds:(Stage.first e).holds=none:=by cases e<;>rfl
 refine h.move replaces_append h.core (.refl s) ?_ (.inr (.refl k s)) (fun hk=>by simp[hholds] at hk)
  fun q hq=>by cases (holds_of_reserving hq).symm.trans hholds
 cases e with
 | gateway key hash=>exact fits_idle (fun hk=>he key hash rfl (Option.some.inj hk)) rfl rfl rfl rfl rfl
 | _=>exact fits_idle nofun rfl rfl rfl rfl rfl
lemma tells_replyIn{replies run response}
 (h:replyIn replies ((s.records run).take callNodeRecordLimit)=some response):Tells s run response:=by
 obtain ⟨rec,htake,hrec⟩:=exists_of_findSome?_eq_some h
 have hmem:=mem_of_mem_take htake
 split at hrec
 ·case h_1 status _=>
  split_ifs at hrec
  obtain ⟨v,hv,rfl⟩:=Option.map_eq_some_iff.1 hrec
  unfold writeReply
  cases henc:v.encode with
  | none=>exact .inr (.inr ⟨⟨_,rfl⟩,(by decide:400 ≤ unencodable.status)⟩)
  | some content=>exact .inr (.inl ⟨content,rfl,rec,hmem,v,hv,henc⟩)
 ·cases hrec
lemma idle_of_gate(hne:key≠k)(h:n.gateKey=some key∨n=.ended):
 Fits k s n∧n.holds=none:=by
 rcases h with h | rfl
 ·cases n<;>cases h
  all_goals exact ⟨fits_idle (fun hk=>hne (Option.some.inj hk)) rfl rfl rfl rfl rfl,rfl⟩
 ·exact ⟨fits_idle nofun rfl rfl rfl rfl rfl,rfl⟩
section

variable (h:Single k s ns)

include h

lemma Single.elsewhere(hn:ns[i]? = some n)(hcs:Core k s'∧Same k s s')(hgrow:Grows s s')
 (hfit:Fits k s' n')(hholds:n'.holds≠some k):Single k s' (ns.set i n'):=
 h.move (replaces_set hn) hcs.1 hgrow hfit (.inr hcs.2) (fun hk=>absurd hk hholds)
  fun _ hq=>absurd (holds_of_reserving hq) hholds
lemma Single.reserve{now}(hn:ns[i]? = some (.claiming t g))(hkey:t.key=some key)
 (hfree:key=k → s.find k=none)(hst:Stored s key {storedAt:=now,reqHash:=callRequestHash t.q} s'):
 Single k s' (ns.set i (.ready {t with holder:=true} g)):=by
 obtain ⟨hholds,hreserving⟩:=holds_ready {t with holder:=true} g
 have hclaim:(Stage.ready {t with holder:=true} g).holds=some key:=hholds.trans hkey
 by_cases hk:key=k
 ·subst hk
  have hnone:=hfree rfl
  -- the key was free: nobody holds it and there is no run
  have hap:Apart key ns i:=by
   intro j m _ hm hhold
   obtain ⟨object,hf⟩:=h.standing m (mem_of_getElem? hm) hhold
   cases hnone.symm.trans hf
  have hno:∀ run hash,¬RunWith s key run hash:=by
   intro run hash hr
   obtain ⟨object,hf,_⟩:=h.core.kept run hash hr
   cases hnone.symm.trans hf
  have hfind:s'.find key=some s.cells.length:=by rw[hst.find,if_pos rfl]
  have hcore:Core key s':=Stored.own h.core hst ⟨callRequestHash_ne _,nofun,nofun⟩
   fun run hash hr=>absurd hr (hno run hash)
  refine h.move (replaces_set hn) hcore hst.grows (fits_ready fun _=>rfl) (Or.inl hap) (fun _=>⟨hap,_,hfind⟩) fun q hq=>?_
  obtain rfl:t.q=q:=congrArg Prod.snd (Option.some.inj (hreserving.symm.trans hq))
  have hnew:s'.cells[s.cells.length]? = some ⟨key,{storedAt:=now,reqHash:=callRequestHash t.q}⟩:=by
   simp[hst.cells]
  exact ⟨fun run hash hr=>hno run hash (runWith_of_runs hst.runs hr),_,hfind,by rw[entry_of_cell hnew]⟩
 ·exact h.elsewhere hn (hst.other h.core hk) hst.grows (fits_ready fun _=>rfl)
   fun he=>hk (Option.some.inj (hclaim.symm.trans he))
lemma Single.submit(hn:ns[i]? = some (.submitting t g)):
 Single k (s.submit t.claim t.q) (ns.set i (if t.holder then .attaching t g s.runs.length else .joined t g s.runs.length)):=by
 have hmem:=mem_of_getElem? hn
 have hg:=grows_submit s t.claim t.q
 by_cases hclaim:t.claim=some k
 ·have hap:=h.apart hn hclaim
  have hres:Reserved k s t.q:=h.reserved _ hmem t.q (congrArg (fun c=>some (c,t.q)) hclaim)
  obtain ⟨object,hf⟩:=h.standing _ hmem hclaim
  rw[hclaim] at hg ⊢
  rw[if_pos (claim_key hclaim).2]
  exact h.move (replaces_set hn) (submit_own h.core hres) hg (fits_awaits rfl fun _=>runWith_submitted) (Or.inl hap)
   (fun _=>⟨hap,object,hf⟩) nofun
 ·have hkey:t.key≠some k:=fun hk=>hclaim (by simp[Ticket.claim,(h.fits _ hmem).own t rfl hk,hk])
  have hcs:=submit_other (q:=t.q) h.core hclaim
  split_ifs
  ·exact h.elsewhere hn hcs hg (fits_awaits rfl fun hk=>absurd hk hkey) hclaim
  ·exact h.elsewhere hn hcs hg (fits_joined fun hk=>absurd hk hkey) ((holds_joined t g _).1▸hclaim)
lemma Single.attach{run}(hn:ns[i]? = some (.attaching t g run))(hkey:t.claim=some key):
 Single k (s.attach key run) (ns.set i (.joined t g run)):=by
 have hmem:=mem_of_getElem? hn
 have hawaits:=(h.fits _ hmem).awaits t run rfl
 have hrun:key=k→∃ hash,RunWith s k run hash:=by
  rintro rfl
  exact ⟨_,hawaits (claim_key hkey).1⟩
 obtain ⟨hcore,hsame⟩:=attach_core h.core hrun
 have hg:=grows_attach s key run
 obtain ⟨hholds,hreserving⟩:=holds_joined t g run
 refine h.move (replaces_set hn) hcore hg (fits_joined fun hk=>(hawaits hk).grows hg) (Or.inr hsame) (fun hk=>?_)
  fun q hq=>by cases hreserving.symm.trans hq
 have hhold:t.claim=some k:=hholds.symm.trans hk
 obtain ⟨object,hf⟩:=h.standing _ hmem hhold
 exact ⟨h.apart hn hhold,object,hsame.find.trans hf⟩
lemma Single.release(hn:ns[i]? = some (.releasing t response))(hkey:t.claim=some key)
 (hs:s'=s∨Dropped s key s'):Single k s' (ns.set i (.closed t response)):=by
 have hmem:=mem_of_getElem? hn
 have hclosed:Fits k s (.closed t response):=(h.fits _ hmem).after rfl rfl rfl rfl (fun _ _ ht=>ht) nofun
 rcases hs with rfl | hd
 ·exact h.stay hn hclosed nofun nofun
 by_cases hk:key=k
 ·subst hk
  have hno:=(h.reserved _ hmem t.q (congrArg (fun c=>some (c,t.q)) hkey)).1
  exact h.move (replaces_set hn) (hd.own h.core hno) hd.grows (hclosed.grows hd.grows) (Or.inl (h.apart hn hkey)) nofun nofun
 ·exact h.elsewhere hn (hd.other h.core hk) hd.grows (hclosed.grows hd.grows) nofun
lemma Single.commit{response}(hn:ns[i]? = some (.committing t response))(hkey:t.claim=some key)
 (hst:Stored s key entry s')(hr:entry.response=some response)
 (hold:∀ object,s.find key=some object→
  entry.reqHash=(s.entry object).reqHash∧entry.runID=(s.entry object).runID):
 Single k s' (ns.set i (.closed t (some response))):=by
 have hmem:=mem_of_getElem? hn
 have hfits:=h.fits _ hmem
 have hclosed:Fits k s (.closed t (some response)):=hfits.after rfl rfl rfl rfl (fun _ _ ht=>ht) nofun
 by_cases hk:key=k
 ·subst hk
  obtain ⟨object,hf⟩:=h.standing _ hmem hkey
  obtain ⟨hhash,hrunID⟩:=hold object hf
  obtain ⟨c,hc,hck⟩:=h.core.linked key object hf
  have hsound:=h.core.cells object c hc hck
  rw[entry_of_cell hc] at hhash hrunID
  obtain ⟨run,hrun,htells⟩:=hfits.ran t response rfl (claim_key hkey).1
  have hkept:∀ run' hash,RunWith s key run' hash→entry.reqHash=hash:=by
   intro run' hash hr'
   obtain ⟨object',hf',hh⟩:=h.core.kept run' hash hr'
   cases hf.symm.trans hf'
   rw[hhash,←hh,entry_of_cell hc]
  have hentry:Sound key s entry:=by
   refine ⟨hhash▸hsound.hashed,fun run' hr'=>?_,fun response' hr'=>?_⟩
   ·rw[hhash]
    exact hsound.run run' (hrunID▸hr')
   ·cases hr.symm.trans hr'
    exact ⟨run,(hkept run _ hrun)▸hrun,htells⟩
  exact h.move (replaces_set hn) (hst.own h.core hentry hkept) hst.grows (hclosed.grows hst.grows) (Or.inl (h.apart hn hkey))
   nofun nofun
 ·exact h.elsewhere hn (hst.other h.core hk) hst.grows (hclosed.grows hst.grows) nofun
lemma Single.gate(hn:ns[i]? = some n)(hg:n.gateKey=some key)(hg':n'.gateKey=some key∨n'=.ended)
 (hs:s'=s∨Dropped s key s'∨∃ entry,Stored s key entry s'):Single k s' (ns.set i n'):=by
 have hne:key≠k:=fun hk=>(h.fits n (mem_of_getElem? hn)).gate (hk▸hg)
 obtain ⟨hfit,hholds⟩:=idle_of_gate (s:=s') hne hg'
 have hmove:=fun hcs hgrow=>h.elsewhere hn hcs hgrow hfit (by simp[hholds])
 rcases hs with rfl | hd | ⟨entry,hst⟩
 ·exact hmove ⟨h.core,.refl k s'⟩ (.refl s')
 ·exact hmove (hd.other h.core hne) hd.grows
 ·exact hmove (hst.other h.core hne) hst.grows
lemma Single.modify{run f}(hn:ns[i]? = some n)
 (hf:∀ r:Run,(f r).claim=r.claim∧(f r).request=r.request∧∀ rec∈r.records,rec∈(f r).records):
 Single k {s with runs:=s.runs.modify run f} (ns.set i .ended):=
 h.elsewhere hn (modify_core run h.core hf) (grows_modify s run f hf) (fits_idle nofun rfl rfl rfl rfl rfl) nofun
lemma Single.shift(hn:ns[i]? = some n)(hs:Shift k s n s' n'):Single k s' (ns.set i n'):=by
 have hfits:=h.fits n (mem_of_getElem? hn)
 cases hs with
 | @loads q g=>
  exact h.elsewhere hn ⟨h.core,.refl k s⟩ (.refl s) (fits_loaded q g) (by simp[holds_loaded])
 | @finds t g key object hkey hplain hfind=>
  refine h.stay hn ⟨nofun,nofun,fun t' object' heq=>?_,nofun,
   nofun,nofun⟩ nofun nofun
  cases heq
  refine ⟨hplain,fun hk=>?_⟩
  cases hkey.symm.trans hk
  exact h.core.linked k object hfind
 | reserves hkey hfree hst=>exact h.reserve hn hkey hfree hst
 | @looks t g object=>
  obtain ⟨hplain,hcell⟩:=hfits.object t object rfl
  refine h.elsewhere hn ⟨h.core,.refl k s⟩ (.refl s) (fits_met fun hk=>?_) (by simp[holds_met hplain])
  obtain ⟨c,hc,hck⟩:=hcell hk
  rw[entry_of_cell hc]
  exact h.core.cells object c hc hck
 | submits=>exact h.submit hn
 | refuses hr=>exact h.stay hn (fits_refusal hr) (fun hk=>hk) (fun q hq=>hq)
 | attaches hkey=>exact h.attach hn hkey
 | @replies t g run response hr=>
  refine h.stay hn (fits_answer fun r hr' hk=>⟨run,hfits.awaits t run rfl hk,?_⟩) (fun hk=>hk) nofun
  cases hr'
  exact (tells_replyIn hr).congr (relay_body _ _) (relay_status _ _)
 | @lists t g run | @checks t g run=>exact h.stay hn (fits_awaits rfl (hfits.awaits t run rfl)) (fun hk=>hk) nofun
 | @settles t g run status succeeded=>
  refine h.stay hn (fits_answer fun r hr hk=>⟨run,hfits.awaits t run rfl hk,?_⟩) (fun hk=>hk) nofun
  cases hr
  exact Tells.congr (r:=⟨status,.settled run succeeded,none⟩) (Or.inl rfl) (relay_body _ _) (relay_status _ _)
 | @wakes t g run=>
  obtain ⟨hholds,hreserving⟩:=holds_settle t g run
  exact h.stay hn (fits_settle (hfits.awaits t run rfl)) (fun hk=>hholds.symm.trans hk)
   fun q hq=>by cases hreserving.symm.trans hq
 | @expires t g run=>
  refine h.stay hn (fits_answer fun r hr hk=>⟨run,hfits.awaits t run rfl hk,?_⟩) (fun hk=>hk) nofun
  cases hr
  exact Tells.congr (r:=writeCallPending run) (Or.inl rfl) (relay_body _ _) (relay_status _ _)
 | leaves=>exact h.stay hn (fits_answer (by simp)) (fun hk=>hk) nofun
 | responds=>exact h.stay hn (fits_answered hfits) (fun hk=>holds_answered hk) fun q hq=>reserving_answered hq
 | releases hkey hs=>exact h.release hn hkey hs
 | commits hkey hst hr hold=>exact h.commit hn hkey hst hr hold
 | gates hg hg' hs=>exact h.gate hn hg hg' hs
 | reports=>exact h.modify hn fun r=>⟨rfl,rfl,fun x hx=>mem_append_left _ hx⟩
 | finishes=>exact h.modify hn fun r=>⟨rfl,rfl,fun x hx=>hx⟩

end

end Shift

abbrev initial:Pool machine:={state:={} }

/-- Runs within the limits of the key, in which the gateway's own requests have other keys. -/
abbrev keptRuns(k:String):Rules machine:=
 Allowed (fun _ e=>∀ key∈e.gatewayKey,key≠k) (fun P _ c o=>within k P.state o c)

def standing(P:Pool machine):List Stage:=stages.stages P

lemma single_of_reach{k P}(hr:Reach (keptRuns k) initial P):
 Single k P.state (standing P):=by
 refine follows.run_inv (A:=initial) rfl (J:=Single k) ?_ ?_ ?_ hr
 ·have hno:∀ run h,¬RunWith (initial.state) k run h:=fun run h ⟨r,hr,_⟩=>by simp at hr
  exact ⟨⟨fun run _ h _ hr=>absurd hr (hno run h),fun run h hr=>absurd hr (hno run h),nofun,by simp⟩,
   by simp,by simp,by simp,by simp⟩
 ·intro P e _ ha h
  refine h.start e fun key hash he=>?_
  subst he
  exact ha key rfl
 ·intro P i o c n _ ha hnext hn hall h
  exact h.shift hn (shift_of_allows hall o (ha c hnext))

def RunUnder(s:State)(k:String)(run:RunID)(r:Run):Prop:=s.runs[run]? = some r∧r.claim=some k

/-- Whatever requests come under a key, at most one run is submitted for them; a request
 that succeeds has the body of that run and is answered with its id or with its reply;
 and one with another body has submitted no run and is answered with an error. -/
theorem one_run_per_key{k:String}{P:Pool machine}(hr:Reach (keptRuns k) initial P):
 (∀ run run' r r',RunUnder P.state k run r→RunUnder P.state k run' r' → run=run')∧
 (∀ n∈standing P,∀ t response,n.told=some (t,response)→t.key=some k → succeeded response→
  ∃ run r,RunUnder P.state k run r∧callRequestHash r.request=callRequestHash t.q∧
   (response.body.runID=some run∨∃ content,response.body=.reply content∧ReplyOf P.state run content))∧
 (∀ run r q,RunUnder P.state k run r→q.path=r.request.path→q.body≠r.request.body→
  (∀ run' r',RunUnder P.state k run' r' → r'.request.body≠q.body)∧
  ∀ n∈standing P,∀ t response,n.told=some (t,response)→t.key=some k→t.q=q→
   ∃ message,response.body=.error message):=by
 have h:=single_of_reach hr
 have honly:∀ run run' r r',RunUnder P.state k run r→RunUnder P.state k run' r' → run=run':=
  fun run run' r r' hr hr'=>h.core.only run run' _ _ ⟨r,hr.1,hr.2,rfl⟩ ⟨r',hr'.1,hr'.2,rfl⟩
 refine ⟨honly,fun n hn t response ht hk hok=>?_,fun run r q hrun hpath hbody=>?_⟩
 ·have hstatus:response.status<300:=by
   simp only[succeeded,Bool.and_eq_true,decide_eq_true_eq] at hok
   exact hok.2
  have hnot:¬Refused response:=fun hrefused=>by have:=hrefused.2; omega
  rcases (h.fits n hn).told t response ht hk with hrefused | ⟨run,⟨r,hrun,hc,hh⟩,htells⟩
  ·exact absurd hrefused hnot
  ·refine ⟨run,r,⟨hrun,hc⟩,hh,?_⟩
   rcases htells with hid | hreply | hrefused
   ·exact .inl hid
   ·exact .inr hreply
   ·exact absurd hrefused hnot
 · -- there is no other run under the key
  have hother:∀ run' r',RunUnder P.state k run' r' → r'=r:=by
   intro run' r' hrun'
   obtain rfl:=honly run run' r r' hrun hrun'
   exact Option.some.inj (hrun'.1.symm.trans hrun.1)
  refine ⟨fun run' r' hrun'=>?_,fun n hn t response ht hk htq=>?_⟩
  ·rw[hother run' r' hrun']
   exact Ne.symm hbody
  ·rcases (h.fits n hn).told t response ht hk with hrefused | ⟨run',⟨r',hrun',hc',hh⟩,_⟩
   ·exact hrefused.1
   ·obtain rfl:=hother run' r' ⟨hrun',hc'⟩
    subst htq
    exact absurd (body_eq_of_hash hpath hh.symm) hbody

def greeter:Flow:=
 { tenant:="acme",workspace:="main",id:="greet",secrets:=[],isPublic:=true,disabled:=false,inputs:=[false]
   replies:=[("out",200)]}

def callOf(body:String):Request:={path:="/call/acme/main/greet",secret:="",key:="k1",body:=body,wait:=30}

def greeterKey:String:= "call|acme/main/greet|k1"

/-- The first call's submission fails and its key is free again; the second call's run
 replies, and a third call repeats the second. -/
def repeatedCalls:Pool machine:=
 initial.after (keptRuns greeterKey)
  [.start (.call (callOf "a")),.step 0 {flow:=some greeter},.step 0 {},
   .step 0 {refusal:=some (.failed "down")},.step 0 {},.step 0 {},
   .start (.call (callOf "b")),.step 1 {flow:=some greeter},.step 1 {},.step 1 {},.step 1 {},
   .start (.report 0 ⟨"out",true,some (.text "hello")⟩),.step 2 {},
   .step 1 {},.step 1 {},.step 1 {},.step 1 {},
   .start (.call (callOf "b")),.step 3 {flow:=some greeter},.step 3 {},.step 3 {},.step 3 {},
   .start (.call (callOf "c")),.step 4 {flow:=some greeter},.step 4 {},.step 4 {},.step 4 {}]

lemma repeatedCalls_reach:Reach (keptRuns greeterKey) initial repeatedCalls:=reach_after (by decide +kernel)

def replied(replay:Option Bool):Stage:=.closed ⟨callOf "b",some greeterKey,replay.isNone⟩ (some ⟨200,.reply "hello",replay⟩)

/-- The repeated call is answered by the run of the call that it repeats. -/
theorem repeated_call_replayed:
 ∃ run r,RunUnder repeatedCalls.state greeterKey run r∧callRequestHash r.request=callRequestHash (callOf "b")∧
  (Body.runID (.reply "hello")=some run∨
   ∃ content,Body.reply "hello"=.reply content∧ReplyOf repeatedCalls.state run content):=
 (one_run_per_key repeatedCalls_reach).2.1 (replied (some true)) (by decide +kernel)
  ⟨callOf "b",some greeterKey,false⟩ ⟨200,.reply "hello",some true⟩ rfl rfl (by decide)

/-- A success need not name the run, and a key whose submission failed may be used with
 another body: the call with body "b" submits a run under the key of the one with body
 "a", and its answer is the flow's own reply. -/
theorem reply_names_no_run:
 Reach (keptRuns greeterKey) initial repeatedCalls∧
 (∃ n∈standing repeatedCalls,∃ t response,n.told=some (t,response)∧t.key=some greeterKey∧
  succeeded response∧response.body.runID=none)∧
 (∃ n∈standing repeatedCalls,∃ t response,n.told=some (t,response)∧t.key=some greeterKey∧
  t.q=callOf "a")∧
 ∃ r,RunUnder repeatedCalls.state greeterKey 0 r∧r.request=callOf "b":=by
 refine ⟨repeatedCalls_reach,⟨replied none,by decide +kernel,_,_,rfl,rfl,rfl,rfl⟩,?_,?_⟩
 ·exact ⟨.closed ⟨callOf "a",some greeterKey,true⟩ (some (submitFailed "down")),by decide +kernel,_,_,rfl,rfl,rfl⟩
 ·exact ⟨⟨some greeterKey,callOf "b",[⟨"out",true,some (.text "hello")⟩],none⟩,⟨by decide +kernel,rfl⟩,rfl⟩

end Dazyflow.IdempotentCalls
