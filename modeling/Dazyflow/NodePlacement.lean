import Dazyflow.LoopBodies

/-!
# Placing new steps on the canvas

`PlaceNewNodes` puts each step without a position one column right of an upstream neighbour and slides it
down to the first free row. A layout gives the position of the step with an id.
-/
namespace Dazyflow.NodePlacement
open FlowGraph KahnSort LoopBodies List Function Option

structure Position where
 (x y:ℚ)

abbrev Layout:=String→Option Position

def placeColumn:ℚ:=420

def placeRow:ℚ:=340

def placeStart:ℚ:=80

def near(p q:Position):Bool:=|p.x-q.x|<placeColumn&&|p.y-q.y|<placeRow

variable (g:Graph)(lay:Layout)

def occupied(p:Position):Bool:=g.nodeIDs.any fun id=>(lay id).any (near · p)

def ready(pending:List String)(id:String):Bool:=
 g.edges.all fun e=>e.target≠id||e.source=id||
  !((g.node e.source).isSome&&(lay e.source).isNone&&pending.contains e.source)

def upstreamPosition(id:String):Option Position:=
 g.edges.findSome? fun e=>if e.target=id∧(g.node e.source).isSome then lay e.source else none

def start(id:String):Position:=
 match upstreamPosition g lay id with
 | some up=>⟨up.x+placeColumn,up.y⟩
 | none=>⟨placeStart,(g.nodeIDs.filterMap lay).foldl (fun y p=>if y<p.y+placeRow then p.y+placeRow else y) placeStart⟩

def down(p:Position)(rows:Nat):Position:=⟨p.x,p.y+rows*placeRow⟩

/-- Far enough down every row is free. -/
lemma exists_free(p):∃ rows,occupied g lay (down p rows)=false:=by
 obtain ⟨low,hlow⟩:=((g.nodeIDs.filterMap lay).map Position.y).toFinset.bddAbove
 obtain ⟨rows,hrows⟩:=exists_nat_ge ((low-p.y)/placeRow+1)
 refine ⟨rows,any_eq_false.2 fun id hid=>?_⟩
 cases hq:lay id with
 | none=>simp
 | some q=>
  have hle:q.y ≤ low:=hlow (by simpa using ⟨q,⟨id,hid,hq⟩,rfl⟩)
  have hreach:low+placeRow ≤ p.y+rows*placeRow:=by
   simp only[placeRow] at *
   linarith
  simp only[near,down,any_some,Bool.and_eq_true,not_and]
  intro _ habs
  linarith [(abs_lt.1 (of_decide_eq_true habs)).1]

/-- The loop that adds a row while the place is taken. -/
def slide(p:Position):Position:=down p (Nat.find (exists_free g lay p))

def place(id:String):Layout:=update lay id (some (slide g lay (start g lay id)))

def pick(pending:List String):Option String:=(pending.find? (ready g lay pending)).or pending.head?

def placeAll:Nat→List String→Layout→Layout
 | 0,_,lay=>lay
 | n+1,pending,lay=>
  match pick g lay pending with
  | none=>lay
  | some id=>placeAll n (pending.erase id) (place g lay id)

def pendingIDs(ids:List String):List String:=
 g.nodeIDs.filter (fun id=>(lay id).isNone&& !ids.contains id)++
  ids.filter fun id=>(g.node id).isSome&&(lay id).isNone

/-- Every round takes one id off the list. -/
def placeNewNodes(ids:List String):Layout:=placeAll g (pendingIDs g lay ids).length (pendingIDs g lay ids) lay

/-- The first wire into a step from a step of the flow. -/
def lead(id:String):Option Edge:=g.edges.find? fun e=>e.target=id∧(g.node e.source).isSome

def Column(id:String)(p:Position):Prop:=
 match lead g id with
 | none=>p.x=placeStart
 | some e=>∃ q,lay e.source=some q∧p.x=q.x+placeColumn

variable {g lay}{lay₀:Layout}{pending:List String}{id:String}

lemma near_comm(p q):near p q=near q p:=by simp only[near,abs_sub_comm]
lemma near_slide{b p q}(hb:b∈g.nodeIDs)(hq:lay b=some q):near q (slide g lay p)=false:=by
 have h:=any_eq_false.1 (Nat.find_spec (exists_free g lay p)) b hb
 simpa[slide,hq] using h
lemma findSome_lead{es:List Edge}(h:∀ e∈es,e.target=id∧(g.node e.source).isSome→(lay e.source).isSome):
 es.findSome? (fun e=>if e.target=id∧(g.node e.source).isSome then lay e.source else none) =
  (es.find? fun e=>e.target=id∧(g.node e.source).isSome).bind fun e=>lay e.source:=by
 induction es with
 | nil=>rfl
 | cons e es ih=>
  obtain ⟨he,hes⟩:=forall_mem_cons.1 h
  by_cases hm:e.target=id∧(g.node e.source).isSome
  ·obtain ⟨q,hq⟩:=isSome_iff_exists.1 (he hm)
   simp[hm,hq]
  ·rw[findSome?_cons,if_neg hm,find?_cons_of_neg (by simpa using hm)]
   exact ih hes
lemma start_column(h:∀ e∈g.edges,e.target=id∧(g.node e.source).isSome→(lay e.source).isSome):
 Column g lay id (start g lay id):=by
 have hup:=findSome_lead h
 unfold Column start upstreamPosition
 rw[hup,←lead]
 cases hl:lead g id with
 | none=>rfl
 | some e=>
  have he:=find?_some hl
  obtain ⟨q,hq⟩:=isSome_iff_exists.1 (h e (mem_of_find?_eq_some hl) (by simpa using he))
  exact ⟨q,hq,by simp[hq]⟩
lemma Column.x_eq{p q}(h:Column g lay id p)(h':Column g lay id q):p.x=q.x:=by
 unfold Column at h h'
 cases hl:lead g id<;>rw[hl] at h h'
 ·exact h.trans h'.symm
 ·obtain ⟨⟨a,ha,hp⟩,b,hb,hq⟩:=And.intro h h'
  rw[hp,hq,Option.some.inj (ha.symm.trans hb)]

/-- Halfway through: the steps still without a position are all on the list. -/
structure Inv(g:Graph)(lay₀:Layout)(pending:List String)(lay:Layout):Prop where
 kept:∀ id,(lay₀ id).isSome→lay id=lay₀ id
 fresh:∀ id∈pending,lay₀ id=none
 waits:∀ id∈g.nodeIDs,lay id=none→id∈pending
 apart:∀ a∈g.nodeIDs,∀ b∈g.nodeIDs,a≠b→lay₀ a=none→∀ p∈lay a,∀ q∈lay b,near p q=false
 column:Acyclic (wires g)→∀ id,lay₀ id=none→∀ p∈lay id,Column g lay id p

section

variable (h:Inv g lay₀ pending lay)

include h

lemma Inv.upstream(hac:Acyclic (wires g))(hready:ready g lay pending id):
 ∀ e∈g.edges,e.target=id∧(g.node e.source).isSome→(lay e.source).isSome:=by
 rintro e he ⟨rfl,hnode⟩
 have hloop:e.source≠e.target:=fun hs=>hac e.source (.single (mem_map.2 ⟨e,he,by rw[hs]⟩))
 have hr:=all_eq_true.1 hready e he
 cases hl:lay e.source with
 | some q=>rfl
 | none=>simp[hloop,hnode,hl,h.waits _ ((g.node_isSome _).1 hnode) hl] at hr
lemma Inv.column_place(hid:id∈pending)(hac:Acyclic (wires g))
 (hready:ready g lay pending id):∀ n,lay₀ n=none→∀ p∈place g lay id n,Column g (place g lay id) n p:=by
 have hstart:Column g lay id (start g lay id):=start_column (h.upstream hac hready)
 -- a step placed again keeps its column, and so do the steps that hang off it
 have hmove:∀ n p,Column g lay n p→ Column g (place g lay id) n p:=by
  intro n p hp
  unfold Column at hp⊢
  cases hl:lead g n with
  | none=>
   rw[hl] at hp
   exact hp
  | some e=>?_
  rw[hl] at hp
  obtain ⟨q,hq,hx⟩:=hp
  by_cases hs:e.source=id
  ·refine ⟨_,by rw[place,hs,update_self],?_⟩
   rw[hx,(h.column hac id (h.fresh id hid) q (hs▸hq)).x_eq hstart]
   rfl
  ·exact ⟨q,by rw[place,update_of_ne hs,hq],hx⟩
 intro n hn p hp
 by_cases hnid:n=id
 ·subst hnid
  rw[place,update_self] at hp
  cases hp
  exact hmove n _ hstart
 ·rw[place,update_of_ne hnid] at hp
  exact hmove n p (h.column hac n hn p hp)
lemma Inv.place(hid:id∈pending)
 (hready:Acyclic (wires g)→ ready g lay pending id):Inv g lay₀ (pending.erase id) (place g lay id):=by
 have hother:∀ n,n≠id→NodePlacement.place g lay id n=lay n:=fun n hn=>update_of_ne hn _ _
 have hself:NodePlacement.place g lay id id=some (slide g lay (start g lay id)):=update_self ..
 refine ⟨fun n hn=>?_,fun n hn=>h.fresh n (mem_of_mem_erase hn),fun n hn hl=>?_,
  fun a ha b hb hab hnew p hp q hq=>?_,fun hac=>h.column_place hid hac (hready hac)⟩
 ·rw[hother n fun he=>by simp[he,h.fresh id hid] at hn,h.kept n hn]
 ·have hne:n≠id:=fun he=>by simp[he,hself] at hl
  exact (mem_erase_of_ne hne).2 (h.waits n hn (hother n hne▸hl))
 ·by_cases ha':a=id
  ·subst ha'
   rw[hself] at hp
   rw[hother b hab.symm] at hq
   cases hp
   rw[near_comm]
   exact near_slide hb hq
  rw[hother a ha'] at hp
  by_cases hb':b=id
  ·subst hb'
   rw[hself] at hq
   cases hq
   exact near_slide ha hp
  rw[hother b hb'] at hq
  exact h.apart a ha b hb hab hnew p hp q hq

end

lemma exists_ready(lay:Layout)(hac:Acyclic (wires g))(hid:id∈pending):∃ n∈pending,ready g lay pending n:=by
 obtain ⟨m,hm,hmin⟩:=hac.wired.has_min {n | n∈pending} ⟨id,hid⟩
 refine ⟨m,hm,all_eq_true.2 fun e he=>?_⟩
 by_contra hne
 simp only[Bool.or_eq_true,Bool.not_eq_true',not_or,decide_eq_true_eq,not_not,Bool.not_eq_false,Bool.and_eq_true,
  contains_iff_mem] at hne
 exact hmin e.source hne.2.2 (mem_map.2 ⟨e,he,by rw[hne.1.1]⟩)
lemma pick_some(h:pick g lay pending=some id):
 id∈pending∧(Acyclic (wires g)→ ready g lay pending id):=by
 unfold pick at h
 cases hf:pending.find? (ready g lay pending) with
 | some n=>
  rw[hf] at h
  cases h
  exact ⟨mem_of_find?_eq_some hf,fun _=>find?_some hf⟩
 | none=>
  rw[hf] at h
  have hid:=mem_of_mem_head? h
  refine ⟨hid,fun hac=>?_⟩
  obtain ⟨n,hn,hr⟩:=exists_ready lay hac hid
  exact absurd hr (find?_eq_none.1 hf n hn)
lemma placeAll_inv{n}(hn:pending.length=n)(h:Inv g lay₀ pending lay):Inv g lay₀ [] (placeAll g n pending lay):=by
 induction n generalizing pending lay with
 | zero=>exact eq_nil_of_length_eq_zero hn▸h
 | succ n ih=>
  rw[placeAll]
  cases hp:pick g lay pending with
  | none=>
   cases pending with
   | nil=>cases hn
   | cons a rest=>
    have:=head?_eq_none_iff.1 (or_eq_none_iff.1 hp).2
    cases this
  | some id=>
   obtain ⟨hid,hready⟩:=pick_some hp
   exact ih (by rw[length_erase_of_mem hid,hn]; rfl) (h.place hid hready)

/-- Every step ends with a position, the ones that had one where they were, the new ones apart from all others; and in
an acyclic flow a new step stands one column right of a predecessor. -/
theorem placement_sound(g:Graph)(lay:Layout)(ids:List String):
 (∀ id∈g.nodeIDs,(placeNewNodes g lay ids id).isSome)∧
 (∀ id,(lay id).isSome→placeNewNodes g lay ids id=lay id)∧
 (∀ a∈g.nodeIDs,∀ b∈g.nodeIDs,a≠b→lay a=none→
  ∀ p∈placeNewNodes g lay ids a,∀ q∈placeNewNodes g lay ids b,near p q=false)∧
 (∀ lay' id,∀ b∈g.nodeIDs,b≠id→∀ p∈place g lay' id id,∀ q∈lay' b,near p q=false)∧
 (Acyclic (wires g)→∀ e∈g.edges,(g.node e.source).isSome→e.target∈g.nodeIDs→lay e.target=none→
  ∃ e'∈g.edges,e'.target=e.target∧(g.node e'.source).isSome∧∃ p q,placeNewNodes g lay ids e.target=some p∧
   placeNewNodes g lay ids e'.source=some q∧p.x=q.x+placeColumn):=by
 have hinv:Inv g lay [] (placeNewNodes g lay ids):=by
  refine placeAll_inv rfl ⟨fun _ _=>rfl,fun id hid=>?_,fun id hid hl=>?_,fun a _ b _ _ ha p hp=>?_,fun _ id hid p hp=>?_⟩
  ·simp only[pendingIDs,mem_append,mem_filter,Bool.and_eq_true,Option.isNone_iff_eq_none] at hid
   exact hid.elim (·.2.1) (·.2.2)
  ·simp only[pendingIDs,mem_append,mem_filter,hid,hl,(g.node_isSome id).2 hid]
   by_cases hm:id∈ids<;>simp[hm]
  ·rw[ha] at hp
   cases hp
  ·rw[hid] at hp
   cases hp
 have hall:∀ id∈g.nodeIDs,(placeNewNodes g lay ids id).isSome:=fun id hid=>by
  cases hl:placeNewNodes g lay ids id with
  | some p=>rfl
  | none=>cases hinv.waits id hid hl
 refine ⟨hall,hinv.kept,hinv.apart,fun lay' id b hb hne p hp q hq=>?_,fun hac e he hs ht hnew=>?_⟩
 ·rw[place,update_self] at hp
  cases hp
  rw[near_comm]
  exact near_slide hb hq
 ·obtain ⟨p,hp⟩:=Option.isSome_iff_exists.1 (hall _ ht)
  have hcol:=hinv.column hac _ hnew p hp
  unfold Column at hcol
  cases hl:lead g e.target with
  | none=>exact absurd (find?_eq_none.1 hl e he) (by simp[hs])
  | some e'=>
   rw[hl] at hcol
   obtain ⟨q,hq,hx⟩:=hcol
   have hlead:=find?_some hl
   simp only[Bool.decide_and,Bool.and_eq_true,decide_eq_true_eq] at hlead
   exact ⟨e',mem_of_find?_eq_some hl,hlead.1,hlead.2,p,q,hp,hq,hx⟩

end Dazyflow.NodePlacement
