import Mathlib

/-!
# Kahn's algorithm

Sorting a finite graph by counting down the wires into each vertex.
-/
namespace KahnSort

open List Function

variable {α:Type} [DecidableEq α]

/-- Counts down the listed successors and collects those that reach zero. -/
def release:List α→(α→Nat)→(α→Nat)×List α
 | [],d=>(d,[])
 | s::rest,d=>
  let d':=update d s (d s-1)
  let r:=release rest d'
  (r.1,if d' s=0 then s::r.2 else r.2)

lemma release_spec(ss)(d:α→Nat)(h:∀ x,ss.count x ≤ d x):
 (∀ x,(release ss d).1 x=d x-ss.count x)∧
 (∀ x,x∈(release ss d).2↔x∈ss∧d x=ss.count x)∧(release ss d).2.Nodup:=by
 induction ss generalizing d with
 | nil=>simp[release]
 | cons s rest ih=>
  have hs:rest.count s+1 ≤ d s:=by
   have:=h s
   rwa[count_cons_self] at this
  have hd:∀ x,update d s (d s-1) x=d x-(if x=s then 1 else 0):=by
   intro x
   by_cases hx:x=s
   ·subst hx
    simp
   ·simp[hx]
  have hcount:∀ x,(s::rest).count x=rest.count x+if x=s then 1 else 0:=by
   intro x
   rw[count_cons]
   by_cases hx:x=s
   ·simp[hx]
   ·simp[hx,Ne.symm hx]
  have hle:∀ x,rest.count x≤update d s (d s-1) x:=by
   intro x
   have:=h x
   rw[hcount x] at this
   rw[hd x]
   omega
  obtain ⟨ih₁,ih₂,ih₃⟩:=ih (update d s (d s-1)) hle
  have hmem:∀ x,x∈(release (s::rest) d).2↔x∈s::rest∧d x=(s::rest).count x:=by
   intro x
   have hrest:x∈rest↔0<rest.count x:=count_pos_iff.symm
   have hiff:=ih₂ x
   rw[hd x] at hiff
   have hx:=h x
   rw[hcount x] at hx
   simp only[release,update_self,mem_cons]
   rw[hcount x]
   by_cases hxs:x=s
   ·subst hxs
    rw[if_pos rfl] at hiff hx ⊢
    split_ifs with hz
    ·simp only[mem_cons,true_or,true_iff,true_and]
     omega
    ·rw[hiff,hrest]
     constructor
     ·rintro ⟨_,he⟩
      exact ⟨.inl rfl,by omega⟩
     ·rintro ⟨_,he⟩
      omega
   ·rw[if_neg hxs] at hiff hx ⊢
    have:x∈(if d s-1=0 then s::(release rest (update d s (d s-1))).2
     else (release rest (update d s (d s-1))).2)↔
     x∈(release rest (update d s (d s-1))).2:=by
     split_ifs
     ·simp[hxs]
     ·rfl
    rw[this,hiff]
    simp[hxs]
  refine ⟨?_,hmem,?_⟩
  ·intro x
   simp only[release]
   rw[ih₁ x,hd x,hcount x]
   omega
  ·simp only[release,update_self]
   split_ifs with hz
   ·refine nodup_cons.2 ⟨?_,ih₃⟩
    rw[ih₂ s,update_self,←count_pos_iff]
    omega
   ·exact ih₃

structure Sorting(α:Type) where
 (taken ready:List α)
 indeg:α→Nat

variable (verts:List α)(edges:List (α×α))

def successors(x:α):List α:=(edges.filter fun e=>e.1=x).map Prod.snd

def openWires(taken:List α)(x:α):Nat:=
 edges.countP (fun e=>decide (e.2=x)&&decide (e.1∉taken))

structure Sound(st:Sorting α):Prop where
 degrees:∀ x,st.indeg x=openWires edges st.taken x
 zero:∀ x∈verts,st.indeg x=0↔x∈st.taken∨x∈st.ready
 inside:∀ x,x∈st.taken∨x∈st.ready→x∈verts
 nodup:(st.taken++st.ready).Nodup
 closed:∀ l₁ a l₂,st.taken=l₁++a::l₂→∀ e∈edges,e.2=a→e.1∈l₁

def start:Sorting α where
 taken:=[]
 ready:=verts.filter (fun x=>openWires edges [] x=0)
 indeg:=openWires edges []

def take(st:Sorting α)(x:α)(rest:List α):Sorting α where
 taken:=st.taken++[x]
 ready:=rest++(release (successors edges x) st.indeg).2
 indeg:=(release (successors edges x) st.indeg).1

variable {verts edges}

lemma start_sound(hv:verts.Nodup):Sound verts edges (start verts edges) where
 degrees _:=rfl
 zero x hx:=by simp[start,hx]
 inside x h:=by
  rcases h with h | h
  ·cases h
  ·exact (mem_filter.1 h).1
 nodup:=by
  rw[start,nil_append]
  exact hv.filter _
 closed l₁ a l₂ h:=by simp[start] at h
lemma Sound.perm{taken ready ready' d}
 (h:Sound verts edges ⟨taken,ready,d⟩)(hp:ready.Perm ready'):
 Sound verts edges ⟨taken,ready',d⟩ where
 degrees:=h.degrees
 zero x hx:=(h.zero x hx).trans (or_congr Iff.rfl hp.mem_iff)
 inside x hx:=h.inside x (hx.imp (fun h=>h) hp.mem_iff.2)
 nodup:=((hp.append_left taken).nodup_iff).1 h.nodup
 closed:=h.closed

variable {st:Sorting α}{x:α}

lemma openWires_append{taken}(hx:x∉taken)(y:α):
 openWires edges (taken++[x]) y+(successors edges x).count y=openWires edges taken y:=by
 simp only[openWires,successors]
 induction edges with
 | nil=>rfl
 | cons e rest ih=>
  by_cases he:e.1=x
  ·have hfil:(e::rest).filter (fun e=>decide (e.1=x)) =
    e::rest.filter (fun e=>decide (e.1=x)):=filter_cons_of_pos (by simpa using he)
   rw[hfil,map_cons,countP_cons,countP_cons,count_cons]
   by_cases hy:e.2=y
   ·have h₁:(decide (e.2=y)&&decide (e.1∉taken++[x]))=false:=by simp[he]
    have h₂:(decide (e.2=y)&&decide (e.1∉taken)):=by simp[he,hx,hy]
    rw[h₁,h₂]
    simp only[hy,beq_self_eq_true,if_true,Bool.false_eq_true,if_false]
    omega
   ·have h₁:(decide (e.2=y)&&decide (e.1∉taken++[x]))=false:=by simp[hy]
    have h₂:(decide (e.2=y)&&decide (e.1∉taken))=false:=by simp[hy]
    have h₃:(e.2==y)=false:=by simpa using hy
    rw[h₁,h₂,h₃]
    simpa using ih
  ·have hfil:(e::rest).filter (fun e=>decide (e.1=x)) =
    rest.filter (fun e=>decide (e.1=x)):=filter_cons_of_neg (by simpa using he)
   rw[hfil,countP_cons,countP_cons]
   have h₁:(decide (e.2=y)&&decide (e.1∉taken++[x])) =
    (decide (e.2=y)&&decide (e.1∉taken)):=by simp[he]
   rw[h₁]
   omega
lemma Sound.take{taken rest d}(hin:∀ e∈edges,e.2∈verts)
 (h:Sound verts edges ⟨taken,x::rest,d⟩):
 Sound verts edges (take edges ⟨taken,x::rest,d⟩ x rest):=by
 have hxt:x∉taken:=fun hx=>(nodup_append.1 h.nodup).2.2 x hx x mem_cons_self rfl
 have hcount:∀ y,(successors edges x).count y ≤ d y:=by
  intro y
  have hd:d y=openWires edges taken y:=h.degrees y
  have:openWires edges (taken++[x]) y+_=openWires edges taken y:=openWires_append hxt y
  omega
 obtain ⟨hdeg,hrel,hrn⟩:=release_spec (successors edges x) d hcount
 have hnew:∀ y,y∈(release (successors edges x) d).2→y∈verts∧y∉taken∧y∉x::rest:=by
  intro y hy
  obtain ⟨hys,hyd⟩:=(hrel y).1 hy
  have hpos:0<d y:=hyd▸count_pos_iff.2 hys
  have hyv:y∈verts:=by
   simp only[successors,mem_map,mem_filter] at hys
   obtain ⟨e,⟨he,_⟩,rfl⟩:=hys
   exact hin e he
  have hz:=(h.zero y hyv).not.1 (by change ¬d y=0; omega)
  exact ⟨hyv,fun ht=>hz (.inl ht),fun hr=>hz (.inr hr)⟩
 have hwires:∀ y,(release (successors edges x) d).1 y=openWires edges (taken++[x]) y:=by
  intro y
  have:openWires edges (taken++[x]) y+_=openWires edges taken y:=openWires_append hxt y
  have hd:d y=openWires edges taken y:=h.degrees y
  rw[hdeg y]
  omega
 constructor
 ·exact hwires
 ·intro y hy
  have hz:d y=0↔y∈taken∨y∈x::rest:=h.zero y hy
  change (release (successors edges x) d).1 y=0↔
   y∈taken++[x]∨y∈rest++(release (successors edges x) d).2
  rw[hdeg y]
  constructor
  ·intro h0
   by_cases hdy:d y=0
   ·rcases hz.1 hdy with ht | hr
    ·exact .inl (mem_append_left _ ht)
    ·rcases mem_cons.1 hr with rfl | hr
     ·exact .inl (mem_append_right _ (mem_singleton_self _))
     ·exact .inr (mem_append_left _ hr)
   ·have hc:=hcount y
    have hys:y∈successors edges x:=count_pos_iff.1 (by omega)
    exact .inr (mem_append_right _ ((hrel y).2 ⟨hys,by omega⟩))
  ·intro hm
   have hcase:d y=0∨d y=(successors edges x).count y:=by
    rcases hm with hm | hm
    ·rcases mem_append.1 hm with hm | hm
     ·exact .inl (hz.2 (.inl hm))
     ·exact .inl (hz.2 (.inr (by simpa using .inl (mem_singleton.1 hm))))
    ·rcases mem_append.1 hm with hm | hm
     ·exact .inl (hz.2 (.inr (mem_cons_of_mem _ hm)))
     ·exact .inr ((hrel y).1 hm).2
   omega
 ·intro y hy
  rcases hy with hy | hy
  ·rcases mem_append.1 hy with hy | hy
   ·exact h.inside y (.inl hy)
   ·rw[mem_singleton.1 hy]
    exact h.inside x (.inr mem_cons_self)
  ·rcases mem_append.1 hy with hy | hy
   ·exact h.inside y (.inr (mem_cons_of_mem _ hy))
   ·exact (hnew y hy).1
 ·have hold:(taken++[x]++rest).Nodup:=by simpa using h.nodup
  change (taken++[x]++(rest++(release (successors edges x) d).2)).Nodup
  rw[←append_assoc]
  refine nodup_append.2 ⟨hold,hrn,?_⟩
  rintro a ha b hb rfl
  obtain ⟨_,hnt,hnr⟩:=hnew a hb
  rcases mem_append.1 ha with ha | ha
  ·rcases mem_append.1 ha with ha | ha
   ·exact hnt ha
   ·exact hnr (by simpa using .inl (mem_singleton.1 ha))
  ·exact hnr (mem_cons_of_mem _ ha)
 ·intro l₁ a l₂ hl e he hea
  rcases eq_nil_or_concat l₂ with rfl | ⟨l₂',b,rfl⟩
  ·have hl':taken++[x]=l₁++[a]:=hl
   obtain ⟨rfl,hxa⟩:=append_inj' hl' rfl
   -- a ready vertex has no open wire, so the source of the wire is taken
   have hzero:openWires edges taken a=0:=by
    have:x=a:=by simpa using hxa
    rw[←this,←h.degrees x]
    exact (h.zero x (h.inside x (.inr mem_cons_self))).2 (.inr mem_cons_self)
   by_contra hn
   have:=(countP_eq_zero.1 hzero) e he
   simp[hea,hn] at this
  ·have hl':taken++[x]=(l₁++a::l₂')++[b]:=by
    rw[append_assoc]
    simpa[KahnSort.take] using hl
   obtain ⟨ht,_⟩:=append_inj' hl' rfl
   exact h.closed l₁ a l₂' ht e he hea
lemma Sound.taken_le(h:Sound verts edges st):
 st.taken.length+st.ready.length ≤ verts.length:=by
 rw[←length_append]
 refine (subperm_of_subset h.nodup ?_).length_le
 intro x hx
 exact h.inside x (mem_append.1 hx)
lemma idxOf_lt_of_split{order l₁ l₂:List α}{a b:α}(hn:order.Nodup)(h:order=l₁++a::l₂)
 (hb:b∈l₁):order.idxOf b<order.idxOf a:=by
 subst h
 have ha:a∉l₁:=fun h'=>(nodup_append.1 hn).2.2 a h' a mem_cons_self rfl
 rw[idxOf_append_of_mem hb,idxOf_append_of_notMem ha,idxOf_cons_self]
 have:=idxOf_lt_length_of_mem hb
 omega

variable (edges) in
def Wired(a b:α):Prop:=(a,b)∈edges

variable (edges) in
def Acyclic:Prop:=∀ x,¬Relation.TransGen (Wired edges) x x

omit [DecidableEq α] in
lemma Acyclic.wellFounded(h:Acyclic edges)(hin:∀ e∈edges,e.1∈verts∧e.2∈verts):
 WellFounded (Wired edges):=by
 let reaches (a b:{x // x∈verts}):Prop:=Relation.TransGen (Wired edges) a.1 b.1
 have htrans:IsTrans _ reaches:=⟨fun _ _ _=>Relation.TransGen.trans⟩
 have hirrefl:Std.Irrefl reaches:=⟨fun x=>h x.1⟩
 have hfin:Finite {x // x∈verts}:=finite_toSet verts
 have hwf:WellFounded reaches:=Finite.wellFounded_of_trans_of_irrefl reaches
 refine ⟨fun x=>?_⟩
 by_cases hx:x∈verts
 ·exact hwf.induction (C:=fun y=>Acc (Wired edges) y.1) ⟨x,hx⟩
   fun y ih=>⟨y.1,fun z hz=>ih ⟨z,(hin _ hz).1⟩ (.single hz)⟩
 ·exact ⟨x,fun z hz=>absurd (hin _ hz).2 hx⟩
omit [DecidableEq α] in
lemma Acyclic.wired(h:Acyclic edges):WellFounded (Wired edges):=
 @Acyclic.wellFounded _ (edges.map Prod.fst++edges.map Prod.snd) _ h fun _ he=>
  ⟨mem_append_left _ (mem_map_of_mem he),mem_append_right _ (mem_map_of_mem he)⟩
section

variable (h:Sound verts edges st)

include h

lemma Sound.reached(hx:x∈verts)
 (hsrc:∀ e∈edges,e.2=x→e.1∈st.taken):x∈st.taken∨x∈st.ready:=by
 refine (h.zero x hx).1 ?_
 rw[h.degrees x]
 refine countP_eq_zero.2 fun e he hb=>?_
 simp only[Bool.and_eq_true,decide_eq_true_eq] at hb
 exact hb.2 (hsrc e he hb.1)
lemma Sound.complete(hac:Acyclic edges)
 (hin:∀ e∈edges,e.1∈verts∧e.2∈verts)(hr:st.ready=[]):∀ x∈verts,x∈st.taken:=by
 intro x
 induction x using (hac.wellFounded hin).induction with
 | _ x ih=>
  intro hx
  refine (h.reached hx fun e he hex=>?_).resolve_right (by simp[hr])
  subst hex
  exact ih e.1 he (hin e he).1
lemma Sound.forward{a b:α}(hab:Wired edges a b)
 (hb:b∈st.taken):st.taken.idxOf a<st.taken.idxOf b:=by
 obtain ⟨l₁,l₂,hsplit⟩:=append_of_mem hb
 exact idxOf_lt_of_split (nodup_append.1 h.nodup).1 hsplit (h.closed l₁ b l₂ hsplit (a,b) hab rfl)
lemma Sound.acyclic(hall:∀ e∈edges,e.2∈st.taken):
 Acyclic edges:=by
 have hlt:∀ a b,Relation.TransGen (Wired edges) a b → st.taken.idxOf a<st.taken.idxOf b:=by
  intro a b hab
  induction hab with
  | single hab=>exact h.forward hab (hall _ hab)
  | tail _ hbc ih=>exact ih.trans (h.forward hbc (hall _ hbc))
 exact fun x hx=>Nat.lt_irrefl _ (hlt x x hx)

end

variable (edges) in
def takeAll(pick:List α→Option (α×List α)):Nat→Sorting α→Sorting α
 | 0,st=>st
 | n+1,st=>
  match pick st.ready with
  | none=>st
  | some (x,rest)=>takeAll pick n (take edges st x rest)

section Picking

variable {pick:List α→Option (α×List α)}
 (hpick:∀ l x rest,pick l=some (x,rest)→l.Perm (x::rest))
 (hin:∀ e∈edges,e.2∈verts)

include hpick hin in
lemma takeAll_sound(n){st}(h:Sound verts edges st):
 Sound verts edges (takeAll edges pick n st):=by
 induction n generalizing st with
 | zero=>exact h
 | succ n ih=>
  rw[takeAll]
  split
  ·exact h
  case h_2 x rest hp=>exact ih ((h.perm (hpick _ _ _ hp)).take hin)

include hpick hin in
lemma takeAll_ready(hnone:∀ l,pick l=none→l=[])(n){st}
 (h:Sound verts edges st)(hn:verts.length ≤ n+st.taken.length):
 (takeAll edges pick n st).ready=[]:=by
 induction n generalizing st with
 | zero=>
  have:=h.taken_le
  exact length_eq_zero_iff.1 (by rw[takeAll]; omega)
 | succ n ih=>
  rw[takeAll]
  split
  case h_1 hp=>exact hnone _ hp
  case h_2 x rest hp=>
   refine ih ((h.perm (hpick _ _ _ hp)).take hin) ?_
   simp only[take,length_append,length_singleton]
   omega

end Picking

variable (verts edges) in
/-- A way to go on once some vertices are taken: the others, each behind its sources. -/
structure Completes(taken rest:List α):Prop where
 nodup:(taken++rest).Nodup
 mem:∀ x,x∈taken++rest↔x∈verts
 forward:∀ l₁ a l₂,rest=l₁++a::l₂→∀ e∈edges,e.2=a→e.1∈taken++l₁

omit [DecidableEq α] in
lemma Completes.tail{taken rest x}(h:Completes verts edges taken (x::rest)):
 Completes verts edges (taken++[x]) rest where
 nodup:=by simpa using h.nodup
 mem y:=by simpa using h.mem y
 forward l₁ a l₂ hl e he hea:=by simpa using h.forward (x::l₁) a l₂ (by rw[hl]; rfl) e he hea
lemma Sound.head_ready{st}(h:Sound verts edges st){x rest}
 (hc:Completes verts edges st.taken (x::rest)):x∈st.ready:=by
 have hx:x∈verts:=(hc.mem x).1 (by simp)
 refine (h.reached hx fun e he hex=>?_).resolve_left fun ht=>?_
 ·simpa using hc.forward [] x rest rfl e he hex
 ·exact (nodup_append.1 hc.nodup).2.2 x ht x mem_cons_self rfl

section Least

variable {pick:List α→Option (α×List α)}{lt:α→α→Prop}
 (hpick:∀ l x rest,pick l=some (x,rest)→l.Perm (x::rest))(hnone:∀ l,pick l=none→l=[])
 (hleast:∀ l x rest,pick l=some (x,rest)→∀ y∈l,x=y∨lt x y)
 (hin:∀ e∈edges,e.2∈verts)

lemma takeAll_extends(n st):∃ l,(takeAll edges pick n st).taken=st.taken++l:=by
 induction n generalizing st with
 | zero=>exact ⟨[],(append_nil _).symm⟩
 | succ n ih=>
  rw[takeAll]
  split
  ·exact ⟨[],(append_nil _).symm⟩
  case h_2 x rest _=>
   obtain ⟨l,hl⟩:=ih (take edges st x rest)
   exact ⟨x::l,by rw[hl,take,append_assoc]; rfl⟩

include hpick hnone hleast hin in
lemma takeAll_least(n){st}(h:Sound verts edges st){other}
 (hc:Completes verts edges st.taken other)(hlen:other.length ≤ n):
 ∃ l,(takeAll edges pick n st).taken=st.taken++l∧(l=other∨List.Lex lt l other):=by
 induction n generalizing st other with
 | zero=>exact ⟨[],(append_nil _).symm,.inl (length_eq_zero_iff.1 (Nat.le_zero.1 hlen)).symm⟩
 | succ n ih=>
  rw[takeAll]
  split
  case h_1 hp=>
   refine ⟨[],(append_nil _).symm,.inl ?_⟩
   cases other with
   | nil=>rfl
   | cons y rest=>exact absurd (h.head_ready hc) (by simp[hnone _ hp])
  case h_2 x left hp=>
   have hperm:=hpick _ _ _ hp
   cases other with
   | nil=>
    have hx:x∈st.ready:=hperm.mem_iff.2 mem_cons_self
    have ht:x∈st.taken:=by simpa using (hc.mem x).2 (h.inside x (.inr hx))
    exact absurd rfl ((nodup_append.1 h.nodup).2.2 x ht x hx)
   | cons y rest=>
    rcases hleast _ _ _ hp y (h.head_ready hc) with rfl | hlt
    ·have hs:Sound verts edges (take edges st x left):=(h.perm hperm).take hin
     obtain ⟨l,hl,hor⟩:=ih hs hc.tail (Nat.le_of_succ_le_succ hlen)
     refine ⟨x::l,by rw[hl,take,append_assoc]; rfl,?_⟩
     rcases hor with rfl | hlex
     ·exact .inl rfl
     ·exact .inr (.cons hlex)
    ·obtain ⟨l,hl⟩:=@takeAll_extends _ _ edges pick n (take edges st x left)
     exact ⟨x::l,by rw[hl,take,append_assoc]; rfl,.inr (.rel hlt)⟩

end Least

variable (edges) in
def expand:List α→(α→Nat)→(α→Nat)×List α
 | [],d=>(d,[])
 | x::rest,d=>
  let r:=release (successors edges x) d
  let q:=expand rest r.1
  (q.1,r.2++q.2)

variable (edges) in
def layers(arrange:List α→List α):Nat→List α→(α→Nat)→List (List α)
 | 0,_,_=>[]
 | n+1,current,d=>
  if current=[] then []
  else arrange current ::
   layers arrange n (expand edges (arrange current) d).2 (expand edges (arrange current) d).1

variable {d:α→Nat}{current:List α}{arrange:List α→List α}

lemma Sound.expand{taken next}(hin:∀ e∈edges,e.2∈verts)
 (h:Sound verts edges ⟨taken,current++next,d⟩):
 Sound verts edges ⟨taken++current,next++(expand edges current d).2,(expand edges current d).1⟩:=by
 induction current generalizing taken next d with
 | nil=>simpa[KahnSort.expand] using h
 | cons x rest ih=>
  have hx:Sound verts edges ⟨taken++[x],rest++(next++(release (successors edges x) d).2),
   (release (successors edges x) d).1⟩:=by
   rw[←append_assoc]
   exact h.take hin
  simpa[KahnSort.expand,append_assoc] using ih hx
lemma layers_sound(harr:∀ l,(arrange l).Perm l)
 (hin:∀ e∈edges,e.2∈verts)(n){taken}
 (h:Sound verts edges ⟨taken,current,d⟩):
 (∀ l₁ layer l₂,layers edges arrange n current d=l₁++layer::l₂→∀ a∈layer,
  ∀ e∈edges,e.2=a→e.1∈taken++l₁.flatten)∧
 ∃ ready d',Sound verts edges ⟨taken++(layers edges arrange n current d).flatten,ready,d'⟩∧
  (verts.length ≤ n+taken.length → ready=[]):=by
 induction n generalizing taken current d with
 | zero=>
  refine ⟨fun l₁ layer l₂ hl=>by simp[layers] at hl,current,d,by simpa[layers] using h,?_⟩
  intro hn
  have:taken.length+current.length ≤ verts.length:=h.taken_le
  exact length_eq_zero_iff.1 (by omega)
 | succ n ih=>
  rw[layers]
  split_ifs with hc
  ·refine ⟨fun l₁ layer l₂ hl=>by simp at hl,current,d,by simpa using h,fun _=>hc⟩
  have hp:Sound verts edges ⟨taken,arrange current++[],d⟩:=by
   rw[append_nil]
   exact h.perm (harr current).symm
  have hx:=hp.expand hin
  rw[nil_append] at hx
  obtain ⟨hback,ready,d',hs,hr⟩:=ih hx
  refine ⟨?_,ready,d',?_,?_⟩
  ·intro l₁ layer l₂ hl a ha e he hea
   cases l₁ with
   | nil=>
    -- the first layer was ready: no wire into it is open
    obtain ⟨rfl,_⟩:=List.cons.inj hl
    have hac:a∈current:=(harr current).mem_iff.1 ha
    have hzero:openWires edges taken a=0:=by
     rw[←h.degrees a]
     exact (h.zero a (h.inside a (.inr hac))).2 (.inr hac)
    by_contra hn
    have:=(countP_eq_zero.1 hzero) e he
    simp_all
   | cons first l₁=>
    obtain ⟨rfl,hl'⟩:=List.cons.inj hl
    have:=hback l₁ layer l₂ hl' a ha e he hea
    simpa[append_assoc] using this
  ·simpa[append_assoc] using hs
  intro hn
  refine hr ?_
  have:0<(arrange current).length:=by
   rw[(harr current).length_eq]
   exact length_pos_of_ne_nil hc
  simp only[length_append]
  omega
lemma mem_of_release{ss x}(h:x∈(release ss d).2):x∈ss:=by
 induction ss generalizing d with
 | nil=>cases h
 | cons s rest ih=>
  simp only[release] at h
  split_ifs at h
  ·exact (mem_cons.1 h).elim (fun e=>e▸mem_cons_self) fun h=>mem_cons_of_mem s (ih h)
  ·exact mem_cons_of_mem s (ih h)
lemma source_of_expand{x}(h:x∈(expand edges current d).2):
 ∃ y∈current,Wired edges y x:=by
 induction current generalizing d with
 | nil=>cases h
 | cons y rest ih=>
  rcases mem_append.1 h with h | h
  ·obtain ⟨e,he,rfl⟩:=mem_map.1 (mem_of_release h)
   obtain ⟨hmem,hy⟩:=mem_filter.1 he
   exact ⟨y,mem_cons_self,by simpa[Wired,←of_decide_eq_true hy] using hmem⟩
  ·obtain ⟨z,hz,hw⟩:=ih h
   exact ⟨z,mem_cons_of_mem y hz,hw⟩
lemma source_of_layer(harr:∀ l,(arrange l).Perm l){n k}
 {layer}(h:(layers edges arrange n current d)[k+1]? = some layer){x}
 (hx:x∈layer):∃ before,(layers edges arrange n current d)[k]? = some before∧∃ y∈before,Wired edges y x:=by
 induction n generalizing k current d with
 | zero=>simp[layers] at h
 | succ n ih=>
  rw[layers] at h ⊢
  split_ifs at h ⊢ with hc
  ·simp at h
  rw[getElem?_cons_succ] at h
  cases k with
  | succ k=>exact ih h
  | zero=>?_
  refine ⟨arrange current,rfl,?_⟩
  cases n with
  | zero=>simp[layers] at h
  | succ n=>
   rw[layers] at h
   split_ifs at h
   ·simp at h
   ·cases h
    exact source_of_expand ((harr _).mem_iff.1 hx)
lemma arranged_of_layers{n layer}
 (h:layer∈layers edges arrange n current d):∃ l,layer=arrange l:=by
 induction n generalizing current d with
 | zero=>cases h
 | succ n ih=>
  rw[layers] at h
  split_ifs at h
  ·cases h
  ·exact (mem_cons.1 h).elim (fun e=>⟨current,e⟩) ih

variable (verts edges) in
inductive PathTo:Nat→α→Prop
 | start {x:α}:x∈verts→PathTo 0 x
 | wire {n:Nat} {x y:α}:PathTo n x→Wired edges x y→PathTo (n+1) y

variable (verts edges) in
def Longest(k:Nat)(x:α):Prop:=PathTo verts edges k x∧∀ j,PathTo verts edges j x→j ≤ k

end KahnSort
