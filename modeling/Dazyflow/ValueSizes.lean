import Dazyflow.FlowGraph

/-!
# Metering values against a budget

The walk adds up bytes in groups, one round of a Go loop each, and looks at the budget after every
group. Totals are machine integers, and a sum that leaves their range wraps.
-/
namespace Dazyflow.ValueSizes
open FlowGraph (Edge)

mutual
inductive Value
 | nil
 | leaf (bytes:Nat)
 | parts (groups:List (List Part))
/-- A value is walked so many levels further down, under what is left before its group's next part. -/
inductive Part
 | bytes (n:Nat)
 | value (down:Nat)(v:Value)
end

abbrev Groups:=List (List Part)

def maxValueDepth:Nat:=64

def maxInt:Int:=2^63-1

def wrap(n:Int):Int:=n.bmod (2^64)

mutual
def approxSize(budget:Int)(depth:Nat):Value→Int
 | .nil=>0
 | .leaf n=>if maxValueDepth ≤ depth then wrap (budget+1) else n
 | .parts gs=>if maxValueDepth ≤ depth then wrap (budget+1) else walk budget depth 0 gs
def walk(budget:Int)(depth:Nat)(total:Int):Groups→Int
 | []=>total
 | g::gs=>
  let total:=charge budget depth total g
  if budget<total then total else walk budget depth total gs
def charge(budget:Int)(depth:Nat)(total:Int):List Part→Int
 | []=>total
 | .bytes n::ps=>charge budget depth (wrap (total+n)) ps
 | .value down v::ps=>charge budget depth (wrap (total+approxSize (wrap (budget-total)) (depth+down) v)) ps
end

def approxValueSize(v:Value)(budget:Int):Int:=approxSize budget 0 v

def len(s:String):Nat:=s.utf8ByteSize

namespace Value

def string(s:String):Value:=.leaf (len s)

/-- Numbers, and the kinds reflection does not open. -/
def word:Value:=.leaf 8

def bool:Value:=.leaf 1

def strings(ss:List String):Value:=.parts (ss.map fun s=>[.bytes (len s)])

def slice(vs:List Value):Value:=.parts (vs.map fun v=>[.value 1 v])

def object(es:List (String×Value)):Value:=.parts (es.map fun e=>[.value 1 e.2,.bytes (len e.1)])

def mapping(es:List (Value×Value)):Value:=.parts (es.map fun e=>[.value 1 e.1,.value 1 e.2])

def pointer(v:Option Value):Value:=.parts (v.toList.map fun v=>[.value 1 v])

/-- A field that cannot be read is charged a word. -/
def struct(fields:List (Option Value)):Value:=
 .parts (fields.map fun f=>[f.elim (.bytes 8) (.value 1)])

end Value

structure Ref where
 (mime ref:String)
 headers:List String
 inline:Value

def refSize(down:Nat)(r:Ref):Groups:=
 [[.bytes (len r.mime+len r.ref+(r.headers.map len).sum)],[.value down r.inline]]

def Value.ref(r:Ref):Value:=.parts (refSize 1 r)

def Value.refs(rs:List Ref):Value:=.parts (rs.flatMap (refSize 2))

structure Node where
 (id module label:String)
 env:List (String×String)
 params:List (String×Value)

structure Frame where
 (id title color:String)

structure Trigger where
 (type cron tz secret formTitle:String)
 formFields:List String

structure Graph where
 (name description icon language owner version visibility:String)
 failureNotify:Option (String×String)
 nodes:List Node
 edges:List Edge
 frames:List Frame
 triggers:List Trigger

def texts(ss:List String):List Part:=ss.map fun s=>.bytes (len s)

def Node.parts(n:Node):List Part:=
 texts [n.id,n.module,n.label]++n.env.flatMap (fun e=>texts [e.1,e.2])++
  n.params.flatMap fun e=>[.value 0 e.2,.bytes (len e.1)]

def Graph.header(g:Graph):Nat:=
 len g.name+len g.description+len g.icon+len g.language+len g.owner+len g.version+len g.visibility+
  g.failureNotify.elim 0 fun n=>len n.1+len n.2

def Graph.groups(g:Graph):Groups:=
 g.nodes.map Node.parts++g.edges.map (fun e=>texts [e.source,e.fromPort,e.target,e.toPort])++
  g.frames.map (fun f=>texts [f.id,f.title,f.color])++
  g.triggers.map fun t=>texts (t.type::t.cron::t.tz::t.secret::t.formTitle::t.formFields)

def approxGraphBytes(g:Graph)(budget:Int):Int:=walk budget 0 (wrap g.header) g.groups

mutual
def Value.count:Value→Nat
 | .nil=>0
 | .leaf n=>n
 | .parts gs=>countGroups gs
def Part.count:Part→Nat
 | .bytes n=>n
 | .value _ v=>v.count
def countParts:List Part→Nat
 | []=>0
 | p::ps=>p.count+countParts ps
def countGroups:Groups→Nat
 | []=>0
 | g::gs=>countParts g+countGroups gs
end

mutual
/-- A value other than nil stands at the depth limit. -/
def Value.deep(depth:Nat):Value→Bool
 | .nil=>false
 | .leaf _=>maxValueDepth ≤ depth
 | .parts gs=>maxValueDepth ≤ depth||deepGroups depth gs
def Part.deep(depth:Nat):Part→Bool
 | .bytes _=>false
 | .value down v=>v.deep (depth+down)
def deepParts(depth:Nat):List Part→Bool
 | []=>false
 | p::ps=>p.deep depth||deepParts depth ps
def deepGroups(depth:Nat):Groups→Bool
 | []=>false
 | g::gs=>deepParts depth g||deepGroups depth gs
end

/-- From a running total, the walk adds the count within the budget or passes the budget; it leaves the
two by no more than the count. -/
structure Metered(b t:Int)(n:Nat)(deep:Bool)(r:Int):Prop where
 within:deep=false→t+n ≤ b → r=t+n
 passed:deep∨b<t+n→b<r
 least:min t (b+1) ≤ r
 most:r ≤ max t (b+1)+n

/-- No sum on the way of so many more bytes leaves the machine's range. -/
structure Room(b t:Int)(n:Nat):Prop where
 least:min 0 (b+1) ≤ t
 most:max t (b+1)+n<2^63
 left: -2^63 ≤ b-(max t (b+1)+n)
 low: -2^63 ≤ b

lemma wrap_eq{n:Int}(h: -2^63 ≤ n)(h':n<2^63):wrap n=n:=Int.bmod_eq_of_le (by omega) (by omega)
lemma Room.mono{b t n m}(h:Room b t (n+m)):Room b t n:=by
 obtain ⟨h₁,h₂,h₃,h₄⟩:=h
 push_cast at h₂ h₃
 exact ⟨h₁,by omega,by omega,h₄⟩
lemma Room.step{b t r n m deep}(h:Room b t (n+m))(hr:Metered (b-t) 0 n deep r):
 Room b (t+r) m∧wrap (t+r)=t+r:=by
 obtain ⟨h₁,h₂,h₃,h₄⟩:=h
 have hleast:=hr.least
 have hmost:=hr.most
 push_cast at h₂ h₃
 exact ⟨⟨by omega,by omega,by omega,by omega⟩,wrap_eq (by omega) (by omega)⟩
lemma Room.inner{b t n m}(h:Room b t (n+m)):Room (b-t) 0 n∧wrap (b-t)=b-t:=by
 obtain ⟨h₁,h₂,h₃,h₄⟩:=h
 push_cast at h₂ h₃
 exact ⟨⟨by omega,by omega,by omega,by omega⟩,wrap_eq (by omega) (by omega)⟩
lemma Room.spent{b n}(h:Room b 0 n):wrap (b+1)=b+1:=by
 obtain ⟨_,h₂,_,h₄⟩:=h
 exact wrap_eq (by omega) (by omega)
lemma metered_bytes(b:Int)(n:Nat):Metered b 0 n false n:=
 ⟨fun _ _=>by omega,fun h=>by simpa using h,by omega,by omega⟩
lemma metered_spent(b:Int)(n:Nat):Metered b 0 n true (b+1):=
 ⟨nofun,fun _=>by omega,by omega,by omega⟩
lemma Metered.add{b t r r' n m deep deep'}(h:Metered (b-t) 0 n deep r)(h':Metered b (t+r) m deep' r'):
 Metered b t (n+m) (deep||deep') r':=by
 obtain ⟨hw,ho,hl,hm⟩:=h
 obtain ⟨hw',ho',hl',hm'⟩:=h'
 refine ⟨fun hd ht=>?_,fun h=>?_,by omega,by push_cast; omega⟩
 ·obtain ⟨rfl,rfl⟩:=Bool.or_eq_false_iff.1 hd
  have hr:=hw rfl (by omega)
  have hr':=hw' rfl (by omega)
  push_cast
  omega
 ·by_cases hover:deep=true∨b-t<0+n
  ·have hr:=ho hover
   omega
  ·simp only[not_or,Bool.not_eq_true,not_lt] at hover
   have hr:=hw hover.1 hover.2
   refine ho' ?_
   rw[hover.1,Bool.false_or] at h
   push_cast at h
   exact h.imp_right fun h=>by omega
lemma Room.after{b t r n m deep}(h:Room b t (n+m))(hr:Metered b t n deep r):Room b r m:=by
 obtain ⟨h₁,h₂,h₃,h₄⟩:=h
 have hleast:=hr.least
 have hmost:=hr.most
 push_cast at h₂ h₃
 exact ⟨by omega,by omega,by omega,by omega⟩
lemma Metered.stop{b t r n m deep deep'}(h:Metered b t n deep r)(hr:b<r):
 Metered b t (n+m) (deep||deep') r:=by
 obtain ⟨hw,ho,hl,hm⟩:=h
 refine ⟨fun hd ht=>?_,fun _=>hr,hl,by push_cast; omega⟩
 have hr':=hw (Bool.or_eq_false_iff.1 hd).1 (by push_cast at ht; omega)
 push_cast at ht
 omega
lemma Metered.next{b t r r' n m deep deep'}(h:Metered b t n deep r)(hr:¬b<r)(h':Metered b r m deep' r'):
 Metered b t (n+m) (deep||deep') r':=by
 obtain ⟨hw,ho,hl,hm⟩:=h
 have hquiet:¬(deep=true∨b<t+n):=fun h=>hr (ho h)
 simp only[not_or,Bool.not_eq_true,not_lt] at hquiet
 have hsum:=hw hquiet.1 hquiet.2
 subst hsum
 obtain ⟨hw',ho',hl',hm'⟩:=h'
 rw[hquiet.1,Bool.false_or]
 exact ⟨fun hd ht=>by rw[hw' hd (by omega)]; omega,fun h=>ho' (h.imp_right fun h=>by omega),by omega,by omega⟩

mutual
lemma approxSize_metered(d){b}:∀ v:Value,Room b 0 v.count→Metered b 0 v.count (v.deep d) (approxSize b d v)
 | .nil,_=>metered_bytes b 0
 | .leaf n,h=>by
  by_cases hd:maxValueDepth ≤ d
  ·simpa[approxSize,Value.deep,Value.count,hd,h.spent] using metered_spent b n
  ·simpa[approxSize,Value.deep,Value.count,hd] using metered_bytes b n
 | .parts gs,h=>by
  by_cases hd:maxValueDepth ≤ d
  ·simpa[approxSize,Value.deep,Value.count,hd,h.spent] using metered_spent b (countGroups gs)
  ·simpa[approxSize,Value.deep,Value.count,hd] using walk_metered d gs h
lemma walk_metered(d){b t}:∀ gs,Room b t (countGroups gs)→
  Metered b t (countGroups gs) (deepGroups d gs) (walk b d t gs)
 | [],_=>⟨fun _ _=>by simp[walk,countGroups],fun h=>by simpa[walk,countGroups,deepGroups] using h,
   by simp[walk],by simp[walk,countGroups]⟩
 | g::gs,h=>by
  have hg:=charge_metered d g h.mono
  rw[walk]
  split_ifs with hover
  ·exact hg.stop hover
  ·exact hg.next hover (walk_metered d gs (h.after hg))
lemma charge_metered(d){b t}:∀ ps,Room b t (countParts ps)→
  Metered b t (countParts ps) (deepParts d ps) (charge b d t ps)
 | [],_=>⟨fun _ _=>by simp[charge,countParts],fun h=>by simpa[charge,countParts,deepParts] using h,
   by simp[charge],by simp[charge,countParts]⟩
 | .bytes n::ps,h=>by
  have hn:=metered_bytes (b-t) n
  have hstep:=h.step hn
  rw[charge,hstep.2]
  exact hn.add (charge_metered d ps hstep.1)
 | .value down v::ps,h=>by
  have hv:=approxSize_metered (d+down) v h.inner.1
  have hstep:=h.step hv
  rw[charge,h.inner.2,hstep.2]
  exact hv.add (charge_metered d ps hstep.1)
end

/-- The same groups, gone through in another order at any level. -/
inductive Reorders:Groups→Groups→Prop
 | groups {gs hs} (h:gs.Perm hs):Reorders gs hs
 | parts {ps qs} (gs hs) (h:ps.Perm qs):Reorders (gs++ps::hs) (gs++qs::hs)
 | inside {us vs} (gs hs ps qs down) (h:Reorders us vs):
   Reorders (gs++(ps++.value down (.parts us)::qs)::hs) (gs++(ps++.value down (.parts vs)::qs)::hs)
 | trans {gs hs ks} (h:Reorders gs hs) (h':Reorders hs ks):Reorders gs ks

lemma countParts_eq(ps):countParts ps=(ps.map Part.count).sum:=by
 induction ps with
 | nil=>rfl
 | cons p ps ih=>simp[countParts,ih]
lemma deepParts_eq(d ps):deepParts d ps=ps.any (Part.deep d):=by
 induction ps with
 | nil=>rfl
 | cons p ps ih=>simp[deepParts,ih]
lemma countGroups_eq(gs):countGroups gs=(gs.map countParts).sum:=by
 induction gs with
 | nil=>rfl
 | cons g gs ih=>simp[countGroups,ih]
lemma deepGroups_eq(d gs):deepGroups d gs=gs.any (deepParts d):=by
 induction gs with
 | nil=>rfl
 | cons g gs ih=>simp[deepGroups,ih]
lemma Reorders.same{gs hs}(h:Reorders gs hs):
 countGroups gs=countGroups hs∧∀ d,deepGroups d gs=deepGroups d hs:=by
 induction h with
 | groups h=>
  simp only[countGroups_eq,deepGroups_eq]
  exact ⟨(h.map _).sum_eq,fun d=>h.any_eq⟩
 | parts gs hs h=>simp[countGroups_eq,deepGroups_eq,countParts_eq,deepParts_eq,(h.map _).sum_eq,h.any_eq]
 | inside gs hs ps qs down h ih=>
  refine ⟨?_,fun d=>?_⟩
  ·rw[countGroups_eq,countGroups_eq]
   simp[countParts_eq,Part.count,Value.count,ih.1]
  ·rw[deepGroups_eq,deepGroups_eq]
   simp[deepParts_eq,Part.deep,Value.deep,ih.2]
 | trans h h' ih ih'=>exact ⟨ih.1.trans ih'.1,fun d=>(ih.2 d).trans (ih'.2 d)⟩

def Graph.count(g:Graph):Nat:=g.header+countGroups g.groups

def Exact(b r:Int)(n:Nat)(deep:Bool):Prop:=(b<r↔b<n∨deep)∧(r ≤ b → r=n)

lemma Metered.exact{b t r n deep}(h:Metered b t n deep r):(b<r↔b<t+n∨deep)∧(r ≤ b → r=t+n):=by
 have hover:=h.passed
 have hwithin:=h.within
 cases deep<;>simp at hover hwithin⊢<;>omega
lemma room_of_lt{b:Int}{n:Nat}(hb:0 ≤ b)(h:b+n < maxInt):Room b 0 n:=by
 unfold maxInt at h
 exact ⟨by omega,by omega,by omega,by omega⟩

def row:Value:=.object [("id",.word),("tags",.strings ["a","b"]),("on",.bool),
 ("file",.refs [⟨"text/csv","r",["h"],.pointer (some (.string "x"))⟩]),
 ("extra",.mapping [(.word,.struct [none,some (.ref ⟨"","",[],.nil⟩)])])]

def nested:Nat→Value
 | 0=>.string "x"
 | n+1=>.slice [nested n]

end Dazyflow.ValueSizes
