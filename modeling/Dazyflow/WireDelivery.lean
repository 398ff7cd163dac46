import Dazyflow.GoStrings
import Dazyflow.GraphValidation
import Dazyflow.SecretRedaction

/-!
# Values over wires

`validateRuntime` counts the wires into every port of a flow before it is stored or run.
-/
namespace Dazyflow.WireDelivery
open FlowGraph GraphValidation GoStrings SecretRedaction List

structure Port where
 port:String
 mime:List String
 variadic:Bool
 (min max:Option Int)
 list:Bool

structure Manifest where
 (inputs outputs:List Port)
 (dynamicPorts trigger:Bool)

def Manifest.input(m:Manifest)(name:String):Option Port:=m.inputs.find? (fun p=>p.port==name)

def Manifest.output(m:Manifest)(name:String):Option Port:=m.outputs.find? (fun p=>p.port==name)

-- an undeclared port is the empty `Port`
def isVariadic(m:Manifest)(port:String):Bool:=(m.input port).any Port.variadic

def maxGraphTriggers:Nat:=32
def defaultMaxVariadicFanIn:Int:=64
def maxVariadicFanIn:Int:=1024

inductive Fault
 | graph (p:Problem)
 | triggers (steps declared:Nat)
 | noOutput (e:Edge)
 | noInput (e:Edge)
 | mimeMismatch (e:Edge)
 | unknownModule (node port:String)(count:Nat)
 | dynamicPorts (node port:String)(count:Nat)
 | nonVariadic (node port:String)(count:Int)
 | belowMin (node port:String)(count min:Int)
 | aboveMax (node port:String)(count max:Int)

def mimeCompatible(out inp:List String):Bool:=out.isEmpty||inp.isEmpty||out.any (inp.contains ·)

section Gate

variable (catalog:List (String×Manifest))(g:Graph)

def nodeManifest(id:String):Option Manifest:=
 g.nodes.reverse.findSome? (fun n=>if n.id=id then catalog.lookup n.module else none)

def disabled(id:String):Bool:=g.nodes.any (fun n=>n.disabled&&n.id==id)

/-- The faults of a wire, and whether it is counted at its port. -/
def edgeCheck(e:Edge):List Fault×Bool:=
 match nodeManifest catalog g e.source,nodeManifest catalog g e.target with
 | some src,some dst=>
  if disabled g e.source||disabled g e.target then ([],true)
  else if src.dynamicPorts||dst.dynamicPorts then ([],true)
  else
   match src.output e.fromPort,dst.input e.toPort with
   | none,_=>([.noOutput e],false)
   | some _,none=>([.noInput e],false)
   | some out,some inp=>(if mimeCompatible out.mime inp.mime then [] else [.mimeMismatch e],true)
 | _,_=>([],true)

def incoming(id port:String):Nat:=
 (((g.edges.filter fun e=>(edgeCheck catalog g e).2&&e.target==id).map Edge.toPort).count port)

/-- Each port with more than one wire, reported once. -/
def crowdedPorts(fault:String→String→Nat→Fault)(id:String):List Fault:=
 (((g.incoming id).map Edge.toPort).eraseDups.filter fun port=>1 < incoming catalog g id port).map
  fun port=>fault id port (incoming catalog g id port)

def portFaults(id:String)(p:Port):List Fault:=
 let count:Int:=incoming catalog g id p.port
 let max:=min (p.max.getD defaultMaxVariadicFanIn) maxVariadicFanIn
 if p.variadic then
  (p.min.toList.filter fun min=>count < min).map (.belowMin id p.port count) ++
   if max<count then [.aboveMax id p.port count max] else []
 else if 1<count then [.nonVariadic id p.port count]
 else []

def nodeFaults(n:Node):List Fault:=
 if disabled g n.id then []
 else
  match nodeManifest catalog g n.id with
  | none=>crowdedPorts catalog g .unknownModule n.id
  | some m=>if m.dynamicPorts then crowdedPorts catalog g .dynamicPorts n.id else m.inputs.flatMap (portFaults catalog g n.id)

def graphFaults(declared:Nat):List Fault:=
 (validate g).map .graph++if maxGraphTriggers<declared then [.triggers 0 declared] else []

def triggerSteps:Nat:=(g.nodes.filter fun n=>(catalog.lookup n.module).any Manifest.trigger).length

def validateRuntime(declared:Nat):List Fault:=
 if catalog.isEmpty then graphFaults g declared
 else
  graphFaults g declared ++
  (if maxGraphTriggers<triggerSteps catalog g+declared then [.triggers (triggerSteps catalog g) declared] else []) ++
  g.edges.flatMap (fun e=>(edgeCheck catalog g e).1)++g.nodes.flatMap (nodeFaults catalog g)

end Gate

-- a byte string is a slice
def isList:Value→Bool
 | .slice _ | .bytes _=>true
 | _=>false

def isNil:Value→Bool
 | .nil=>true
 | _=>false

def autoLiftToList(port:Option Port)(ref:Ref):Ref:=
 if !port.any Port.list||isNil ref.inline||isList ref.inline then ref else {ref with inline:=.slice [ref.inline]}

def variadicInputKey(port:String)(idx:Nat):String:=port++"["++itoa idx++"]"

/-- A write to the map; a key that is there already loses its value. -/
def put(input:List (String×Ref))(k:String)(v:Ref):List (String×Ref):=
 if k∈input.map Prod.fst then input.map (fun e=>if e.1=k then (k,v) else e) else input++[(k,v)]

/-- The port and the value of a wire that is live: a data wire into the step whose source has
recorded its pin. -/
def arrived(nodeID:String)(prior:String→Option Result)(e:Edge):Option (String×Ref):=
 if e.target=nodeID∧e.onError≠.fallback then
  ((prior e.source).bind fun src=>src.output.lookup e.fromPort).map (fun ref=>(e.toPort,ref))
 else none

def assemble(nodeID:String)(m:Manifest)(prior:String→Option Result):
 List Edge→List (String×Ref)→(String→Nat)→List (String×Ref)
 | [],input,_=>input
 | e::rest,input,variadicCount=>
  match arrived nodeID prior e with
  | none=>assemble nodeID m prior rest input variadicCount
  | some (toPort,ref)=>
   if isVariadic m toPort then
    assemble nodeID m prior rest (put input (variadicInputKey toPort (variadicCount toPort)) ref)
     (Function.update variadicCount toPort (variadicCount toPort+1))
   else assemble nodeID m prior rest (put input toPort (autoLiftToList (m.input toPort) ref)) variadicCount

def assembleInput(g:Graph)(nodeID:String)(m:Manifest)(prior:String→Option Result):List (String×Ref):=
 assemble nodeID m prior g.edges [] (fun _=>0)

def variadicIndex(port key:String):Option Int:=
 match cutPrefix (port.toList++['[']) key.toList with
 | none=>none
 | some rest=>if rest.getLast? = some ']' then atoi (String.ofList rest.dropLast) else none

def variadicInputs(input:List (String×Ref))(port:String):List Ref:=
 ((input.filterMap fun e=>(variadicIndex port e.1).map fun idx=>(idx,e.2)).mergeSort
  (fun a b=>a.1 ≤ b.1)).map Prod.snd

lemma toList_variadicInputKey(port idx):
 (variadicInputKey port idx).toList=port.toList++ '['::((itoa idx).toList++[']']):=by
 simp[variadicInputKey]
lemma variadicIndex_key{port idx}(h:idx<2 ^ 63):
 variadicIndex port (variadicInputKey port idx)=some (idx:Int):=by
 have hcut:cutPrefix (port.toList++['[']) (variadicInputKey port idx).toList=some ((itoa idx).toList++[']']):=by
  simpa[toList_variadicInputKey] using cutPrefix_append (port.toList++['[']) ((itoa idx).toList++[']'])
 unfold variadicIndex
 rw[hcut]
 simpa using atoi_itoa h
lemma port_of_variadicIndex{port port' idx i}
 (h:variadicIndex port (variadicInputKey port' idx)=some i):port=port':=by
 unfold variadicIndex at h
 split at h
 next=>cases h
 next rest hcut=>
  split_ifs at h with hlast
  have hsplit:rest=rest.dropLast++[']']:=(dropLast_append_getLast? ']' hlast).symm
  have heq:=cutPrefix_eq_some hcut
  rw[toList_variadicInputKey,append_assoc,singleton_append] at heq
  have hrest: '[' ∉ rest:=by
   rw[hsplit,mem_append,not_or]
   refine ⟨fun hmem=>?_,by decide⟩
   rw[atoi_eq_none (by simpa using hmem) (by decide) (by decide) (by decide)] at h
   cases h
  have hidx: '[' ∉ (itoa idx).toList++[']']:=by
   rw[mem_append,not_or]
   exact ⟨fun hmem=>absurd (itoa_digit hmem) (by decide),by decide⟩
  exact String.toList_inj.1 (append_cons_cancel heq hidx hrest).1.symm

def keyed(m:Manifest):(String→Nat)→List (String×Ref)→List (String×Ref)
 | _,[]=>[]
 | count,(port,ref)::rest=>
  if isVariadic m port then
   (variadicInputKey port (count port),ref)::keyed m (Function.update count port (count port+1)) rest
  else (port,autoLiftToList (m.input port) ref)::keyed m count rest

lemma assemble_eq{nodeID m prior edges}
 {input count}
 (h:((input++keyed m count (edges.filterMap (arrived nodeID prior))).map Prod.fst).Nodup):
 assemble nodeID m prior edges input count=input++keyed m count (edges.filterMap (arrived nodeID prior)):=by
 have hput:∀ (input:List (String×Ref)) (e:String×Ref) (rest:List (String×Ref)),
  ((input++e::rest).map Prod.fst).Nodup→put input e.1 e.2=input++[e]:=by
  intro input e rest hn
  rw[map_append,map_cons] at hn
  exact if_neg fun hmem=>(nodup_append.1 hn).2.2 _ hmem _ mem_cons_self rfl
 induction edges generalizing input count with
 | nil=>simp[assemble,keyed]
 | cons e rest ih=>
  cases he:arrived nodeID prior e with
  | none=>
   rw[filterMap_cons_none he] at h ⊢
   simpa only[assemble,he] using ih h
  | some x=>
   obtain ⟨port,ref⟩:=x
   rw[filterMap_cons_some he,keyed] at h ⊢
   simp only[assemble,he]
   split_ifs at h ⊢
   ·rw[hput _ (variadicInputKey port (count port),ref) _ h]
    rw[append_cons] at h
    rw[ih h,append_assoc,singleton_append]
   ·rw[hput _ (port,autoLiftToList (m.input port) ref) _ h]
    rw[append_cons] at h
    rw[ih h,append_assoc,singleton_append]

section Written

variable {m:Manifest}

/-- The wires of a step can be told apart once written: one at most into a port that takes one
value, and no port that reads like a numbered name. -/
structure Separate(m:Manifest)(count:String→Nat)(ports:List String):Prop where
 single:∀ port,isVariadic m port=false→ports.count port≤1
 fits:∀ port,count port+ports.count port≤2 ^ 63
 plain:∀ port∈ports,isVariadic m port=false→∀ p,isVariadic m p→variadicIndex p port=none

variable {count:String→Nat}{l:List (String×Ref)}{port:String}{ports:List String}

section

variable (h:Separate m count (port::ports))

include h

lemma Separate.tail:
 Separate m count ports where
 single p hp:=count_le_count_cons.trans (h.single p hp)
 fits p:=(Nat.add_le_add_left count_le_count_cons _).trans (h.fits p)
 plain p hp:=h.plain p (mem_cons_of_mem port hp)
lemma Separate.next:
 Separate m (Function.update count port (count port+1)) ports where
 single:=h.tail.single
 plain:=h.tail.plain
 fits p:=by
  have hp:=h.fits p
  rcases eq_or_ne p port with rfl | hne
  ·rw[count_cons_self] at hp
   rw[Function.update_self]
   omega
  ·rw[Function.update_of_ne hne]
   exact h.tail.fits p
lemma Separate.head_lt:count port<2 ^ 63:=by
 have hp:=h.fits port
 rw[count_cons_self] at hp
 omega

end

lemma mem_keyed{k}(h:k∈(keyed m count l).map Prod.fst):
 k∈l.map Prod.fst∧isVariadic m k=false∨
  ∃ port i,count port ≤ i∧i<count port+(l.map Prod.fst).count port∧k=variadicInputKey port i∧
   isVariadic m port:=by
 induction l generalizing count with
 | nil=>simp[keyed] at h
 | cons x rest ih=>
  obtain ⟨port,ref⟩:=x
  rw[keyed] at h
  rw[map_cons]
  split_ifs at h with hv<;>rcases mem_cons.1 h with rfl | h
  ·exact .inr ⟨port,count port,le_rfl,by simp,rfl,hv⟩
  ·refine (ih h).imp (And.imp_left (mem_cons_of_mem _)) ?_
   rintro ⟨p,i,hle,hlt,hrest⟩
   refine ⟨p,i,?_,?_,hrest⟩<;>rcases eq_or_ne p port with rfl | hne <;>
    simp_all[count_cons]<;>omega
  ·exact .inl ⟨mem_cons_self,Bool.eq_false_iff.2 hv⟩
  ·refine (ih h).imp (And.imp_left (mem_cons_of_mem _)) ?_
   rintro ⟨p,i,hle,hlt,hrest⟩
   exact ⟨p,i,hle,hlt.trans_le (Nat.add_le_add_left (count_le_count_cons) _),hrest⟩
lemma keys_nodup(h:Separate m count (l.map Prod.fst)):
 ((keyed m count l).map Prod.fst).Nodup:=by
 induction l generalizing count with
 | nil=>exact nodup_nil
 | cons x rest ih=>
  obtain ⟨port,ref⟩:=x
  rw[map_cons] at h
  have hindex:variadicIndex port (variadicInputKey port (count port))=some (count port:Int):=
   variadicIndex_key h.head_lt
  rw[keyed]
  split_ifs with hv
  ·refine nodup_cons.2 ⟨fun hmem=>?_,ih h.next⟩
   rcases mem_keyed hmem with ⟨hk,hplain⟩ | ⟨p,i,hle,hlt,hk,-⟩
   ·rw[h.tail.plain _ hk hplain port hv] at hindex
    cases hindex
   ·have hsame:variadicInputKey port (count port)=variadicInputKey p i:=hk
    rw[hsame] at hindex
    obtain rfl:=port_of_variadicIndex hindex
    rw[variadicIndex_key (hlt.trans_le (h.next.fits _)),Option.some_inj] at hindex
    rw[Function.update_self] at hle
    omega
  ·have hport:=Bool.eq_false_iff.2 hv
   refine nodup_cons.2 ⟨fun hmem=>?_,ih h.tail⟩
   rcases mem_keyed hmem with ⟨hk,-⟩ | ⟨p,i,-,hlt,hk,hp⟩
   ·have hone:=h.single port hport
    have hcount:0<(rest.map Prod.fst).count port:=count_pos_iff.2 hk
    rw[count_cons_self] at hone
    omega
   ·have hnone:=h.plain port mem_cons_self hport p hp
    have hi:i<2 ^ 63:=hlt.trans_le (h.tail.fits p)
    rw[show port=variadicInputKey p i from hk,variadicIndex_key hi] at hnone
    cases hnone
lemma keyed_pairs(h:Separate m count (l.map Prod.fst)){p}
 (hp:isVariadic m p):
 (keyed m count l).filterMap (fun e=>(variadicIndex p e.1).map fun idx=>(idx,e.2)) =
  (((l.filter fun x=>x.1==p).map Prod.snd).zipIdx (count p)).map (fun x=>((x.2:Int),x.1)):=by
 induction l generalizing count with
 | nil=>rfl
 | cons x rest ih=>
  obtain ⟨port,ref⟩:=x
  rw[map_cons] at h
  rw[keyed]
  rcases eq_or_ne port p with rfl | hne
  ·rw[if_pos hp,filterMap_cons_some (by rw[variadicIndex_key h.head_lt]; rfl),ih h.next]
   simp
  ·have hfilter:((port,ref)::rest).filter (fun x=>x.1==p)=rest.filter (fun x=>x.1==p):=by simp[hne]
   rw[hfilter]
   split_ifs with hv
   ·have hnone:variadicIndex p (variadicInputKey port (count port))=none:=by
     by_contra hsome
     obtain ⟨i,hi⟩:=Option.ne_none_iff_exists'.1 hsome
     exact hne (port_of_variadicIndex hi).symm
    rw[filterMap_cons_none (by rw[hnone]; rfl),ih h.next,Function.update_of_ne hne.symm]
   ·have hnone:=h.plain port mem_cons_self (Bool.eq_false_iff.2 hv) p hp
    rw[filterMap_cons_none (by rw[hnone]; rfl),ih h.tail]
lemma mergeSort_numbered{values:List Ref}{pairs:List (Int×Ref)}
 (h:pairs.Perm (values.zipIdx.map fun x=>((x.2:Int),x.1))):
 (pairs.mergeSort fun a b=>a.1 ≤ b.1).map Prod.snd=values:=by
 have hperm:=(mergeSort_perm pairs fun a b=>a.1 ≤ b.1).trans h
 have hsorted:(pairs.mergeSort fun a b=>a.1 ≤ b.1).Pairwise (fun a b=>a.1 ≤ b.1):=by
  have hle:=@pairwise_mergeSort (Int×Ref) (fun a b=>a.1 ≤ b.1) (by intro a b c; simp; omega)
   (by intro a b; simp; omega) pairs
  simpa only[decide_eq_true_eq] using hle
 have hnumbered:(values.zipIdx.map fun x=>((x.2:Int),x.1)).Pairwise (fun a b=>a.1 ≤ b.1):=by
  rw[pairwise_iff_getElem]
  intro i j hi hj hlt
  simpa using hlt.le
 have heq:=Perm.eq_of_pairwise (fun a b ha hb hle hle'=>?_) hsorted hnumbered hperm
 ·rw[heq,map_map]
  exact zipIdx_map_fst 0 values
 · -- two values with one number stand at one place
  obtain ⟨⟨v,n⟩,hv,rfl⟩:=mem_map.1 (hperm.mem_iff.1 ha)
  obtain ⟨⟨v',n'⟩,hv',rfl⟩:=mem_map.1 hb
  obtain rfl:n=n':=by
   dsimp only at hle hle'
   omega
  rw[mem_zipIdx_iff_getElem?] at hv hv'
  rw[Option.some_inj.1 (hv.symm.trans hv')]

variable {input:List (String×Ref)}

lemma variadicInputs_keyed(h:Separate m (fun _=>0) (l.map Prod.fst)){p:String}
 (hp:isVariadic m p)(hinput:input.Perm (keyed m (fun _=>0) l)):
 variadicInputs input p=(l.filter fun x=>x.1==p).map Prod.snd:=by
 have hpairs:=hinput.filterMap fun e=>(variadicIndex p e.1).map (fun idx=>(idx,e.2))
 rw[keyed_pairs h hp] at hpairs
 rw[variadicInputs,mergeSort_numbered hpairs]
lemma mem_keyed_single{ref}
 (h:isVariadic m port=false)(hmem:(port,ref)∈l):
 (port,autoLiftToList (m.input port) ref)∈keyed m count l:=by
 induction l generalizing count with
 | nil=>cases hmem
 | cons x rest ih=>
  rw[keyed]
  rcases mem_cons.1 hmem with rfl | hmem
  ·rw[if_neg (Bool.eq_false_iff.1 h)]
   exact mem_cons_self
  ·split_ifs<;>exact mem_cons_of_mem _ (ih hmem)
lemma lookup_of_mem{k:String}{v:Ref}(hn:(input.map Prod.fst).Nodup)
 (h:(k,v)∈input):input.lookup k=some v:=by
 obtain ⟨l₁,l₂,rfl⟩:=append_of_mem h
 refine lookup_eq_some_iff.2 ⟨l₁,l₂,rfl,fun e he=>bne_iff_ne.2 ?_⟩
 rw[map_append,map_cons] at hn
 exact ((nodup_append.1 hn).2.2 e.1 (mem_map_of_mem he) k mem_cons_self).symm

end Written

section Accepted

variable {catalog:List (String×Manifest)}{g:Graph}

lemma counted_of_edgeCheck{e}(h:(edgeCheck catalog g e).1=[]):(edgeCheck catalog g e).2:=by
 unfold edgeCheck at h ⊢
 split
 next src dst hsrc hdst=>
  rw[hsrc,hdst] at h
  dsimp only at h
  split_ifs at h ⊢
  ·rfl
  ·rfl
  ·split at h<;>simp_all
 next=>rfl
lemma nodeManifest_eq{nodes:List Node}(hn:(nodes.map Node.id).Nodup){n:Node}(hmem:n∈nodes):
 nodes.findSome? (fun x=>if x.id=n.id then catalog.lookup x.module else none)=catalog.lookup n.module:=by
 induction nodes with
 | nil=>cases hmem
 | cons x rest ih=>
  rw[map_cons,nodup_cons] at hn
  rw[findSome?_cons]
  rcases mem_cons.1 hmem with rfl | hmem
  ·rw[if_pos rfl]
   cases hl:catalog.lookup n.module with
   | some m=>rfl
   | none=>
    refine findSome?_eq_none_iff.2 fun y hy=>if_neg (fun hid=>hn.1 ?_)
    exact hid▸mem_map_of_mem hy
  ·have hid:x.id≠n.id:=fun hid=>hn.1 (hid▸mem_map_of_mem hmem)
   rw[if_neg hid]
   exact ih hn.2 hmem

def wires(g:Graph)(id port:String):Nat:=((g.incoming id).map Edge.toPort).count port

lemma incoming_eq(h:∀ e∈g.edges,(edgeCheck catalog g e).1=[])(id port):
 incoming catalog g id port=wires g id port:=by
 have hfilter:g.edges.filter (fun e=>(edgeCheck catalog g e).2&&e.target==id)=g.incoming id:=
  filter_congr (fun e he=>by rw[counted_of_edgeCheck (h e he),Bool.true_and])
 rw[incoming,hfilter,wires]
lemma disabled_eq_false(hn:(g.nodes.map Node.id).Nodup){n}(hmem:n∈g.nodes)(hon:n.disabled=false):
 disabled g n.id=false:=by
 refine any_eq_false.2 fun x hx hboth=>?_
 obtain ⟨hoff,hid⟩:=Bool.and_eq_true_iff.1 hboth
 rw[inj_on_of_nodup_map hn hx hmem (beq_iff_eq.1 hid),hon] at hoff
 cases hoff
lemma crowdedPorts_nil{fault id}(h:crowdedPorts catalog g fault id=[])
 (hcount:∀ port,incoming catalog g id port=wires g id port)(port):wires g id port≤1:=by
 by_contra hlt
 have hmem:port∈(g.incoming id).map Edge.toPort:=count_pos_iff.1 (by unfold wires at hlt; omega)
 rw[crowdedPorts,map_eq_nil_iff,filter_eq_nil_iff] at h
 have hone:=h port (mem_eraseDups.2 hmem)
 rw[hcount port,decide_eq_true_eq] at hone
 omega
lemma portFaults_nil{id p}(h:portFaults catalog g id p=[]):
 (incoming catalog g id p.port:Int) ≤ maxVariadicFanIn∧(p.variadic=false→incoming catalog g id p.port≤1):=by
 unfold portFaults at h
 dsimp only at h
 split_ifs at h with hv hmax hone
 all_goals simp_all[maxVariadicFanIn]
 all_goals omega

/-- The room a step of an accepted flow has at every port. A step described in the catalog by fixed
ports has it if its wires go to those ports. -/
lemma wires_le{declared:Nat}(haccepted:validateRuntime catalog g declared=[])(hcatalog:catalog≠[])
 {n:Node}(hmem:n∈g.nodes)(hon:n.disabled=false){m:Manifest}
 (hm:∀ m',catalog.lookup n.module=some m'→m'=m)
 (hdeclared:∀ m',catalog.lookup n.module=some m'→m'.dynamicPorts=false→
  ∀ e∈g.incoming n.id,(m'.input e.toPort).isSome)(port):
 wires g n.id port≤1024∧(isVariadic m port=false→wires g n.id port≤1):=by
 rw[validateRuntime,if_neg (by simpa using hcatalog)] at haccepted
 simp only[append_eq_nil_iff,graphFaults,map_eq_nil_iff,flatMap_eq_nil_iff] at haccepted
 obtain ⟨⟨⟨⟨hvalid,-⟩,-⟩,hedges⟩,hnodes⟩:=haccepted
 have hids:=(validate_wellFormed hvalid).ids
 have hcount:=incoming_eq hedges n.id
 have hfaults:=hnodes n hmem
 have hmanifest:nodeManifest catalog g n.id=catalog.lookup n.module:=by
  refine nodeManifest_eq ?_ (mem_reverse.2 hmem)
  rw[map_reverse]
  exact nodup_reverse.2 hids
 rw[nodeFaults,disabled_eq_false hids hmem hon,if_neg Bool.false_ne_true,hmanifest] at hfaults
 cases hl:catalog.lookup n.module with
 | none=>
  rw[hl] at hfaults
  have hone:=crowdedPorts_nil hfaults hcount port
  exact ⟨hone.trans (by decide),fun _=>hone⟩
 | some m'=>
  obtain rfl:=hm m' hl
  rw[hl] at hfaults
  dsimp only at hfaults
  split_ifs at hfaults with hdyn
  ·have hone:=crowdedPorts_nil hfaults hcount port
   exact ⟨hone.trans (by decide),fun _=>hone⟩
  ·rcases Nat.eq_zero_or_pos (wires g n.id port) with hzero | hpos
   ·rw[hzero]
    exact ⟨Nat.zero_le _,fun _=>Nat.zero_le _⟩
   obtain ⟨e,he,rfl⟩:=mem_map.1 (count_pos_iff.1 hpos)
   obtain ⟨p,hp⟩:=Option.isSome_iff_exists.1 (hdeclared m' hl (Bool.eq_false_iff.2 hdyn) e he)
   have hport:p.port=e.toPort:=by simpa using find?_some hp
   obtain ⟨hmax,hone⟩:=portFaults_nil (flatMap_eq_nil_iff.1 hfaults p (mem_of_find?_eq_some hp))
   rw[hport,hcount,maxVariadicFanIn] at hmax
   rw[hport,hcount] at hone
   refine ⟨by omega,fun hv=>hone ?_⟩
   rwa[isVariadic,hp,Option.any_some] at hv

end Accepted

def live(g:Graph)(nodeID:String)(prior:String→Option Result):List (String×Ref):=
 g.edges.filterMap (arrived nodeID prior)

lemma live_ports(edges:List Edge)(nodeID:String)(prior:String→Option Result):
 ((edges.filterMap (arrived nodeID prior)).map Prod.fst).Sublist
  ((edges.filter fun e=>e.target==nodeID).map Edge.toPort):=by
 induction edges with
 | nil=>exact Sublist.slnil
 | cons e rest ih=>
  cases he:arrived nodeID prior e with
  | none=>
   rw[filterMap_cons_none he]
   exact ih.trans (((sublist_cons_self e rest).filter _).map _)
  | some x=>
   rw[filterMap_cons_some he]
   unfold arrived at he
   split_ifs at he with hc
   obtain ⟨ref,-,rfl⟩:=Option.map_eq_some_iff.1 he
   have htarget:(e.target==nodeID):=beq_iff_eq.2 hc.1
   rw[filter_cons,if_pos htarget]
   exact ih.cons_cons e.toPort

def textRef(s:String):Ref:=⟨bytes "text/plain",[],.str (bytes s),[]⟩

def recorded(id:String):Option Result:=some ⟨"","ok",[("out",textRef id)],none,""⟩

def merge:Manifest:=⟨[⟨"rows",[],true,none,none,false⟩,⟨"title",[],false,none,none,true⟩],[],false,false⟩

-- two steps of a module that is not in the catalog, wired to a step that is
def merging(port port':String):Graph where
 id:="g"
 tenant:="t"
 workspace:="w"
 nodes:=[{id:="a",module:="lan" },{id:="b",module:="lan" },{id:="c",module:="merge" }]
 edges:=[⟨"a","out","c",port,.unset⟩,⟨"b","out","c",port',.unset⟩]

end Dazyflow.WireDelivery
