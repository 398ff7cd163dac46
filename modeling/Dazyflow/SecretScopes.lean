import Dazyflow.WorkspaceStore

/-!
# Scopes of stored secrets

`secret_scope.go` and the lookup of `EncryptedSecrets.Get`: organisation and flow secrets of a tenant share
one flat key space, `name` and `flow.<flow>.<name>`.
-/
namespace Dazyflow.SecretScopes
open GoStrings WorkspaceStore List Function Bool
open String (ofList ofList_toList toList_append toList_inj toList_ofList)

def hasPrefix(s pre:String):Bool:=pre.toList.isPrefixOf s.toList

inductive SecretScope
 | tenant
 | flow
 | unknown (text:String)
 deriving DecidableEq

def secretFlowPrefix:String:= "flow."

def secretConnPrefix:String:= "conn."

def secretResourcePrefix:String:= "res."

def secretEmailTmplPrefix:String:= "emailtmpl."

def orgAuthSecretPrefix:String:= "orgauth."

def scopedSecretName:SecretScope→(flow name:String)→Except String String
 | .tenant,_,name=>.ok name
 | .flow,flow,name=>
  if flow="" then .error ("flow-scoped secret "++quote name++" needs a flow")
  else .ok (secretFlowPrefix++flow++"."++name)
 | .unknown text,_,_=>.error ("unknown secret scope "++quote text)

def isReservedSecretName(name:String):Bool:=
 [secretFlowPrefix,secretConnPrefix,"oauth.","cursor.","oauthfail.","pollstate.","httpcache.","gitcred.",
  "sshcred.","sshlogin.",secretResourcePrefix,secretEmailTmplPrefix,"cfg:"].any (hasPrefix name)

def orgAuthoritativeSecretName(name:String):Bool:=
 hasPrefix name secretConnPrefix||hasPrefix name "oauth."

def validSecretName(name:String):Except String Unit:=
 if name="" then .error "name is empty"
 else if 128<name.toList.length then .error "name too long (max 128)"
 else if name.toList.all (fun c=>c.isAlphanum||c== '-'||c== '_'||c== '.') then .ok ()
 else .error "name may only contain [A-Za-z0-9_.-]"

def validResourceName(name:String):Except String Unit:=do
 validSecretName name
 if name.toList.contains '.' then .error "resource name may not contain '.'" else .ok ()

def checkReservedSecretWrite(scope:SecretScope)(name:String):Except String Unit:=
 if hasPrefix name secretFlowPrefix then
  .error ("name "++quote name++" uses the reserved "++quote secretFlowPrefix++" prefix")
 else if scope=.flow∧orgAuthoritativeSecretName name then
  .error ("name "++quote name++" is organization-scoped and cannot be set per-flow")
 else if hasPrefix name secretConnPrefix then .ok ()
 else if isReservedSecretName name||hasPrefix name orgAuthSecretPrefix then
  .error ("name "++quote name ++
   " is in a reserved namespace — manage it from its own settings page, not the secrets API")
 else .ok ()

structure Row where
 value:String
 scope:SecretScope
 (flow name:String)
 deriving DecidableEq

abbrev Secrets:=String→String→Option Row

/-- Who writes: the secrets API, the resources API, an endpoint that owns one of the
 reserved namespaces and writes there at organisation scope, or a `secret_set` step. -/
inductive Writer
 | secret
 | resource
 | machinery
 | step
 deriving DecidableEq

structure Put where
 writer:Writer
 tenant:String
 scope:SecretScope
 (flow name value:String)

/-- The scope of a request: a flow scope names a flow that could be loaded. -/
def scopeAccepted:SecretScope→(flow:String)→Bool
 | .tenant,_=>true
 | .flow,flow=>validGraphID flow
 | .unknown _,_=>false

-- a step may store an empty value, and any valid name
def Put.accepted(p:Put):Bool:=
 p.tenant != ""&&(p.value != ""||p.writer=.step) &&
  match p.writer with
  | .secret=>(validSecretName p.name).isOk&&scopeAccepted p.scope p.flow &&
   (checkReservedSecretWrite p.scope p.name).isOk
  | .resource=>(validResourceName p.name).isOk&&scopeAccepted p.scope p.flow
  | .machinery=>p.scope=.tenant&&!hasPrefix p.name secretFlowPrefix&&p.name != ""
  | .step=>p.scope=.tenant&&(validSecretName p.name).isOk

/-- The name under its scope: resources keep to a namespace of their own. -/
def Put.scopedName(p:Put):String:=
 if p.writer=.resource then secretResourcePrefix++p.name else p.name

def Put.row(p:Put):Row:={value:=p.value,scope:=p.scope,flow:=p.flow,name:=p.scopedName}

def putScoped(s:Secrets)(p:Put):Secrets:=
 match scopedSecretName p.scope p.flow p.scopedName with
 | .error _=>s
 | .ok key=>update s p.tenant (update (s p.tenant) key (some p.row))

def handle(s:Secrets)(p:Put):Secrets:=if p.accepted then putScoped s p else s

def stored(puts:List Put):Secrets:=puts.foldl handle (fun _ _=>none)

def candidates(flow name:String):List String:=
 (if flow≠""∧orgAuthoritativeSecretName name=false then [secretFlowPrefix++flow++"."++name] else []) ++
  [name]

def get(s:Secrets)(tenant flow name:String):Except String Row:=
 if tenant="" then .error ("secret "++quote name++": no tenant in context")
 else match (candidates flow name).findSome? (s tenant) with
  | some row=>.ok row
  | none=>.error ("secret://"++name++": secret not found")

def cuts:List Char→List (List Char×List Char)
 | []=>[]
 | c::rest=>
  (if c= '.' then [([],rest)] else [])++(cuts rest).map (fun p=>(c::p.1,p.2))

lemma mem_cuts{s a b}:(a,b)∈cuts s↔s=a++ '.'::b:=by
 induction s generalizing a with
 | nil=>simp[cuts]
 | cons c rest ih=>
  simp only[cuts,mem_append,mem_map,Prod.mk.injEq,Prod.exists]
  constructor
  ·rintro (h | ⟨a',b',h,rfl,rfl⟩)
   ·split_ifs at h with hc
    ·simp only[mem_singleton,Prod.mk.injEq] at h
     rw[h.1,h.2,hc]
     rfl
    ·cases h
   ·rw[ih.1 h]
    rfl
  ·intro h
   cases a with
   | nil=>
    obtain ⟨rfl,rfl⟩:=List.cons.inj h
    exact .inl (by simp)
   | cons d a=>
    obtain ⟨rfl,hrest⟩:=List.cons.inj h
    exact .inr ⟨a,b,ih.2 hrest,rfl,rfl⟩

def flowName(name:String):Bool:=
 (validSecretName name).isOk&&(checkReservedSecretWrite .flow name).isOk ||
  hasPrefix name secretResourcePrefix &&
   (validResourceName (ofList (name.toList.drop secretResourcePrefix.toList.length))).isOk

/-- The flows and names whose storage name this is. -/
def owners(key:String):List (String×String):=
 if hasPrefix key secretFlowPrefix then
  ((cuts (key.toList.drop secretFlowPrefix.toList.length)).map
   (fun p=>(ofList p.1,ofList p.2))).filter (fun p=>validGraphID p.1&&flowName p.2)
 else []

/-- No key that a step of this flow looks up for this name is one of another flow, the
 bare name is no flow's, and where `secret_set` steps may write keys of flows this is no name for one. -/
def apart(free:Bool)(flow name:String):Bool:=
 (owners name).isEmpty &&
  (orgAuthoritativeSecretName name||(owners (secretFlowPrefix++flow++"."++name)).all (fun p=>p.1==flow) &&
   !(free&&(validSecretName (secretFlowPrefix++flow++"."++name)).isOk))

def flowKey(flow name:String):String:=secretFlowPrefix++flow++"."++name

lemma toList_flowKey(flow name):
 (flowKey flow name).toList=secretFlowPrefix.toList++(flow.toList++ '.'::name.toList):=by
 simp[flowKey]
lemma flowKey_prefixed(flow name):hasPrefix (flowKey flow name) secretFlowPrefix:=by
 rw[hasPrefix,toList_flowKey, isPrefixOf_iff_prefix]
 exact prefix_append _ _
lemma mem_owners{key flow name}:
 (flow,name)∈owners key↔key=flowKey flow name∧validGraphID flow∧flowName name:=by
 unfold owners
 constructor
 ·intro h
  split_ifs at h with hp
  ·simp only[mem_filter,mem_map,Prod.mk.injEq,Prod.exists,and_eq_true] at h
   obtain ⟨⟨a,b,hcut,rfl,rfl⟩,hv⟩:=h
   refine ⟨toList_inj.1 ?_,hv⟩
   obtain ⟨rest,hrest⟩:= isPrefixOf_iff_prefix.1 hp
   have hdrop:key.toList.drop secretFlowPrefix.toList.length=rest:=by rw[←hrest,drop_left]
   rw[hdrop] at hcut
   rw[toList_flowKey,←hrest,mem_cuts.1 hcut,toList_ofList,toList_ofList]
  ·cases h
 ·rintro ⟨rfl,hv⟩
  rw[if_pos (flowKey_prefixed flow name)]
  simp only[mem_filter,mem_map,Prod.mk.injEq,Prod.exists,and_eq_true]
  refine ⟨⟨flow.toList,name.toList,?_,ofList_toList,ofList_toList⟩,hv⟩
  rw[mem_cuts,toList_flowKey,drop_left]
lemma flowKey_inj{flow name name'}(h:flowKey flow name=flowKey flow name'):name=name':=by
 have hl:=congrArg String.toList h
 rw[toList_flowKey,toList_flowKey] at hl
 have htail:=append_cancel_left (append_cancel_left hl)
 exact toList_inj.1 (List.cons.inj htail).2

/-- Unless they are free to, `secret_set` steps do not write names that begin as the keys of flows do. -/
def Put.keeps(free:Bool)(p:Put):Prop:=free∨p.writer≠.step∨hasPrefix p.name secretFlowPrefix=false

section Free

variable {free:Bool}

/-- A row under the storage name of the scope and the name it was stored under. -/
def Placed(free:Bool)(key:String)(row:Row):Prop:=
 row.scope=.tenant∧key=row.name∧(hasPrefix key secretFlowPrefix=false∨free∧(validSecretName key).isOk)∨
  row.scope=.flow∧(row.flow,row.name)∈owners key

lemma not_flowPrefix_resource(name):hasPrefix (secretResourcePrefix++name) secretFlowPrefix=false:=by
 rw[hasPrefix,toList_append]
 rfl
lemma reserved_flowPrefix{scope name}
 (h:(checkReservedSecretWrite scope name).isOk):hasPrefix name secretFlowPrefix=false:=by
 unfold checkReservedSecretWrite at h
 split_ifs at h with hp<;>simp_all[Except.isOk,Except.toBool]
lemma flowName_resource{name}(h:(validResourceName name).isOk):
 flowName (secretResourcePrefix++name):=by
 have hdrop:ofList ((secretResourcePrefix++name).toList.drop secretResourcePrefix.toList.length)=name:=by
  rw[toList_append,drop_left,ofList_toList]
 have hpre:hasPrefix (secretResourcePrefix++name) secretResourcePrefix:=by
  rw[hasPrefix,toList_append, isPrefixOf_iff_prefix]
  exact prefix_append _ _
 rw[flowName,hdrop,hpre,h,Bool.and_true,Bool.or_true]
lemma validGraphID_ne{flow}(h:validGraphID flow):flow≠"":=by
 rintro rfl
 cases h
lemma placed_of_scope{p:Put}(hs:scopeAccepted p.scope p.flow)
 (htenant:p.scope=.tenant→hasPrefix p.scopedName secretFlowPrefix=false∨free∧(validSecretName p.scopedName).isOk)
 (hflow:p.scope=.flow→flowName p.scopedName):
 ∃ key,scopedSecretName p.scope p.flow p.scopedName=.ok key∧Placed free key p.row:=by
 cases hscope:p.scope with
 | tenant=>exact ⟨p.scopedName,rfl,.inl ⟨hscope,rfl,htenant hscope⟩⟩
 | unknown text=>
  rw[hscope] at hs
  cases hs
 | flow=>
  rw[hscope] at hs
  refine ⟨flowKey p.flow p.scopedName,if_neg (validGraphID_ne hs),.inr ⟨hscope,?_⟩⟩
  exact mem_owners.2 ⟨rfl,hs,hflow hscope⟩
lemma accepted_placed{p:Put}(h:p.accepted)(hfree:p.keeps free):
 ∃ key,scopedSecretName p.scope p.flow p.scopedName=.ok key∧Placed free key p.row:=by
 simp only[Put.accepted,and_eq_true] at h
 have hkind:=h.2
 cases hw:p.writer with
 | secret=>
  simp only[hw,and_eq_true] at hkind
  have hname:p.scopedName=p.name:=by simp[Put.scopedName,hw]
  refine placed_of_scope hkind.1.2 (fun _=>.inl (hname▸reserved_flowPrefix hkind.2)) fun hscope=>?_
  rw[hscope] at hkind
  rw[hname,flowName,hkind.1.1,hkind.2]
  rfl
 | resource=>
  simp only[hw,and_eq_true] at hkind
  have hname:p.scopedName=secretResourcePrefix++p.name:=by simp[Put.scopedName,hw]
  refine placed_of_scope hkind.2 (fun _=>.inl (hname▸not_flowPrefix_resource p.name)) fun _=>?_
  rw[hname]
  exact flowName_resource hkind.1
 | machinery=>
  simp only[hw,and_eq_true,decide_eq_true_eq,not_eq_true'] at hkind
  have hname:p.scopedName=p.name:=by simp[Put.scopedName,hw]
  refine placed_of_scope (by rw[hkind.1.1]; rfl) (fun _=>.inl (hname▸hkind.1.2)) fun hscope=>?_
  rw[hkind.1.1] at hscope
  cases hscope
 | step=>
  simp only[hw,and_eq_true,decide_eq_true_eq] at hkind
  have hname:p.scopedName=p.name:=by simp[Put.scopedName,hw]
  refine placed_of_scope (by rw[hkind.1]; rfl) (fun _=>?_) fun hscope=>?_
  ·rw[hname]
   rcases hfree with hfree | hstep | hpre
   ·exact .inr ⟨hfree,hkind.2⟩
   ·exact absurd hw hstep
   ·exact .inl hpre
  ·rw[hkind.1] at hscope
   cases hscope
lemma handle_cases(s){p}(hfree:Put.keeps free p):
 handle s p=s∨∃ key,p.accepted∧Placed free key p.row∧
  handle s p=update s p.tenant (update (s p.tenant) key (some p.row)):=by
 unfold handle
 by_cases h:p.accepted
 ·obtain ⟨key,hkey,hplaced⟩:=accepted_placed h hfree
  rw[if_pos h,putScoped,hkey]
  exact .inr ⟨key,h,hplaced,rfl⟩
 ·rw[if_neg h]
  exact .inl rfl
lemma stored_placed{puts}(hfree:∀ p∈puts,Put.keeps free p)(tenant key row)(h:stored puts tenant key=some row):
 Placed free key row:=by
 suffices hall:∀ s:Secrets,(∀ t k r,s t k=some r→Placed free k r)→
  ∀ t k r,puts.foldl handle s t k=some r→Placed free k r from
  hall _ (fun _ _ _ h=>by cases h) tenant key row h
 clear h
 induction puts with
 | nil=>exact fun s hs=>hs
 | cons p rest ih=>
  intro s hs
  refine ih (fun q hq=>hfree q (mem_cons_of_mem p hq)) (handle s p) fun t k r hr=>?_
  rcases handle_cases s (hfree p mem_cons_self) with he | ⟨key,_,hplaced,he⟩
  ·exact hs t k r (he▸hr)
  rw[he] at hr
  by_cases ht:t=p.tenant
  ·subst ht
   rw[update_self] at hr
   by_cases hk:k=key
   ·subst hk
    rw[update_self] at hr
    exact Option.some.inj hr▸hplaced
   ·rw[update_of_ne hk] at hr
    exact hs _ k r hr
  ·rw[update_of_ne ht] at hr
   exact hs t k r hr

/-- What a step of the flow reads under the name was stored under that name, for the
 organisation or for the flow itself, and what is stored for another flow changes nothing. -/
def Isolated(free:Bool)(flow name:String):Prop:=
 ∀ (tenant:String) (puts:List Put),(∀ p∈puts,p.keeps free)→
  (∀ row,get (stored puts) tenant flow name=.ok row→
   row.name=name∧(row.scope=.tenant∨row.scope=.flow∧row.flow=flow))∧
  ∀ p:Put,p.scope=.flow→p.flow≠flow→
   get (stored (puts++[p])) tenant flow name=get (stored puts) tenant flow name

lemma apart_iff{flow name}:
 apart free flow name↔(∀ o,o∉owners name)∧
  (orgAuthoritativeSecretName name=false→(∀ o∈owners (flowKey flow name),o.1=flow)∧
   ¬(free∧(validSecretName (flowKey flow name)).isOk)):=by
 simp only[apart,and_eq_true,or_eq_true,all_eq_true,beq_iff_eq,List.isEmpty_iff,Bool.not_eq_true',
  eq_nil_iff_forall_not_mem,←not_eq_true,or_iff_not_imp_left,flowKey]
lemma mem_candidates{flow name key}(h:key∈candidates flow name):
 orgAuthoritativeSecretName name=false∧key=flowKey flow name∨key=name:=by
 simp only[candidates,mem_append,mem_singleton] at h
 rcases h with h | h
 ·split_ifs at h with hc
  ·exact .inl ⟨hc.2,mem_singleton.1 h⟩
  ·cases h
 ·exact .inr h
lemma owner_of_apart{flow name key o}(h:apart free flow name)
 (hkey:key∈candidates flow name)(ho:o∈owners key):o=(flow,name):=by
 obtain ⟨hbare,hscoped⟩:=apart_iff.1 h
 rcases mem_candidates hkey with ⟨horg,rfl⟩ | rfl
 ·have hflow:=(hscoped horg).1 o ho
  have hname:=(mem_owners.1 ho).1
  rw[hflow] at hname
  exact Prod.ext hflow (flowKey_inj hname).symm
 ·exact absurd ho (hbare o)
lemma get_ok{s tenant flow name row}(h:get s tenant flow name=.ok row):
 ∃ key∈candidates flow name,s tenant key=some row:=by
 unfold get at h
 split_ifs at h
 cases hfind:(candidates flow name).findSome? (s tenant) with
 | none=>
  rw[hfind] at h
  cases h
 | some found=>
  rw[hfind] at h
  cases h
  exact exists_of_findSome?_eq_some hfind
lemma get_congr{s s' tenant flow name}
 (h:∀ key∈candidates flow name,s tenant key=s' tenant key):
 get s tenant flow name=get s' tenant flow name:=by
 rw[get,get,←head?_filterMap,←head?_filterMap,filterMap_congr h]
lemma stored_append(puts p):stored (puts++[p])=handle (stored puts) p:=by
 rw[stored,stored,foldl_append]
 rfl
lemma isolated_of_apart{flow name}(h:apart free flow name):Isolated free flow name:=by
 refine fun tenant puts hfree=>⟨fun row hget=>?_,fun p hscope hflow=>get_congr fun key hkey=>?_⟩
 ·obtain ⟨key,hkey,hrow⟩:=get_ok hget
  rcases stored_placed hfree tenant key row hrow with ⟨hs,rfl,hpre⟩ | ⟨hs,ho⟩
  ·refine ⟨?_,.inl hs⟩
   rcases mem_candidates hkey with ⟨horg,hk⟩ | hk
   ·rw[hk,flowKey_prefixed] at hpre
    exact absurd (hpre.resolve_left nofun) ((apart_iff.1 h).2 horg).2
   ·exact hk
  ·have howner:=owner_of_apart h hkey ho
   exact ⟨congrArg Prod.snd howner,.inr ⟨hs,congrArg Prod.fst howner⟩⟩
 ·rw[stored_append]
  rcases handle_cases (stored puts) (.inl rfl:Put.keeps true p) with he | ⟨written,_,hplaced,he⟩
  ·rw[he]
  have hne:key≠written:=by
   rintro rfl
   rcases hplaced with ⟨hs,_⟩ | ⟨_,ho⟩
   ·exact absurd (hs.symm.trans hscope) (by nofun)
   ·exact hflow (congrArg Prod.fst (owner_of_apart h hkey ho))
  rw[he]
  by_cases ht:tenant=p.tenant
  ·subst ht
   rw[update_self,update_of_ne hne]
  ·rw[update_of_ne ht]

def putFor(tenant flow name:String):Put:=
 if (validSecretName name).isOk&&(checkReservedSecretWrite .flow name).isOk then
  {writer:=.secret,tenant:=tenant,scope:=.flow,flow:=flow,name:=name,value:="v" }
 else
  { writer:=.resource,tenant:=tenant,scope:=.flow,flow:=flow,
    name:=ofList (name.toList.drop secretResourcePrefix.toList.length),value:="v" }

lemma putFor_spec{flow name}(hf:validGraphID flow)(hn:flowName name):
 (putFor "t" flow name).accepted∧(putFor "t" flow name).tenant="t"∧
  (putFor "t" flow name).row={value:="v",scope:=.flow,flow:=flow,name:=name}:=by
 unfold putFor
 split_ifs with h
 ·rw[and_eq_true] at h
  refine ⟨?_,rfl,rfl⟩
  simp[Put.accepted,scopeAccepted,h.1,h.2,hf]
 ·rw[flowName,or_eq_true,or_iff_right h,and_eq_true] at hn
  obtain ⟨rest,hrest⟩:= isPrefixOf_iff_prefix.1 hn.1
  have hname:secretResourcePrefix++ofList (name.toList.drop secretResourcePrefix.toList.length)=name:=by
   rw[←toList_inj,toList_append,toList_ofList,←hrest,drop_left]
  refine ⟨?_,rfl,?_⟩
  ·simp[Put.accepted,scopeAccepted,hn.2,hf]
  ·simp[Put.row,Put.scopedName,hname]
lemma get_stored{p:Put}{flow name key row}(hacc:p.accepted)(ht:p.tenant="t")(hrow:p.row=row)
 (hscoped:scopedSecretName p.scope p.flow p.scopedName=.ok key)(hkey:key∈candidates flow name):
 get (stored [p]) "t" flow name=.ok row:=by
 have hstored:∀ k,stored [p] "t" k=if k=key then some row else none:=by
  intro k
  simp only[stored,foldl_cons,foldl_nil,handle,hacc,if_true,putScoped,hscoped,ht,hrow,update_self,update_apply]
 have hfind:(candidates flow name).findSome? (stored [p] "t")=some row:=by
  cases hf:(candidates flow name).findSome? (stored [p] "t") with
  | none=>
   have:=findSome?_eq_none_iff.1 hf key hkey
   rw[hstored,if_pos rfl] at this
   cases this
  | some row=>
   obtain ⟨k,_,hk⟩:=exists_of_findSome?_eq_some hf
   rw[hstored] at hk
   split_ifs at hk
   exact hk.symm
 rw[get,if_neg (by decide),hfind]
lemma flowKey_ne(flow name):flowKey flow name≠name:=by
 intro h
 have hlen:=congrArg (fun s:String=>s.toList.length) h
 simp only[toList_flowKey,length_append,length_cons] at hlen
 omega
lemma apart_of_isolated{flow name}(hflow:flow≠"")(h:Isolated free flow name):
 apart free flow name:=by
 have hkey:orgAuthoritativeSecretName name=false→flowKey flow name∈candidates flow name:=
  fun horg=>by simp[candidates,hflow,horg,flowKey]
 have hall:∀ key∈candidates flow name,∀ o∈owners key,o=(flow,name):=by
  rintro key hkey ⟨other,reads⟩ ho
  obtain ⟨hname,hvalid,hread⟩:=mem_owners.1 ho
  obtain ⟨hacc,htenant,hrow⟩:=putFor_spec hvalid hread
  have hrow':=hrow
  simp only[Put.row,Row.mk.injEq] at hrow'
  have hscoped:scopedSecretName .flow other reads=.ok key:=by
   rw[hname]
   exact if_neg (validGraphID_ne hvalid)
  have hkeeps:∀ p∈[putFor "t" other reads],p.keeps free:=by
   unfold putFor Put.keeps
   split_ifs<;>simp
  obtain ⟨hread,hscope⟩:=(h "t" _ hkeeps).1 _
   (get_stored hacc htenant hrow (by rw[hrow'.2.1,hrow'.2.2.1,hrow'.2.2.2]; exact hscoped) hkey)
  exact Prod.ext ((or_iff_right (by nofun)).1 hscope).2 hread
 refine apart_iff.2 ⟨fun o ho=>?_,fun horg=>⟨fun o ho=>congrArg Prod.fst (hall _ (hkey horg) o ho),?_⟩⟩
 · -- the bare name would be the key of itself at the scope of a flow
  rw[hall name (by simp[candidates]) o ho] at ho
  exact flowKey_ne flow name (mem_owners.1 ho).1.symm
 ·rintro ⟨hset,hvalid⟩
  have hread:=((h "t" [⟨.step,"t",.tenant,"",flowKey flow name,"v"⟩] fun p _=>.inl hset).1 _
   (get_stored (by simp[Put.accepted,hvalid]) rfl rfl rfl (hkey horg))).1
  exact flowKey_ne flow name hread

end Free

/-- A step is isolated from the other flows' secrets exactly when neither key it looks up
 has a reading under another flow and, where `secret_set` steps may write the keys of flows, none can. -/
theorem isolated_iff_apart(free:Bool)(flow name:String)(hflow:validGraphID flow):
 Isolated free flow name↔apart free flow name:=
 ⟨apart_of_isolated (validGraphID_ne hflow),isolated_of_apart⟩

theorem plain_name_isolated:Isolated false "a" "token"∧Isolated true "a" "conn.token":=
 ⟨(isolated_iff_apart false "a" "token" (by decide)).2 (by decide +kernel),
  (isolated_iff_apart true "a" "conn.token" (by decide)).2 (by decide +kernel)⟩

/-- What is stored for `a` as `b.x` is what a step of `a.b` reads as `x`, and so is what a `secret_set` step stores for
 the organisation under the key of that. -/
theorem dotted_flow_reads_other_secret:
 validGraphID "a"∧validGraphID "a.b"∧
  (∃ p:Put,p.accepted∧p.scope=.flow∧p.flow="a"∧
   get (stored [p]) "t" "a.b" "x"=.ok {value:="v",scope:=.flow,flow:="a",name:="b.x" }∧
   get (stored []) "t" "a.b" "x"=.error "secret://x: secret not found")∧
  ∃ p:Put,p.accepted∧p.writer=.step∧
   get (stored [p]) "t" "a.b" "x"=.ok {value:="v",scope:=.tenant,flow:="",name:="flow.a.b.x" }:=
 ⟨by decide,by decide,⟨putFor "t" "a" "b.x",by decide +kernel,by decide +kernel,by decide +kernel,
  by decide +kernel,by decide +kernel⟩,⟨.step,"t",.tenant,"","flow.a.b.x","v"⟩,by decide +kernel,rfl,by decide +kernel⟩

end Dazyflow.SecretScopes
