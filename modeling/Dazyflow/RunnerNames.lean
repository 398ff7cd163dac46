import Dazyflow.RunnerTasks

/-!
# Names and labels of runners

The registry of one organisation's machines: a registration token is exchanged for a credential, and the name
of a machine is one of its tags.
-/
namespace Dazyflow.RunnerNames
open RunnerTasks GoStrings List Function

structure Token where
 name:String
 expires:Time
 used:Bool:=false

structure State where
 runners:String→Option Runner:=fun _=>none
 creds:String→Option String:=fun _=>none
 tokens:String→Option Token:=fun _=>none

def validRunnerName(name:String):Option String:=
 if name= "" then some "name is empty"
 else if 64<name.utf8ByteSize then some "name too long (max 64)"
 else if name.toList.all (fun c=>('a'.toNat≤ c.toNat&&c.toNat≤ 'z'.toNat)||('0'.toNat≤ c.toNat&&c.toNat≤ '9'.toNat)||
  c= '-'||c= '_') then none
 else some "name may only contain [a-z0-9_-]"

def maxRunnerLabels:Nat:=16

def maxRunnerLabelLen:Nat:=64

def validRunnerLabel(l:String):Option String:=
 if l= "" then some "label is empty"
 else if maxRunnerLabelLen<l.utf8ByteSize then
  some ("label "++quote l++" is too long (max "++itoa maxRunnerLabelLen++")")
 else if ',' ∈l.toList then
  some ("label "++quote l++" contains a comma, which separates labels rather than being part of one")
 else if l.toList.any (fun c=>c.toNat<0x20||c.toNat=0x7f) then
  some ("label "++quote l++" contains a character that cannot be typed on a step")
 else none

variable (cfg:Config)(tenant:String)(now:Time)

def mintToken(token name:String)(expires:Time)(s:State):Except String State:=
 match if name= "" then none else validRunnerName name with
 | some e=>.error ("runner name: "++e)
 | none=>.ok {s with tokens:=update s.tokens token (some ⟨name,expires,false⟩)}

def redeemToken(token cred:String)(r:Runner)(s:State):Except String State:=
 match s.tokens token with
 | none=>.error "registration token is not valid"
 | some tok=>
  if tok.used∨tok.expires<now then .error "registration token is not valid"
  else if tok.name≠""∧r.name≠tok.name then .error "this registration token is for a different runner name"
  else if tok.name= ""∧s.runners r.name≠none then .error "a runner with this name already exists"
  else
   -- a replaced machine loses its credentials
   let creds:=if s.runners r.name=none then s.creds
    else fun c=>if s.creds c=some r.name then none else s.creds c
   .ok ⟨update s.runners r.name (some r),update creds cred (some r.name),
    update s.tokens token (some {tok with used:=true})⟩

def register(token cred name:String)(labels:List String)(s:State):Except String State:=
 match validRunnerName name with
 | some e=>.error ("runner name: "++e)
 | none=>redeemToken now token cred ⟨tenant,name,normalizeLabels cfg labels,some now⟩ s

def refuseNameCollisions(name:String)(labels:List String)(s:State):Option String:=
 labels.findSome? (fun l=>
  if l=name then some (quote l++" is already this machine's own tag — every machine "++
   "carries its name, so there is nothing to add")
  else if s.runners l≠none then some (quote l++" is another machine's name, and a machine's name is "++
   "always its own tag — using it here would make one tag mean two machines")
  else none)

def setLabels(name:String)(labels:List String)(s:State):Except String State:=
 let norm:=normalizeLabels cfg labels
 if maxRunnerLabels<norm.length then
  .error ("a machine may carry at most "++itoa maxRunnerLabels++" labels")
 else match (norm.findSome? validRunnerLabel).or (refuseNameCollisions name norm s) with
  | some e=>.error e
  | none=>
   match s.runners name with
   | none=>.error "runner not found"
   | some r=>.ok {s with runners:=update s.runners name (some {r with labels:=norm})}

def delete(name:String)(s:State):Except String State:=
 if s.runners name=none then .error "runner not found"
 else .ok { s with
  runners:=update s.runners name none
  creds:=fun c=>if s.creds c=some name then none else s.creds c}

def runnerByCredential(s:State)(cred:String):Option Runner:=(s.creds cred).bind s.runners

/-- The states of a run and the tokens redeemed in it. Generated secrets are new, and every registration is one
that `allowed` admits. A refused call changes nothing. -/
inductive Reached(allowed:State→String→List String→Prop):State→List String→Prop
 | start:Reached allowed {} []
 | mint{s s' log}(token name:String)(expires:Time)(h:Reached allowed s log)
  (fresh:s.tokens token=none)(hr:mintToken token name expires s=.ok s'):Reached allowed s' log
 | register{s s' log}(now:Time)(token cred name:String)(labels:List String)
  (h:Reached allowed s log)(fresh:s.creds cred=none)(hok:allowed s name labels)
  (hr:register cfg tenant now token cred name labels s=.ok s'):Reached allowed s' (token::log)
 | setLabels{s s' log}(name:String)(labels:List String)(h:Reached allowed s log)
  (hr:setLabels cfg name labels s=.ok s'):Reached allowed s' log
 | delete{s s' log}(name:String)(h:Reached allowed s log)(hr:delete name s=.ok s'):
  Reached allowed s' log

/-- No other machine has the name as a label, and no label is the name of another machine. -/
def Apart(s:State)(name:String)(labels:List String):Prop:=
 ∀ m r,s.runners m=some r→m≠name→name∉r.labels∧m∉normalizeLabels cfg labels

/-- What Go's `ToLower` after `TrimSpace` does: names are left as they are, and so is what it gives. -/
structure Lowers:Prop where
 name:∀ n,validRunnerName n=none→cfg.toLower (trimSpace n)=n
 again:∀ l,cfg.toLower (trimSpace (cfg.toLower (trimSpace l)))=cfg.toLower (trimSpace l)

structure Unambiguous(s:State)(log:List String):Prop where
 label:∀ n m r r',s.runners n=some r→s.runners m=some r'→n≠m→n∉r'.labels
 claimed:∀ n r m r' t,s.runners n=some r→s.runners m=some r'→n∈t.tags→eligible cfg t r'→m=n
 redeemed:log.Nodup
 credential:∀ n r,s.runners n=some r→∃! c,runnerByCredential s c=some r
 replaced:∀ now token cred name labels s',register cfg tenant now token cred name labels s=.ok s'→
  (s.tokens token).map Token.name=some ""→s.runners name=none

structure Named(machines:String→Option Runner):Prop where
 name:∀ n r,machines n=some r→ r.name=n∧validRunnerName n=none
 normal:∀ n r,machines n=some r→∀ l∈r.labels,∃ l',cfg.toLower (trimSpace l')=l
 apart:∀ n m r r',machines n=some r→machines m=some r'→n≠m→n∉r'.labels

structure Inv(s:State)(log:List String):Prop where
 named:Named cfg s.runners
 redeemed:log.Nodup
 used:∀ token∈log,∃ tok,s.tokens token=some tok∧tok.used
 credential:∀ n,s.runners n≠none→∃! c,s.creds c=some n
 owned:∀ c n,s.creds c=some n→s.runners n≠none

variable {cfg tenant now}{s s':State}{log:List String}{token cred name:String}{labels:List String}{r:Runner}

lemma redeemToken_ok(h:redeemToken now token cred r s=.ok s'):∃ tok,s.tokens token=some tok∧tok.used=false∧
 (tok.name= ""→s.runners r.name=none)∧s'.runners=update s.runners r.name (some r)∧
 s'.tokens=update s.tokens token (some {tok with used:=true})∧
 s'.creds=update (if s.runners r.name=none then s.creds
  else fun c=>if s.creds c=some r.name then none else s.creds c) cred (some r.name):=by
 unfold redeemToken at h
 cases ht:s.tokens token with
 | none=>simp[ht] at h
 | some tok=>
  simp only[ht] at h
  split_ifs at h<;>cases h<;>grind
lemma register_ok(h:register cfg tenant now token cred name labels s=.ok s'):validRunnerName name=none∧
 redeemToken now token cred ⟨tenant,name,normalizeLabels cfg labels,some now⟩ s=.ok s':=by
 unfold register at h
 cases hv:validRunnerName name with
 | none=>exact ⟨rfl,by simpa only[hv] using h⟩
 | some e=>simp[hv] at h
lemma exists_of_mem_normalizeLabels{l}(h:l∈normalizeLabels cfg labels):
 ∃ l'∈labels,cfg.toLower (trimSpace l')=l:=by
 rw[normalizeLabels,mem_insertionSort,mem_dedup] at h
 exact mem_map.1 (mem_of_mem_filter h)
lemma normal_normalizeLabels:∀ l∈normalizeLabels cfg labels,∃ l',cfg.toLower (trimSpace l')=l:=fun _ h=>
 (exists_of_mem_normalizeLabels h).imp (fun _ h=>h.2)
lemma Inv.mint{expires}(h:Inv cfg s log)(fresh:s.tokens token=none)(hr:mintToken token name expires s=.ok s'):
 Inv cfg s' log:=by
 unfold mintToken at hr
 split at hr
 ·cases hr
 cases hr
 refine {h with used:=fun t ht=>?_}
 obtain ⟨tok,htok,hused⟩:=h.used t ht
 have hne:t≠token:=by
  rintro rfl
  rw[fresh] at htok
  cases htok
 exact ⟨tok,(update_of_ne hne _ _).trans htok,hused⟩
lemma Named.put{machines}(h:Named cfg machines)(hname:r.name=name)(hvalid:validRunnerName name=none)
 (hnormal:∀ l∈r.labels,∃ l',cfg.toLower (trimSpace l')=l)
 (hapart:∀ m x,machines m=some x→m≠name→name∉x.labels∧m∉r.labels):
 Named cfg (update machines name (some r)):=by
 have hcases:∀ n x,update machines name (some r) n=some x→n=name∧x=r∨n≠name∧machines n=some x:=by
  intro n x hx
  rw[update_apply] at hx
  grind
 refine ⟨fun n x hx=>?_,fun n x hx=>?_,fun n m x y hx hy hne=>?_⟩
 ·rcases hcases n x hx with ⟨rfl,rfl⟩ | ⟨_,hx⟩
  ·exact ⟨hname,hvalid⟩
  ·exact h.name n x hx
 ·rcases hcases n x hx with ⟨rfl,rfl⟩ | ⟨_,hx⟩
  ·exact hnormal
  ·exact h.normal n x hx
 ·rcases hcases n x hx with ⟨rfl,rfl⟩ | ⟨hn,hx'⟩
  ·rcases hcases m y hy with ⟨rfl,_⟩ | ⟨hm,hy'⟩
   ·exact absurd rfl hne
   ·exact (hapart m y hy' hm).1
  ·rcases hcases m y hy with ⟨rfl,rfl⟩ | ⟨_,hy'⟩
   ·exact (hapart n x hx' hn).2
   ·exact h.apart n m x y hx' hy' hne
lemma Inv.register(h:Inv cfg s log)(fresh:s.creds cred=none)(hok:Apart cfg s name labels)
 (hr:register cfg tenant now token cred name labels s=.ok s'):Inv cfg s' (token::log):=by
 obtain ⟨hvalid,hredeem⟩:=register_ok hr
 obtain ⟨tok,htok,hused,_,hrunners,htokens,hcreds⟩:=redeemToken_ok hredeem
 -- whatever the name had before, its credentials are gone
 have hown:∀ c n,s'.creds c=some n↔if c=cred then n=name else s.creds c=some n∧n≠name:=by
  intro c n
  have howned:=h.owned c n
  rw[hcreds,update_apply]
  grind
 refine ⟨?_,nodup_cons.2 ⟨fun hmem=>?_,h.redeemed⟩,fun t ht=>?_,fun n hn=>?_,fun c n hc=>?_⟩
 ·rw[hrunners]
  exact h.named.put rfl hvalid normal_normalizeLabels hok
 ·obtain ⟨tok',htok',hused'⟩:=h.used token hmem
  rw[htok] at htok'
  cases htok'
  rw[hused] at hused'
  cases hused'
 ·have hlog:=h.used t
  rw[htokens,update_apply]
  grind
 ·have hcred:=h.credential n
  rw[hrunners,update_apply] at hn
  simp only[hown,ExistsUnique] at hcred⊢
  grind
 ·have howned:=h.owned c n
  rw[hown] at hc
  rw[hrunners,update_apply]
  grind
lemma Inv.setLabels(h:Inv cfg s log)(hr:setLabels cfg name labels s=.ok s'):Inv cfg s' log:=by
 unfold RunnerNames.setLabels at hr
 simp only at hr
 split_ifs at hr
 split at hr
 ·cases hr
 rename_i hchecks
 cases hx:s.runners name with
 | none=>simp[hx] at hr
 | some x=>?_
 simp only[hx] at hr
 cases hr
 have hdom:∀ n,update s.runners name (some {x with labels:=normalizeLabels cfg labels}) n≠none↔
  s.runners n≠none:=by
  intro n
  rw[update_apply]
  grind
 have hclash:∀ l∈normalizeLabels cfg labels,l≠name∧s.runners l=none:=by
  rw[Option.or_eq_none_iff] at hchecks
  intro l hl
  have hl:=findSome?_eq_none_iff.1 hchecks.2 l hl
  split_ifs at hl
  exact ⟨‹_›,by simp_all⟩
 obtain ⟨hname,hvalid⟩:=h.named.name name x hx
 refine ⟨h.named.put hname hvalid normal_normalizeLabels fun m y hy hm=>⟨?_,fun hmem=>?_⟩,h.redeemed,h.used,
  fun n hn=>h.credential n ((hdom n).1 hn),fun c n hc=>(hdom n).2 (h.owned c n hc)⟩
 ·exact h.named.apart name m x y hx hy hm.symm
 ·rw[(hclash m hmem).2] at hy
  cases hy
lemma Inv.delete(h:Inv cfg s log)(hr:delete name s=.ok s'):Inv cfg s' log:=by
 unfold RunnerNames.delete at hr
 split_ifs at hr
 cases hr
 have hsub:∀ n x,update s.runners name none n=some x→n≠name∧s.runners n=some x:=by
  intro n x hx
  rw[update_apply] at hx
  grind
 refine ⟨⟨fun n x hx=>h.named.name n x (hsub n x hx).2,fun n x hx=>h.named.normal n x (hsub n x hx).2,
  fun n m x y hx hy=>h.named.apart n m x y (hsub n x hx).2 (hsub m y hy).2⟩,h.redeemed,h.used,fun n hn=>?_,
  fun c n hc=>?_⟩
 ·have hcred:=h.credential n
  simp only[update_apply,ExistsUnique] at hn hcred⊢
  grind
 ·have howned:=h.owned c n
  simp only[update_apply] at hc⊢
  grind
lemma Inv.unambiguous(hl:Lowers cfg)(h:Inv cfg s log):Unambiguous cfg tenant s log:=by
 refine ⟨h.named.apart,fun n x m y t hx hy htag helig=>?_,h.redeemed,fun n x hx=>?_,?_⟩
 ·have htags:n∈y.tags cfg:=by
   simp only[eligible,Runner.hasTags,Bool.and_eq_true,all_eq_true,decide_eq_true_iff] at helig
   exact helig.2.2 n htag
  obtain ⟨l,hmem,hnorm⟩:=exists_of_mem_normalizeLabels htags
  obtain ⟨hname,hvalid⟩:=h.named.name m y hy
  rcases mem_append.1 hmem with hmem | hmem
  ·obtain ⟨l',rfl⟩:=h.named.normal m y hy l hmem
   rw[hl.again] at hnorm
   by_contra hne
   exact h.named.apart n m x y hx hy (Ne.symm hne) (hnorm▸hmem)
  ·rw[mem_singleton.1 hmem,hname,hl.name m hvalid] at hnorm
   exact hnorm
 ·obtain ⟨c,hc,honly⟩:=h.credential n (by simp[hx])
  refine ⟨c,by simp[runnerByCredential,hc,hx],fun c' hc'=>honly c' ?_⟩
  obtain ⟨n',hn',hx'⟩:=Option.bind_eq_some_iff.1 hc'
  rw[hn',←(h.named.name n' x hx').1,(h.named.name n x hx).1]
 ·intro now token cred name labels s' hr hopen
  obtain ⟨_,hredeem⟩:=register_ok hr
  obtain ⟨tok,htok,_,hnew,_⟩:=redeemToken_ok hredeem
  rw[htok] at hopen
  exact hnew (Option.some.inj hopen)

/-- As long as machines register apart from one another, no name is ambiguous in any state of a run. -/
theorem names_unambiguous(hl:Lowers cfg)(h:Reached cfg tenant (Apart cfg) s log):Unambiguous cfg tenant s log:=by
 suffices hi:Inv cfg s log from hi.unambiguous hl
 induction h with
 | start=>exact ⟨⟨nofun,nofun,nofun⟩,nodup_nil,nofun,fun _ h=>absurd rfl h,nofun⟩
 | mint _ _ _ _ fresh hr ih=>exact ih.mint fresh hr
 | register _ _ _ _ _ _ fresh hok hr ih=>exact ih.register fresh hok hr
 | setLabels _ _ _ hr ih=>exact ih.setLabels hr
 | delete _ _ hr ih=>exact ih.delete hr

lemma trimSpace_of_valid{n}(h:validRunnerName n=none):trimSpace n=n:=by
 unfold validRunnerName at h
 split_ifs at h with _ _ hall
 have hspace:∀ c∈n.toList,isSpace c=false:=by
  intro c hc
  have hc:=all_eq_true.1 hall c hc
  simp at hc
  rcases hc with ((hc | hc) | rfl) | rfl
  ·simp[isSpace]
   omega
  ·simp[isSpace]
   omega
  ·decide
  ·decide
 have hdrop:∀ cs:List Char,(∀ c∈cs,isSpace c=false)→cs.dropWhile isSpace=cs:=by
  intro cs hcs
  cases cs with
  | nil=>rfl
  | cons c cs=>exact dropWhile_cons_of_neg (by simp[hcs c mem_cons_self])
 rw[trimSpace,trimRight,hdrop _ hspace,hdrop _ (by simpa using hspace),reverse_reverse,String.ofList_toList]

def namesOnly:Config:={toLower:=fun l=>if validRunnerName l=none then l else "",showDuration:=fun _=> "" }

lemma lowers_namesOnly:Lowers namesOnly:=by
 refine ⟨fun n hn=>?_,fun l=>?_⟩
 ·rw[trimSpace_of_valid hn]
  exact if_pos hn
 ·by_cases h:validRunnerName (trimSpace l)=none
  ·simp only[namesOnly,if_pos h,trimSpace_of_valid h]
  ·simp only[namesOnly,if_neg h]
   rfl

theorem names_unambiguous_two:∃ s,Reached namesOnly "acme" (Apart namesOnly) s ["u","t"]∧
 (s.runners "a").map Runner.labels=some ["gpu"]∧(s.runners "b").map Runner.labels=some ["gpu"]∧
 Unambiguous namesOnly "acme" s ["u","t"]:=by
 have hmint:Reached namesOnly "acme" (Apart namesOnly) _ []:=.mint "t" "" 5 .start rfl rfl
 have ha:Reached namesOnly "acme" (Apart namesOnly) _ ["t"]:=
  .register 1 "t" "c" "a" ["gpu"] hmint rfl nofun rfl
 have hmint':Reached namesOnly "acme" (Apart namesOnly) _ ["t"]:=.mint "u" "" 5 ha rfl rfl
 have hb:Reached namesOnly "acme" (Apart namesOnly) _ ["u","t"]:=
  .register 1 "u" "d" "b" ["gpu"] hmint' rfl (fun m r hr _=>by
   by_cases hm:m="a"
   ·cases hm
    cases hr
    decide
   ·cases (update_of_ne hm _ _).symm.trans hr) rfl
 exact ⟨_,hb,by decide,by decide,names_unambiguous lowers_namesOnly hb⟩

/-- Registering with another machine's name as a label makes both eligible for its tasks. -/
theorem registered_label_is_name:∃ s log r,Reached namesOnly "acme" (fun _ _ _=>True) s log∧
 s.runners "b"≠none∧s.runners "a"=some r∧"b"∈r.labels∧
 ∃ t:RunnerTask,t.tags=["b"]∧eligible namesOnly t r:=by
 have hmint:Reached namesOnly "acme" (fun _ _ _=>True) _ []:=.mint "t" "" 5 .start rfl rfl
 have hb:Reached namesOnly "acme" (fun _ _ _=>True) _ _:=.register 1 "t" "c" "b" [] hmint rfl trivial rfl
 have hmint':Reached namesOnly "acme" (fun _ _ _=>True) _ _:=.mint "u" "" 5 hb rfl rfl
 have ha:Reached namesOnly "acme" (fun _ _ _=>True) _ _:=.register 1 "u" "d" "a" ["b"] hmint' rfl trivial rfl
 exact ⟨_,_,_,ha,by decide,rfl,by decide,⟨"task","acme",["b"],"","",[],"",0,.queued,"","",none,none,0,none⟩,rfl,by decide⟩

end Dazyflow.RunnerNames
