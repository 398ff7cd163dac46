import Dazyflow.McpGrants

/-!
# Rotation and revocation of a grant

The swap of a rotation compares the refresh hash, so a refresh token is exchanged once, and a grant that is
gone is never put back.
-/
namespace Dazyflow.McpGrants
open Interleaving KeyedTable GoStrings List

def hexDigits:List Char:= "0123456789abcdef".toList

def hexadecimal(s:String):Bool:=s≠""&&s.toList.all (fun c=>c∈hexDigits)

lemma cut_token{id secret}(start)(hid: '_' ∉ id.toList)(hne:id≠"")(hs:secret≠""):
 mcpTokenGrantID (start++id++"_"++secret) start=some id:=by
 have htext:(start++id++"_"++secret).toList=start.toList++(id.toList++ '_'::secret.toList):=by simp
 have hid':id.toList≠[]:=by simpa using hne
 have hs':secret.toList≠[]:=by simpa using hs
 unfold mcpTokenGrantID
 simp only[htext,cutPrefix_append,cut_append _ hid]
 simp[hid',hs']

def Stage.pendingID:Stage→Option String
 | .naming _ _ x=>some x
 | .minting _ _ x _=>some x
 | .putting _ _ x _ _=>some x
 | _=>none

def Stage.pendingSecret:Stage→Option String
 | .putting _ _ _ _ r=>some r
 | .swapping _ _ _ _ r=>some r
 | _=>none

def Stage.used:Stage→Option String
 | .exchanged token _ _ _=>some token
 | _=>none

def Stage.draws:Stage→List String
 | .naming _ _ x=>[x]
 | .minting _ _ x a=>[x,a]
 | .putting _ _ x a r=>[x,a,r]
 | .issued x a r=>[x,a,r]
 | .drawing _ _ _ a=>[a]
 | .swapping _ _ _ a r=>[a,r]
 | .exchanged _ _ a r=>[a,r]
 | _=>[]

def Stage.gave:Stage→Option (String×String×String)
 | .issued x a r=>some ("g"++x,a,r)
 | .exchanged _ g a r=>some (g.id,a,r)
 | _=>none

def Stage.accepted:Stage→Option (String×MCPGrant)
 | .exchanged token g _ _=>some (token,g)
 | .checking credential g=>some (credential,g)
 | .authenticated credential g=>some (credential,g)
 | _=>none

structure Past(pick:Stage→Option String)(s:State)(ns:List Stage)(x:String):Prop where
 drawn:x∈s.drawn
 free:∀ n∈ns,pick n≠some x

def Settled(s:State)(ns:List Stage)(id:String):Prop:=∃ x,id="g"++x∧Past Stage.pendingID s ns x

section Stages

variable (cfg:Config)(s:State)(ns:List Stage)

structure Found(token:String)(g:MCPGrant):Prop where
 names:mcpTokenGrantID token mcpRefreshTokenPrefix=some g.id
 settled:Settled s ns g.id
 hash:cfg.sessionLookupKey token=g.refreshHash

structure Spent(token:String)(g:MCPGrant):Prop where
 names:mcpTokenGrantID token mcpRefreshTokenPrefix=some g.id
 settled:Settled s ns g.id
 secret:∃ r,token=refreshToken g.id r∧Past Stage.pendingSecret s ns r
 gone:∀ cur,s.find g.id=some cur→cur.refreshHash≠cfg.sessionLookupKey token

def Stage.Sound:Stage→Prop
 | .rotating token g _=>Found cfg s ns token g
 | .drawing token g _ _=>Found cfg s ns token g
 | .swapping token g _ _ _=>Found cfg s ns token g
 | .exchanged token g _ _=>Spent cfg s ns token g
 | .issued x _ _=>Settled s ns ("g"++x)
 | .checking credential g=>mcpTokenGrantID credential mcpAccessTokenPrefix=some g.id
 | .authenticated credential g=>mcpTokenGrantID credential mcpAccessTokenPrefix=some g.id
 | _=>True

structure Rotates:Prop where
 hex:∀ x∈s.drawn,hexadecimal x
 draws:∀ n∈ns,∀ x∈n.draws,x∈s.drawn
 ids:∀ (i j:Nat) n m x,ns[i]? = some n → ns[j]? = some m → n.pendingID=some x→m.pendingID=some x→i=j
 secrets:∀ (i j:Nat) n m r,ns[i]? = some n → ns[j]? = some m → n.pendingSecret=some r→
  m.pendingSecret=some r→i=j
 stored:∀ id g,s.find id=some g→Settled s ns id∧
  ∃ r,g.refreshHash=cfg.sessionLookupKey (refreshToken id r)∧Past Stage.pendingSecret s ns r
 sound:∀ n∈ns,n.Sound cfg s ns
 once:∀ (i j:Nat) n m token,ns[i]? = some n → ns[j]? = some m → n.used=some token→m.used=some token→i=j

end Stages

section Rotates

variable {cfg:Config}{s s':State}{ns ns':List Stage}{n n':Stage}{i:Nat}

variable {g:MCPGrant}{token r x:String}

lemma refreshToken_inj{id r'}(h:refreshToken id r=refreshToken id r'):r=r':=
 (String.append_right_inj _).1 h
lemma pendingID_draws(h:n.pendingID=some x):x∈n.draws:=by
 cases n<;>cases h<;>exact mem_cons_self
lemma pendingSecret_draws(h:n.pendingSecret=some r):r∈n.draws:=by
 cases n<;>cases h<;>simp[Stage.draws]

/-- What a step does to the random strings: pending ones were drawn just now or were pending before. -/
structure Draws(s s':State)(ns:List Stage)(i:Nat)(n':Stage):Prop where
 grows:∀ x∈s.drawn,x∈s'.drawn
 hex:∀ x∈s'.drawn,hexadecimal x
 draws:∀ x∈n'.draws,x∈s'.drawn
 ids:∀ x,n'.pendingID=some x→(∃ n,ns[i]? = some n∧n.pendingID=some x)∨x∉s.drawn
 secrets:∀ r,n'.pendingSecret=some r→(∃ n,ns[i]? = some n∧n.pendingSecret=some r)∨r∉s.drawn

lemma Past.mono{pick}(h:Past pick s ns x)(hrep:Replaces ns ns' i n')
 (hgrows:∀ x∈s.drawn,x∈s'.drawn)
 (hpick:∀ x,pick n'=some x→(∃ n,ns[i]? = some n∧pick n=some x)∨x∉s.drawn):Past pick s' ns' x:=by
 refine ⟨hgrows x h.drawn,fun m hm hx=>?_⟩
 rcases hrep.mem hm with rfl | ⟨j,_,hj⟩
 ·rcases hpick x hx with ⟨n,hn,hx⟩ | hx
  ·exact h.free n (mem_of_getElem? hn) hx
  ·exact hx h.drawn
 ·exact h.free m (mem_of_getElem? hj) hx
lemma Settled.mono{id}(h:Settled s ns id)(hrep:Replaces ns ns' i n')(hd:Draws s s' ns i n'):
 Settled s' ns' id:=by
 obtain ⟨x,hid,hx⟩:=h
 exact ⟨x,hid,hx.mono hrep hd.grows hd.ids⟩
lemma Found.mono(h:Found cfg s ns token g)(hrep:Replaces ns ns' i n')
 (hd:Draws s s' ns i n'):Found cfg s' ns' token g:=
 ⟨h.names,h.settled.mono hrep hd,h.hash⟩

def Placed(cfg:Config)(s s':State)(ns ns':List Stage)(i:Nat)(n':Stage):Prop:=
 ∀ id g,s'.find id=some g → s.find id=some g∨∃ n r,ns[i]? = some n∧n.pendingSecret=some r∧
  n'.pendingSecret=none∧g.refreshHash=cfg.sessionLookupKey (refreshToken id r)∧Settled s' ns' id∧
  (s.find id=none→¬Settled s ns id)

lemma Spent.mono(h:Spent cfg s ns token g)(hrep:Replaces ns ns' i n')
 (hd:Draws s s' ns i n')(hp:Placed cfg s s' ns ns' i n'):Spent cfg s' ns' token g:=by
 obtain ⟨r,htoken,hr⟩:=h.secret
 refine ⟨h.names,h.settled.mono hrep hd,⟨r,htoken,hr.mono hrep hd.grows hd.secrets⟩,fun cur hcur heq=>?_⟩
 rcases hp g.id cur hcur with hcur | ⟨n,r',hn,hpend,_,hhash,_,_⟩
 ·exact h.gone cur hcur heq
 · -- the new token's secret was still on its way, the spent one's was not
  rw[hhash,htoken] at heq
  rw[refreshToken_inj (cfg.injective heq)] at hpend
  exact hr.free n (mem_of_getElem? hn) hpend
lemma Stage.Sound.mono{m:Stage}(h:m.Sound cfg s ns)(hrep:Replaces ns ns' i n')(hd:Draws s s' ns i n')
 (hp:Placed cfg s s' ns ns' i n'):m.Sound cfg s' ns':=by
 cases m with
 | rotating token g now | drawing token g now a | swapping token g now a r=>exact Found.mono h hrep hd
 | exchanged token g a r=>exact Spent.mono h hrep hd hp
 | issued x a r=>exact Settled.mono h hrep hd
 | checking credential g | authenticated credential g=>exact h
 | _=>trivial

structure Advances(cfg:Config)(s s':State)(ns ns':List Stage):Prop where
 rotates:Rotates cfg s' ns'
 settled:∀ id,Settled s ns id→Settled s' ns' id
 gone:∀ id,Settled s ns id → s.find id=none → s'.find id=none

section

variable (h:Rotates cfg s ns)

include h

lemma Rotates.move(hrep:Replaces ns ns' i n')(hd:Draws s s' ns i n')
 (hp:Placed cfg s s' ns ns' i n')(hsound:n'.Sound cfg s' ns')
 (honce:∀ token,n'.used=some token→∀ m∈ns,m.used≠some token):Advances cfg s s' ns ns':=by
 -- a string that nobody had drawn is nobody else's
 have hfresh:∀ x,x∉s.drawn→∀ m∈ns,x∉m.draws:=fun x hx m hm hmx=>hx (h.draws m hm x hmx)
 refine ⟨?_,fun id hset=>hset.mono hrep hd,fun id hset hnone=>?_⟩
 case refine_2=>
  cases hg:s'.find id with
  | none=>rfl
  | some g=>
   rcases hp id g hg with hg | ⟨_,_,_,_,_,_,_,hno⟩
   ·rw[hnone] at hg
    cases hg
   ·exact absurd hset (hno hnone)
 refine ⟨hd.hex,fun m hm x hx=>?_,hrep.distinct h.ids fun x hx b m hb hm hmx=>?_,
  hrep.distinct h.secrets fun r hr b m hb hm hmr=>?_,fun id g hg=>?_,fun m hm=>?_,
  hrep.distinct h.once fun token ht b m _ hm=>honce token ht m (mem_of_getElem? hm)⟩
 ·rcases hrep.mem hm with rfl | ⟨j,_,hj⟩
  ·exact hd.draws x hx
  ·exact hd.grows x (h.draws m (mem_of_getElem? hj) x hx)
 ·rcases hd.ids x hx with ⟨n,hn,hx⟩ | hx
  ·exact hb (h.ids b i m n x hm hn hmx hx)
  ·exact hfresh x hx m (mem_of_getElem? hm) (pendingID_draws hmx)
 ·rcases hd.secrets r hr with ⟨n,hn,hr⟩ | hr
  ·exact hb (h.secrets b i m n r hm hn hmr hr)
  ·exact hfresh r hr m (mem_of_getElem? hm) (pendingSecret_draws hmr)
 ·rcases hp id g hg with hg | ⟨n,r,hn,hpend,hnone,hhash,hset,_⟩
  ·obtain ⟨hset,r,hhash,hr⟩:=h.stored id g hg
   exact ⟨hset.mono hrep hd,r,hhash,hr.mono hrep hd.grows hd.secrets⟩
  ·have hmem:=mem_of_getElem? hn
   refine ⟨hset,r,hhash,hd.grows r (h.draws n hmem r (pendingSecret_draws hpend)),fun m hm hx=>?_⟩
   rcases hrep.mem hm with rfl | ⟨j,hji,hj⟩
   ·rw[hnone] at hx
    cases hx
   ·exact hji (h.secrets j i m n r hj hn hx hpend)
 ·rcases hrep.mem hm with rfl | ⟨j,_,hj⟩
  ·exact hsound
  ·exact (h.sound m (mem_of_getElem? hj)).mono hrep hd hp
omit h in
lemma Placed.of_sub(h:∀ id g,s'.find id=some g → s.find id=some g):Placed cfg s s' ns ns' i n':=
 fun id g hg=>.inl (h id g hg)

structure Stage.Bare(n:Stage):Prop where
 draws:n.draws=[]
 id:n.pendingID=none
 secret:n.pendingSecret=none
 used:n.used=none

lemma Draws.bare(hdrawn:s'.drawn=s.drawn)(hb:n'.Bare):Draws s s' ns i n':=by
 refine ⟨fun x hx=>hdrawn▸hx,fun x hx=>h.hex x (hdrawn▸hx),?_,?_,?_⟩
 ·simp[hb.draws]
 ·simp[hb.id]
 ·simp[hb.secret]
lemma Rotates.stay(hrep:Replaces ns ns' i n')(hdrawn:s'.drawn=s.drawn)
 (hfind:∀ id g,s'.find id=some g → s.find id=some g)(hb:n'.Bare)
 (hsound:Draws s s' ns i n' → n'.Sound cfg s' ns'):Advances cfg s s' ns ns':=
 h.move hrep (.bare h hdrawn hb) (.of_sub hfind) (hsound (.bare h hdrawn hb)) (fun token ht=>by simp[hb.used] at ht)
lemma Rotates.stop(hrep:Replaces ns ns' i .ended)(hdrawn:s'.drawn=s.drawn)
 (hfind:∀ id g,s'.find id=some g → s.find id=some g):Advances cfg s s' ns ns':=
 h.stay hrep hdrawn hfind ⟨rfl,rfl,rfl,rfl⟩ (fun _=>trivial)
lemma Rotates.start(e):Advances cfg s s ns (ns++[Stage.first e]):=by
 have hbare:(Stage.first e).Bare∧(Stage.first e).Sound cfg s (ns++[Stage.first e]):=by
  cases e with
  | refresh token now | authenticate credential=>
   dsimp only[Stage.first]
   split_ifs<;>exact ⟨⟨rfl,rfl,rfl,rfl⟩,trivial⟩
  | _=>exact ⟨⟨rfl,rfl,rfl,rfl⟩,trivial⟩
 exact h.stay replaces_append rfl (fun _ _ hg=>hg) hbare.1 fun _=>hbare.2
lemma Rotates.draw(hn:ns[i]? = some n)(hrep:Replaces ns ns' i n')
 (hnew:x∉s.drawn)(hhex:hexadecimal x)(hdraws:∀ y∈n'.draws,y=x∨y∈n.draws)
 (hid:∀ y,n'.pendingID=some y → n.pendingID=some y∨y=x)
 (hsecret:∀ y,n'.pendingSecret=some y → n.pendingSecret=some y∨y=x)(hused:n'.used=none)
 (hsound:∀ s',Draws s s' ns i n' → n'.Sound cfg s' ns'):Advances cfg s {s with drawn:=x::s.drawn} ns ns':=by
 have hd:Draws s {s with drawn:=x::s.drawn} ns i n':=by
  refine ⟨fun y hy=>mem_cons_of_mem _ hy,fun y hy=>?_,fun y hy=>?_,fun y hy=>?_,fun y hy=>?_⟩
  ·rcases mem_cons.1 hy with rfl | hy
   ·exact hhex
   ·exact h.hex y hy
  ·rcases hdraws y hy with rfl | hy
   ·exact mem_cons_self
   ·exact mem_cons_of_mem _ (h.draws n (mem_of_getElem? hn) y hy)
  ·rcases hid y hy with hy | rfl
   ·exact .inl ⟨n,hn,hy⟩
   ·exact .inr hnew
  ·rcases hsecret y hy with hy | rfl
   ·exact .inl ⟨n,hn,hy⟩
   ·exact .inr hnew
 exact h.move hrep hd (.of_sub fun _ _ hg=>hg) (hsound _ hd) fun token ht=>by simp[hused] at ht
omit h in
lemma find_putGrant(g id):
 (s.putGrant g).find id=if id=g.id then some g else s.find id:=
 find?_upsert s.grants g id
omit h in
lemma find_deleteGrant{id id'}(h:(s.deleteGrant id).find id'=some g):
 s.find id'=some g∧id'≠id:=by
 have hf:=find?_erase s.grants (fun g=>g.id=id) id'
 unfold State.find State.deleteGrant at h
 rw[hf,Option.filter_eq_some_iff] at h
 refine ⟨h.1,?_⟩
 simpa[key_of_find? h.1] using h.2
omit h in
lemma find_revoke{subject id}(h:(s.revokeSubjectGrants subject).2.find id=some g):
 s.find id=some g:=by
 have hf:=find?_erase s.grants (fun g=>g.subject=subject) id
 unfold State.find State.revokeSubjectGrants at h
 rw[hf,Option.filter_eq_some_iff] at h
 exact h.1
omit h in
lemma swapGrant_cases(g old):
 s.swapGrant g old=(false,s)∨
  (∃ cur,s.find g.id=some cur∧cur.refreshHash=old)∧s.swapGrant g old=(true,s.putGrant g):=by
 unfold State.swapGrant
 by_cases h:(s.find g.id).any (fun cur=>cur.refreshHash=old)
 ·obtain ⟨cur,hcur,hold⟩:=(Option.any_eq_true _ _).1 h
  exact .inr ⟨⟨cur,hcur,of_decide_eq_true hold⟩,if_pos h⟩
 ·exact .inl (if_neg h)
lemma Rotates.swap{a now}
 (hn:ns[i]? = some (.swapping token g now a r))(hrep:Replaces ns ns' i (.exchanged token g a r))
 (hcur:∃ cur,s.find g.id=some cur∧cur.refreshHash=g.refreshHash):
 Advances cfg s (s.putGrant (minted cfg (rotated g now) now a r)) ns ns':=by
 obtain ⟨cur,hcur,hhash⟩:=hcur
 have hmem:=mem_of_getElem? hn
 have hf:Found cfg s ns token g:=h.sound _ hmem
 have hd:Draws s (s.putGrant (minted cfg (rotated g now) now a r)) ns i (.exchanged token g a r):=
  ⟨fun _ hx=>hx,h.hex,h.draws (.swapping token g now a r) hmem,nofun,nofun⟩
 have hset:=hf.settled.mono hrep hd
 -- the current token is the one presented
 obtain ⟨_,r₀,hr₀,hpast⟩:=h.stored g.id cur hcur
 have htoken:token=refreshToken g.id r₀:=cfg.injective (by rw[hf.hash,←hhash,hr₀])
 have hne:r≠r₀:=by
  rintro rfl
  exact hpast.free _ hmem rfl
 refine h.move hrep hd (fun id g' hg'=>?_) ⟨hf.names,hset,⟨r₀,htoken,hpast.mono hrep hd.grows hd.secrets⟩,
  fun cur' hcur' heq=>?_⟩ (fun token' ht m hm hx=>?_)
 ·rw[find_putGrant] at hg'
  split_ifs at hg' with hid
  ·cases hg'
   subst hid
   exact .inr ⟨_,r,hn,rfl,rfl,rfl,hset,fun hnone=>by cases hcur.symm.trans hnone⟩
  ·exact .inl hg'
 ·rw[find_putGrant,if_pos (by rfl)] at hcur'
  cases hcur'
  rw[htoken] at heq
  exact hne (refreshToken_inj (cfg.injective heq))
 ·cases ht
  cases m with
  | exchanged token' g' a' r'=>
   cases hx
   have hs:Spent cfg s ns token g':=h.sound _ hm
   have hsame:g'.id=g.id:=Option.some.inj (hs.names.symm.trans hf.names)
   exact hs.gone cur (hsame▸hcur) (hhash.trans hf.hash.symm)
  | _=>cases hx
lemma Rotates.put{a now}
 (hn:ns[i]? = some (.putting g now x a r))(hrep:Replaces ns ns' i (.issued x a r)):
 Advances cfg s (s.putGrant (minted cfg (named g now x) now a r)) ns ns':=by
 have hmem:=mem_of_getElem? hn
 have hd:Draws s (s.putGrant (minted cfg (named g now x) now a r)) ns i (.issued x a r):=
  ⟨fun _ hx=>hx,h.hex,h.draws (.putting g now x a r) hmem,nofun,nofun⟩
 have hset:Settled (s.putGrant (minted cfg (named g now x) now a r)) ns' ("g"++x):=by
  refine ⟨x,rfl,h.draws _ hmem x (by simp[Stage.draws]),fun m hm hx=>?_⟩
  rcases hrep.mem hm with rfl | ⟨j,hji,hj⟩
  ·cases hx
  ·exact hji (h.ids j i m _ x hj hn hx rfl)
 refine h.move hrep hd (fun id g' hg'=>?_) hset fun token ht=>by cases ht
 rw[find_putGrant] at hg'
 split_ifs at hg' with hid
 ·cases hg'
  subst hid
  refine .inr ⟨_,r,hn,rfl,rfl,rfl,hset,fun _ hold=>?_⟩
  obtain ⟨x',hx',hpast⟩:=hold
  have hsame:x=x':=(String.append_right_inj _).1 hx'
  exact hpast.free _ hmem (congrArg some hsame)
 ·exact .inl hg'
omit h in
lemma verdict_current{now}(h:verdict cfg g token now=.current):
 cfg.sessionLookupKey token=g.refreshHash:=by
 unfold verdict at h
 split_ifs at h with _ hh
 exact not_not.1 hh
lemma Rotates.read{id now}
 (hrep:Replaces ns ns' i (Stage.judged cfg token now g id))(hid:mcpTokenGrantID token mcpRefreshTokenPrefix=some id)
 (hg:s.find id=some g):Advances cfg s s ns ns':=by
 unfold Stage.judged at hrep
 cases hv:verdict cfg g token now with
 | current=>
  rw[hv] at hrep
  obtain rfl:g.id=id:=key_of_find? hg
  exact h.stay hrep rfl (fun _ _ hg=>hg) ⟨rfl,rfl,rfl,rfl⟩
   fun hd=>⟨hid,(h.stored _ g hg).1.mono hrep hd,verdict_current hv⟩
 | unknown=>
  rw[hv] at hrep
  exact h.stop hrep rfl fun _ _ hg=>hg
 | reused | expired=>
  rw[hv] at hrep
  exact h.stay hrep rfl (fun _ _ hg=>hg) ⟨rfl,rfl,rfl,rfl⟩ fun _=>trivial

def Oracle.Fresh(o:Oracle)(s:State):Prop:=∀ x,o.random=.ok x→x∉s.drawn∧hexadecimal x

lemma Rotates.random{o}(next:String→Stage)(hn:ns[i]? = some n)
 (hfail:∀ e,n.next cfg .random (.error e)=.ended)(hok:∀ x,n.next cfg .random (.ok x)=next x)
 (hfresh:o.Fresh s)
 (hdraw:∀ x,x∉s.drawn→hexadecimal x→
  Advances cfg s {s with drawn:=x::s.drawn} ns (ns.set i (next x))):
 Advances cfg s (step .random o s).2 ns (ns.set i (n.next cfg .random (step .random o s).1)):=by
 cases hr:o.random with
 | error e=>
  simp only[step,hr,hfail]
  exact h.stop (replaces_set hn) rfl fun _ _ hg=>hg
 | ok x=>
  simp only[step,hr,hok]
  exact hdraw x (hfresh x hr).1 (hfresh x hr).2
lemma Rotates.getGrant{id o}(hn:ns[i]? = some n)(hnone:n.next cfg (.getGrant id) none=.ended)
 (hsome:∀ g,s.find id=some g→Advances cfg s s ns (ns.set i (n.next cfg (.getGrant id) (some g)))):
 Advances cfg s (step (.getGrant id) o s).2 ns (ns.set i (n.next cfg (.getGrant id) (step (.getGrant id) o s).1)):=by
 cases hg:s.find id with
 | none=>
  simp only[step,hg,hnone]
  exact h.stop (replaces_set hn) rfl fun _ _ hg=>hg
 | some g=>
  simp only[step,hg]
  exact hsome g hg
lemma Rotates.authenticate{credential}(hn:ns[i]? = some (.authenticating credential))
 (hid:mcpTokenGrantID credential mcpAccessTokenPrefix=some g.id):
 Advances cfg s s ns (ns.set i (if cfg.sessionLookupKey credential≠g.accessHash then .ended else .checking credential g)):=by
 split_ifs
 ·exact h.stop (replaces_set hn) rfl fun _ _ hg=>hg
 ·exact h.stay (replaces_set hn) rfl (fun _ _ hg=>hg) ⟨rfl,rfl,rfl,rfl⟩ fun _=>hid
lemma Rotates.call{c o}(hn:ns[i]? = some n)(hall:n.allows cfg c)
 (hfresh:c=.random → o.Fresh s):
 Advances cfg s (step c o s).2 ns (ns.set i (n.next cfg c (step c o s).1)):=by
 have hrep:∀ n',Replaces ns (ns.set i n') i n':=fun _=>replaces_set hn
 have hmem:=mem_of_getElem? hn
 cases n with
 | presented token now=>
  cases c<;>simp only[Stage.allows] at hall
  exact h.getGrant hn rfl fun g hg=>h.read (hrep _) hall hg
 | rotating token g now=>
  cases c<;>cases hall
  refine h.random (.drawing token g now) hn (fun _=>rfl) (fun _=>rfl) (hfresh rfl) fun x hnew hhex=>?_
  exact h.draw hn (hrep _) hnew hhex (by simp[Stage.draws]) nofun nofun rfl
   fun s' hd=>Found.mono (h.sound _ hmem) (hrep _) hd
 | drawing token g now a=>
  cases c<;>cases hall
  refine h.random (.swapping token g now a) hn (fun _=>rfl) (fun _=>rfl) (hfresh rfl) fun x hnew hhex=>?_
  exact h.draw hn (hrep _) hnew hhex (by simp[Stage.draws]) nofun
   (fun _ hx=>.inr (by cases hx; rfl)) rfl (fun s' hd=>Found.mono (h.sound _ hmem) (hrep _) hd)
 | swapping token g now a r=>
  cases c<;>obtain ⟨rfl,rfl⟩:=hall
  rcases swapGrant_cases (s:=s) (minted cfg (rotated g now) now a r) g.refreshHash with hno | ⟨hcur,hyes⟩
  ·simp only[step,hno]
   exact h.stop (hrep _) rfl fun _ _ hg=>hg
  ·simp only[step,hyes]
   exact h.swap hn (hrep _) hcur
 | revoking id=>
  cases c<;>cases hall
  exact h.stop (hrep _) rfl (fun _ _ hg=>(find_deleteGrant hg).1)
 | issuing g now=>
  cases c<;>cases hall
  refine h.random (.naming g now) hn (fun _=>rfl) (fun _=>rfl) (hfresh rfl) fun x hnew hhex=>?_
  exact h.draw hn (hrep _) hnew hhex (by simp[Stage.draws]) (fun _ hx=>.inr (by cases hx; rfl))
   nofun rfl (fun _ _=>trivial)
 | naming g now x=>
  cases c<;>cases hall
  refine h.random (.minting g now x) hn (fun _=>rfl) (fun _=>rfl) (hfresh rfl) fun a hnew hhex=>?_
  exact h.draw hn (hrep _) hnew hhex (by simp[Stage.draws]) (fun _ hx=>.inl hx)
   nofun rfl (fun _ _=>trivial)
 | minting g now x a=>
  cases c<;>cases hall
  refine h.random (.putting g now x a) hn (fun _=>rfl) (fun _=>rfl) (hfresh rfl) fun r hnew hhex=>?_
  exact h.draw hn (hrep _) hnew hhex (by simp[Stage.draws]) (fun _ hx=>.inl hx)
   (fun _ hx=>.inr (by cases hx; rfl)) rfl (fun _ _=>trivial)
 | putting g now x a r=>
  cases c<;>cases hall
  exact h.put hn (hrep _)
 | authenticating credential=>
  cases c<;>simp only[Stage.allows] at hall
  exact h.getGrant hn rfl fun g hg=>h.authenticate hn (key_of_find? hg▸hall)
 | checking credential g=>
  cases c<;>cases hall
  change Advances cfg s s ns (ns.set i (if g.accessExpiresAt<o.time then .ended else .authenticated credential g))
  split
  ·exact h.stop (hrep _) rfl fun _ _ hg=>hg
  ·exact h.stay (hrep _) rfl (fun _ _ hg=>hg) ⟨rfl,rfl,rfl,rfl⟩ fun _=>h.sound _ hmem
 | removing=>
  cases c with
  | deleteGrant id=>exact h.stop (hrep _) rfl (fun _ _ hg=>(find_deleteGrant hg).1)
  | revokeSubjectGrants subject=>exact h.stop (hrep _) rfl (fun _ _ hg=>find_revoke hg)
  | _=>cases hall
 | exchanged token g a r | issued x a r | authenticated credential g | ended=>cases c<;>cases hall

end

end Rotates

def standing{cfg}(P:Pool (machine cfg)):List Stage:=(stages cfg).stages P

/-- What the random source answers is hexadecimal and was never drawn before. -/
def freshDraw(s:State):Call→Oracle→Bool
 | .random,o=>
  match o.random with
  | .error _=>true
  | .ok x=>x∉s.drawn&&hexadecimal x
 | _,_=>true

abbrev freshRuns(cfg:Config):Rules (machine cfg):=
 Allowed (fun _ _=>True) (fun P _ c o=>freshDraw P.state c o)

abbrev noGrants(cfg:Config):Pool (machine cfg):={state:={} }

section Runs

variable {cfg:Config}{P:Pool (machine cfg)}

variable {id token a r:String}{i:Nat}{g:MCPGrant}{s:State}{o:Oracle}{ns:List Stage}{n:Stage}
 {Q:Pool (machine cfg)}

lemma fresh_of_allowed{c}(ha:freshRuns cfg P (.step i o))(hnext:P.next i=some c):
 c=.random → o.Fresh P.state:=by
 rintro rfl x hx
 have hf:freshDraw P.state .random o:=ha .random hnext
 simpa[freshDraw,hx] using hf
section

variable (hr:Reach (freshRuns cfg) (noGrants cfg) P)

include hr

lemma rotates_of_reach:Rotates cfg P.state (standing P):=by
 refine (follows cfg).run_inv (A:=noGrants cfg) rfl (J:=Rotates cfg) ?_ ?_ ?_ hr
 ·exact ⟨by simp,by simp,by simp,by simp,nofun,by simp,by simp⟩
 ·intro P e _ _ h
  exact (h.start e).rotates
 ·intro P i o c n _ ha hnext hn hall h
  exact (h.call hn hall (fresh_of_allowed ha hnext)).rotates

def Returned(P:Pool (machine cfg))(i:Nat):Prop:=∃ p,P.procs[i]? = some p∧p.prog.finished

lemma last_of_returned(h:Returned P i):
 ∃ n,(standing P)[i]? = some n∧n.last:=by
 obtain ⟨p,hp,hf⟩:=h
 exact ⟨_,Protocol.stages_get hp,(follows cfg).last_of_finished rfl hr (mem_of_getElem? hp) hf⟩
lemma returned_of_ended(h:(standing P)[i]? = some .ended):
 Returned P i:=by
 obtain ⟨p,hp,hst⟩:∃ p,P.procs[i]? = some p∧(stages cfg).stageOf p.entry p.log=.ended:=by
  simpa[standing,Protocol.stages] using h
 obtain ⟨e,prog,log⟩:=p
 refine ⟨_,hp,?_⟩
 cases prog with
 | done a=>rfl
 | call c k=>
  have hall:=(follows cfg).allowed rfl hr hp
  rw[hst] at hall
  cases c<;>cases hall
 | invoke f k=>exact f.elim
lemma gone_of_reach(hset:Settled P.state (standing P) id)(hnone:P.state.find id=none)(hQ:Reach (freshRuns cfg) P Q):
 Q.state.find id=none:=by
 have hinv:=(follows cfg).pool_inv_since (A:=noGrants cfg) rfl hr
  (J:=fun (s:State) ns=>Rotates cfg s ns∧Settled s ns id∧s.find id=none) ⟨rotates_of_reach hr,hset,hnone⟩ ?_ ?_ hQ
 ·exact hinv.2.2
 ·rintro P e _ _ ⟨h,hset,hnone⟩
  exact ⟨(h.start e).rotates,(h.start e).settled id hset,hnone⟩
 ·rintro P i o c n _ ha hnext hn hall ⟨h,hset,hnone⟩
  have hadv:=h.call hn hall (fresh_of_allowed ha hnext)
  exact ⟨hadv.rotates,hadv.settled id hset,hadv.gone id hset hnone⟩
lemma revoked_of_reach(hset:Settled P.state (standing P) id)(hrev:(standing P)[i]? = some (.revoking id))
 (hQ:Reach (freshRuns cfg) P Q)(hret:Returned Q i):Q.state.find id=none:=by
 have hinv:=(follows cfg).pool_inv_since (A:=noGrants cfg) rfl hr
  (J:=fun (s:State) (ns:List Stage)=>Rotates cfg s ns∧Settled s ns id∧
   (ns[i]? = some (.revoking id)∨s.find id=none))
  ⟨rotates_of_reach hr,hset,.inl hrev⟩ ?_ ?_ hQ
 ·obtain ⟨n,hn,hlast⟩:=last_of_returned (hr.trans hQ) hret
  refine hinv.2.2.resolve_left fun hrev=>?_
  cases hn.symm.trans hrev
  cases hlast
 ·rintro P e _ _ ⟨h,hset,hcase⟩
  refine ⟨(h.start e).rotates,(h.start e).settled id hset,hcase.imp_left fun hrev=>?_⟩
  have hlt:=(List.getElem?_eq_some_iff.1 hrev).1
  exact (getElem?_append_left hlt).trans hrev
 ·rintro P j o c n _ ha hnext hn hall ⟨h,hset,hcase⟩
  have hadv:=h.call hn hall (fresh_of_allowed ha hnext)
  refine ⟨hadv.rotates,hadv.settled id hset,?_⟩
  rcases hcase with hrev | hnone
  ·by_cases hji:j=i
   ·subst hji
    obtain rfl:=Option.some.inj (hn.symm.trans hrev)
    refine .inr ?_
    cases c with
    | deleteGrant id'=>
     obtain rfl:id'=id:=hall
     cases hf:(step (.deleteGrant id') o P.state).2.find id' with
     | none=>rfl
     | some g=>exact absurd rfl (find_deleteGrant hf).2
    | _=>cases hall
   ·exact .inl ((getElem?_set_ne hji).trans hrev)
  ·exact .inr (hadv.gone id hset hnone)
omit hr in
lemma verdict_spent{cur}
 (h:Spent cfg s ns token g)(hcur:s.find g.id=some cur)(now):
 verdict cfg cur token now=if cfg.sessionLookupKey token=cur.prevRefreshHash then .reused else .unknown:=by
 have hne:cfg.sessionLookupKey token≠cur.refreshHash:=fun heq=>h.gone cur hcur heq.symm
 unfold verdict
 by_cases hprev:cfg.sessionLookupKey token=cur.prevRefreshHash
 ·rw[if_pos ⟨hprev▸cfg.nonempty token,hprev⟩,if_pos hprev]
 ·rw[if_neg fun hx=>hprev hx.2,if_pos hne,if_neg hprev]
lemma presented_exec{now P'}
 (hp:(standing P)[i]? = some (.presented token now))
 (hid:mcpTokenGrantID token mcpRefreshTokenPrefix=some id)(he:P.exec (.step i o)=some P'):
 Reach (freshRuns cfg) P P'∧P'.state=P.state∧
  standing P'=(standing P).set i ((Stage.presented token now).next cfg (.getGrant id) (P.state.find id)):=by
 obtain ⟨c,n,hnext,hn,hall,hstate,hst⟩ | ⟨f,_⟩:=(follows cfg).exec_step rfl hr he
 ·obtain rfl:=Option.some.inj (hp.symm.trans hn)
  cases c with
  | getGrant id'=>
   have hsame:id'=id:=Option.some.inj (hall.symm.trans hid)
   subst hsame
   have hfresh:freshRuns cfg P (.step i o):=by
    intro c hc
    rw[Option.mem_def,hnext] at hc
    cases hc
    rfl
   exact ⟨.step .init hfresh he,hstate,hst⟩
  | _=>cases hall
 ·exact f.elim
lemma reuse_revokes_iff{now P'}
 (hp:(standing P)[i]? = some (.presented token now))
 (hx: .exchanged token g a r∈standing P)(he:P.exec (.step i o)=some P'):
 (∀ Q,Reach (freshRuns cfg) P' Q→Returned Q i→Q.state.find g.id=none)↔
  ∀ cur,P.state.find g.id=some cur→cfg.sessionLookupKey token=cur.prevRefreshHash:=by
 have h:=rotates_of_reach hr
 have hs:Spent cfg P.state (standing P) token g:=h.sound _ hx
 obtain ⟨hreach,hstate,hst⟩:=presented_exec hr hp hs.names he
 have hr':=hr.trans hreach
 have hi:=(List.getElem?_eq_some_iff.1 hp).1
 cases hcur:P.state.find g.id with
 | none=>
  refine ⟨fun _ cur hc=>(by cases hc),fun _ Q hQ _=>?_⟩
  exact gone_of_reach hr hs.settled hcur (hreach.trans hQ)
 | some cur=>
  have hv:=verdict_spent hs hcur now
  have hstage:(standing P')[i]? = some (Stage.judged cfg token now cur g.id):=by
   rw[hst,hcur]
   simp[hi,Stage.next]
  constructor
  ·intro hall cur' hc
   cases hc
   by_contra hne
   rw[if_neg hne] at hv
   rw[Stage.judged,hv] at hstage
   have hgone:=hall P' .init (returned_of_ended hr' hstage)
   rw[hstate,hcur] at hgone
   cases hgone
  ·intro hprev Q hQ hret
   rw[if_pos (hprev cur rfl)] at hv
   rw[Stage.judged,hv] at hstage
   have hset:Settled P'.state (standing P') g.id:=by
    obtain ⟨x,hid,hpast⟩:=hs.settled
    refine ⟨x,hid,hstate▸hpast.drawn,fun m hm=>?_⟩
    rw[hst,hcur] at hm
    rcases mem_set_cases hm with rfl | ⟨j,_,hj⟩
    ·simp[Stage.next,Stage.judged,hv,Stage.pendingID]
    ·exact hpast.free m (mem_of_getElem? hj)
   exact revoked_of_reach hr' hset hstage hQ hret

end

lemma settled_of_gave(h:Rotates cfg s ns)(hn:n∈ns)
 (hg:n.gave=some (id,a,r)):Settled s ns id∧a∈s.drawn∧r∈s.drawn:=by
 have hsound:=h.sound n hn
 have hdraws:=h.draws n hn
 cases n with
 | issued x a' r'=>
  cases hg
  exact ⟨hsound,hdraws _ (by simp[Stage.draws]),hdraws _ (by simp[Stage.draws])⟩
 | exchanged token g a' r'=>
  cases hg
  exact ⟨hsound.settled,hdraws _ (by simp[Stage.draws]),hdraws _ (by simp[Stage.draws])⟩
 | _=>cases hg
lemma names_of_gave(h:Rotates cfg s ns)(hn:n∈ns)
 (hg:n.gave=some (id,a,r)):
 mcpTokenGrantID (accessToken id a) mcpAccessTokenPrefix=some id∧
  mcpTokenGrantID (refreshToken id r) mcpRefreshTokenPrefix=some id:=by
 obtain ⟨⟨x,rfl,hx⟩,ha,hr⟩:=settled_of_gave h hn hg
 have hhex:∀ y∈s.drawn,y≠""∧ '_' ∉ y.toList:=by
  intro y hy
  have hyx:=h.hex y hy
  simp only[hexadecimal,Bool.and_eq_true,decide_eq_true_eq,all_eq_true] at hyx
  exact ⟨hyx.1,fun hmem=>absurd (hyx.2 '_' hmem) (by decide)⟩
 have hid: '_' ∉ ("g"++x).toList:=by
  simpa using (hhex x hx.drawn).2
 have hne:"g"++x≠"":=by
  intro hx
  have:=congrArg String.length hx
  simp at this
 exact ⟨cut_token _ hid hne (hhex a ha).1,cut_token _ hid hne (hhex r hr).1⟩
lemma starts_of_names{start}(h:mcpTokenGrantID token start=some id):
 ∃ rest,token.toList=start.toList++rest:=by
 unfold mcpTokenGrantID at h
 cases hc:cutPrefix start.toList token.toList with
 | none=>simp[hc] at h
 | some rest=>exact ⟨rest,cutPrefix_eq_some hc⟩
lemma not_both{id'}(h:mcpTokenGrantID token mcpAccessTokenPrefix=some id)
 (h':mcpTokenGrantID token mcpRefreshTokenPrefix=some id'):False:=by
 obtain ⟨rest,hr⟩:=starts_of_names h
 obtain ⟨rest',hr'⟩:=starts_of_names h'
 rw[hr] at hr'
 simp[mcpAccessTokenPrefix,mcpRefreshTokenPrefix] at hr'
lemma accepted_names{m}(h:Rotates cfg s ns)
 (hm:m∈ns)(hacc:m.accepted=some (token,g))
 (hnames:mcpTokenGrantID token mcpRefreshTokenPrefix=some id∨mcpTokenGrantID token mcpAccessTokenPrefix=some id):
 g.id=id:=by
 have hsound:=h.sound m hm
 cases m with
 | exchanged token' g' a r=>
  cases hacc
  rcases hnames with hn | hn
  ·exact Option.some.inj (hsound.names.symm.trans hn)
  ·exact (not_both hn hsound.names).elim
 | checking credential g' | authenticated credential g'=>
  cases hacc
  rcases hnames with hn | hn
  ·exact (not_both hsound hn).elim
  ·exact Option.some.inj (hsound.symm.trans hn)
 | _=>cases hacc
lemma accepted_next{c}
 (hall:n.allows cfg c)(hnone:s.find id=none)
 (hx:(n.next cfg c (step c o s).1).accepted=some (token,g))(hid:g.id=id):n.accepted=some (token,g):=by
 cases n with
 | swapping token' g' now a r=>
  cases c with
  | swapGrant g'' old=>
   obtain ⟨rfl,rfl⟩:=hall
   rcases swapGrant_cases (s:=s) (minted cfg (rotated g' now) now a r) g'.refreshHash with hno | ⟨⟨cur,hcur,_⟩,hyes⟩
   ·simp only[step,hno] at hx
    cases hx
   ·simp only[step,hyes] at hx
    cases hx
    rw[show (minted cfg (rotated g now) now a r).id=id from hid,hnone] at hcur
    cases hcur
  | _=>cases hall
 | authenticating credential=>
  cases c with
  | getGrant id'=>
   cases hg:s.find id' with
   | none=>
    simp only[step,hg] at hx
    cases hx
   | some cur=>
    simp only[step,hg,Stage.next] at hx
    split_ifs at hx
    ·cases hx
    ·cases hx
     rw[←key_of_find? hg,hid,hnone] at hg
     cases hg
  | _=>cases hall
 | checking credential g'=>
  cases c with
  | now=>
   by_cases he:g'.accessExpiresAt<o.time
   ·rw[show (Stage.checking credential g').next cfg .now (step .now o s).1=.ended from if_pos he] at hx
    cases hx
   ·rw[show (Stage.checking credential g').next cfg .now (step .now o s).1=.authenticated credential g' from
     if_neg he] at hx
    exact hx
  | _=>cases hall
 | presented token' now=>
  cases c with
  | getGrant id'=>
   cases hg:s.find id' with
   | none=>
    simp only[step,hg] at hx
    cases hx
   | some cur=>
    simp only[step,hg,Stage.next,Stage.judged] at hx
    split at hx<;>cases hx
  | _=>cases hall
 | rotating token' g' now | drawing token' g' now a | issuing g' now | naming g' now x | minting g' now x a=>
  cases c with
  | random=>cases hr:o.random<;>simp only[step,hr] at hx<;>cases hx
  | _=>cases hall
 | putting g' now x a r | revoking id' | removing=>cases c<;>first | exact False.elim hall | cases hx
 | exchanged token' g' a r | issued x a r | authenticated credential g' | ended=>cases c<;>cases hall
lemma accepted_of_reach(hr:Reach (freshRuns cfg) (noGrants cfg) P)
 (hset:Settled P.state (standing P) id)(hnone:P.state.find id=none)(hQ:Reach (freshRuns cfg) P Q)
 {k:Nat}(hn:(standing Q)[k]? = some n)
 (hx:n.accepted=some (token,g))(hid:g.id=id):
 ∃ m,(standing P)[k]? = some m∧m.accepted=some (token,g):=by
 have hinv:=(follows cfg).each_since (A:=noGrants cfg) rfl hr
  (J:=fun (s:State) ns=>Rotates cfg s ns∧Settled s ns id∧s.find id=none)
  (G:=fun k (n:Stage)=>∀ token g,n.accepted=some (token,g) → g.id=id→
   ∃ m,(standing P)[k]? = some m∧m.accepted=some (token,g))
  ⟨rotates_of_reach hr,hset,hnone⟩ (fun k n hn token g hx _=>⟨n,hn,hx⟩) ?_ ?_ ?_ hQ
 ·exact hinv.2 k n hn token g hx hid
 ·rintro s ns e ⟨h,hset,hnone⟩
  exact ⟨(h.start e).rotates,(h.start e).settled id hset,hnone⟩
 ·intro k e _ token g hx
  have hfirst:(Stage.first e).accepted=none:=by
   cases e with
   | refresh token now | authenticate credential=>
    dsimp only[Stage.first]
    split_ifs<;>rfl
   | _=>rfl
  rw[hfirst] at hx
  cases hx
 ·rintro P' i o c n _ ha hnext hn hall ⟨h,hset,hnone⟩ hold
  have hadv:=h.call hn hall (fresh_of_allowed ha hnext)
  exact ⟨⟨hadv.rotates,hadv.settled id hset,hadv.gone id hset hnone⟩,
   fun token g hx hid=>hold token g (accepted_next hall hnone hx hid) hid⟩

end Runs

def marked:Config where
 sessionLookupKey token:= "h"++token
 injective _ _ h:=(String.append_right_inj _).1 h
 nonempty token h:=by
  have:=congrArg String.length h
  simp at this

def draw(i:Nat)(x:String):Action (machine marked):=.step i {random:=.ok x}

def firstExchange:List (Action (machine marked)):=
 [.start (.issue {} 0),draw 0 "aa",draw 0 "a0",draw 0 "b0",.step 0 {},
  .start (.refresh (refreshToken "gaa" "b0") 1),.step 1 {},draw 1 "a1",draw 1 "b1",.step 1 {}]

def presentedAgain:Pool (machine marked):=
 (noGrants marked).after (freshRuns marked) (firstExchange++[.start (.refresh (refreshToken "gaa" "b0") 2)])

def readAgain:Pool (machine marked):=presentedAgain.after (freshRuns marked) [.step 2 {}]

lemma presentedAgain_reach:Reach (freshRuns marked) (noGrants marked) presentedAgain:=reach_after (by decide +kernel)

def Stage.isExchanged(token id:String):Stage→Bool
 | .exchanged token' g _ _=>token'=token&&g.id=id
 | _=>false

lemma exchanged_of_any(ns:List Stage)(token id:String)(h:ns.any (Stage.isExchanged token id)):
 ∃ g a r,.exchanged token g a r∈ns∧g.id=id:=by
 obtain ⟨n,hn,hx⟩:=any_eq_true.1 h
 cases n with
 | exchanged token' g a r=>
  simp only[Stage.isExchanged,Bool.and_eq_true,decide_eq_true_eq] at hx
  exact ⟨g,a,r,hx.1▸hn,hx.2⟩
 | _=>cases hx

def forgotten:Pool (machine marked):=
 (noGrants marked).after (freshRuns marked) (firstExchange ++
  [.start (.refresh (refreshToken "gaa" "b1") 2),.step 2 {},draw 2 "a2",draw 2 "b2",.step 2 {},
   .start (.refresh (refreshToken "gaa" "b0") 3),.step 3 {}])

end Dazyflow.McpGrants
