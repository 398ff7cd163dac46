import Dazyflow.GoStrings
import Dazyflow.KeyedTable
import Dazyflow.ProgramStages

/-!
# Grants of connected clients

A connected client holds an access token and a refresh token; exchanging the refresh token rotates both.
-/
namespace Dazyflow.McpGrants
open Interleaving Protocol KeyedTable GoStrings

abbrev Time:=Int

def mcpAccessTokenPrefix:String:= "dzo_"

def mcpRefreshTokenPrefix:String:= "dzr_"

def mcpAccessTTL:Int:=60*60

def mcpRefreshTTL:Int:=30*24*60*60

/-- The digest that tokens are stored under, taken to have no collisions. -/
structure Config where
 sessionLookupKey:String→String
 injective:Function.Injective sessionLookupKey
 nonempty:∀ token,sessionLookupKey token≠""

structure MCPGrant where
 id:String:=""
 subject:String:=""
 tenant:String:=""
 workspace:String:=""
 accessHash:String:=""
 accessExpiresAt:Time:=0
 refreshHash:String:=""
 prevRefreshHash:String:=""
 refreshExpiresAt:Time:=0
 createdAt:Time:=0
 refreshedAt:Option Time:=none
 deriving DecidableEq

inductive AuthError
 | invalidCredential
 | refreshExpired
 | accessExpired
 | refreshReused
 | random (message:String)

def accessToken(id secret:String):String:=mcpAccessTokenPrefix++id++"_"++secret

def refreshToken(id secret:String):String:=mcpRefreshTokenPrefix++id++"_"++secret

def mcpTokenGrantID(token start:String):Option String:=
 match cutPrefix start.toList token.toList with
 | none=>none
 | some rest=>
  match cut '_' rest with
  | none=>none
  | some (id,secret)=>if id≠[]∧secret≠[] then some (String.ofList id) else none

abbrev Grants:=Table String MCPGrant MCPGrant.id

/-- The grants, and every random string that was ever drawn. -/
structure State where
 grants:Grants:=empty
 drawn:List String:=[]

def State.find(s:State)(id:String):Option MCPGrant:=s.grants.find? id

def State.putGrant(s:State)(g:MCPGrant):State:={s with grants:=s.grants.upsert g}

/-- Replaces the grant only while its refresh hash is still the old one. -/
def State.swapGrant(s:State)(g:MCPGrant)(oldRefreshHash:String):Bool×State:=
 if (s.find g.id).any (fun cur=>cur.refreshHash=oldRefreshHash) then (true,s.putGrant g) else (false,s)

def State.deleteGrant(s:State)(id:String):State:={s with grants:=s.grants.erase fun g=>g.id=id}

def State.revokeSubjectGrants(s:State)(subject:String):Nat×State:=
 ((s.grants.rows.filter fun g=>g.subject=subject).length,
  {s with grants:=s.grants.erase fun g=>g.subject=subject})

inductive Call
 | random
 | now
 | putGrant (g:MCPGrant)
 | getGrant (id:String)
 | swapGrant (g:MCPGrant)(oldRefreshHash:String)
 | deleteGrant (id:String)
 | revokeSubjectGrants (subject:String)

@[reducible] def Res:Call→Type
 | .random=>Except String String
 | .now=>Time
 | .putGrant _=>Unit
 | .getGrant _=>Option MCPGrant
 | .swapGrant _ _=>Bool
 | .deleteGrant _=>Unit
 | .revokeSubjectGrants _=>Nat

@[reducible] def sig:Sig where
 Call:=Call
 Res:=Res
 Ret:=Empty.elim

abbrev Program:=Prog sig

def ask(c:Call):Program (Res c):=Prog.ask (S:=sig) c

structure Oracle where
 random:Except String String:=.error ""
 time:Time:=0

def step:(c:Call)→Oracle→State→Res c×State
 | .random,o,s=>
  match o.random with
  | .error e=>(.error e,s)
  | .ok secret=>(.ok secret,{s with drawn:=secret::s.drawn})
 | .now,o,s=>(o.time,s)
 | .putGrant g,_,s=>((),s.putGrant g)
 | .getGrant id,_,s=>(s.find id,s)
 | .swapGrant g old,_,s=>s.swapGrant g old
 | .deleteGrant id,_,s=>((),s.deleteGrant id)
 | .revokeSubjectGrants subject,_,s=>s.revokeSubjectGrants subject

def minted(cfg:Config)(g:MCPGrant)(now:Time)(a r:String):MCPGrant:=
 { g with
  accessHash:=cfg.sessionLookupKey (accessToken g.id a)
  accessExpiresAt:=now+mcpAccessTTL
  refreshHash:=cfg.sessionLookupKey (refreshToken g.id r)
  refreshExpiresAt:=now+mcpRefreshTTL}

def mintMCPTokens(cfg:Config)(g:MCPGrant)(now:Time):Program (Except AuthError (MCPGrant×String×String)):=do
 match←ask .random with
 | .error e=>return .error (.random e)
 | .ok a=>
  match←ask .random with
  | .error e=>return .error (.random e)
  | .ok r=>return .ok (minted cfg g now a r,accessToken g.id a,refreshToken g.id r)

def named(g:MCPGrant)(now:Time)(id:String):MCPGrant:={g with id:="g"++id,createdAt:=now}

def issueMCPGrant(cfg:Config)(g:MCPGrant)(now:Time):Program (Except AuthError (MCPGrant×String×String)):=do
 match←ask .random with
 | .error e=>return .error (.random e)
 | .ok id=>
  match←mintMCPTokens cfg (named g now id) now with
  | .error e=>return .error e
  | .ok (g,access,refresh)=>
   ask (.putGrant g)
   return .ok (g,access,refresh)

inductive Verdict
 | reused
 | unknown
 | expired
 | current

def verdict(cfg:Config)(g:MCPGrant)(token:String)(now:Time):Verdict:=
 if g.prevRefreshHash≠""∧cfg.sessionLookupKey token=g.prevRefreshHash then .reused
 else if cfg.sessionLookupKey token≠g.refreshHash then .unknown
 else if g.refreshExpiresAt<now then .expired
 else .current

def rotated(g:MCPGrant)(now:Time):MCPGrant:={g with prevRefreshHash:=g.refreshHash,refreshedAt:=some now}

def exchange(cfg:Config)(token:String)(now:Time)(id:String)(g:MCPGrant):
 Program (Except AuthError (MCPGrant×String×String)):=
 match verdict cfg g token now with
 | .reused=>do
  ask (.deleteGrant id)
  return .error .refreshReused
 | .unknown=>return .error .invalidCredential
 | .expired=>do
  ask (.deleteGrant id)
  return .error .refreshExpired
 | .current=>do
  match←mintMCPTokens cfg (rotated g now) now with
  | .error e=>return .error e
  | .ok (g',access,refresh)=>
   if←ask (.swapGrant g' g.refreshHash) then return .ok (g',access,refresh)
   else return .error .invalidCredential

def refreshMCPGrant(cfg:Config)(token:String)(now:Time):
 Program (Except AuthError (MCPGrant×String×String)):=do
 match mcpTokenGrantID token mcpRefreshTokenPrefix with
 | none=>return .error .invalidCredential
 | some id=>
  match←ask (.getGrant id) with
  | none=>return .error .invalidCredential
  | some g=>exchange cfg token now id g

structure Principal where
 (subject tenant workspace:String)

def checkAccess(cfg:Config)(credential:String)(g:MCPGrant):Program (Except AuthError Principal):=do
 if cfg.sessionLookupKey credential≠g.accessHash then return .error .invalidCredential
 else
  let now←ask .now
  if g.accessExpiresAt<now then return .error .accessExpired
  else return .ok ⟨g.subject,g.tenant,g.workspace⟩

def authenticate(cfg:Config)(credential:String):Program (Except AuthError Principal):=do
 match mcpTokenGrantID credential mcpAccessTokenPrefix with
 | none=>return .error .invalidCredential
 | some id=>
  match←ask (.getGrant id) with
  | none=>return .error .invalidCredential
  | some g=>checkAccess cfg credential g

inductive Entry
 | issue (g:MCPGrant)(now:Time)
 | refresh (token:String)(now:Time)
 | authenticate (credential:String)
 | deleteGrant (id:String)
 | revokeSubjectGrants (subject:String)

def entry(cfg:Config):Entry→Program Unit
 | .issue g now=>do
  let _←issueMCPGrant cfg g now
 | .refresh token now=>do
  let _←refreshMCPGrant cfg token now
 | .authenticate credential=>do
  let _←authenticate cfg credential
 | .deleteGrant id=>ask (.deleteGrant id)
 | .revokeSubjectGrants subject=>do
  let _←ask (.revokeSubjectGrants subject)

@[reducible] def machine(cfg:Config):Machine sig where
 State:=State
 Oracle:=Oracle
 step:=step
 body:=Empty.rec
 Entry:=Entry
 entry:=entry cfg

/-- Where an operation stands. The secrets it has drawn stand last; `swapping` and
 `exchanged` keep the grant as it was read. -/
inductive Stage
 | presented (token:String)(now:Time)
 | rotating (token:String)(g:MCPGrant)(now:Time)
 | drawing (token:String)(g:MCPGrant)(now:Time)(a:String)
 | swapping (token:String)(g:MCPGrant)(now:Time)(a r:String)
 | exchanged (token:String)(g:MCPGrant)(a r:String)
 | revoking (id:String)
 | issuing (g:MCPGrant)(now:Time)
 | naming (g:MCPGrant)(now:Time)(x:String)
 | minting (g:MCPGrant)(now:Time)(x a:String)
 | putting (g:MCPGrant)(now:Time)(x a r:String)
 | issued (x a r:String)
 | authenticating (credential:String)
 | checking (credential:String)(g:MCPGrant)
 | authenticated (credential:String)(g:MCPGrant)
 | removing
 | ended
 deriving DecidableEq

def Stage.first:Entry→Stage
 | .issue g now=>.issuing g now
 | .refresh token now=>if (mcpTokenGrantID token mcpRefreshTokenPrefix).isSome then .presented token now else .ended
 | .authenticate credential=>
  if (mcpTokenGrantID credential mcpAccessTokenPrefix).isSome then .authenticating credential else .ended
 | .deleteGrant _=>.removing
 | .revokeSubjectGrants _=>.removing

def Stage.judged(cfg:Config)(token:String)(now:Time)(g:MCPGrant)(id:String):Stage:=
 match verdict cfg g token now with
 | .reused=>.revoking id
 | .unknown=>.ended
 | .expired=>.revoking id
 | .current=>.rotating token g now

def Stage.next(cfg:Config):Stage→(c:Call)→Res c→Stage
 | .presented token now,.getGrant id,some g=>.judged cfg token now g id
 | .rotating token g now,.random,.ok a=>.drawing token g now a
 | .drawing token g now a,.random,.ok r=>.swapping token g now a r
 | .swapping token g _ a r,.swapGrant _ _,true=>.exchanged token g a r
 | .issuing g now,.random,.ok x=>.naming g now x
 | .naming g now x,.random,.ok a=>.minting g now x a
 | .minting g now x a,.random,.ok r=>.putting g now x a r
 | .putting _ _ x a r,.putGrant _,_=>.issued x a r
 | .authenticating credential,.getGrant _,some g=>
  if cfg.sessionLookupKey credential≠g.accessHash then .ended else .checking credential g
 | .checking credential g,.now,t=>if g.accessExpiresAt<t then .ended else .authenticated credential g
 | _,_,_=>.ended

def Stage.allows(cfg:Config):Stage→Call→Prop
 | .presented token _,.getGrant id=>mcpTokenGrantID token mcpRefreshTokenPrefix=some id
 | .rotating _ _ _,.random=>True
 | .drawing _ _ _ _,.random=>True
 | .swapping _ g now a r,.swapGrant g' old=>g'=minted cfg (rotated g now) now a r∧old=g.refreshHash
 | .revoking id,.deleteGrant id'=>id'=id
 | .issuing _ _,.random=>True
 | .naming _ _ _,.random=>True
 | .minting _ _ _ _,.random=>True
 | .putting g now x a r,.putGrant g'=>g'=minted cfg (named g now x) now a r
 | .authenticating credential,.getGrant id=>mcpTokenGrantID credential mcpAccessTokenPrefix=some id
 | .checking _ _,.now=>True
 | .removing,.deleteGrant _=>True
 | .removing,.revokeSubjectGrants _=>True
 | _,_=>False

def Stage.last:Stage→Bool
 | .exchanged _ _ _ _=>true
 | .issued _ _ _=>true
 | .authenticated _ _=>true
 | .ended=>true
 | _=>false

@[reducible] def stages(cfg:Config):Protocol (machine cfg) where
 Stage:=Stage
 first:=Stage.first
 next:=Stage.next cfg
 allowed:=Stage.allows cfg
 pre f _:=f.elim
 post f _ _ _:=f.elim

section Follows

variable {cfg:Config}

lemma obeys_issue(g now):
 (stages cfg).Obeys (issueMCPGrant cfg g now) (.issuing g now) (fun _ n=>n.last):=by
 refine obeys_call trivial fun
  | .error e=>obeys_done rfl
  | .ok x=>?_
 refine obeys_call trivial fun
  | .error e=>obeys_done rfl
  | .ok a=>?_
 exact obeys_call trivial fun
  | .error e=>obeys_done rfl
  | .ok r=>obeys_call rfl (fun _=>obeys_done rfl)
lemma obeys_exchange(token now id g):
 (stages cfg).Obeys (exchange cfg token now id g) (Stage.judged cfg token now g id) (fun _ n=>n.last):=by
 unfold exchange Stage.judged
 cases verdict cfg g token now with
 | reused | expired=>exact obeys_call rfl (fun _=>obeys_done rfl)
 | unknown=>exact obeys_done rfl
 | current=>?_
 refine obeys_call trivial fun
  | .error e=>obeys_done rfl
  | .ok a=>?_
 refine obeys_call trivial fun
  | .error e=>obeys_done rfl
  | .ok r=>?_
 exact obeys_call ⟨rfl,rfl⟩ fun
  | false=>obeys_done rfl
  | true=>obeys_done rfl
lemma obeys_refresh(token now):
 (stages cfg).Obeys (refreshMCPGrant cfg token now) (Stage.first (.refresh token now)) (fun _ n=>n.last):=by
 unfold refreshMCPGrant
 cases hid:mcpTokenGrantID token mcpRefreshTokenPrefix with
 | none=>exact obeys_done (by simp[Stage.first,hid,Stage.last])
 | some id=>
  rw[show Stage.first (.refresh token now)=.presented token now by simp[Stage.first,hid]]
  exact obeys_call hid fun
   | none=>obeys_done rfl
   | some g=>obeys_exchange token now id g
lemma obeys_authenticate(credential):
 (stages cfg).Obeys (authenticate cfg credential) (Stage.first (.authenticate credential)) (fun _ n=>n.last):=by
 unfold authenticate
 cases hid:mcpTokenGrantID credential mcpAccessTokenPrefix with
 | none=>exact obeys_done (by simp[Stage.first,hid,Stage.last])
 | some id=>?_
 rw[show Stage.first (.authenticate credential)=.authenticating credential by simp[Stage.first,hid]]
 refine obeys_call hid fun
  | none=>obeys_done rfl
  | some g=>?_
 refine obeys_ite (fun _=>obeys_done rfl) fun _=>?_
 exact obeys_call trivial fun now=>obeys_ite (fun _=>obeys_done rfl) fun _=>obeys_done rfl
lemma follows(cfg):(stages cfg).Follows (fun n=>n.last) where
 entries e:=by
  cases e with
  | issue g now=>exact obeys_bind (obeys_issue g now) (fun _ _ hn=>obeys_done hn)
  | refresh token now=>exact obeys_bind (obeys_refresh token now) (fun _ _ hn=>obeys_done hn)
  | authenticate credential=>exact obeys_bind (obeys_authenticate credential) (fun _ _ hn=>obeys_done hn)
  | deleteGrant id=>exact obeys_ask trivial (fun _=>rfl)
  | revokeSubjectGrants subject=>exact obeys_call trivial (fun _=>obeys_done rfl)

end Follows

end Dazyflow.McpGrants
