import Dazyflow.ExpiringCache
import Dazyflow.ProgramStages

/-!
# Stripe events and the plan of a tenant

The webhook of `httpbilling.go` over the plan store and the plan cache of each instance.
-/
namespace Dazyflow.StripeEvents
open Interleaving Protocol KeyedTable List Function

inductive Plan
 | free | pro
 deriving DecidableEq

structure TenantPlan where
 tenant:String
 plan:Plan:=.free
 stripeCustomerID:String:=""
 stripeSubscriptionID:String:=""
 subscriptionStatus:String:=""
 currentPeriodEnd:Int:=0
 cancelAtPeriodEnd:Bool:=false
 deriving DecidableEq

inductive EventType
 | checkoutSessionCompleted
 | subscriptionUpdated
 | subscriptionDeleted
 | other
 deriving DecidableEq

structure StripeObject where
 id:String:=""
 customer:String:=""
 subscription:String:=""
 clientReferenceID:String:=""
 status:String:=""
 paymentStatus:String:=""
 metadataTenant:String:=""
 cancelAtPeriodEnd:Bool:=false
 currentPeriodEnd:Int:=0
 itemPeriodEnds:List Int:=[]
 deriving DecidableEq

structure StripeEvent where
 id:String
 type:EventType
 object:StripeObject
 deriving DecidableEq

def terminalSubscriptionStatus(s:String):Bool:=s== "canceled"||s== "incomplete_expired"

def proSubscriptionStatus(s:String):Bool:=s== "active"||s== "trialing"||s== "past_due"

namespace StripeEvent

def tenant(ev:StripeEvent):String:=
 match ev.type with
 | .checkoutSessionCompleted=>ev.object.clientReferenceID
 | .subscriptionUpdated | .subscriptionDeleted=>ev.object.metadataTenant
 | .other=>""

def subscription(ev:StripeEvent):String:=
 match ev.type with
 | .checkoutSessionCompleted=>ev.object.subscription
 | _=>ev.object.id

def ends(ev:StripeEvent):Bool:=
 match ev.type with
 | .subscriptionDeleted=>true
 | .subscriptionUpdated=>terminalSubscriptionStatus ev.object.status
 | _=>false

/-- Every event of Stripe has an id, and a deleted subscription has ended. -/
def Genuine(ev:StripeEvent):Prop:=
 ev.id≠""∧(ev.type=.subscriptionDeleted→ev.object.status=""∨terminalSubscriptionStatus ev.object.status)

end StripeEvent

def checkoutPlan(obj:StripeObject)(cur:TenantPlan):Option TenantPlan:=
 if cur.stripeSubscriptionID=obj.subscription∧cur.subscriptionStatus≠"" then none
 else some
  { tenant:=obj.clientReferenceID
    plan:=.pro
    stripeCustomerID:=obj.customer
    stripeSubscriptionID:=obj.subscription
    subscriptionStatus:="active" }

def eventStatus(deleted:Bool)(obj:StripeObject):String:=
 if deleted∧obj.status="" then "canceled" else obj.status

def periodEnd(obj:StripeObject):Int:=obj.itemPeriodEnds.foldl max obj.currentPeriodEnd

def subscriptionPlan(deleted:Bool)(obj:StripeObject)(cur:TenantPlan):Option TenantPlan:=
 let status:=eventStatus deleted obj
 if cur.stripeSubscriptionID=obj.id∧terminalSubscriptionStatus cur.subscriptionStatus∧
  terminalSubscriptionStatus status=false then none
 else some
  { tenant:=obj.metadataTenant
    plan:=if deleted=false∧proSubscriptionStatus status then .pro else .free
    stripeCustomerID:=obj.customer
    stripeSubscriptionID:=obj.id
    subscriptionStatus:=status
    currentPeriodEnd:=if 0<periodEnd obj then periodEnd obj else 0
    cancelAtPeriodEnd:=obj.cancelAtPeriodEnd}

structure Config where
 ttl:Nat

def Config.lifetime(cfg:Config):Nat:=if cfg.ttl=0 then 30000000000 else cfg.ttl

abbrev PlanCache:=ExpiringCache.Cache String TenantPlan

structure State where
 plan:String→TenantPlan
 processed:List String:=[]
 cache:Nat→PlanCache:=fun _=>empty

inductive Call
 | stripeEventProcessed (id:String)
 | cacheGet (inst:Nat)(tenant:String)
 | cachePut (inst:Nat)(p:TenantPlan)
 | getPlan (tenant:String)
 | setPlan (p:TenantPlan)
 | markStripeEvent (id:String)

@[reducible] def Res:Call→Type
 | .stripeEventProcessed _=>Option Bool
 | .cacheGet .. =>Option TenantPlan
 | .cachePut .. =>Unit
 | .getPlan _=>Option TenantPlan
 | .setPlan _=>Option Unit
 | .markStripeEvent _=>Option Bool

@[reducible] def sig:Sig where
 Call:=Call
 Res:=Res

abbrev ask(c:Call):Prog sig (Res c):=Prog.ask (S:=sig) c

structure Oracle where
 now:Nat:=0
 fails:Bool:=false

def fresh(cfg:Config)(now:Nat)(e:ExpiringCache.Item String TenantPlan):Bool:=now<e.cachedAt+cfg.lifetime

def step(cfg:Config):(c:Call)→Oracle→State→Res c×State
 | .stripeEventProcessed id,o,s=>(if o.fails then none else some (s.processed.contains id),s)
 | .cacheGet inst tenant,o,s=>
  let r:=ExpiringCache.get (fresh cfg o.now) (s.cache inst) tenant
  (r.1,{s with cache:=update s.cache inst r.2})
 | .cachePut inst p,o,s=>
  ((),{s with cache:=update s.cache inst ((s.cache inst).upsert ⟨p.tenant,p,o.now⟩)})
 | .getPlan tenant,o,s=>(if o.fails then none else some (s.plan tenant),s)
 | .setPlan p,o,s=>
  if o.fails then (none,s) else (some (),{s with plan:=update s.plan p.tenant p})
 | .markStripeEvent id,o,s=>
  if o.fails then (none,s)
  else if id∈s.processed then (some false,s)
  else (some true,{s with processed:=id::s.processed})

def cachedGetPlan(inst:Nat)(tenant:String):Prog sig (Option TenantPlan):=do
 match←ask (.cacheGet inst tenant) with
 | some p=>pure (some p)
 | none=>
  match←ask (.getPlan tenant) with
  | none=>pure none
  | some p=>
   let _←ask (.cachePut inst p)
   pure (some p)

def cachedSetPlan(inst:Nat)(p:TenantPlan):Prog sig Bool:=do
 match←ask (.setPlan p) with
 | none=>pure false
 | some _=>
  let _←ask (.cachePut inst p)
  pure true

def revise(inst:Nat)(tenant:String)(made:TenantPlan→Option TenantPlan):Prog sig Bool:=do
 match←cachedGetPlan inst tenant with
 | none=>pure false
 | some cur=>
  match made cur with
  | none=>pure true
  | some p=>cachedSetPlan inst p

def applyStripeEvent(inst:Nat)(ev:StripeEvent):Prog sig Bool:=
 let obj:=ev.object
 match ev.type with
 | .checkoutSessionCompleted=>
  if obj.clientReferenceID="" then pure true
  else if obj.paymentStatus≠"paid"∧obj.paymentStatus≠"no_payment_required" then pure true
  else revise inst obj.clientReferenceID (checkoutPlan obj)
 | .subscriptionUpdated=>
  if obj.metadataTenant="" then pure true
  else revise inst obj.metadataTenant (subscriptionPlan false obj)
 | .subscriptionDeleted=>
  if obj.metadataTenant="" then pure true
  else revise inst obj.metadataTenant (subscriptionPlan true obj)
 | .other=>pure true

inductive Reply
 | ok | applyFailed

/-- `stripeEvents` once the event is read and its signature verified, from the apply on. -/
def applyAndMark(inst:Nat)(ev:StripeEvent):Prog sig Reply:=do
 if←applyStripeEvent inst ev then
  if ev.id="" then pure .ok
  else
   let _←ask (.markStripeEvent ev.id)
   pure .ok
 else pure .applyFailed

def stripeEvents(inst:Nat)(ev:StripeEvent):Prog sig Reply:=
 if ev.id="" then applyAndMark inst ev
 else do
  match←ask (.stripeEventProcessed ev.id) with
  | some true=>pure .ok
  | _=>applyAndMark inst ev

inductive Entry
 | deliver (inst:Nat)(ev:StripeEvent)
 | read (inst:Nat) (tenant:String)
 deriving DecidableEq

@[reducible] def machine(cfg:Config):Machine sig where
 State:=State
 Oracle:=Oracle
 step:=step cfg
 Entry:=Entry
 entry
  | .deliver inst ev=>do
   let _←stripeEvents inst ev
   pure ()
  | .read inst tenant=>do
   let _←cachedGetPlan inst tenant
   pure ()

def StripeEvent.planFor(ev:StripeEvent)(cur:TenantPlan):Option TenantPlan:=
 match ev.type with
 | .checkoutSessionCompleted=>checkoutPlan ev.object cur
 | .subscriptionUpdated=>subscriptionPlan false ev.object cur
 | .subscriptionDeleted=>subscriptionPlan true ev.object cur
 | .other=>none

inductive Stage
 | delivered (ev:StripeEvent)
 | reading (ev:Option StripeEvent)
 | missed (ev:Option StripeEvent)
 /-- the plan is read and not cached yet -/
 | filling (ev:Option StripeEvent) (cur:TenantPlan)
 | deciding (ev:StripeEvent) (cur:TenantPlan)
 /-- the plan is written, the cache not yet -/
 | written (ev:StripeEvent)
 | applied (ev:StripeEvent)
 | over (ev:Option StripeEvent)
 deriving DecidableEq

namespace Stage

def event:Stage→Option StripeEvent
 | .delivered ev=>some ev
 | .reading ev=>ev
 | .missed ev=>ev
 | .filling ev _=>ev
 | .deciding ev _=>some ev
 | .written ev=>some ev
 | .applied ev=>some ev
 | .over ev=>ev

def wrote:Stage→Option StripeEvent
 | .written ev=>some ev
 | .applied ev=>some ev
 | _=>none

def first:Entry→Stage
 | .deliver _ ev=>if ev.id="" then .reading (some ev) else .delivered ev
 | .read _ _=>.reading none

def known(ev:Option StripeEvent)(cur:TenantPlan):Stage:=
 match ev with
 | some ev=>.deciding ev cur
 | none=>.over none

def next:Stage→(c:Call)→Res c→Stage
 | .delivered ev,.stripeEventProcessed _,some true=>.over (some ev)
 | .delivered ev,.stripeEventProcessed _,_=>.reading (some ev)
 | .reading ev,.cacheGet ..,some cur=>known ev cur
 | .reading ev,.cacheGet ..,none=>.missed ev
 | .missed ev,.getPlan _,some cur=>.filling ev cur
 | .missed ev,.getPlan _,none=>.over ev
 | .filling ev cur,.cachePut ..,_=>known ev cur
 | .deciding ev _,.setPlan _,some _=>.written ev
 | .deciding ev _,.setPlan _,none=>.over (some ev)
 | .written ev,.cachePut ..,_=>.applied ev
 | n,_,_=>n

def allows:Stage→Call→Prop
 | .delivered ev,.stripeEventProcessed id=>id=ev.id
 | .reading _,.cacheGet .. =>True
 | .reading _,.markStripeEvent _=>True
 | .missed _,.getPlan _=>True
 | .filling _ _,.cachePut .. =>True
 | .deciding ev cur,.setPlan p=>ev.planFor cur=some p
 | .deciding _ _,.markStripeEvent _=>True
 | .written _,.cachePut .. =>True
 | .applied _,.markStripeEvent _=>True
 | _,_=>False

end Stage

@[reducible] def stages(cfg:Config):Protocol (machine cfg) where
 Stage:=Stage
 first:=Stage.first
 next:=Stage.next
 allowed:=Stage.allows

variable {cfg:Config}

lemma obeys_cachedGetPlan(inst tenant ev):
 (stages cfg).Obeys (cachedGetPlan inst tenant) (.reading ev)
  (fun r n=>n=match r with
   | some cur=>Stage.known ev cur
   | none=>.over ev):=by
 refine obeys_call trivial fun
  | some cur=>obeys_done rfl
  | none=>?_
 exact obeys_call trivial fun
  | none=>obeys_done rfl
  | some cur=>obeys_call trivial (fun _=>obeys_done rfl)

def Handled(ev:StripeEvent)(r:Bool)(n:Stage):Prop:=
 r → n=.reading (some ev)∨(∃ cur,n=.deciding ev cur)∨n=.applied ev

lemma obeys_cachedSetPlan(inst){ev cur p}(h:ev.planFor cur=some p):
 (stages cfg).Obeys (cachedSetPlan inst p) (.deciding ev cur) (Handled ev):=by
 exact obeys_call h fun
  | none=>obeys_done nofun
  | some u=>obeys_call trivial (fun _=>obeys_done fun _=>.inr (.inr rfl))
lemma obeys_revise(inst tenant){ev f}
 (hf:ev.planFor=f):(stages cfg).Obeys (revise inst tenant f) (.reading (some ev)) (Handled ev):=by
 refine obeys_bind (obeys_cachedGetPlan inst tenant (some ev)) ?_
 rintro r _ rfl
 cases r with
 | none=>exact obeys_done nofun
 | some cur=>?_
 subst hf
 cases hp:ev.planFor cur with
 | none=>
  simp only[hp]
  exact obeys_done fun _=>.inr (.inl ⟨cur,rfl⟩)
 | some p=>
  simp only[hp]
  exact obeys_cachedSetPlan inst hp
lemma obeys_applyStripeEvent(inst ev):
 (stages cfg).Obeys (applyStripeEvent inst ev) (.reading (some ev)) (Handled ev):=by
 have hskip:(stages cfg).Obeys (pure true) (.reading (some ev)) (Handled ev):=obeys_done fun _=>.inl rfl
 unfold applyStripeEvent
 cases ht:ev.type with
 | checkoutSessionCompleted=>
  simp only
  split_ifs
  ·exact hskip
  ·exact hskip
  ·exact obeys_revise inst _ (by funext cur; simp only[StripeEvent.planFor,ht])
 | subscriptionUpdated | subscriptionDeleted=>
  simp only
  split_ifs
  ·exact hskip
  ·exact obeys_revise inst _ (by funext cur; simp only[StripeEvent.planFor,ht])
 | other=>exact hskip
lemma obeys_applyAndMark(inst ev):
 (stages cfg).Obeys (applyAndMark inst ev) (.reading (some ev)) (fun _ _=>True):=by
 refine obeys_bind (obeys_applyStripeEvent inst ev) fun r n h=>?_
 cases r with
 | false=>exact obeys_done trivial
 | true=>
  simp only[if_true]
  split_ifs
  ·exact obeys_done trivial
  ·refine obeys_end ?_
   rcases h rfl with rfl | ⟨cur,rfl⟩ | rfl<;>trivial
lemma follows(cfg):(stages cfg).Follows (fun _=>True) where
 entries e:=by
  cases e with
  | read inst tenant=>exact obeys_bind (obeys_cachedGetPlan inst tenant none) (fun _ _ _=>obeys_done trivial)
  | deliver inst ev=>?_
  refine obeys_bind (Q:=fun _ _=>True) ?_ fun _ _ _=>obeys_done trivial
  refine obeys_ite (fun _=>obeys_applyAndMark inst ev) fun _=>obeys_call rfl fun r=>?_
  match r with
  | some true=>exact obeys_done trivial
  | some false=>exact obeys_applyAndMark inst ev
  | none=>exact obeys_applyAndMark inst ev

section Write

variable {ev:StripeEvent}{cur p:TenantPlan}

lemma checkoutPlan_some{obj}(h:checkoutPlan obj cur=some p):
 (cur.stripeSubscriptionID=obj.subscription→cur.subscriptionStatus="")∧p.tenant=obj.clientReferenceID∧
  p.stripeSubscriptionID=obj.subscription∧p.subscriptionStatus="active":=by
 unfold checkoutPlan at h
 split_ifs at h with hc
 cases h
 exact ⟨fun hs=>by_contra fun hne=>hc ⟨hs,hne⟩,rfl,rfl,rfl⟩
lemma subscriptionPlan_some{deleted obj}(h:subscriptionPlan deleted obj cur=some p):
 (cur.stripeSubscriptionID=obj.id→terminalSubscriptionStatus cur.subscriptionStatus→
  terminalSubscriptionStatus p.subscriptionStatus)∧p.tenant=obj.metadataTenant∧
  p.stripeSubscriptionID=obj.id∧p.subscriptionStatus=eventStatus deleted obj∧
  (p.plan=.pro→proSubscriptionStatus p.subscriptionStatus):=by
 unfold subscriptionPlan at h
 dsimp only at h
 by_cases hc:cur.stripeSubscriptionID=obj.id∧terminalSubscriptionStatus cur.subscriptionStatus∧
  terminalSubscriptionStatus (eventStatus deleted obj)=false
 ·rw[if_pos hc] at h
  cases h
 ·rw[if_neg hc] at h
  cases h
  refine ⟨fun hs ht=>?_,rfl,rfl,rfl,fun hp=>?_⟩
  ·by_contra hne
   exact hc ⟨hs,ht,by simpa using hne⟩
  ·dsimp only at hp
   split_ifs at hp with hpro
   exact hpro.2
lemma not_pro_of_terminal{status}(h:terminalSubscriptionStatus status):
 proSubscriptionStatus status=false:=by
 simp only[terminalSubscriptionStatus,Bool.or_eq_true,beq_iff_eq] at h
 rcases h with rfl | rfl<;>decide

structure Writes(ev:StripeEvent)(cur p:TenantPlan):Prop where
 tenant:p.tenant=ev.tenant
 subscription:p.stripeSubscriptionID=ev.subscription
 paid:p.plan=.pro→proSubscriptionStatus p.subscriptionStatus
 /-- a subscription that was over stays so -/
 stays:cur.stripeSubscriptionID=ev.subscription→terminalSubscriptionStatus cur.subscriptionStatus→
  terminalSubscriptionStatus p.subscriptionStatus
 ends:ev.Genuine→ev.ends→terminalSubscriptionStatus p.subscriptionStatus

lemma writes_subscription{deleted}(ht:ev.type=if deleted then .subscriptionDeleted else .subscriptionUpdated)
 (h:subscriptionPlan deleted ev.object cur=some p):Writes ev cur p:=by
 obtain ⟨hstays,htenant,hsub,hstatus,hpro⟩:=subscriptionPlan_some h
 refine ⟨htenant.trans ?_,hsub.trans ?_,hpro,fun hs=>hstays (hs.trans ?_),fun hgen hends=>?_⟩
 ·cases deleted<;>simp[StripeEvent.tenant,ht]
 ·cases deleted<;>simp[StripeEvent.subscription,ht]
 ·cases deleted<;>simp[StripeEvent.subscription,ht]
 rw[hstatus]
 cases deleted with
 | false=>simpa[StripeEvent.ends,ht,eventStatus] using hends
 | true=>?_
 unfold eventStatus
 rcases hgen.2 ht with he | he
 ·rw[if_pos ⟨rfl,he⟩]
  rfl
 ·split_ifs
  ·rfl
  ·exact he
lemma writes_of_planFor(h:ev.planFor cur=some p):Writes ev cur p:=by
 unfold StripeEvent.planFor at h
 cases ht:ev.type with
 | checkoutSessionCompleted=>
  simp only[ht] at h
  obtain ⟨hnew,htenant,hsub,hstatus⟩:=checkoutPlan_some h
  refine ⟨by simp[htenant,StripeEvent.tenant,ht],by simp[hsub,StripeEvent.subscription,ht],fun _=>by rw[hstatus]; rfl,
   fun hs hover=>?_,fun _ hends=>by simp[StripeEvent.ends,ht] at hends⟩
  ·rw[hnew (hs.trans (by simp[StripeEvent.subscription,ht]))] at hover
   cases hover
 | subscriptionUpdated | subscriptionDeleted=>
  simp only[ht] at h
  exact writes_subscription (by simpa using ht) h
 | other=>
  simp only[ht] at h
  cases h

end Write

def standing(P:Pool (machine cfg)):List Stage:=(stages cfg).stages P

/-- The stored subscription is the delivery's own, or it does not keep Pro and no delivery
 about this one has written the plan before. -/
abbrev ownTurn(s:State)(ns:List Stage)(ev:StripeEvent):Prop:=
 (s.plan ev.tenant).stripeSubscriptionID=ev.subscription∨
  proSubscriptionStatus (s.plan ev.tenant).subscriptionStatus=false∧
  ∀ n∈ns,∀ ev'∈n.wrote,ev'.tenant=ev.tenant→ev'.subscription≠ev.subscription

/-- A delivery writes only while the plan is as it has read it, in its own turn, and the
 store answers whether a marked event was processed. -/
def calm(s:State)(ns:List Stage)(i:Nat)(c:Call)(o:Oracle):Prop:=
 match c with
 | .setPlan _=>
  match ns[i]? with
  | some (.deciding ev cur)=>cur=s.plan ev.tenant∧ownTurn s ns ev
  | _=>True
 | .stripeEventProcessed id=>id∈s.processed → o.fails=false
 | _=>True

def genuineStart:Entry→Prop
 | .deliver _ ev=>ev.Genuine
 | .read _ _=>True

abbrev stripeRuns(cfg:Config):Rules (machine cfg):=
 Allowed (fun _ e=>genuineStart e) (fun _ _ _ _=>True)

abbrev calmRuns(cfg:Config):Rules (machine cfg):=
 Allowed (fun _ e=>genuineStart e) (fun P i c o=>calm P.state (standing P) i c o)

def noPlans(cfg:Config):Pool (machine cfg):={state:={plan:=fun t=>{tenant:=t} } }

structure Settled(s:State)(ns:List Stage):Prop where
 genuine:∀ n∈ns,∀ ev∈n.event,ev.Genuine
 paid:∀ t,(s.plan t).plan=.pro→proSubscriptionStatus (s.plan t).subscriptionStatus
 ended:∀ n∈ns,∀ ev∈n.wrote,ev.ends→(s.plan ev.tenant).stripeSubscriptionID=ev.subscription→
  terminalSubscriptionStatus (s.plan ev.tenant).subscriptionStatus

lemma next_keeps(n:Stage)(c:Call)(r:Res c):
 (n.next c r).event=n.event∧((∀ p,c≠.setPlan p)→(n.next c r).wrote=n.wrote):=by
 cases n with
 | delivered ev=>
  cases c with
  | stripeEventProcessed id=>
   match r with
   | some true=>exact ⟨rfl,fun _=>rfl⟩
   | some false=>exact ⟨rfl,fun _=>rfl⟩
   | none=>exact ⟨rfl,fun _=>rfl⟩
  | _=>exact ⟨rfl,fun _=>rfl⟩
 | reading ev=>
  cases c with
  | cacheGet inst tenant=>cases r<;>cases ev<;>exact ⟨rfl,fun _=>rfl⟩
  | _=>exact ⟨rfl,fun _=>rfl⟩
 | missed ev=>
  cases c with
  | getPlan tenant=>cases r<;>exact ⟨rfl,fun _=>rfl⟩
  | _=>exact ⟨rfl,fun _=>rfl⟩
 | filling ev cur=>
  cases c with
  | cachePut inst p=>cases ev<;>exact ⟨rfl,fun _=>rfl⟩
  | _=>exact ⟨rfl,fun _=>rfl⟩
 | deciding ev cur=>
  cases c with
  | setPlan p=>cases r<;>exact ⟨rfl,fun h=>absurd rfl (h p)⟩
  | _=>exact ⟨rfl,fun _=>rfl⟩
 | _=>cases c<;>exact ⟨rfl,fun _=>rfl⟩
lemma stageOf_event(e:Entry)(log:List (Event (machine cfg))):
 ((stages cfg).stageOf e log).event=(Stage.first e).event:=by
 induction log with
 | nil=>rfl
 | cons x rest ih=>exact (next_keeps _ _ _).1.trans ih
lemma plan_step{c}(hc:∀ p,c≠.setPlan p)(o s):(step cfg c o s).2.plan=s.plan:=by
 cases c with
 | setPlan p=>exact absurd rfl (hc p)
 | markStripeEvent id=>
  simp only[step]
  split_ifs<;>rfl
 | _=>rfl

section Step

variable {s s':State}{ns:List Stage}{n:Stage}{i:Nat}

lemma Settled.stay(h:Settled s ns){m}(hn:ns[i]? = some n)(hplan:s'.plan=s.plan)
 (hevent:m.event=n.event)(hwrote:m.wrote=n.wrote):Settled s' (ns.set i m):=by
 have hmem:n∈ns:=mem_of_getElem? hn
 refine ⟨fun x hx ev hev=>?_,fun t=>hplan▸h.paid t,fun x hx ev hev=>?_⟩
 ·rcases mem_or_eq_of_mem_set hx with hx | rfl
  ·exact h.genuine x hx ev hev
  ·exact h.genuine n hmem ev (hevent▸hev)
 ·rw[hplan]
  rcases mem_or_eq_of_mem_set hx with hx | rfl
  ·exact h.ended x hx ev hev
  ·exact h.ended n hmem ev (hwrote▸hev)

structure Turn(s:State)(ns:List Stage)(ev:StripeEvent)(p:TenantPlan):Prop where
 writes:Writes ev (s.plan ev.tenant) p
 own:ownTurn s ns ev

lemma Turn.ended{ev ev' p}(h:Settled s ns)(ht:Turn s ns ev p){m}(hm:m∈ns)
 (hw:ev'∈m.wrote)(hends:ev'.ends)(htenant:ev'.tenant=ev.tenant)
 (hsub:ev'.subscription=ev.subscription):terminalSubscriptionStatus p.subscriptionStatus:=by
 rcases ht.own with hown | ⟨_,hnew⟩
 ·have hover:=h.ended m hm ev' hw hends (by rw[htenant,hsub]; exact hown)
  rw[htenant] at hover
  exact ht.writes.stays hown hover
 ·exact absurd hsub (hnew m hm ev' hw htenant)
lemma Settled.write(h:Settled s ns){ev cur p}(hn:ns[i]? = some (.deciding ev cur))
 (ht:Turn s ns ev p):
 Settled {s with plan:=update s.plan p.tenant p} (ns.set i (.written ev)):=by
 have hmem:=mem_of_getElem? hn
 have hgen:ev.Genuine:=h.genuine _ hmem ev rfl
 have hat:=ht.writes.tenant
 refine ⟨fun x hx ev' hev=>?_,fun t=>?_,fun x hx ev' hev hends hsub=>?_⟩
 ·rcases mem_or_eq_of_mem_set hx with hx | rfl
  ·exact h.genuine x hx ev' hev
  ·cases hev
   exact hgen
 ·by_cases htt:t=p.tenant
  ·subst htt
   simpa using ht.writes.paid
  ·simpa[update_of_ne htt] using h.paid t
 ·by_cases htt:ev'.tenant=p.tenant
  ·dsimp only at hsub ⊢
   rw[htt,update_self] at hsub ⊢
   rcases mem_or_eq_of_mem_set hx with hx | rfl
   ·exact ht.ended h hx hev hends (htt.trans hat) (hsub.symm.trans ht.writes.subscription)
   ·cases hev
    exact ht.writes.ends hgen hends
  ·simp only[update_of_ne htt] at hsub ⊢
   rcases mem_or_eq_of_mem_set hx with hx | rfl
   ·exact h.ended x hx ev' hev hends hsub
   ·cases hev
    exact absurd hat.symm htt
lemma call_cases(cfg:Config){c o}(hn:ns[i]? = some n)(hall:n.allows c)(hc:calm s ns i c o):
 (step cfg c o s).2.plan=s.plan∧(n.next c (step cfg c o s).1).wrote=n.wrote∨
 ∃ ev cur p,n=.deciding ev cur∧Turn s ns ev p∧n.next c (step cfg c o s).1=.written ev∧
  (step cfg c o s).2={s with plan:=update s.plan p.tenant p}:=by
 by_cases hset:∃ p,c=.setPlan p
 ·obtain ⟨p,rfl⟩:=hset
  cases n with
  | deciding ev cur=>
   simp only[calm,hn] at hc
   obtain ⟨rfl,hown⟩:=hc
   cases ho:o.fails with
   | true=>exact .inl (by simp[step,ho,Stage.next,Stage.wrote])
   | false=>
    refine .inr ⟨ev,_,p,rfl,⟨writes_of_planFor hall,hown⟩,?_,?_⟩<;>simp[step,ho,Stage.next]
  | _=>cases hall
 ·have hne:∀ p,c≠.setPlan p:=fun p hp=>hset ⟨p,hp⟩
  exact .inl ⟨plan_step hne o s,(next_keeps n c _).2 hne⟩
lemma Settled.call{c o}(h:Settled s ns)(hn:ns[i]? = some n)(hall:n.allows c)
 (hc:calm s ns i c o):Settled (step cfg c o s).2 (ns.set i (n.next c (step cfg c o s).1)):=by
 rcases call_cases cfg hn hall hc with ⟨hplan,hwrote⟩ | ⟨ev,cur,p,rfl,ht,hnext,hstate⟩
 ·exact h.stay hn hplan (next_keeps n c _).1 hwrote
 ·rw[hnext,hstate]
  exact h.write hn ht

end Step

section Runs

variable {P₁ P P':Pool (machine cfg)}

lemma settled_of_reach(hr:Reach (calmRuns cfg) (noPlans cfg) P):Settled P.state (standing P):=by
 refine (follows cfg).run_inv (A:=noPlans cfg) rfl (J:=Settled) ?_ ?_ ?_ hr
 ·exact ⟨forall_mem_nil _,nofun,forall_mem_nil _⟩
 ·intro P e _ ha h
  refine ⟨fun x hx ev hev=>?_,h.paid,fun x hx ev hev=>?_⟩
  ·rcases mem_append.1 hx with hx | hx
   ·exact h.genuine x hx ev hev
   rw[mem_singleton.1 hx] at hev
   cases e with
   | read inst tenant=>cases hev
   | deliver inst ev'=>
    simp only[Stage.first] at hev
    split_ifs at hev<;>(cases hev; exact ha)
  ·rcases mem_append.1 hx with hx | hx
   ·exact h.ended x hx ev hev
   rw[mem_singleton.1 hx] at hev
   cases e with
   | read inst tenant=>cases hev
   | deliver inst ev'=>
    simp only[Stage.first] at hev
    split_ifs at hev<;>cases hev
 ·intro P i o c n _ ha hnext hn hall h
  exact h.call hn hall (ha c hnext)

def Replayed(marked:List String)(n:Stage):Prop:=
 ∀ ev∈n.event,ev.id≠""→ev.id∈marked → n=.delivered ev∨n=.over (some ev)

lemma processed_step(c o s):s.processed ⊆ (step cfg c o s).2.processed:=by
 cases c with
 | markStripeEvent id=>
  simp only[step]
  split_ifs
  ·exact Subset.refl _
  ·exact Subset.refl _
  ·exact subset_cons_self _ _
 | setPlan p=>
  simp only[step]
  split_ifs<;>exact Subset.refl _
 | _=>exact Subset.refl _
lemma Replayed.call{marked n s ns i c o}
 (h:Replayed marked n)(hmarked:marked ⊆ s.processed)(hall:n.allows c)(hc:calm s ns i c o):
 Replayed marked (n.next c (step cfg c o s).1)∧∀ ev∈n.event,ev.id≠""→ev.id∈marked→(step cfg c o s).2=s:=by
 have hboth:∀ ev∈n.event,ev.id≠""→ev.id∈marked→
  n.next c (step cfg c o s).1=.over (some ev)∧(step cfg c o s).2=s:=by
  intro ev hev hne hin
  rcases h ev hev hne hin with rfl | rfl
  ·cases c with
   | stripeEventProcessed id=>
    obtain rfl:id=ev.id:=hall
    have hthere:=hmarked hin
    have hans:(step cfg (.stripeEventProcessed ev.id) o s).1=some true:=by simp[step,hc hthere,hthere]
    exact ⟨by rw[hans]; rfl,rfl⟩
   | _=>cases hall
  ·cases c<;>cases hall
 refine ⟨fun ev hev hne hin=>.inr ?_,fun ev hev hne hin=>(hboth ev hev hne hin).2⟩
 rw[(next_keeps n c _).1] at hev
 exact (hboth ev hev hne hin).1
lemma replayed_of_reach(hr₁:Reach (calmRuns cfg) (noPlans cfg) P₁)(hr:Reach (calmRuns cfg) P₁ P):
 P₁.state.processed ⊆ P.state.processed∧
  ∀ k n,(standing P)[k]? = some n→P₁.procs.length ≤ k→Replayed P₁.state.processed n:=by
 refine (follows cfg).each_since (A:=noPlans cfg) rfl hr₁ (J:=fun (s:State) _=>P₁.state.processed ⊆ s.processed)
  (G:=fun k n=>P₁.procs.length ≤ k→Replayed P₁.state.processed n) (Subset.refl _) ?_ (fun _ _ _ h=>h) ?_ ?_ hr
 ·intro k n hn hk
  have hlt:=(List.getElem?_eq_some_iff.1 hn).1
  simp only[Protocol.stages,length_map] at hlt
  omega
 ·intro k e _ _ ev hev hne _
  cases e with
  | read inst tenant=>cases hev
  | deliver inst ev'=>?_
  simp only[Stage.first] at hev ⊢
  split_ifs at hev ⊢ with hid
  ·cases hev
   exact absurd hid hne
  ·cases hev
   exact .inl rfl
 ·intro P i o c n _ ha hnext _ hall hJ hG
  exact ⟨Subset.trans hJ (processed_step c o _),fun hk=>((hG hk).call hJ hall (ha c hnext)).1⟩

/-- After the end of a subscription no delivery about it makes the tenant Pro, no delivery
 about another one takes Pro away, and a delivery of a marked event changes nothing. -/
theorem stripe_events_settle(hr₁:Reach (calmRuns cfg) (noPlans cfg) P₁)(hr:Reach (calmRuns cfg) P₁ P){i:Nat}{o:Oracle}
 (hok:calmRuns cfg P (.step i o))(he:P.exec (.step i o)=some P'){inst:Nat}{ev:StripeEvent}
 (hev:(P.procs[i]?).map Proc.entry=some (.deliver inst ev)):
 (∀ n∈standing P,∀ ev'∈n.wrote,ev'.ends→ev'.tenant=ev.tenant→ev'.subscription=ev.subscription→
  (P.state.plan ev.tenant).plan≠.pro→(P'.state.plan ev.tenant).plan≠.pro)∧
 (∀ t,(P.state.plan t).plan=.pro→(P.state.plan t).stripeSubscriptionID≠ev.subscription→
  (P'.state.plan t).plan=.pro)∧
 (P₁.procs.length ≤ i→ev.id∈P₁.state.processed→P'.state=P.state):=by
 have hall:=hr₁.trans hr
 have hset:=settled_of_reach hall
 rcases (follows cfg).exec_step rfl hall he with ⟨c,n,hnext,hn,hallow,hstate,_⟩ | ⟨f,_⟩
 ·have hevent:n.event=some ev:=by
   obtain ⟨p,hp,hentry⟩:=Option.map_eq_some_iff.1 hev
   have hstage:=(stages_get (T:=stages cfg) hp).symm.trans hn
   rw[←Option.some.inj hstage,stageOf_event,hentry]
   simp only[Stage.first]
   split_ifs<;>rfl
  have hcalm:=hok c hnext
  have hgen:ev.Genuine:=hset.genuine n (mem_of_getElem? hn) ev hevent
  have hplans:P'.state.plan=P.state.plan∨∃ p,Turn P.state (standing P) ev p∧
    P'.state.plan=update P.state.plan p.tenant p:=by
   rcases call_cases cfg hn hallow hcalm with ⟨hplan,_⟩ | ⟨ev',cur,p,rfl,ht,_,hp⟩
   ·exact .inl (hstate▸hplan)
   ·cases hevent
    refine .inr ⟨p,ht,?_⟩
    rw[hstate]
    exact congrArg State.plan hp
  refine ⟨fun m hm ev' hw hends htenant hsub hfree=>?_,fun t hpro hother=>?_,fun hk hin=>?_⟩
  ·rcases hplans with hp | ⟨p,ht,hp⟩
   ·rwa[hp]
   ·have hover:=not_pro_of_terminal (ht.ended hset hm hw hends htenant hsub)
    rw[hp,←ht.writes.tenant,update_self]
    intro hpro
    rw[ht.writes.paid hpro] at hover
    cases hover
  ·rcases hplans with hp | ⟨p,ht,hp⟩
   ·rwa[hp]
    -- a plan that is Pro is kept by its own subscription only
   have hne:t≠p.tenant:=by
    rintro rfl
    rw[ht.writes.tenant] at hpro hother
    rcases ht.own with hown | ⟨hunpaid,_⟩
    ·exact hother hown
    ·rw[hset.paid _ hpro] at hunpaid
     cases hunpaid
   rwa[hp,update_of_ne hne]
  ·obtain ⟨hsub,hrep⟩:=replayed_of_reach hr₁ hr
   exact hstate.trans (((hrep i n hn hk).call hsub hallow hcalm).2 ev hevent hgen.1 hin)
 ·exact f.elim

end Runs

instance (ev:StripeEvent):Decidable ev.Genuine:=inferInstanceAs (Decidable (_∧(_→_)))

instance (e:Entry):Decidable (genuineStart e):=
 match e with
 | .deliver _ ev=>inferInstanceAs (Decidable ev.Genuine)
 | .read .. =>inferInstanceAs (Decidable True)

instance (s:State)(ns:List Stage)(i:Nat)(c:Call)(o:Oracle):Decidable (calm s ns i c o):=
 match c with
 | .setPlan _=>
  match h:ns[i]? with
  | some (.deciding ev cur)=>
   decidable_of_iff (cur=s.plan ev.tenant∧ownTurn s ns ev) (by simp only[calm,h])
  | some (.delivered _) | some (.reading _) | some (.missed _) | some (.filling ..) | some (.written _)
  | some (.applied _) | some (.over _) | none=>isTrue (by simp only[calm,h])
 | .stripeEventProcessed id=>inferInstanceAs (Decidable (id∈s.processed → o.fails=false))
 | .cacheGet .. | .cachePut .. | .getPlan _ | .markStripeEvent _=>inferInstanceAs (Decidable True)

def usual:Config:=⟨0⟩

def checkout(id sub:String):StripeEvent:=
 ⟨id,.checkoutSessionCompleted,{clientReferenceID:="acme",subscription:=sub,paymentStatus:="paid" }⟩

def updated(id sub status:String):StripeEvent:=
 ⟨id,.subscriptionUpdated,{metadataTenant:="acme",id:=sub,status:=status}⟩

def deleted(id sub:String):StripeEvent:=
 ⟨id,.subscriptionDeleted,{metadataTenant:="acme",id:=sub,status:="canceled" }⟩

abbrev Schedule:=List (Action (machine usual))

def steps(i k:Nat):Schedule:=replicate k (.step i {})

def whole(i k:Nat)(ev:StripeEvent):Schedule:=.start (.deliver 0 ev)::steps i k

def followed(l:Schedule):Pool (machine usual):=(noPlans usual).after (stripeRuns usual) l

def acmePlan(P:Pool (machine usual)):Plan:=(P.state.plan "acme").plan

def boughtAndEnded:Schedule:=whole 0 7 (checkout "e1" "sub_a")++whole 1 5 (deleted "e2" "sub_a")

/-- A late update of the ended subscription, before it reads the plan. -/
def lateUpdate:Pool (machine usual):=
 (noPlans usual).after (calmRuns usual) (boughtAndEnded++whole 2 1 (updated "e3" "sub_a" "active"))

theorem late_update_ignored:
 acmePlan lateUpdate≠.pro∧acmePlan (lateUpdate.after (calmRuns usual) [.step 2 {}])≠.pro:=by
 have hr:Reach (calmRuns usual) (noPlans usual) lateUpdate:=reach_after (by decide +kernel)
 have he:lateUpdate.exec (.step 2 {})=some (lateUpdate.after (calmRuns usual) [.step 2 {}]):=
  exec_after (by decide +kernel) (by decide +kernel)
 have hfree:acmePlan lateUpdate≠.pro:=by decide +kernel
 have hwrote:Stage.applied (deleted "e2" "sub_a")∈standing lateUpdate:=by decide +kernel
 have hentry:(lateUpdate.procs[2]?).map Proc.entry=some (Entry.deliver 0 (updated "e3" "sub_a" "active")):=by decide +kernel
 have h:=stripe_events_settle hr .init (by decide +kernel) he hentry
 exact ⟨hfree,h.1 _ hwrote _ rfl rfl rfl rfl hfree⟩

/-- Both subscriptions have ended, the second last; then the first is updated late. -/
def endedTwice:Schedule:=
 boughtAndEnded++whole 2 5 (checkout "e4" "sub_b")++whole 3 5 (deleted "e5" "sub_b") ++
  whole 4 2 (updated "e3" "sub_a" "active")

/-- The tenant has moved to a second subscription; then the first one ends. -/
def moved:Schedule:=
 whole 0 7 (checkout "e1" "sub_a")++whole 1 5 (checkout "e4" "sub_b")++whole 2 2 (deleted "e2" "sub_a")

/-- An update reads the plan, the end of its subscription is applied, and the update writes. -/
def overtaken:Schedule:=
 whole 0 7 (checkout "e1" "sub_a")++whole 1 2 (updated "e3" "sub_a" "active")++whole 2 5 (deleted "e2" "sub_a")

/-- Another instance has cached the plan before the subscription ended. -/
def cachedBefore:Schedule:=
 whole 0 7 (checkout "e1" "sub_a")++[.start (.read 1 "acme")]++steps 1 3++whole 2 5 (deleted "e2" "sub_a") ++
  [.start (.deliver 1 (updated "e3" "sub_a" "active"))]++steps 3 2

/-- An event that was processed is delivered again while the store cannot say so. -/
def checkFails:Schedule:=
 whole 0 7 (checkout "e1" "sub_a")++whole 1 5 (updated "e3" "sub_a" "active")++whole 2 5 (updated "e6" "sub_a" "unpaid") ++
  [.start (.deliver 0 (updated "e3" "sub_a" "active")),.step 3 {fails:=true}]++steps 3 1

def Flips(l:Schedule)(i:Nat)(before after:Plan):Prop:=
 Reach (stripeRuns usual) (noPlans usual) (followed l)∧
  ∃ P',(followed l).exec (.step i {})=some P'∧acmePlan (followed l)=before∧acmePlan P'=after

lemma flips_of_check{l i before after}
 (hrun:((noPlans usual).follow (stripeRuns usual) l).isSome)
 (hstep:((followed l).exec (.step i {})).any fun P'=>acmePlan (followed l)=before∧acmePlan P'=after):
 Flips l i before after:=by
 obtain ⟨P',he,hp⟩:=(Option.any_eq_true _ _).1 hstep
 exact ⟨reach_after hrun,P',he,of_decide_eq_true hp⟩

theorem stripe_events_flip:
 (Flips endedTwice 4 .free .pro∧Stage.applied (deleted "e2" "sub_a")∈standing (followed endedTwice))∧
 (Flips moved 2 .pro .free∧((followed moved).state.plan "acme").stripeSubscriptionID="sub_b")∧
 (Flips overtaken 1 .free .pro∧Stage.applied (deleted "e2" "sub_a")∈standing (followed overtaken))∧
 (Flips cachedBefore 3 .free .pro∧Stage.applied (deleted "e2" "sub_a")∈standing (followed cachedBefore))∧
 (Flips checkFails 3 .free .pro∧ "e3"∈(followed checkFails).state.processed):=
 ⟨⟨flips_of_check (by decide +kernel) (by decide +kernel),by decide +kernel⟩,
  ⟨flips_of_check (by decide +kernel) (by decide +kernel),by decide +kernel⟩,
  ⟨flips_of_check (by decide +kernel) (by decide +kernel),by decide +kernel⟩,
  ⟨flips_of_check (by decide +kernel) (by decide +kernel),by decide +kernel⟩,
  flips_of_check (by decide +kernel) (by decide +kernel),by decide +kernel⟩

end Dazyflow.StripeEvents
