import Dazyflow.WorkspaceBackends

/-!
# What starts a run from outside

The entry points of `webhook.go`, `request.go`, `form.go`, `principal.go` and `scheduler.go`, each up to the
submission of the run, and the schedule a draft asks for.
-/
namespace Dazyflow.FlowTriggers
open GoStrings WorkspaceStore WorkspaceBackends

structure TriggerStep where
 (id module:String)
 disabled:Bool:=false
 -- `params["disabled"]`, and the other parameters by their keys
 paramDisabled:Bool:=false
 secrets:List String:=[]
 isPublic:Bool:=false
 cron:String:=""
 tz:String:=""
 intervalSeconds:Int:=0
 deriving DecidableEq

structure FlowTrigger where
 (type cron tz:String)
 deriving DecidableEq

structure FlowDoc where
 disabled:Bool:=false
 triggers:List FlowTrigger:=[]
 nodes:List TriggerStep:=[]
 deriving DecidableEq

def triggerNodeDisabled(n:TriggerStep):Bool:=n.disabled||n.paramDisabled

def webhookInputModule:String:= "webhook_input"
def formInputModule:String:= "form_input"
def requestInputModule:String:= "request_input"

def webhookSecrets(n:TriggerStep):List String:=(n.secrets.map trimSpace).filter (fun s=>s != "")

def graphSecrets(module:String)(g:FlowDoc):List String:=
 (g.nodes.filter fun n=>n.module==module).flatMap webhookSecrets

def graphPublic(module:String)(g:FlowDoc):Bool:=g.nodes.any (fun n=>n.module==module&&n.isPublic)

def graphWebhookSecrets:FlowDoc→List String:=graphSecrets webhookInputModule
def graphWebhookPublic:FlowDoc→Bool:=graphPublic webhookInputModule
def graphRequestSecrets:FlowDoc→List String:=graphSecrets requestInputModule
def graphRequestPublic:FlowDoc→Bool:=graphPublic requestInputModule

def anyKeyMatches(keys:List String)(provided:String):Bool:=keys.any (fun k=>k==provided)

inductive Answer
 | started
 | refused
 | unauthorized
 | flowDisabled
 | badBody
 | triggerDisabled
 /-- a call that a key of an earlier one answers -/
 | joined
 | unavailable
 | page
 | skipped
 deriving DecidableEq

def maxBodyBytes:Nat:=1048576

structure Post where
 key:String:=""
 /-- length of the body; `none` when it cannot be read -/
 body:Option Nat:=some 0
 /-- whether `SubmitGraphOpts` takes the run -/
 accepted:Bool:=true

def seeded(module:String)(g:FlowDoc):List String:=
 (g.nodes.filter fun n=>n.module==module&&!triggerNodeDisabled n).map TriggerStep.id

def opens(keys:List String)(isPublic:Bool)(provided:String):Bool:=
 if keys.isEmpty then isPublic else anyKeyMatches keys provided

def Post.bodyFits(post:Post):Bool:=post.body.any (fun n=>n ≤ maxBodyBytes)

def submit(accepted:Bool):Answer:=if accepted then .started else .refused

/-- A delivery under a key, for the steps of `module`; `joins` is what stands between the
 body and the seeds. -/
def keyedDelivery(module:String)(keys:FlowDoc→List String)(isPublic:FlowDoc→Bool)(joins:Bool)
 (post:Post)(published:Except LoadError FlowDoc):Answer:=
 match published with
 | .error _=>.unauthorized
 | .ok g=>
  if opens (keys g) (isPublic g) post.key=false then .unauthorized
  else if g.disabled then .flowDisabled
  else if post.bodyFits=false then .badBody
  else if joins then .joined
  else if g.nodes.any (fun n=>n.module==module)∧seeded module g=[] then .triggerDisabled
  else submit post.accepted

def handleTrigger:Post→Except LoadError FlowDoc→Answer:=
 keyedDelivery webhookInputModule graphWebhookSecrets graphWebhookPublic false

def handleCall(handled:Bool):Post→Except LoadError FlowDoc→Answer:=
 keyedDelivery requestInputModule graphRequestSecrets graphRequestPublic handled

inductive Method
 | get | post | other

structure FormRequest where
 method:Method:=.post
 parsed:Bool:=true
 /-- the hidden field is filled -/
 trapped:Bool:=false
 accepted:Bool:=true

def answerForm(r:FormRequest):Answer:=
 match r.method with
 | .get=>.page
 | .other=>.badBody
 | .post=>
  if r.parsed=false then .badBody
  else if r.trapped then .page
  else submit r.accepted

def handleForm(r:FormRequest)(published:Except LoadError FlowDoc):Answer:=
 match published with
 | .error _=>.unavailable
 | .ok g=>
  if g.disabled then .flowDisabled
  -- `publicFormConfig`: the first form step that is on
  else if seeded formInputModule g=[] then .unavailable
  else answerForm r

def fanoutSeed(matching:TriggerStep→Bool)(accepted:Bool)(published:Except LoadError FlowDoc):Answer:=
 match published with
 | .error _=>.skipped
 | .ok g=>
  if g.disabled then .flowDisabled
  else if (g.nodes.filter matching).isEmpty then .skipped
  else submit accepted

def fireGraph(quota accepted:Bool)(publishedCommit:String)(published:Except LoadError FlowDoc):Answer:=
 if quota=false then .skipped
 else if publishedCommit="" then .skipped
 else
  match published with
  | .error _=>.skipped
  | .ok g=>if g.disabled then .flowDisabled else submit accepted

structure ScheduleSpec where
 (entryKey specKey:String)
 cron:String:=""
 tz:String:=""
 intervalSeconds:Int:=0
 deriving DecidableEq

structure Place where
 (tenant workspace graphID:String)

def Place.path(p:Place):String:=p.tenant++"/"++p.workspace++"/"++p.graphID

def graphTriggerEntryKey(p:Place)(specKey:String):String:=p.path++"#"++specKey

def nodeTriggerEntryKey(p:Place)(nodeID:String):String:=p.path++"@"++nodeID

def cronSpecKey(expr tz:String):String:= "cron:"++expr++"|"++tz

def pollSpecKey(seconds:Int):String:= "poll:"++toString seconds

def pollTriggerModules:List String:=
 ["poll_trigger","google_form_trigger","ticketmaster_on_new_event","gcal_on_event_change","gcal_on_event_start",
  "gmail_on_new_message","imap_on_new_message","sftp_on_new_file"]

def maxPollIntervalSeconds:Int:=366*24*60*60

def graphSpec(parseCron:String→String→Bool)(p:Place)(t:FlowTrigger):Option ScheduleSpec:=
 if t.type≠"cron"∨t.cron=""∨parseCron t.cron t.tz=false then none
 else some
  { entryKey:=graphTriggerEntryKey p (cronSpecKey t.cron t.tz),specKey:=cronSpecKey t.cron t.tz
    cron:=t.cron,tz:=t.tz}

def nodeSpec(parseCron:String→String→Bool)(p:Place)(n:TriggerStep):Option ScheduleSpec:=
 if triggerNodeDisabled n then none
 else if n.module="cron_trigger" then
  let expr:=trimSpace n.cron
  if expr=""∨parseCron expr n.tz=false then none
  else some
   {entryKey:=nodeTriggerEntryKey p n.id,specKey:=cronSpecKey expr n.tz,cron:=expr,tz:=n.tz}
 else if pollTriggerModules.contains n.module then
  if n.intervalSeconds≤0∨maxPollIntervalSeconds<n.intervalSeconds then none
  else some
   { entryKey:=nodeTriggerEntryKey p n.id,specKey:=pollSpecKey n.intervalSeconds
     intervalSeconds:=n.intervalSeconds}
 else none

-- the first of the specs that share an entry key stays
def addSpec(out:List ScheduleSpec)(spec:ScheduleSpec):List ScheduleSpec:=
 if out.any (fun s=>s.entryKey==spec.entryKey) then out else out++[spec]

def deriveScheduleSpecs(parseCron:String→String→Bool)(p:Place)(g:FlowDoc):List ScheduleSpec:=
 if g.disabled then []
 else (g.triggers.filterMap (graphSpec parseCron p)++g.nodes.filterMap (nodeSpec parseCron p)).foldl addSpec []

/-- What the draft of a published flow asks for; `none` when that cannot be told. -/
def deriveFlowSchedules(B:Backend FlowDoc)(parseCron:String→String→Bool)(p:Place)(s:B.State):
 Option (List ScheduleSpec):=
 if B.publishedCommit s p.graphID="" then some []
 else
  match B.load s p.graphID with
  | .ok g=>some (deriveScheduleSpecs parseCron p g)
  | .error .graphNotFound=>some []
  | .error _=>none

inductive Delivery
 | webhook (post:Post)
 | call (handled:Bool)(post:Post)
 | form (r:FormRequest)
 | event (matching:TriggerStep→Bool)(accepted:Bool)
 | fire (spec:ScheduleSpec)(quota accepted:Bool)

/-- What a delivery to a flow comes to; `tracked` are the entries the scheduler holds for it. -/
def deliver(B:Backend FlowDoc)(s:B.State)(graphID:String)(tracked:List ScheduleSpec):Delivery→Answer
 | .webhook post=>handleTrigger post (B.loadPublished s graphID)
 | .call handled post=>handleCall handled post (B.loadPublished s graphID)
 | .form r=>handleForm r (B.loadPublished s graphID)
 | .event matching accepted=>
  -- `ListGraphs` has the flows at `HEAD`
  match B.load s graphID with
  | .error _=>.skipped
  | .ok _=>fanoutSeed matching accepted (B.loadPublished s graphID)
 | .fire spec quota accepted=>
  if spec∈tracked then fireGraph quota accepted (B.publishedCommit s graphID) (B.loadPublished s graphID)
  else .skipped

def Live(published:Except LoadError FlowDoc)(disabled:Bool):Prop:=
 ∃ g,published=.ok g∧g.disabled=disabled

@[simp] lemma submit_ne_flowDisabled(accepted):submit accepted≠.flowDisabled:=by cases accepted<;>exact nofun
@[simp] lemma answerForm_ne_flowDisabled(r):answerForm r≠.flowDisabled:=by
 unfold answerForm
 cases r.method with
 | get | other=>exact nofun
 | post=>
  dsimp only
  split_ifs
  ·exact nofun
  ·exact nofun
  ·exact submit_ne_flowDisabled r.accepted

/-- A run is started only of a flow that is on, and refused only for one that is off. -/
abbrev Heeds(published:Except LoadError FlowDoc)(a:Answer):Prop:=
 (a=.started→Live published false)∧(a=.flowDisabled→Live published true)

variable {published:Except LoadError FlowDoc}

lemma live_of_ok{g}{a:Answer}(hon:g.disabled=false→a≠.flowDisabled)(hoff:g.disabled→a≠.started):Heeds (.ok g) a:=by
 cases hd:g.disabled with
 | false=>exact ⟨fun _=>⟨g,rfl,hd⟩,fun h=>absurd h (hon hd)⟩
 | true=>exact ⟨fun h=>absurd h (hoff hd),fun _=>⟨g,rfl,hd⟩⟩
lemma live_of_keyedDelivery{module keys isPublic joins post}:Heeds published (keyedDelivery module keys isPublic joins post published):=by
 cases published with
 | error e=>exact ⟨nofun,nofun⟩
 | ok g=>refine live_of_ok (fun hd=>?_) fun hd=>?_<;>simp only[keyedDelivery,hd]<;>split_ifs<;>simp_all
lemma live_of_handleForm{r}:Heeds published (handleForm r published):=by
 cases published with
 | error e=>exact ⟨nofun,nofun⟩
 | ok g=>refine live_of_ok (fun hd=>?_) fun hd=>?_<;>simp only[handleForm,hd]<;>split_ifs<;>simp_all
lemma live_of_fanoutSeed{matching accepted}:Heeds published (fanoutSeed matching accepted published):=by
 cases published with
 | error e=>exact ⟨nofun,nofun⟩
 | ok g=>refine live_of_ok (fun hd=>?_) fun hd=>?_<;>simp only[fanoutSeed,hd]<;>split_ifs<;>simp_all
lemma live_of_fireGraph{quota accepted commit}:Heeds published (fireGraph quota accepted commit published):=by
 unfold fireGraph
 split_ifs
 ·exact ⟨nofun,nofun⟩
 ·exact ⟨nofun,nofun⟩
 cases published with
 | error e=>exact ⟨nofun,nofun⟩
 | ok g=>refine live_of_ok (fun hd=>?_) fun hd=>?_<;>simp[hd]
lemma live_of_deliver{B s graphID tracked}(d):Heeds (B.loadPublished s graphID) (deliver B s graphID tracked d):=by
 cases d with
 | webhook post | call handled post=>exact live_of_keyedDelivery
 | form r=>exact live_of_handleForm
 | event matching accepted=>
  unfold deliver
  cases B.load s graphID with
  | error e=>exact ⟨nofun,nofun⟩
  | ok g=>exact live_of_fanoutSeed
 | fire spec quota accepted=>
  unfold deliver
  dsimp only
  split_ifs
  ·exact live_of_fireGraph
  ·exact ⟨nofun,nofun⟩

def hooked:FlowDoc:={nodes:=[{id:="in",module:="webhook_input",isPublic:=true}]}

end Dazyflow.FlowTriggers
