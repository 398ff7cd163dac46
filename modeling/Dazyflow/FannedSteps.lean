import Dazyflow.GoStrings
import Dazyflow.SecretRedaction

/-!
# Steps run once per item

`runMaybeFanned`: a list on the one single-value input of a step runs the step once per item and collects what
the runs put out, port by port.
-/
namespace Dazyflow.FannedSteps
open SecretRedaction List Function
open GoStrings (itoa itoa_inj quote)

structure Port where
 port:String
 mime:List String
 (variadic list:Bool)

structure Manifest where
 id:String
 inputs:List Port
 outputs:List String
 noPassthrough:Bool

/-- Of a job what the wrapper reads; the rest of it is handed through. -/
structure Job where
 id:String
 input:String→Option Ref

abbrev Outcome:=Result×Option String

def maxAutoFanItems:Nat:=1000

-- text and byte strings are not lists
def asList:Value→Option (List Value)
 | .slice xs=>some xs
 | _=>none

def fanned(input:String→Option Ref)(p:Port):Option (String×List Value):=
 if p.variadic||p.list||p.mime.isEmpty then none
 else (input p.port).bind (fun ref=>(asList ref.inline).map fun items=>(p.port,items))

def detectAutoFan(manifest:Manifest)(input:String→Option Ref):Option (String×List Value):=
 if manifest.noPassthrough then none
 else
  match manifest.inputs.filterMap (fanned input) with
  | [found]=>some found
  | _=>none

def tooManyItems(manifest:Manifest)(fanPort:String)(n:Nat):Result where
 jobID:=""
 status:="error"
 output:=[]
 error:=some ⟨bytes "too_many_items",bytes ("step "++quote manifest.id++" would run " ++
  itoa n++" times (input "++quote fanPort++" got "++itoa n++" items, limit " ++
  itoa maxAutoFanItems++") — reduce the list or wire it through a step that handles the whole list"),[]⟩
 skipCode:=""

def okResult(output:List (String×Ref)):Result:=⟨"","ok",output,none,""⟩

def jsonRef(items:List Value)(headers:List Bytes):Ref:=⟨bytes "application/json",[],.slice items,headers⟩

def emptyFanOutputs(manifest:Manifest):List (String×Ref):=
 (manifest.outputs.filter fun p=>p != "pass").map (fun p=>(p,jsonRef [] []))

def fannedValue(ref:Ref):Value:=
 match ref.inline with
 | .nil=>if ref.ref=[] then .nil else .str ref.ref
 | v=>v

/-- `agg`, `headers` and the ports in the order they were first seen. -/
structure Aggregate where
 order:List String
 agg:String→List Value
 headers:String→List Bytes

def Aggregate.empty:Aggregate:=⟨[],fun _=>[],fun _=>[]⟩

def Aggregate.add(a:Aggregate)(p:String×Ref):Aggregate where
 order:=if p.1∈a.order then a.order else a.order++[p.1]
 agg:=update a.agg p.1 (a.agg p.1++[fannedValue p.2])
 headers:=if a.headers p.1=[] then update a.headers p.1 p.2.headers else a.headers

def Aggregate.result(a:Aggregate):Result:=
 okResult (a.order.map fun p=>(p,jsonRef (a.agg p) (a.headers p)))

def itemJob(job:Job)(fanPort:String)(item:Value):Job:=
 { job with
   input:=update job.input fanPort
    (some ⟨((job.input fanPort).map Ref.mime).getD [],[],item,[]⟩)}

section Executors

variable {σ:Type}(exec:σ→Job→Outcome×σ)

def fanLoop:List Job→Aggregate→σ→Outcome×σ
 | [],a,s=>((a.result,none),s)
 | j::rest,a,s=>
  match exec s j with
  | ((res,some err),s')=>((res,some err),s')
  | ((res,none),s')=>
   if res.status="error" then ((res,none),s') else fanLoop rest (res.output.foldl Aggregate.add a) s'

def runMaybeFanned(manifest:Manifest)(job:Job)(s:σ):Outcome×σ:=
 match detectAutoFan manifest job.input with
 | none=>exec s job
 | some (fanPort,items)=>
  if maxAutoFanItems < items.length then ((tooManyItems manifest fanPort items.length,none),s)
  else if items=[] then ((okResult (emptyFanOutputs manifest),none),s)
  else fanLoop exec (items.map (itemJob job fanPort)) .empty s

def execute:List Job→σ→List Outcome×σ
 | [],s=>([],s)
 | j::rest,s=>((exec s j).1::(execute rest (exec s j).2).1,(execute rest (exec s j).2).2)

end Executors

def failed(o:Outcome):Bool:=o.2.isSome||o.1.status== "error"

def combine:Aggregate→List Outcome→Outcome
 | a,[]=>(a.result,none)
 | a,o::rest=>if failed o then o else combine (o.1.output.foldl Aggregate.add a) rest

variable {σ:Type}{exec:σ→Job→Outcome×σ}

lemma fanLoop_step(j rest a)(s:σ):
 fanLoop exec (j::rest) a s=if failed (exec s j).1 then exec s j
  else fanLoop exec rest ((exec s j).1.1.output.foldl Aggregate.add a) (exec s j).2:=by
 rw[fanLoop]
 rcases exec s j with ⟨⟨res,err⟩,s'⟩
 cases err with
 | some err=>rfl
 | none=>simp[failed]
lemma fanLoop_eq_combine(jobs a)(s:σ):
 (fanLoop exec jobs a s).1=combine a (execute exec jobs s).1:=by
 induction jobs generalizing a s with
 | nil=>rfl
 | cons j rest ih=>
  rw[fanLoop_step,execute,combine]
  split_ifs
  ·rfl
  ·exact ih _ _
lemma fanLoop_state(jobs a)(s:σ):
 ∃ n,(fanLoop exec jobs a s).2=(execute exec (jobs.take n) s).2∧
  ((∀ o∈(execute exec jobs s).1,failed o=false) → n=jobs.length):=by
 induction jobs generalizing a s with
 | nil=>exact ⟨0,rfl,fun _=>rfl⟩
 | cons j rest ih=>
  rw[fanLoop_step,execute]
  split_ifs with hf
  ·exact ⟨1,by simp[execute],fun h=>absurd hf (by simp[h _ mem_cons_self])⟩
  ·obtain ⟨n,hn,hall⟩:=ih ((exec s j).1.1.output.foldl Aggregate.add a) (exec s j).2
   refine ⟨n+1,by simpa[execute] using hn,fun h=>?_⟩
   rw[hall fun o ho=>h o (mem_cons_of_mem _ ho),length_cons]
lemma not_failed_of_combine{outcomes a}(he:(combine a outcomes).2=none)
 (hs:(combine a outcomes).1.status="ok"):∀ o∈outcomes,failed o=false:=by
 induction outcomes generalizing a with
 | nil=>exact fun o ho=>nomatch ho
 | cons o rest ih=>
  rw[combine] at he hs
  split_ifs at he hs with hf
  ·simp[failed,he,hs] at hf
  ·intro o' ho'
   rcases mem_cons.1 ho' with rfl | ho'
   ·simpa using hf
   ·exact ih he hs o' ho'

def entries(outcomes:List Outcome):List (String×Ref):=outcomes.flatMap (fun o=>o.1.output)

def portValues(outcomes:List Outcome)(port:String):List Value:=
 ((entries outcomes).filter fun p=>p.1==port).map (fun p=>fannedValue p.2)

lemma combine_of_not_failed{outcomes}(h:∀ o∈outcomes,failed o=false)(a):
 combine a outcomes=(((entries outcomes).foldl Aggregate.add a).result,none):=by
 induction outcomes generalizing a with
 | nil=>rfl
 | cons o rest ih=>
  rw[combine,h o mem_cons_self,if_neg Bool.false_ne_true,
   ih fun o' ho'=>h o' (mem_cons_of_mem o ho'),entries,entries,flatMap_cons,foldl_append]
lemma mem_order(es:List (String×Ref))(a port):
 port∈(es.foldl Aggregate.add a).order↔port∈a.order∨port∈es.map Prod.fst:=by
 induction es generalizing a with
 | nil=>simp
 | cons e rest ih=>
  have hadd:port∈(a.add e).order↔port∈a.order∨port=e.1:=by
   by_cases h:e.1∈a.order
   ·simp only[Aggregate.add,if_pos h]
    exact ⟨.inl,fun h'=>h'.elim id fun e'=>e' ▸ h⟩
   ·simp[Aggregate.add,h]
  rw[foldl_cons,ih,hadd,map_cons,mem_cons,or_assoc]
lemma agg_eq(es:List (String×Ref))(a port):
 (es.foldl Aggregate.add a).agg port =
  a.agg port++(es.filter fun p=>p.1==port).map (fun p=>fannedValue p.2):=by
 induction es generalizing a with
 | nil=>simp
 | cons e rest ih=>
  rw[foldl_cons,ih]
  by_cases h:e.1=port
  ·subst h
   simp[Aggregate.add]
  ·simp[Aggregate.add,h,update_of_ne (Ne.symm h)]

def fannedJobs(manifest:Manifest)(job:Job):List Job:=
 match detectAutoFan manifest job.input with
 | none=>[]
 | some (fanPort,items)=>
  if maxAutoFanItems < items.length then [] else items.map (itemJob job fanPort)

lemma runMaybeFanned_eq{manifest job}(s:σ)(h:fannedJobs manifest job≠[]):
 runMaybeFanned exec manifest job s=fanLoop exec (fannedJobs manifest job) .empty s:=by
 unfold fannedJobs at *
 unfold runMaybeFanned
 split at h
 ·exact absurd rfl h
 next fanPort items _=>
  split_ifs at h with hlim
  ·exact absurd rfl h
  ·have hne:items≠[]:=fun h'=>h (map_eq_nil_iff.2 h')
   simp only[if_neg hlim,if_neg hne]

/-- Every item ended well, and each port lists what the items put out there. -/
structure Exact(outcomes:List Outcome)(out:Result):Prop where
 ok:∀ o∈outcomes,o.2=none∧o.1.status="ok"
 ports:∀ port,port∈out.output.map Prod.fst↔port∈(entries outcomes).map Prod.fst
 values:∀ port ref,(port,ref)∈out.output → ref.inline=.slice (portValues outcomes port)

lemma exact_of_ok{outcomes}(h:∀ o∈outcomes,failed o=false)
 (hok:∀ o∈outcomes,o.1.status="ok"):Exact outcomes (combine .empty outcomes).1:=by
 rw[combine_of_not_failed h]
 refine ⟨fun o ho=>⟨?_,hok o ho⟩,fun port=>?_,fun port ref hm=>?_⟩
 ·have:=h o ho
  cases he:o.2 with
  | none=>rfl
  | some e=>simp[failed,he] at this
 ·simp[Aggregate.result,okResult,mem_order,Aggregate.empty]
 ·simp only[Aggregate.result,okResult,mem_map,Prod.mk.injEq] at hm
  obtain ⟨_,_,rfl,rfl⟩:=hm
  simp[jsonRef,agg_eq,portValues,Aggregate.empty]

theorem fan_exact_iff(manifest:Manifest)(job:Job)(s:σ):
 (fannedJobs manifest job≠[]→(runMaybeFanned exec manifest job s).1.2=none→
   (runMaybeFanned exec manifest job s).1.1.status="ok"→
   Exact (execute exec (fannedJobs manifest job) s).1 (runMaybeFanned exec manifest job s).1.1∧
    (runMaybeFanned exec manifest job s).2=(execute exec (fannedJobs manifest job) s).2)↔
  (∃ o∈(execute exec (fannedJobs manifest job) s).1,failed o)∨
   ∀ o∈(execute exec (fannedJobs manifest job) s).1,o.1.status="ok":=by
 by_cases hne:fannedJobs manifest job=[]
 ·simp[hne,execute]
 rw[runMaybeFanned_eq s hne,fanLoop_eq_combine]
 obtain ⟨n,hn,hall⟩:=@fanLoop_state σ exec (fannedJobs manifest job) .empty s
 generalize (execute exec (fannedJobs manifest job) s).1=outcomes at *
 constructor
 ·intro h
  by_cases hf:∃ o∈outcomes,failed o
  ·exact .inl hf
  ·have hf':∀ o∈outcomes,failed o=false:=by simpa using hf
   have hc:=combine_of_not_failed hf' .empty
   exact .inr fun o ho=>((h hne (by rw[hc]) (by rw[hc]; rfl)).1.ok o ho).2
 ·intro hcond _ he hs
  have hf:=not_failed_of_combine he hs
  have hok:∀ o∈outcomes,o.1.status="ok":=by
   refine hcond.resolve_left ?_
   rintro ⟨o,ho,hfo⟩
   exact absurd hfo (by simp[hf o ho])
  refine ⟨exact_of_ok hf hok,?_⟩
  rw[hn,hall hf,take_length]

def waitStep:Manifest:=⟨"delay",[⟨"until",["text/plain"],false,false⟩],["pass"],false⟩

def waitJob:Job where
 id:="run.wait"
 input:=fun p=>if p="until" then some ⟨[],[],.slice [.str (bytes "tomorrow"),.str (bytes "+2d")],[]⟩ else none

def deferring(n:Nat)(_:Job):Outcome×Nat:=((⟨"","deferred",[("resume_at",jsonRef [] [])],none,""⟩,none),n+1)

theorem deferred_items_succeed:
 (runMaybeFanned deferring waitStep waitJob 0).1.2=none∧
  (runMaybeFanned deferring waitStep waitJob 0).1.1.status="ok"∧
  (execute deferring (fannedJobs waitStep waitJob) 0).1.map (fun o=>o.1.status)=["deferred","deferred"]:=by
 decide

inductive Point
 | beforeGet
 | beforePut
 | afterPut
 deriving DecidableEq

/-- One attempt to execute the step: what the module answers at each index, and where
the process may die. -/
structure Attempt where
 secrets:SecretSet
 answer:Nat→Job→Outcome
 crash:Nat→Option Point

abbrev Store:=String→Option Result

structure Progress where
 store:Store
 idx:Nat
 fired:List (Nat×Job)

def itemKey(jobID:String)(idx:Nat):String:=jobID++("#"++itoa idx)

def crashed:Outcome:=(⟨"","",[],none,""⟩,some "crashed")

section Dedupe

-- `cloneResult`: the JSON round trip, which fails on values JSON does not have
variable (clone:Result→Option Result)(jobID:String)

def recorded(store:Store)(idx:Nat):Option Result:=(store (itemKey jobID idx)).bind clone

/-- The executor around the module: `Get`, the module itself, `Put` of a good result. -/
def dedupe(a:Attempt)(p:Progress)(j:Job):Outcome×Progress:=
 let next:={p with idx:=p.idx+1}
 if a.crash p.idx=some .beforeGet then (crashed,next)
 else
  match recorded clone jobID p.store p.idx with
  | some prior=>((prior,none),next)
  | none=>
   let called:={next with fired:=p.fired++[(p.idx,j)]}
   let res:=a.answer p.idx j
   if res.2=none∧res.1.status="ok" then
    let scrubbed:=redactResult res.1 a.secrets
    let put:=
     {called with store:=update p.store (itemKey jobID p.idx) (some ((clone scrubbed).getD scrubbed))}
    match a.crash p.idx with
    | some .beforePut=>(crashed,called)
    | some .afterPut=>(crashed,put)
    | _=>((scrubbed,none),put)
   else (res,called)

structure Fired(p q:Progress)(j:Job):Prop where
 idx:q.idx=p.idx+1
 frame:∀ i,i≠p.idx → recorded clone jobID q.store i=recorded clone jobID p.store i
 kept:∀ r,recorded clone jobID p.store p.idx=some r→q.store=p.store∧q.fired=p.fired
 fired:∀ e∈q.fired,e∈p.fired∨e=(p.idx,j)

variable {clone jobID}

lemma itemKey_inj{i k}(h:itemKey jobID i=itemKey jobID k):i=k:=by
 apply itoa_inj
 apply String.toList_inj.1
 simpa[itemKey] using congrArg String.toList h
lemma recorded_update{store k i}(h:i≠k)(r):
 recorded clone jobID (update store (itemKey jobID k) r) i=recorded clone jobID store i:=by
 rw[recorded,recorded,update_of_ne fun he=>h (itemKey_inj he)]
lemma dedupe_fired(a p j):Fired clone jobID p (dedupe clone jobID a p j).2 j:=by
 unfold dedupe
 split_ifs with hg
 ·exact ⟨rfl,fun _ _=>rfl,fun _ _=>⟨rfl,rfl⟩,fun _=>.inl⟩
 split
 next=>exact ⟨rfl,fun _ _=>rfl,fun _ _=>⟨rfl,rfl⟩,fun _=>.inl⟩
 next hnone=>
  have hkept:∀ q:Progress,∀ r,recorded clone jobID p.store p.idx=some r→
    q.store=p.store∧q.fired=p.fired:=fun _ r hr=>absurd (hnone.symm.trans hr) (by simp)
  have hmem:∀ e∈p.fired++[(p.idx,j)],e∈p.fired∨e=(p.idx,j):=by simp
  dsimp only
  split_ifs
  ·split
   ·exact ⟨rfl,fun _ _=>rfl,hkept _,hmem⟩
   ·exact ⟨rfl,fun i hi=>recorded_update hi _,hkept _,hmem⟩
   ·exact ⟨rfl,fun i hi=>recorded_update hi _,hkept _,hmem⟩
  ·exact ⟨rfl,fun _ _=>rfl,hkept _,hmem⟩
lemma execute_fired(a jobs p):
 (∀ i r,recorded clone jobID p.store i=some r→
  recorded clone jobID (execute (dedupe clone jobID a) jobs p).2.store i=some r)∧
 ∀ e∈(execute (dedupe clone jobID a) jobs p).2.fired,e∈p.fired∨
  recorded clone jobID p.store e.1=none∧∃ m,e.1=p.idx+m∧jobs[m]? = some e.2:=by
 induction jobs generalizing p with
 | nil=>exact ⟨fun _ _ h=>h,fun _=>.inl⟩
 | cons j rest ih=>
  have hstep:Fired clone jobID p (dedupe clone jobID a p j).2 j:=dedupe_fired a p j
  obtain ⟨hkeep,hlog⟩:=ih (dedupe clone jobID a p j).2
  simp only[execute]
  generalize (dedupe clone jobID a p j).2=q at hstep hkeep hlog
  have hq:∀ i r,recorded clone jobID p.store i=some r → recorded clone jobID q.store i=some r:=by
   intro i r hr
   by_cases hi:i=p.idx
   ·rw[(hstep.kept r (hi▸hr)).1,hr]
   ·rw[hstep.frame i hi,hr]
  refine ⟨fun i r hr=>hkeep i r (hq i r hr),fun e he=>?_⟩
  rcases hlog e he with he | ⟨hnone,m,hm,hj⟩
  ·by_cases hp:e∈p.fired
   ·exact .inl hp
   have hej:=(hstep.fired e he).resolve_left hp
   refine .inr ⟨?_,0,by rw[hej]; rfl,by rw[hej]; rfl⟩
   cases hr:recorded clone jobID p.store e.1 with
   | none=>rfl
   | some r=>
    rw[hej] at hr
    exact absurd ((hstep.kept r hr).2▸he) hp
  ·rw[hstep.idx] at hm
   refine .inr ⟨?_,m+1,by omega,hj⟩
   rw[←hstep.frame e.1 (by omega),hnone]

/-- The plain run in which the recorded items keep their results. -/
def replaying(rec:Nat→Option Result)(a:Attempt)(idx:Nat)(j:Job):Outcome×Nat:=
 (match rec idx with
  | some prior=>(prior,none)
  | none=>
   if (a.answer idx j).2=none∧(a.answer idx j).1.status="ok" then
    (redactResult (a.answer idx j).1 a.secrets,none)
   else a.answer idx j,idx+1)

lemma execute_replaying{a}(hcrash:∀ i,a.crash i=none){rec}(jobs)
 (p)(h:∀ i,p.idx ≤ i → recorded clone jobID p.store i=rec i):
 (execute (dedupe clone jobID a) jobs p).1=(execute (replaying rec a) jobs p.idx).1:=by
 induction jobs generalizing p with
 | nil=>rfl
 | cons j rest ih=>
  have hstep:Fired clone jobID p (dedupe clone jobID a p j).2 j:=dedupe_fired a p j
  have hhead:(dedupe clone jobID a p j).1=(replaying rec a p.idx j).1:=by
   have hr:=h p.idx le_rfl
   cases hrec:rec p.idx with
   | some prior=>simp[dedupe,replaying,hcrash,hr,hrec]
   | none=>
    by_cases hok:(a.answer p.idx j).2=none∧(a.answer p.idx j).1.status="ok"<;>simp[dedupe,replaying,hcrash,hr,hrec,hok]
  simp only[execute]
  rw[hhead,ih _ fun i hi=>?_,hstep.idx]
  ·rfl
  ·rw[hstep.idx] at hi
   rw[hstep.frame i (by omega),h i (by omega)]

def itemJobs(manifest:Manifest)(job:Job):List Job:=
 match detectAutoFan manifest job.input with
 | none=>[job]
 | some _=>fannedJobs manifest job

lemma runMaybeFanned_idle{manifest job f}
 (hd:detectAutoFan manifest job.input=some f)(hnone:fannedJobs manifest job=[]):
 ∃ out,∀ {σ:Type} (exec:σ→Job→Outcome×σ) (s:σ),runMaybeFanned exec manifest job s=(out,s):=by
 simp only[fannedJobs,hd] at hnone
 simp only[runMaybeFanned,hd]
 split_ifs at hnone ⊢ with hlim hempty
 ·exact ⟨_,fun _ _=>rfl⟩
 ·exact ⟨_,fun _ _=>rfl⟩
 ·exact absurd (map_eq_nil_iff.1 hnone) hempty
lemma runMaybeFanned_state(manifest job)(s:σ):
 ∃ n,(runMaybeFanned exec manifest job s).2=(execute exec ((itemJobs manifest job).take n) s).2:=by
 unfold itemJobs
 cases hd:detectAutoFan manifest job.input with
 | none=>exact ⟨1,by simp[runMaybeFanned,hd,execute]⟩
 | some f=>
  by_cases hne:fannedJobs manifest job=[]
  ·obtain ⟨out,hout⟩:=runMaybeFanned_idle hd hne
   exact ⟨0,by rw[hout]; rfl⟩
  ·obtain ⟨n,hn,_⟩:=@fanLoop_state σ exec (fannedJobs manifest job) .empty s
   exact ⟨n,by rw[runMaybeFanned_eq s hne,hn]⟩
lemma runMaybeFanned_congr{τ:Type}{exec':τ→Job→Outcome×τ}{manifest:Manifest}{job:Job}{s:σ}{t:τ}
 (h:(execute exec (itemJobs manifest job) s).1=(execute exec' (itemJobs manifest job) t).1):
 (runMaybeFanned exec manifest job s).1=(runMaybeFanned exec' manifest job t).1:=by
 cases hd:detectAutoFan manifest job.input with
 | none=>simpa[runMaybeFanned,itemJobs,hd,execute] using h
 | some f=>
  simp only[itemJobs,hd] at h
  by_cases hne:fannedJobs manifest job=[]
  ·obtain ⟨out,hout⟩:=runMaybeFanned_idle hd hne
   rw[hout,hout]
  ·rw[runMaybeFanned_eq s hne,runMaybeFanned_eq t hne,fanLoop_eq_combine,fanLoop_eq_combine,h]

variable (clone)

def attempt(manifest:Manifest)(job:Job)(store:Store)(a:Attempt):Outcome×Progress:=
 runMaybeFanned (dedupe clone job.id a) manifest job ⟨store,0,[]⟩

def storeAfter(manifest:Manifest)(job:Job)(store:Store)(attempts:List Attempt):Store:=
 attempts.foldl (fun st a=>(attempt clone manifest job st a).2.store) store

lemma attempt_fired(manifest job store a):
 (∀ i r,recorded clone job.id store i=some r→
  recorded clone job.id (attempt clone manifest job store a).2.store i=some r)∧
 ∀ e∈(attempt clone manifest job store a).2.fired,recorded clone job.id store e.1=none∧
  (itemJobs manifest job)[e.1]? = some e.2:=by
 obtain ⟨n,hn⟩:=@runMaybeFanned_state _ (dedupe clone job.id a) manifest job ⟨store,0,[]⟩
 obtain ⟨hkeep,hlog⟩:=@execute_fired clone job.id a ((itemJobs manifest job).take n) ⟨store,0,[]⟩
 rw[attempt,hn]
 refine ⟨hkeep,fun e he=>?_⟩
 obtain ⟨hnone,m,hm,hj⟩:=(hlog e he).resolve_left not_mem_nil
 have hm:e.1=m:=by simpa using hm
 rw[getElem?_take] at hj
 split_ifs at hj
 exact ⟨hnone,hm▸hj⟩
lemma storeAfter_keeps(manifest job attempts store){i}
 {r}(h:recorded clone job.id store i=some r):
 recorded clone job.id (storeAfter clone manifest job store attempts) i=some r:=by
 induction attempts generalizing store with
 | nil=>exact h
 | cons a rest ih=>exact ih _ ((attempt_fired clone manifest job store a).1 i r h)

/-- Whatever the attempts so far have left in the store, and however the next one goes. -/
theorem replay_of_recorded_writes(manifest:Manifest)(job:Job)(store:Store)(earlier later:List Attempt)
 (a:Attempt):
 let before:=storeAfter clone manifest job store earlier
 let now:=storeAfter clone manifest job before later
 (∀ i r,recorded clone job.id before i=some r→
  recorded clone job.id now i=some r∧∀ j,(i,j)∉(attempt clone manifest job now a).2.fired)∧
 (∀ i j,(i,j)∈(attempt clone manifest job now a).2.fired→(itemJobs manifest job)[i]? = some j)∧
 ((∀ i,a.crash i=none)→(attempt clone manifest job now a).1 =
  (runMaybeFanned (replaying (recorded clone job.id now) a) manifest job 0).1):=by
 intro before now
 obtain ⟨_,hlog⟩:=attempt_fired clone manifest job now a
 refine ⟨fun i r hr=>?_,fun i j hf=>(hlog (i,j) hf).2,fun hcrash=>?_⟩
 ·have hnow:=storeAfter_keeps clone manifest job later before hr
  exact ⟨hnow,fun j hf=>absurd (hnow.symm.trans (hlog (i,j) hf).1) (by simp)⟩
 ·exact runMaybeFanned_congr (execute_replaying hcrash _ ⟨now,0,[]⟩ fun _ _=>rfl)

end Dedupe

def numberClone(r:Result):Option Result:=
 if r.output.any (fun p=>match p.2.inline with | .number n=>n∈["NaN","+Inf","-Inf"] | _=>false) then none
 else some r

def sendJob:Job:=⟨"run.send",fun _=>none⟩

def sending:Attempt where
 secrets:=newSecretSet
 answer:=fun _ _=>(okResult [("score",⟨[],[],.number "NaN",[]⟩)],none)
 crash:=fun _=>none

theorem unencodable_write_repeats:
 let first:=(attempt numberClone waitStep sendJob (fun _=>none) sending).2
 first.fired.map Prod.fst=[0]∧(first.store (itemKey "run.send" 0)).isSome∧
  (attempt numberClone waitStep sendJob first.store sending).2.fired.map Prod.fst=[0]:=by
 decide

end Dazyflow.FannedSteps
