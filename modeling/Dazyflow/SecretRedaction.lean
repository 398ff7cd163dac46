import Dazyflow.ReplacedText

/-!
# Redaction

The secrets resolved for one job are collected, and whatever the job returns is scrubbed of them before it is
stored: `redactString` on texts, longest secret first, and the walk of `redactResult` over the values a step
returned.
-/
namespace Dazyflow.SecretRedaction
open ReplacedText List

abbrev Bytes:=List UInt8

/-- The UTF-8 encoding. -/
def bytes(s:String):Bytes:=s.toList.flatMap String.utf8EncodeChar

def redactionMarker:Bytes:=bytes "[redacted:secret]"

def minRedactableSecretLen:Nat:=6

abbrev before(a b:Bytes):Prop:=b.length<a.length∨a.length=b.length∧¬b<a

def longestFirst(values:List Bytes):List Bytes:=values.insertionSort before

/-- `ordered` is filled by the first redaction after a secret was added. -/
structure SecretSet where
 values:List Bytes
 ordered:Option (List Bytes)
 distinct:values.Nodup
 long:∀ v∈values,minRedactableSecretLen ≤ v.length
 fresh:∀ l,ordered=some l→l=longestFirst values

def newSecretSet:SecretSet where
 values:=[]
 ordered:=none
 distinct:=nodup_nil
 long:=fun _ h=>nomatch h
 fresh:=fun _ h=>nomatch h

def SecretSet.add(s:SecretSet)(v:Bytes):SecretSet:=
 if h:v.length < minRedactableSecretLen then s
 else
  { values:=s.values.insert v
    ordered:=none
    distinct:=s.distinct.insert
    long:=fun w hw=>(mem_insert_iff.1 hw).elim (fun e=>e▸Nat.le_of_not_lt h) (s.long w)
    fresh:=fun _ h=>nomatch h}

def SecretSet.sortedLocked(s:SecretSet):List Bytes×SecretSet:=
 if s.ordered=none∧s.values≠[] then
  (longestFirst s.values,{s with ordered:=some (longestFirst s.values),fresh:=fun _ h=>(Option.some.inj h).symm})
 else (s.ordered.getD [],s)

def scrub(s secret:Bytes):Bytes:=if secret <:+: s then replaceAll secret redactionMarker s else s

def redactString(set:SecretSet)(s:Bytes):Bytes:=
 if s=[] then s else set.sortedLocked.1.foldl scrub s

lemma sortedLocked_eq(set:SecretSet):set.sortedLocked.1=longestFirst set.values:=by
 unfold SecretSet.sortedLocked
 split_ifs with h
 ·rfl
 cases ho:set.ordered with
 | some l=>exact set.fresh l ho
 | none=>
  have hv:set.values=[]:=by simpa[ho] using h
  rw[hv]
  rfl

variable {v s:Bytes}{l:List Bytes}

lemma mem_longestFirst{values}:v∈longestFirst values↔v∈values:=
 (perm_insertionSort before values).mem_iff

instance:Std.Total before where
 total a b:=by
  unfold before
  rcases Nat.lt_trichotomy a.length b.length with h | h | h
  ·exact .inr (.inl h)
  ·rcases List.le_total a b with hab | hab
   ·exact .inl (.inr ⟨h,hab⟩)
   ·exact .inr (.inr ⟨h.symm,hab⟩)
  ·exact .inl (.inl h)

instance:IsTrans Bytes before where
 trans a b c:=by
  rintro (h₁ | ⟨h₁,l₁⟩) (h₂ | ⟨h₂,l₂⟩)
  ·exact .inl (by omega)
  ·exact .inl (by omega)
  ·exact .inl (by omega)
  ·exact .inr ⟨h₁.trans h₂,List.le_trans l₁ l₂⟩

lemma before_antisymm(a b)(h₁:before a b)(h₂:before b a):a=b:=by
 rcases h₁ with h₁ | ⟨h₁,l₁⟩<;>rcases h₂ with h₂ | ⟨h₂,l₂⟩
 ·omega
 ·omega
 ·omega
 ·exact List.le_antisymm l₁ l₂
lemma longestFirst_congr{l'}(h:l.Perm l'):longestFirst l=longestFirst l':=
 ((perm_insertionSort before l).trans (h.trans (perm_insertionSort before l').symm)).eq_of_pairwise
  (fun a b _ _=>before_antisymm a b) (pairwise_insertionSort before l) (pairwise_insertionSort before l')
lemma infix_of_scrub(hc:Clear redactionMarker v){secret}(h:v <:+: scrub s secret):
 v <:+: s:=by
 unfold scrub at h
 split_ifs at h
 ·exact infix_of_replaceAll hc h
 ·exact h
lemma not_infix_foldl(hc:Clear redactionMarker v)(s)
 (h:v∈l∨¬v <:+: s):¬v <:+: l.foldl scrub s:=by
 induction l generalizing s with
 | nil=>exact h.resolve_left not_mem_nil
 | cons a rest ih=>
  rw[foldl_cons]
  apply ih
  rcases h with h | h
  ·rcases mem_cons.1 h with rfl | h
   ·right
    unfold scrub
    split_ifs with hs
    ·exact not_infix_replaceAll hc s
    ·exact hs
   ·exact .inl h
  ·exact .inr fun hv=>h (infix_of_scrub hc hv)
lemma foldl_scrub_of_clean(h:∀ v∈l,¬v <:+: s):l.foldl scrub s=s:=by
 induction l with
 | nil=>rfl
 | cons a rest ih=>
  rw[foldl_cons,scrub,if_neg (h a mem_cons_self)]
  exact ih fun v hv=>h v (mem_cons_of_mem a hv)
lemma redactString_eq(set:SecretSet)(s:Bytes):
 redactString set s=if s=[] then s else (longestFirst set.values).foldl scrub s:=by
 rw[redactString,sortedLocked_eq]
lemma redactString_clean{set}(hv:v∈set.values)(hc:Clear redactionMarker v)
 (s):¬v <:+: redactString set s:=by
 rw[redactString_eq]
 split_ifs with h
 ·subst h
  exact fun hi=>hc.1 (infix_nil.1 hi)
 ·exact not_infix_foldl hc s (.inl (mem_longestFirst.2 hv))
lemma redactString_of_clean{set}(h:∀ v∈set.values,¬v <:+: s):
 redactString set s=s:=by
 rw[redactString_eq,foldl_scrub_of_clean fun v hv=>h v (mem_longestFirst.1 hv),ite_self]

theorem redaction_leaves_no_secret(set other:SecretSet)(hsame:∀ v,v∈other.values↔v∈set.values)
 (hclear:∀ v∈set.values,Clear redactionMarker v)(s:Bytes):
 (∀ v∈set.values,¬v <:+: redactString set s)∧redactString other s=redactString set s∧
  redactString set (redactString set s)=redactString set s:=by
 have hclean:∀ v∈set.values,¬v <:+: redactString set s:=fun v hv=>redactString_clean hv (hclear v hv) s
 refine ⟨hclean,?_,redactString_of_clean hclean⟩
 rw[redactString_eq,redactString_eq,
  longestFirst_congr ((perm_ext_iff_of_nodup other.distinct set.distinct).2 hsame)]

def bearer:SecretSet:=(newSecretSet.add (bytes "sk-live")).add (bytes "live-4242")

theorem redaction_leaves_no_secret_bearer:
 (∀ v∈bearer.values,¬v <:+: redactString bearer (bytes "Bearer sk-live-4242"))∧
  redactString ((newSecretSet.add (bytes "live-4242")).add (bytes "sk-live")) (bytes "Bearer sk-live-4242") =
   redactString bearer (bytes "Bearer sk-live-4242")∧
  redactString bearer (redactString bearer (bytes "Bearer sk-live-4242")) =
   redactString bearer (bytes "Bearer sk-live-4242"):=
 redaction_leaves_no_secret bearer _ (fun _=>Perm.mem_iff (by decide)) (by decide) _

example:redactString bearer (bytes "Bearer sk-live-4242")=bytes "Bearer sk-[redacted:secret]":=by decide

/-- A value a step returned. The typed cases of `redactValue` and its reflective walk
rebuild slices, arrays and maps alike, so they share a constructor; a map key is kept
as its text. A struct, or a value of a defined string type, falls to the default case,
which does not look inside: of it only the strings it holds are kept. -/
inductive Value
 | nil
 | str (s:Bytes)
 | bytes (b:Bytes)
 | number (printed:String)
 | slice (xs:List Value)
 | map (entries:List (Bytes×Value))
 | pointer (v:Value)
 | struct (texts:List Bytes)

structure Ref where
 (mime ref:Bytes)
 inline:Value
 headers:List Bytes

structure JobError where
 (code message details:Bytes)

structure Result where
 (jobID status:String)
 output:List (String×Ref)
 error:Option JobError
 skipCode:String

section Walk

variable (f:Bytes→Bytes)

/-- A later entry replaces an earlier one whose key has the same image. -/
def overwritten(k:Bytes)(later:List (Bytes×Value)):Bool:=later.any (fun e=>f e.1==f k)

mutual
def redactValue:Value→Value
 | .nil=>.nil
 | .str s=>.str (f s)
 | .bytes b=>.bytes (f b)
 | .number n=>.number n
 | .slice xs=>.slice (redactSlice xs)
 | .map entries=>.map (redactMap entries)
 | .pointer v=>redactValue v
 | .struct texts=>.struct texts

def redactSlice:List Value→List Value
 | []=>[]
 | v::rest=>redactValue v::redactSlice rest

def redactMap:List (Bytes×Value)→List (Bytes×Value)
 | []=>[]
 | (k,v)::rest=>
  if overwritten f k rest then redactMap rest else (f k,redactValue v)::redactMap rest
end

def redactRef(r:Ref):Ref:=
 {r with ref:=f r.ref,inline:=redactValue f r.inline,headers:=r.headers.map f}

def redactError(e:JobError):JobError:=⟨f e.code,f e.message,f e.details⟩

mutual
def Scrubbed:Value→Value→Prop
 | .str s,w=>w=.str (f s)
 | .bytes b,w=>w=.bytes (f b)
 | .slice xs,w=>∃ ys,w=.slice ys∧ScrubbedSlice xs ys
 | .map entries,w=>∃ out,w=.map out∧ScrubbedMap entries out
 | .pointer v,w=>Scrubbed v w
 | .struct texts,w=>w=.struct (texts.map f)
 | v,w=>w=v

def ScrubbedSlice:List Value→List Value→Prop
 | [],ys=>ys=[]
 | v::rest,ys=>∃ w out,ys=w::out∧Scrubbed v w∧ScrubbedSlice rest out

def ScrubbedMap:List (Bytes×Value)→List (Bytes×Value)→Prop
 | [],out=>out=[]
 | (k,v)::rest,out=>
  if overwritten f k rest then ScrubbedMap rest out
  else ∃ w out',out=(f k,w)::out'∧Scrubbed v w∧ScrubbedMap rest out'

def structTexts:Value→List Bytes
 | .slice xs=>sliceTexts xs
 | .map entries=>mapTexts entries
 | .pointer v=>structTexts v
 | .struct texts=>texts
 | _=>[]

def sliceTexts:List Value→List Bytes
 | []=>[]
 | v::rest=>structTexts v++sliceTexts rest

def mapTexts:List (Bytes×Value)→List Bytes
 | []=>[]
 | (k,v)::rest=>if overwritten f k rest then mapTexts rest else structTexts v++mapTexts rest
end

mutual
theorem scrubbed_redactValue:(v:Value)→(Scrubbed f v (redactValue f v)↔∀ s∈structTexts f v,f s=s)
 | .nil | .str _ | .bytes _ | .number _=>by simp[Scrubbed,redactValue,structTexts]
 | .slice xs=>by
  simp only[Scrubbed,redactValue,structTexts,Value.slice.injEq,exists_eq_left']
  exact scrubbed_redactSlice xs
 | .map entries=>by
  simp only[Scrubbed,redactValue,structTexts,Value.map.injEq,exists_eq_left']
  exact scrubbed_redactMap entries
 | .pointer v=>by
  simp only[Scrubbed,redactValue,structTexts]
  exact scrubbed_redactValue v
 | .struct texts=>by
  simp only[Scrubbed,redactValue,structTexts,Value.struct.injEq]
  rw[eq_comm]
  simpa using (map_inj_left:texts.map f=texts.map id↔_)

theorem scrubbed_redactSlice:(xs:List Value)→
 (ScrubbedSlice f xs (redactSlice f xs)↔∀ s∈sliceTexts f xs,f s=s)
 | []=>by simp[ScrubbedSlice,redactSlice,sliceTexts]
 | v::rest=>by
  simp only[ScrubbedSlice,redactSlice,sliceTexts,List.cons.injEq,forall_mem_append]
  rw[←scrubbed_redactValue v,←scrubbed_redactSlice rest]
  exact ⟨fun ⟨_,_,⟨rfl,rfl⟩,h⟩=>h,fun h=>⟨_,_,⟨rfl,rfl⟩,h⟩⟩

theorem scrubbed_redactMap:(entries:List (Bytes×Value))→
 (ScrubbedMap f entries (redactMap f entries)↔∀ s∈mapTexts f entries,f s=s)
 | []=>by simp[ScrubbedMap,redactMap,mapTexts]
 | (k,v)::rest=>by
  simp only[ScrubbedMap,redactMap,mapTexts]
  split_ifs
  ·exact scrubbed_redactMap rest
  ·rw[forall_mem_append,←scrubbed_redactValue v,←scrubbed_redactMap rest]
   exact ⟨fun ⟨_,_,h,hv⟩=>by cases h; exact hv,fun h=>⟨_,_,rfl,h⟩⟩
end

def ScrubbedRef(r out:Ref):Prop:=
 out.mime=f r.mime∧out.ref=f r.ref∧Scrubbed f r.inline out.inline∧out.headers=r.headers.map f

def ScrubbedResult(r out:Result):Prop:=
 bytes out.jobID=f (bytes r.jobID)∧bytes out.status=f (bytes r.status)∧
  bytes out.skipCode=f (bytes r.skipCode)∧
  Forall₂ (fun p q=>bytes q.1=f (bytes p.1)∧ScrubbedRef f p.2 q.2) r.output out.output∧
  out.error=r.error.map (redactError f)

/-- The strings that the walk does not come to. -/
def unvisited(r:Result):List Bytes:=
 bytes r.jobID::bytes r.status::bytes r.skipCode ::
  r.output.flatMap (fun p=>bytes p.1::p.2.mime::structTexts f p.2.inline)

end Walk

def redactResult(r:Result)(set:SecretSet):Result:=
 if set.values=[] then r
 else
  { r with
   output:=r.output.map (fun p=>(p.1,redactRef (redactString set) p.2))
   error:=r.error.map (redactError (redactString set))}

lemma scrubbed_output(f:Bytes→Bytes)(output:List (String×Ref)):
 Forall₂ (fun p q=>bytes q.1=f (bytes p.1)∧ScrubbedRef f p.2 q.2) output
  (output.map fun p=>(p.1,redactRef f p.2))↔
  ∀ s∈output.flatMap (fun p=>bytes p.1::p.2.mime::structTexts f p.2.inline),f s=s:=by
 rw[forall₂_map_right_iff,forall₂_same]
 simp only[ScrubbedRef,redactRef,scrubbed_redactValue,and_true,true_and,mem_flatMap,mem_cons]
 constructor
 ·rintro h s ⟨p,hp,rfl | rfl | hs⟩
  ·exact (h p hp).1.symm
  ·exact (h p hp).2.1.symm
  ·exact (h p hp).2.2 s hs
 ·intro h p hp
  exact ⟨(h _ ⟨p,hp,.inl rfl⟩).symm,(h _ ⟨p,hp,.inr (.inl rfl)⟩).symm,
   fun s hs=>h s ⟨p,hp,.inr (.inr hs)⟩⟩

theorem redactResult_reaches_iff(r:Result)(set:SecretSet):
 if set.values=[] then redactResult r set=r∧∀ s,redactString set s=s
 else ScrubbedResult (redactString set) r (redactResult r set)↔
  ∀ s∈unvisited (redactString set) r,redactString set s=s:=by
 unfold redactResult
 split_ifs with hv
 ·exact ⟨rfl,fun s=>redactString_of_clean (by simp[hv])⟩
 ·simp only[ScrubbedResult,unvisited,scrubbed_output,forall_mem_cons,and_true,
   eq_comm (a:=redactString set _)]

def leaking:Result where
 jobID:="job"
 status:="ok"
 output:=[("out",⟨bytes "application/json",[],.struct [bytes "sk-live"],[]⟩)]
 error:=none
 skipCode:=""

theorem struct_keeps_secret:
 bytes "sk-live"∈bearer.values∧(redactResult leaking bearer).output.map (fun p=>p.2.inline) =
   [.struct [bytes "sk-live"]]∧
  ¬ScrubbedResult (redactString bearer) leaking (redactResult leaking bearer):=by
 refine ⟨by decide,rfl,?_⟩
 rintro ⟨-,-,-,hout,-⟩
 have hfixed:=(scrubbed_output (redactString bearer) leaking.output).1 hout (bytes "sk-live")
  (by simp[leaking,structTexts])
 exact absurd hfixed (by decide)

end Dazyflow.SecretRedaction
