import Dazyflow.GoStrings

/-!
# References in a step's settings

`resolveTemplatesCollecting` replaces the references in a step's params and env: a whole `scheme://path`,
placeholders `${scheme.path}` inside a text, and whole-text references to a loop item or a resource, which
stay structured.
-/
namespace Dazyflow.SecretTemplates
open GoStrings
open List hiding get

abbrev Str:=List Char

/-- A params tree as JSON decodes it; `other` is a number, a bool or null. -/
inductive Tree
 | str (s:Str)
 | map (entries:List (Str×Tree))
 | slice (items:List Tree)
 | other

/-- What a resolution reads from outside the settings, as functions of the path a
reference names: the loop item, upstream results, the fired trigger and resources. A
null item, no recorded results and no resource provider are absent. -/
structure Outside where
 (item upstream:Option (Str→Except String Tree))
 trigger:Str→Except String Tree
 resource:Option (Str→Except String Tree)
 stringify:Tree→Str

abbrev Lookup:=Str×Str

abbrev Providers:=Str→Option (Str→Except String Str)

/-- A result and the secret lookups made on the way, whether or not it failed. -/
abbrev Looked(α:Type):=Except String α×List Lookup

def Looked.andThen{α β:Type}(m:Looked α)(k:α→Looked β):Looked β:=
 match m with
 | (.error e,log)=>(.error e,log)
 | (.ok a,log)=>((k a).1,log++(k a).2)

def Looked.under{α:Type}(what:Str)(m:Looked α):Looked α:=
 (m.1.mapError (fun e=>String.ofList what++": "++e),m.2)

def valueTooLargeError(what:Str)(size limit:Nat):String:=
 String.ofList what++" produces "++toString size++" bytes, over the "++toString limit ++
  "-byte per-value limit — reference a single field instead of the whole value, or raise DAZYFLOW_MAX_VALUE_BYTES"

def schemeChar(c:Char):Bool:=('a' ≤ c&&c≤ 'z')||('0' ≤ c&&c≤ '9')||c== '-'||c== '_'

def placeholder(scheme path:Str):Str:= '$':: '\x7b'::(scheme++ '.'::(path++['\x7d']))

def placeholderAt:Str→Option Lookup
 | '$':: '\x7b'::rest=>
  match rest.dropWhile schemeChar with
  | '.'::more=>
   if rest.takeWhile schemeChar=[] then none
   else (cut '\x7d' more).map (fun r=>(rest.takeWhile schemeChar,r.1))
  | _=>none
 | _=>none

inductive Piece
 | text (c:Char)
 | reference (scheme path:Str)

-- the number counts the symbols of the last match that are still to be passed over
def pieces:Nat→Str→List Piece
 | _,[]=>[]
 | k+1,_::rest=>pieces k rest
 | 0,c::rest=>
  match placeholderAt (c::rest) with
  | some (scheme,path)=>.reference scheme path::pieces (scheme.length+path.length+3) rest
  | none=>.text c::pieces 0 rest

def byteLen(s:Str):Nat:=(s.map Char.utf8Size).sum

section Resolving

variable (limit:Nat)(w:Outside)(providers:Providers)

/-- The substituters tried before the secret providers; nothing when none knows the scheme. -/
def fromOutside(scheme path:Str):Option (Except String Str):=
 if scheme="item".toList then w.item.map (fun get=>(get path).map w.stringify)
 else if scheme="upstream".toList then w.upstream.map (fun get=>(get path).map w.stringify)
 else if scheme="trigger".toList then some ((w.trigger path).map w.stringify)
 else if scheme="resource".toList then w.resource.map (fun get=>(get path).map w.stringify)
 else none

def substituter(scheme path:Str):Looked (Option Str):=
 match fromOutside w scheme path with
 | some v=>(v.map some,[])
 | none=>
  match providers scheme with
  | some get=>((get path).map some,[(scheme,path)])
  | none=>(.ok none,[])

-- after the first failure nothing more is looked up
def substitute:Nat→List Piece→Looked Str
 | _,[]=>(.ok [],[])
 | projected,.text c::rest=>(substitute projected rest).andThen (fun out=>(.ok (c::out),[]))
 | projected,.reference scheme path::rest=>
  ((substituter w providers scheme path).under (placeholder scheme path)).andThen fun
   | none=>(substitute projected rest).andThen (fun out=>(.ok (placeholder scheme path++out),[]))
   | some v=>
    let size:=projected+byteLen v-byteLen (placeholder scheme path)
    if limit<size then (.error (valueTooLargeError (placeholder scheme path) size limit),[])
    else (substitute size rest).andThen fun out=>(.ok (v++out),[])

def substituteString(s:Str):Looked Str:=
 if "$\x7b".toList <:+: s then substitute limit w providers (byteLen s) (pieces 0 s) else (.ok s,[])

def splitSecretRef(s:Str):Option Lookup:=
 match (range s.length).find? (fun i=>"://".toList <+: s.drop i) with
 | none=>none
 | some i=>if 0 < i∧(s.take i).all schemeChar then some (s.take i,s.drop (i+3)) else none

/-- A whole reference is read from the raw text, and what is put in is not read again. -/
def resolveString(s:Str):Looked Str:=
 match splitSecretRef s with
 | none=>substituteString limit w providers s
 | some (scheme,path)=>
  match providers scheme with
  | none=>substituteString limit w providers s
  | some get=>(get path,[(scheme,path)])

def wholePath(scheme s:Str):Option Str:=
 match (cutPrefix ('$':: '\x7b'::(scheme++['.'])) s).bind (cut '\x7d') with
 | some (path,[])=>some path
 | _=>none

def resourceWholeValue(s:Str):Option (Except String Tree):=
 w.resource.bind (fun get=>(wholePath "resource".toList s).map get)

def blank(c:Char):Bool:=c== ' '||c== '\t'||c== '\n'||c== '\r'||c== '\x0c'

def trimBlank(s:Str):Str:=((s.dropWhile blank).reverse.dropWhile blank).reverse

def structured:Tree→Bool
 | .map _ | .slice _=>true
 | _=>false

def itemWholeValue(s:Str):Option (Except String Tree):=
 w.item.bind fun get=>(wholePath "item".toList (trimBlank s)).bind fun path=>
  match get path with
  | .error e=>some (.error e)
  | .ok v=>if structured v then some (.ok v) else none

def resolveText(s:Str):Looked Tree:=
 match (resourceWholeValue w s).or (itemWholeValue w s) with
 | some v=>(v,[])
 | none=>(resolveString limit w providers s).andThen (fun out=>(.ok (.str out),[]))

mutual
def resolveTree:Tree→Looked Tree
 | .str s=>resolveText limit w providers s
 | .map entries=>(resolveMap entries).andThen (fun out=>(.ok (.map out),[]))
 | .slice items=>(resolveSlice items).andThen (fun out=>(.ok (.slice out),[]))
 | .other=>(.ok .other,[])

def resolveMap:List (Str×Tree)→Looked (List (Str×Tree))
 | []=>(.ok [],[])
 | (k,v)::rest=>(resolveTree v).andThen fun v=>(resolveMap rest).andThen fun out=>(.ok ((k,v)::out),[])

def resolveSlice:List Tree→Looked (List Tree)
 | []=>(.ok [],[])
 | v::rest=>(resolveTree v).andThen fun v=>(resolveSlice rest).andThen fun out=>(.ok (v::out),[])
end

def resolveEnv:List (Str×Str)→Looked (List (Str×Str))
 | []=>(.ok [],[])
 | (k,v)::rest=>
  (resolveString limit w providers v).andThen fun v=>(resolveEnv rest).andThen fun out=>(.ok ((k,v)::out),[])

def resolveTemplatesCollecting(params:List (Str×Tree))(env:List (Str×Str)):
 Looked (List (Str×Tree)×List (Str×Str)):=
 (resolveMap limit w providers params).andThen fun p=>(resolveEnv limit w providers env).andThen fun e=>(.ok (p,e),[])

end Resolving

mutual
def treeTexts:Tree→List Str
 | .str s=>[s]
 | .map entries=>mapTexts entries
 | .slice items=>sliceTexts items
 | .other=>[]

def mapTexts:List (Str×Tree)→List Str
 | []=>[]
 | (_,v)::rest=>treeTexts v++mapTexts rest

def sliceTexts:List Tree→List Str
 | []=>[]
 | v::rest=>treeTexts v++sliceTexts rest
end

def rawTexts(params:List (Str×Tree))(env:List (Str×Str)):List Str:=mapTexts params++env.map Prod.snd

def Names(raw:Str)(l:Lookup):Prop:=raw=l.1++"://".toList++l.2∨placeholder l.1 l.2 <:+: raw

/-- The calls made are the first of those expected, and all of them on success. -/
def Follows{α:Type}(m:Looked α)(calls:List Lookup):Prop:=m.2 <+: calls∧∀ a,m.1=.ok a→m.2=calls

variable {s scheme path:Str}{α:Type}{l:Lookup}{m:Looked α}{calls:List Lookup}

lemma Follows.of_eq(h:m.2=calls):Follows m calls:=
 ⟨h▸prefix_rfl,fun _ _=>h⟩
lemma Follows.andThen{β:Type}{k:α→Looked β}{xs ys:List Lookup}(hm:Follows m xs)
 (hk:∀ a,Follows (k a) ys):Follows (m.andThen k) (xs++ys):=by
 obtain ⟨r,log⟩:=m
 cases r with
 | error e=>exact ⟨hm.1.trans (prefix_append xs ys),fun b hb=>nomatch hb⟩
 | ok a=>
  obtain rfl:log=xs:=hm.2 a rfl
  exact ⟨(prefix_append_right_inj log).2 (hk a).1,fun b hb=>congrArg (log++·) ((hk a).2 b hb)⟩
lemma Follows.map{β:Type}{k:α→Looked β}(hm:Follows m calls)
 (hk:∀ a,(k a).2=[]):Follows (m.andThen k) calls:=
 append_nil calls▸hm.andThen (fun a=>.of_eq (hk a))
lemma placeholder_of_at(h:placeholderAt s=some l):placeholder l.1 l.2 <+: s:=by
 unfold placeholderAt at h
 split at h
 next rest=>
  split at h
  next more hdrop=>
   split_ifs at h
   obtain ⟨⟨path,tail⟩,hcut,rfl⟩:=Option.map_eq_some_iff.1 h
   have hrest:rest.takeWhile schemeChar++ '.'::more=rest:=hdrop▸takeWhile_append_dropWhile
   refine ⟨tail,?_⟩
   rw[(cut_eq_some hcut).1] at hrest
   simpa[placeholder] using hrest
  next=>cases h
 next=>cases h
lemma infix_of_pieces{k}(h:Piece.reference scheme path∈pieces k s):
 placeholder scheme path <:+: s:=by
 induction s generalizing k with
 | nil=>simp[pieces] at h
 | cons c rest ih=>
  have later:∀ j,Piece.reference scheme path∈pieces j rest→placeholder scheme path <:+: c::rest:=
   fun j hj=>(ih hj).trans (suffix_cons c rest).isInfix
  cases k with
  | succ k=>exact later k h
  | zero=>?_
  rw[pieces] at h
  split at h
  next sc p hat=>
   rcases mem_cons.1 h with h | h
   ·cases h
    exact (placeholder_of_at hat).isInfix
   ·exact later _ h
  next=>exact later 0 (by simpa using h)

def referencesOf(ps:List Piece):List Lookup:=
 ps.filterMap (fun | .reference scheme path=>some (scheme,path) | .text _=>none)

def references(s:Str):List Lookup:=referencesOf (pieces 0 s)

lemma infix_of_references(h:l∈references s):placeholder l.1 l.2 <:+: s:=by
 obtain ⟨piece,hmem,hpiece⟩:=mem_filterMap.1 h
 cases piece with
 | text c=>cases hpiece
 | reference scheme path=>
  cases hpiece
  exact infix_of_pieces hmem
lemma pieces_skip{k read rest}(h:read.length=k):pieces k (read++rest)=pieces 0 rest:=by
 induction read generalizing k with
 | nil=>rw[←h]; rfl
 | cons c read ih=>
  rw[←h,length_cons,cons_append,pieces]
  exact ih rfl
lemma references_text(h:∀ c∈s,c≠ '$')(rest):references (s++rest)=references rest:=by
 induction s with
 | nil=>rfl
 | cons c s ih=>
  have hnone:placeholderAt (c::(s++rest))=none:=by
   unfold placeholderAt
   split
   next heq=>exact absurd (List.cons.inj heq).1 (h c mem_cons_self)
   next=>rfl
  rw[cons_append,references,pieces,hnone]
  exact ih fun d hd=>h d (mem_cons_of_mem c hd)
lemma references_placeholder(hne:scheme≠[])(hscheme:∀ c∈scheme,schemeChar c)
 (hpath: '\x7d' ∉ path)(rest):
 references (placeholder scheme path++rest)=(scheme,path)::references rest:=by
 have hdot:schemeChar '.'=false:=by decide
 have hat:placeholderAt (placeholder scheme path++rest)=some (scheme,path):=by
  have htake:(scheme++ '.'::(path++ '\x7d'::rest)).takeWhile schemeChar=scheme:=by
   rw[takeWhile_append_of_pos hscheme,takeWhile_cons_of_neg (by simp[hdot]),append_nil]
  have hdrop:(scheme++ '.'::(path++ '\x7d'::rest)).dropWhile schemeChar= '.'::(path++ '\x7d'::rest):=by
   rw[dropWhile_append_of_pos hscheme,dropWhile_cons_of_neg (by simp[hdot])]
  simp[placeholder,placeholderAt,htake,hdrop,hne,cut_append rest hpath]
 have hlength:('\x7b'::(scheme++ '.'::(path++['\x7d']))).length=scheme.length+path.length+3:=by
  simp only[length_cons,length_append,length_nil]
  omega
 unfold references
 rw[placeholder,cons_append] at hat ⊢
 rw[pieces,hat]
 exact congrArg (fun ps=>(scheme,path)::referencesOf ps) (pieces_skip hlength)
lemma eq_of_splitSecretRef(h:splitSecretRef s=some l):s=l.1++"://".toList++l.2:=by
 unfold splitSecretRef at h
 split at h
 next=>cases h
 next i hfind=>
  split_ifs at h
  cases h
  have hsep:"://".toList <+: s.drop i:=by simpa using find?_some hfind
  obtain ⟨rest,hrest⟩:=hsep
  have hdrop:s.drop (i+3)=rest:=by rw[←drop_drop,←hrest]; rfl
  rw[hdrop,append_assoc,hrest,take_append_drop]
lemma splitSecretRef_of_head{c}(h:schemeChar c=false)(rest):splitSecretRef (c::rest)=none:=by
 unfold splitSecretRef
 split
 next=>rfl
 next i _=>
  cases i with
  | zero=>simp
  | succ i=>simp[h]
lemma wholePath_eq_some(h:wholePath scheme s=some path):
 s=placeholder scheme path∧ '\x7d' ∉ path:=by
 unfold wholePath at h
 split at h
 next p hbind=>
  cases h
  obtain ⟨rest,hstart,hcut⟩:=Option.bind_eq_some_iff.1 hbind
  obtain ⟨rfl,hclosed⟩:=cut_eq_some hcut
  rw[cutPrefix_eq_some hstart]
  exact ⟨by simp[placeholder],hclosed⟩
 next=>cases h
lemma trimBlank_spec(s):∃ before after,before++trimBlank s++after=s∧
 (∀ c∈before,blank c)∧∀ c∈after,blank c:=by
 have hright:trimBlank s++((s.dropWhile blank).reverse.takeWhile blank).reverse=s.dropWhile blank:=by
  rw[trimBlank,←reverse_append,takeWhile_append_dropWhile,reverse_reverse]
 have htaken:∀ t:Str,∀ c∈t.takeWhile blank,blank c:=fun t=>all_eq_true.1 all_takeWhile
 refine ⟨s.takeWhile blank,((s.dropWhile blank).reverse.takeWhile blank).reverse,?_,htaken s,
  fun c hc=>htaken _ c (mem_reverse.1 hc)⟩
 rw[append_assoc,hright,takeWhile_append_dropWhile]
lemma blank_plain{c}(h:blank c):schemeChar c=false∧c≠ '$':=by
 simp only[blank,Bool.or_eq_true,beq_iff_eq] at h
 rcases h with (((rfl | rfl) | rfl) | rfl) | rfl<;>decide

section Lookups

variable (limit:Nat)(w:Outside)(providers:Providers)

def taken(scheme:Str):Bool:=
 if scheme="item".toList then w.item.isSome
 else if scheme="upstream".toList then w.upstream.isSome
 else if scheme="trigger".toList then true
 else if scheme="resource".toList then w.resource.isSome
 else false

def asks(l:Lookup):Bool:=!taken w l.1&&(providers l.1).isSome

def written(s:Str):List Lookup:=
 match (splitSecretRef s).filter (fun l=>(providers l.1).isSome) with
 | some l=>[l]
 | none=>(references s).filter (asks w providers)

lemma isSome_fromOutside(scheme path):(fromOutside w scheme path).isSome=taken w scheme:=by
 unfold fromOutside taken
 split_ifs<;>simp
lemma substituter_log(scheme path):
 (substituter w providers scheme path).2=[(scheme,path)].filter (asks w providers):=by
 have htaken:=isSome_fromOutside w scheme path
 unfold substituter asks
 cases hout:fromOutside w scheme path<;>cases hp:providers scheme<;>simp_all
lemma substitute_follows(projected ps):
 Follows (substitute limit w providers projected ps) ((referencesOf ps).filter (asks w providers)):=by
 induction ps generalizing projected with
 | nil=>exact .of_eq rfl
 | cons piece rest ih=>
  cases piece with
  | text c=>exact (ih projected).map (fun _=>rfl)
  | reference scheme path=>?_
  have hsplit:(referencesOf (.reference scheme path::rest)).filter (asks w providers) =
   [(scheme,path)].filter (asks w providers)++(referencesOf rest).filter (asks w providers):=
   (filter_append [(scheme,path)] (referencesOf rest)).symm▸rfl
  rw[hsplit,substitute]
  refine Follows.andThen (.of_eq (substituter_log w providers scheme path)) fun
   | none=>(ih projected).map (fun _=>rfl)
   | some v=>?_
  dsimp only
  split_ifs
  ·exact And.intro nil_prefix fun _ h=>nomatch h
  ·exact (ih _).map fun _=>rfl
lemma substituteString_follows(s):
 Follows (substituteString limit w providers s) ((references s).filter (asks w providers)):=by
 unfold substituteString
 split_ifs with hopen
 ·exact substitute_follows limit w providers _ _
 ·have hnone:references s=[]:=by
   refine eq_nil_iff_forall_not_mem.2 fun l hl=>hopen ?_
   exact (prefix_append _ _).isInfix.trans (infix_of_references hl)
  exact .of_eq (by rw[hnone]; rfl)
lemma resolveString_follows(s):Follows (resolveString limit w providers s) (written w providers s):=by
 have hsubst:=substituteString_follows limit w providers s
 unfold resolveString written
 cases hsplit:splitSecretRef s with
 | none=>exact hsubst
 | some l=>
  cases hp:providers l.1 with
  | none=>simpa[hp,Option.filter] using hsubst
  | some get=>simpa[hp,Option.filter] using Follows.of_eq (m:=(get l.2,[l])) rfl
lemma written_of_taken{before after scheme path}(hbefore:∀ c∈before,blank c)
 (hafter:∀ c∈after,blank c)(hne:scheme≠[])(hscheme:scheme.all schemeChar)
 (hpath: '\x7d' ∉ path)(htaken:taken w scheme):
 written w providers (before++placeholder scheme path++after)=[]:=by
 have hsplit:splitSecretRef (before++placeholder scheme path++after)=none:=by
  cases before with
  | nil=>exact splitSecretRef_of_head (by decide) _
  | cons c rest=>exact splitSecretRef_of_head (blank_plain (hbefore c mem_cons_self)).1 _
 have hend:references after=[]:=by
  simpa[references,pieces,referencesOf] using references_text (fun c hc=>(blank_plain (hafter c hc)).2) []
 have hrefs:references (before++placeholder scheme path++after)=[(scheme,path)]:=by
  rw[append_assoc,references_text fun c hc=>(blank_plain (hbefore c hc)).2,
   references_placeholder hne (all_eq_true.1 hscheme) hpath,hend]
 rw[written,hsplit,hrefs]
 simp[asks,htaken]
lemma resourceWholeValue_written{s v}(h:resourceWholeValue w s=some v):
 written w providers s=[]:=by
 obtain ⟨get,hget,hmap⟩:=Option.bind_eq_some_iff.1 h
 obtain ⟨path,hpath,-⟩:=Option.map_eq_some_iff.1 hmap
 obtain ⟨rfl,hclosed⟩:=wholePath_eq_some hpath
 have htaken:taken w "resource".toList:=by simp[taken,hget]
 simpa using @written_of_taken w providers [] [] _ _ (by simp) (by simp) (by decide) (by decide) hclosed htaken
lemma itemWholeValue_written{s v}(h:itemWholeValue w s=some v):
 written w providers s=[]:=by
 obtain ⟨get,hget,hbind⟩:=Option.bind_eq_some_iff.1 h
 obtain ⟨path,hpath,-⟩:=Option.bind_eq_some_iff.1 hbind
 obtain ⟨hwhole,hclosed⟩:=wholePath_eq_some hpath
 obtain ⟨before,after,hs,hbefore,hafter⟩:=trimBlank_spec s
 have htaken:taken w "item".toList:=by simp[taken,hget]
 rw[←hs,hwhole]
 exact written_of_taken w providers hbefore hafter (by decide) (by decide) hclosed htaken
lemma resolveText_follows(s):Follows (resolveText limit w providers s) (written w providers s):=by
 unfold resolveText
 cases hres:resourceWholeValue w s with
 | some v=>exact .of_eq (resourceWholeValue_written w providers hres).symm
 | none=>
  cases hitem:itemWholeValue w s with
  | some v=>exact .of_eq (itemWholeValue_written w providers hitem).symm
  | none=>exact (resolveString_follows limit w providers s).map (fun _=>rfl)

mutual
theorem resolveTree_follows:∀ t:Tree,
 Follows (resolveTree limit w providers t) ((treeTexts t).flatMap (written w providers))
 | .str s=>by
  rw[resolveTree,treeTexts,flatMap_singleton]
  exact resolveText_follows limit w providers s
 | .map entries=>by
  rw[resolveTree,treeTexts]
  exact (resolveMap_follows entries).map fun _=>rfl
 | .slice items=>by
  rw[resolveTree,treeTexts]
  exact (resolveSlice_follows items).map fun _=>rfl
 | .other=>.of_eq (by rw[resolveTree,treeTexts]; rfl)

theorem resolveMap_follows:∀ entries:List (Str×Tree),
 Follows (resolveMap limit w providers entries) ((mapTexts entries).flatMap (written w providers))
 | []=>.of_eq (by rw[resolveMap,mapTexts]; rfl)
 | (k,v)::rest=>by
  rw[resolveMap,mapTexts,flatMap_append]
  exact (resolveTree_follows v).andThen fun _=>(resolveMap_follows rest).map (fun _=>rfl)

theorem resolveSlice_follows:∀ items:List Tree,
 Follows (resolveSlice limit w providers items) ((sliceTexts items).flatMap (written w providers))
 | []=>.of_eq (by rw[resolveSlice,sliceTexts]; rfl)
 | v::rest=>by
  rw[resolveSlice,sliceTexts,flatMap_append]
  exact (resolveTree_follows v).andThen fun _=>(resolveSlice_follows rest).map (fun _=>rfl)
end

lemma resolveEnv_follows(env:List (Str×Str)):
 Follows (resolveEnv limit w providers env) ((env.map Prod.snd).flatMap (written w providers)):=by
 induction env with
 | nil=>exact .of_eq rfl
 | cons e rest ih=>
  rw[map_cons,flatMap_cons,resolveEnv]
  exact (resolveString_follows limit w providers e.2).andThen fun _=>ih.map (fun _=>rfl)
lemma resolveTemplatesCollecting_follows(params:List (Str×Tree))(env:List (Str×Str)):
 Follows (resolveTemplatesCollecting limit w providers params env)
  ((rawTexts params env).flatMap (written w providers)):=by
 rw[rawTexts,flatMap_append]
 exact (resolveMap_follows limit w providers params).andThen
  fun _=>(resolveEnv_follows limit w providers env).map (fun _=>rfl)
lemma names_of_written{raw l}(h:l∈written w providers raw):Names raw l:=by
 unfold written at h
 split at h
 next whole hfilter=>
  obtain rfl:=mem_singleton.1 h
  exact .inl (eq_of_splitSecretRef (Option.filter_eq_some_iff.1 hfilter).1)
 next=>exact .inr (infix_of_references (mem_filter.1 h).1)
lemma mem_lookups{params env}
 (h:∃ out,(resolveTemplatesCollecting limit w providers params env).1=.ok out)(l):
 l∈(resolveTemplatesCollecting limit w providers params env).2↔
  ∃ raw∈rawTexts params env,l∈written w providers raw:=by
 obtain ⟨out,hout⟩:=h
 rw[(resolveTemplatesCollecting_follows limit w providers params env).2 out hout,mem_flatMap]

end Lookups

lemma written_congr{w w' providers}
 (h:∀ scheme,(providers scheme).isSome→taken w scheme=taken w' scheme):
 written w providers=written w' providers:=by
 have hasks:asks w providers=asks w' providers:=by
  funext l
  unfold asks
  cases hp:(providers l.1).isSome with
  | false=>simp
  | true=>rw[h l.1 hp]
 funext s
 rw[written,written,hasks]

/-- A secret is only looked up under a name written in the raw settings. Two resolutions of
the same texts, whatever the order they are read in and whatever the outside sources
hold, look up the same names when both succeed, as long as the same of the provided
schemes are answered from outside. -/
theorem lookups_written_in_settings(limit:Nat)(providers:Providers):
 (∀ (w:Outside) (params:List (Str×Tree)) (env:List (Str×Str)),
  ∀ l∈(resolveTemplatesCollecting limit w providers params env).2,∃ raw∈rawTexts params env,Names raw l)∧
 ∀ (w w':Outside) (params params':List (Str×Tree)) (env env':List (Str×Str)),
  (∀ scheme,(providers scheme).isSome→taken w scheme=taken w' scheme)→
  (∀ raw,raw∈rawTexts params env↔raw∈rawTexts params' env')→
  (∃ out,(resolveTemplatesCollecting limit w providers params env).1=.ok out)→
  (∃ out,(resolveTemplatesCollecting limit w' providers params' env').1=.ok out)→
  ∀ l,l∈(resolveTemplatesCollecting limit w providers params env).2↔
   l∈(resolveTemplatesCollecting limit w' providers params' env').2:=by
 constructor
 ·intro w params env l hl
  have hmem:=(resolveTemplatesCollecting_follows limit w providers params env).1.mem hl
  obtain ⟨raw,hraw,hwritten⟩:=List.mem_flatMap.1 hmem
  exact ⟨raw,hraw,names_of_written w providers hwritten⟩
 ·intro w w' params params' env env' htaken htexts hok hok' l
  rw[mem_lookups limit w providers hok,mem_lookups limit w' providers hok',written_congr htaken]
  exact exists_congr fun raw=>and_congr_left (fun _=>htexts raw)

def vault(scheme:String):Providers:=fun s=>if s=scheme.toList then some (fun _=>.ok "hunter2".toList) else none

def ofItem(item:Option String):Outside where
 item:=item.map (fun text _=>.ok (.str text.toList))
 upstream:=none
 trigger:=fun _=>.error "trigger: no trigger fired in this run"
 resource:=none
 stringify:=fun | .str s=>s | _=>[]

-- the item's text reads like a reference and is not taken for one
theorem item_text_names_nothing:
 (∀ l∈(resolveTemplatesCollecting 100 (ofItem (some "secret://B")) (vault "secret")
   [("a".toList,.str "$\x7bitem.\x7d$\x7bsecret.A\x7d".toList)] []).2,
  ∃ raw∈["$\x7bitem.\x7d$\x7bsecret.A\x7d".toList],Names raw l)∧
 ∀ l,l∈(resolveTemplatesCollecting 100 (ofItem (some "secret://B")) (vault "secret")
   [("a".toList,.str "$\x7bitem.\x7d$\x7bsecret.A\x7d".toList)] []).2↔
  l∈(resolveTemplatesCollecting 100 (ofItem none) (vault "secret")
   [("a".toList,.str "$\x7bitem.\x7d$\x7bsecret.A\x7d".toList)] []).2:=by
 have h:=lookups_written_in_settings 100 (vault "secret")
 refine ⟨h.1 _ _ _,h.2 _ _ _ _ _ _ (fun scheme hp=>?_) (fun raw=>Iff.rfl) ⟨_,rfl⟩ ⟨_,rfl⟩⟩
 have hscheme:scheme="secret".toList:=by
  by_contra hne
  rw[vault,if_neg hne] at hp
  cases hp
 rw[hscheme]
 rfl

/-- A provider registered as `item` is asked only while there is no item. -/
theorem item_hides_provider:
 ∃ (providers:Providers) (w w':Outside) (params:List (Str×Tree)),
  (∃ out,(resolveTemplatesCollecting 100 w providers params []).1=.ok out)∧
  (∃ out,(resolveTemplatesCollecting 100 w' providers params []).1=.ok out)∧
  (resolveTemplatesCollecting 100 w providers params []).2=[("item".toList,"k".toList)]∧
  (resolveTemplatesCollecting 100 w' providers params []).2=[]:=
 ⟨vault "item",ofItem none,ofItem (some "x"),[("a".toList,.str "$\x7bitem.k\x7d".toList)],
  ⟨_,rfl⟩,⟨_,rfl⟩,rfl,rfl⟩

end Dazyflow.SecretTemplates
