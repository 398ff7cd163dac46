import Dazyflow.FirstSeenGroups

/-!
# Packing the columns of a tidied canvas

`packColumns` stacks the boxes of each column from left to right around the nailed boxes. A box that would
lie on a nailed one is moved below it, in one pass over the nailed boxes of the column's band.
-/
namespace Dazyflow.ColumnPacking
open FirstSeenGroups List

structure LayoutBox where
 id:String
 (x y w h:ℚ)
 nailed:Bool:=false

structure PackOptions where
 hgap:ℚ:=80
 vgap:ℚ:=36
 startX:ℚ:=80
 startY:ℚ:=80

structure Position where
 (x y:ℚ)

abbrev Placement:=LayoutBox×Position

abbrev Layer:=String→Option ℚ

def sortBy{α:Type}(f:α→ℚ)(l:List α):List α:=l.mergeSort fun a b=>f a ≤ f b

section Packing

variable (layer:Layer)(boxes:List LayoutBox)(o:PackOptions)(nailed:List LayoutBox)

def column(b:LayoutBox):ℚ:=(layer b.id).getD 0

def loose:List LayoutBox:=boxes.filter fun b=> !b.nailed

def cols:List (ℚ×List LayoutBox):=groups (fun _=>[]) (fun arr b=>arr++[b]) (column layer) (loose boxes)

/-- The columns from left to right, each from top to bottom. -/
def sortedCols:List (List LayoutBox):=(sortBy Prod.fst (cols layer boxes)).map fun c=>sortBy LayoutBox.y c.2

def colH(arr:List LayoutBox):ℚ:=arr.foldl (fun s b=>s+b.h) 0+o.vgap*(arr.length-1)

def maxColH(cs:List (List LayoutBox)):ℚ:=cs.foldl (fun m arr=>if m<colH o arr then colH o arr else m) 0

def colW(arr:List LayoutBox):ℚ:=(arr.map LayoutBox.w).max?.getD 0

def push(h y:ℚ)(n:LayoutBox):ℚ:=if n.y<y+h∧y<n.y+n.h then n.y+n.h+o.vgap else y

def stack(x w:ℚ):ℚ→List LayoutBox→List Placement
 | _,[]=>[]
 | y,b::arr=>
  let y:=nailed.foldl (push o b.h) y
  (b,⟨x+(w-b.w)/2,y⟩)::stack x w (y+b.h+o.vgap) arr

def inBand(x w:ℚ):List LayoutBox:=nailed.filter fun n=>n.x<x+w∧x<n.x+n.w

def pack(top:ℚ):ℚ→List (List LayoutBox)→List Placement
 | _,[]=>[]
 | x,arr::cs=>
  stack o (inBand nailed x (colW arr)) x (colW arr) (o.startY+(top-colH o arr)/2) arr ++
   pack top (x+colW arr+o.hgap) cs

def placed:List Placement:=
 let cs:=sortedCols layer boxes
 pack o (sortBy LayoutBox.y (boxes.filter LayoutBox.nailed)) (maxColH o cs) o.startX cs

/-- The position that was set last for an id. -/
def packColumns(id:String):Option Position:=((placed layer boxes o).reverse.find? fun e=>e.1.id=id).map Prod.snd

end Packing

def LayoutBox.moved(b:LayoutBox)(p:Position):LayoutBox:={b with x:=p.x,y:=p.y}

def Overlaps(a b:LayoutBox):Prop:=a.x<b.x+b.w∧b.x<a.x+a.w∧a.y<b.y+b.h∧b.y<a.y+a.h

variable {o:PackOptions}{nailed arr:List LayoutBox}{layer:Layer}{boxes:List LayoutBox}

section Push

variable (hv:0 ≤ o.vgap){h y:ℚ}{m n:LayoutBox}

def Clear(h y:ℚ)(n:LayoutBox):Prop:=n.y+n.h ≤ y∨y+h ≤ n.y

include hv

lemma le_push:y ≤ push o h y n:=by
 unfold push
 split_ifs with hn
 ·linarith [hn.2]
 ·exact le_rfl
lemma clear_push:Clear h (push o h y n) n:=by
 unfold push Clear
 split_ifs with hn
 ·exact .inl (by linarith)
 ·exact (not_and_or.1 hn).symm.imp not_lt.1 not_lt.1
/-- A nailed box above the next one stays clear: where it lay below, the next does not push. -/
lemma Clear.push(hm:Clear h y m)(hle:m.y ≤ n.y):Clear h (push o h y n) m:=by
 unfold ColumnPacking.push
 split_ifs with hn
 ·exact .inl (by rcases hm with hm | hm<;>linarith [hn.1,hn.2])
 ·exact hm
lemma Clear.pushes(hm:Clear h y m)(hle:∀ n∈nailed,m.y ≤ n.y):Clear h (nailed.foldl (ColumnPacking.push o h) y) m:=by
 induction nailed generalizing y with
 | nil=>exact hm
 | cons n ns ih=>
  obtain ⟨hn,hns⟩:=forall_mem_cons.1 hle
  exact ih (hm.push hv hn) hns
lemma pushes_clear(hs:nailed.Pairwise fun a b=>a.y ≤ b.y):
 y ≤ nailed.foldl (push o h) y∧∀ n∈nailed,Clear h (nailed.foldl (push o h) y) n:=by
 induction nailed generalizing y with
 | nil=>exact ⟨le_rfl,forall_mem_nil _⟩
 | cons n ns ih=>
  obtain ⟨hn,hns⟩:=pairwise_cons.1 hs
  obtain ⟨hle,hclear⟩:=ih (y:=push o h y n) hns
  have hhead:Clear h (ns.foldl (push o h) (push o h y n)) n:=(clear_push hv).pushes hv hn
  exact ⟨(le_push hv).trans hle,forall_mem_cons.2 ⟨hhead,hclear⟩⟩

end Push

lemma le_colW{b}(hb:b∈arr):b.w ≤ colW arr:=by
 unfold colW
 have hmem:=mem_map_of_mem (f:=LayoutBox.w) hb
 cases hm:(arr.map LayoutBox.w).max? with
 | none=>simp[max?_eq_none_iff.1 hm] at hmem
 | some w=>exact (max?_eq_some_iff.1 hm).2 _ hmem

/-- What holds of a box placed in the band of its column. -/
structure Stands(nailed:List LayoutBox)(x w y:ℚ)(e:Placement):Prop where
 x:e.2.x=x+(w-e.1.w)/2
 y:y ≤ e.2.y
 clear:∀ n∈nailed,Clear e.1.h e.2.y n

section Stack

variable {x w y:ℚ}

lemma stack_boxes:(stack o nailed x w y arr).map Prod.fst=arr:=by
 induction arr generalizing y with
 | nil=>rfl
 | cons b arr ih=>rw[stack,map_cons,ih]
lemma mem_of_stack{e}(he:e∈stack o nailed x w y arr):e.1∈arr:=by
 have h:=mem_map_of_mem (f:=Prod.fst) he
 rwa[stack_boxes] at h
lemma stack_stands(hv:0 ≤ o.vgap)(hs:nailed.Pairwise fun a b=>a.y ≤ b.y)(hh:∀ b∈arr,0<b.h):
 (∀ e∈stack o nailed x w y arr,Stands nailed x w y e)∧
  (stack o nailed x w y arr).Pairwise fun e e'=>e.2.y+e.1.h ≤ e'.2.y:=by
 induction arr generalizing y with
 | nil=>exact ⟨forall_mem_nil _,.nil⟩
 | cons b arr ih=>
  obtain ⟨hb,harr⟩:=forall_mem_cons.1 hh
  obtain ⟨hle,hclear⟩:=pushes_clear hv (h:=b.h) (y:=y) hs
  obtain ⟨hin,hpw⟩:=ih (y:=nailed.foldl (push o b.h) y+b.h+o.vgap) harr
  refine ⟨forall_mem_cons.2 ⟨⟨rfl,hle,hclear⟩,fun e he=>?_⟩,pairwise_cons.2 ⟨fun e he=>?_,hpw⟩⟩
  ·obtain ⟨hx,hy,hc⟩:=hin e he
   exact ⟨hx,by linarith,hc⟩
  ·have hy:=(hin e he).y
   change nailed.foldl (push o b.h) y+b.h ≤ _
   linarith

end Stack

/-- One box comes before another: higher in its column, or in a column to the left. -/
def Before(layer:Layer)(e e':Placement):Prop:=
 column layer e.1=column layer e'.1∧e.2.y+e.1.h ≤ e'.2.y∨
  column layer e.1<column layer e'.1∧e.2.x+e.1.w ≤ e'.2.x

structure Ranked(layer:Layer)(boxes:List LayoutBox)(cs:List (List LayoutBox)):Prop where
 perm:cs.flatten.Perm boxes
 same:∀ arr∈cs,∀ p∈arr,∀ q∈arr,column layer p=column layer q
 apart:cs.Pairwise fun a b=>∀ p∈a,∀ q∈b,column layer p<column layer q

lemma sortBy_perm{α:Type}{f:α→ℚ}{l}:(sortBy f l).Perm l:=mergeSort_perm _ _
lemma sortBy_sorted{α:Type}{f:α→ℚ}{l}:(sortBy f l).Pairwise fun a b=>f a ≤ f b:=by
 have h:=@pairwise_mergeSort α (fun a b=>f a ≤ f b) (fun a b c=>by simpa using le_trans)
  (fun a b=>by simpa using le_total _ _) l
 simpa[sortBy] using h
lemma cols_eq:cols layer boxes=(firsts (column layer) [] (loose boxes)).map fun b=>
 (column layer b,(loose boxes).filter fun c=>column layer c=column layer b):=by
 have hall:∀ arr:List LayoutBox,arr.foldl (fun l b=>l++[b]) []=arr:=fun arr=>by
  rw[foldl_append_eq_append,←flatMap_def]
  simp
 rw[cols,groups_eq]
 simp only[hall]
lemma ranked_sortedCols:Ranked layer (loose boxes) (sortedCols layer boxes):=by
 have hkey:∀ c∈sortBy Prod.fst (cols layer boxes),∀ b∈sortBy LayoutBox.y c.2,column layer b=c.1:=by
  intro c hc b hb
  rw[sortBy_perm.mem_iff,cols_eq,mem_map] at hc
  obtain ⟨b',_,rfl⟩:=hc
  simpa using (mem_filter.1 (sortBy_perm.mem_iff.1 hb)).2
 refine ⟨?_,?_,?_⟩
 ·rw[sortedCols,←flatMap_def]
  refine (sortBy_perm.flatMap fun c _=>sortBy_perm).trans ?_
  have h:=flatMap_firsts_perm (column layer) [] (loose boxes)
  rw[cols_eq,flatMap_map]
  simpa using h
 ·intro arr harr p hp q hq
  obtain ⟨c,hc,rfl⟩:=mem_map.1 harr
  rw[hkey c hc p hp,hkey c hc q hq]
 ·have hnodup:((sortBy Prod.fst (cols layer boxes)).map Prod.fst).Nodup:=by
   rw[(sortBy_perm.map _).nodup_iff,cols_eq,map_map]
   exact firsts_keys_nodup
  refine pairwise_map.2 (((pairwise_map.1 hnodup).and sortBy_sorted).imp_of_mem ?_)
  rintro a b ha hb ⟨hne,hle⟩ p hp q hq
  rw[hkey a ha p hp,hkey b hb q hq]
  exact lt_of_le_of_ne hle hne

section Pack

variable {top x:ℚ}{cs:List (List LayoutBox)}{e:Placement}

lemma pack_boxes:(pack o nailed top x cs).map Prod.fst=cs.flatten:=by
 induction cs generalizing x with
 | nil=>rfl
 | cons arr cs ih=>rw[pack,map_append,stack_boxes,ih,flatten_cons]

variable (hg:0 ≤ o.hgap)(hv:0 ≤ o.vgap)(hs:nailed.Pairwise fun a b=>a.y ≤ b.y)

include hv hs

lemma stack_in_band{y}(hsize:∀ b∈arr,0<b.w∧0<b.h)(he:e∈stack o (inBand nailed x (colW arr)) x (colW arr) y arr):
 (x ≤ e.2.x∧e.2.x+e.1.w ≤ x+colW arr)∧∀ n∈nailed,¬Overlaps (e.1.moved e.2) n:=by
 obtain ⟨hx,_,hclear⟩:=(stack_stands hv (hs.filter _) fun b hb=>(hsize b hb).2).1 e he
 have hw:=le_colW (mem_of_stack he)
 refine ⟨⟨by linarith,by linarith⟩,fun n hn ⟨hl,hr,ht,hb⟩=>?_⟩
 simp only[LayoutBox.moved] at hl hr ht hb
 have hband:n∈inBand nailed x (colW arr):=mem_filter.2 ⟨hn,decide_eq_true ⟨by linarith,by linarith⟩⟩
 rcases hclear n hband with h | h<;>linarith

include hg

lemma pack_clear(hsize:∀ arr∈cs,∀ b∈arr,0<b.w∧0<b.h)(he:e∈pack o nailed top x cs):
 x ≤ e.2.x∧∀ n∈nailed,¬Overlaps (e.1.moved e.2) n:=by
 induction cs generalizing x with
 | nil=>cases he
 | cons arr cs ih=>
  obtain ⟨harr,hcs⟩:=forall_mem_cons.1 hsize
  rcases mem_append.1 he with he | he
  ·obtain ⟨⟨hx,_⟩,hn⟩:=stack_in_band hv hs harr he
   exact ⟨hx,hn⟩
  ·obtain ⟨hx,hn⟩:=ih hcs he
   have hw:0 ≤ colW arr:=by
    cases arr with
    | nil=>exact le_rfl
    | cons b arr=>exact (harr b mem_cons_self).1.le.trans (le_colW mem_cons_self)
   exact ⟨by linarith,hn⟩
lemma pack_before(hsize:∀ arr∈cs,∀ b∈arr,0<b.w∧0<b.h)(hr:Ranked layer boxes cs):
 (pack o nailed top x cs).Pairwise (Before layer):=by
 obtain ⟨-,hsame,hapart⟩:=hr
 induction cs generalizing x with
 | nil=>exact .nil
 | cons arr cs ih=>
  obtain ⟨harr,hcs⟩:=forall_mem_cons.1 hsize
  obtain ⟨hkey,hkeys⟩:=forall_mem_cons.1 hsame
  obtain ⟨hlt,hapart⟩:=pairwise_cons.1 hapart
  refine pairwise_append.2 ⟨?_,ih hcs hkeys hapart,fun e he e' he'=>.inr ⟨?_,?_⟩⟩
  ·refine (stack_stands hv (hs.filter _) fun b hb=>(harr b hb).2).2.imp_of_mem fun he he' h=>?_
   exact .inl ⟨hkey _ (mem_of_stack he) _ (mem_of_stack he'),h⟩
  ·have h:=mem_map_of_mem (f:=Prod.fst) he'
   rw[pack_boxes] at h
   obtain ⟨arr',harr',h'⟩:=mem_flatten.1 h
   exact hlt arr' harr' _ (mem_of_stack he) _ h'
  ·have hx:=(stack_in_band hv hs harr he).1.2
   have hx':=(pack_clear hg hv hs hcs he').1
   linarith

end Pack

/-- With distinct ids, positive sizes and gaps that are not negative, exactly the boxes that are not nailed
 get a position, no placed box lies on another one or on a nailed one, and the columns lie apart. -/
theorem packColumns_apart(layer:Layer)(boxes:List LayoutBox)(o:PackOptions)
 (hid:(boxes.map LayoutBox.id).Nodup)(hsize:∀ b∈boxes,0<b.w∧0<b.h)(hgap:0 ≤ o.hgap∧0 ≤ o.vgap):
 (∀ id,(packColumns layer boxes o id).isSome↔∃ b∈boxes,b.id=id∧b.nailed=false)∧
 ∀ b∈boxes,∀ p∈packColumns layer boxes o b.id,
  (∀ n∈boxes,n.nailed→¬Overlaps (b.moved p) n)∧
  ∀ c∈boxes,∀ q∈packColumns layer boxes o c.id,c≠b→
   ¬Overlaps (b.moved p) (c.moved q)∧(column layer b<column layer c→p.x+b.w ≤ q.x):=by
 have hr:Ranked layer _ (sortedCols layer boxes):=ranked_sortedCols
 have hboxes:∀ b,b∈(sortedCols layer boxes).flatten↔b∈boxes∧b.nailed=false:=fun b=>by simp[hr.perm.mem_iff,loose]
 have hcs:∀ arr∈sortedCols layer boxes,∀ b∈arr,0<b.w∧0<b.h:=fun arr harr b hb=>
  hsize b ((hboxes b).1 (mem_flatten.2 ⟨arr,harr,hb⟩)).1
 have hplaced:(placed layer boxes o).map Prod.fst=(sortedCols layer boxes).flatten:=pack_boxes
 have hmem:∀ {e},e∈placed layer boxes o→e.1∈boxes∧e.1.nailed=false:=fun he=>
  (hboxes _).1 (hplaced▸mem_map_of_mem he)
 have hget:∀ {b p},b∈boxes→p∈packColumns layer boxes o b.id→(b,p)∈placed layer boxes o:=by
  intro b p hb hp
  obtain ⟨e,he,rfl⟩:=Option.map_eq_some_iff.1 hp
  have hin:=mem_reverse.1 (mem_of_find?_eq_some he)
  obtain rfl:e.1=b:=inj_on_of_nodup_map hid (hmem hin).1 hb (by simpa using find?_some he)
  exact hin
 refine ⟨fun id=>?_,fun b hb p hp=>⟨fun n hn hnailed=>?_,fun c hc q hq hne=>?_⟩⟩
 ·rw[packColumns,Option.isSome_map,find?_isSome]
  constructor
  ·rintro ⟨e,he,hid⟩
   obtain ⟨hb,hn⟩:=hmem (mem_reverse.1 he)
   exact ⟨e.1,hb,of_decide_eq_true hid,hn⟩
  ·rintro ⟨b,hb,rfl,hn⟩
   obtain ⟨e,he,rfl⟩:=mem_map.1 (hplaced▸(hboxes b).2 ⟨hb,hn⟩)
   exact ⟨e,mem_reverse.2 he,decide_eq_true rfl⟩
 ·refine (pack_clear hgap.1 hgap.2 sortBy_sorted hcs (hget hb hp)).2 n ?_
  exact sortBy_perm.mem_iff.2 (mem_filter.2 ⟨hn,hnailed⟩)
 ·have hpw:(placed layer boxes o).Pairwise fun e e'=>Before layer e e'∨Before layer e' e:=
   (pack_before hgap.1 hgap.2 sortBy_sorted hcs hr).imp Or.inl
  have:Std.Symm (fun e e'=>Before layer e e'∨Before layer e' e):=⟨fun _ _=>Or.symm⟩
  have hbc:(b,p)≠(c,q):=fun h=>hne (Prod.ext_iff.1 h).1.symm
  unfold Overlaps LayoutBox.moved
  rcases hpw.forall (hget hb hp) (hget hc hq) hbc with (⟨hk,hy⟩ | ⟨hk,hx⟩) | (⟨hk,hy⟩ | ⟨hk,hx⟩)<;>simp only at hk
  ·exact ⟨fun h=>by linarith [h.2.2.2],fun h=>absurd hk h.ne⟩
  ·exact ⟨fun h=>by linarith [h.2.1],fun _=>hx⟩
  ·exact ⟨fun h=>by linarith [h.2.2.1],fun h=>absurd hk h.ne'⟩
  ·exact ⟨fun h=>by linarith [h.1],fun h=>absurd hk h.not_gt⟩

def cards:List LayoutBox:=[⟨"a",0,0,200,100,false⟩,⟨"b",0,50,300,100,false⟩,⟨"c",90,100,200,100,true⟩]

theorem packColumns_cards_apart:
 ∃ p,packColumns (fun _=>none) cards {} "a"=some p∧
  ∀ n∈cards,n.nailed→¬Overlaps (LayoutBox.moved ⟨"a",0,0,200,100,false⟩ p) n:=by
 obtain ⟨hsome,hclear⟩:=packColumns_apart (fun _=>none) cards {} (by decide) (by decide +kernel) (by decide +kernel)
 obtain ⟨p,hp⟩:=Option.isSome_iff_exists.1 ((hsome "a").2 ⟨_,mem_cons_self ..,rfl,rfl⟩)
 exact ⟨p,hp,(hclear _ (mem_cons_self ..) p hp).1⟩

end Dazyflow.ColumnPacking
