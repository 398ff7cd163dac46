import Dazyflow.ProgramStages

/-!
# Disk quota

A writer reserves bytes against its tenant's limit, writes, and releases the reservation.
-/
namespace Dazyflow.DiskQuota
open Interleaving Protocol List Function

abbrev Time:=Int

def add64(a b:Int):Int:=(a+b+2 ^ 63) % 2 ^ 64-2 ^ 63

/-- `limitOverride` answers 0 or less where the configured limit counts. -/
structure Config where
 limits:String→Int
 limitOverride:String→Int:=fun _=>0
 cacheTTL:Int:=1

def Config.limit(cfg:Config)(tenant:String):Int:=
 if 0<cfg.limitOverride tenant then cfg.limitOverride tenant else cfg.limits tenant

structure QuotaEntry where
 used:Int
 expires:Time

/-- `disk` is what a walk of the tenant's directory finds. -/
structure State where
 cache:String→Option QuotaEntry:=fun _=>none
 inflight:String→Int:=fun _=>0
 disk:String→Nat:=fun _=>0

/-- What the clock and a walk answer; `stored` is the time at which a count is cached. -/
structure Oracle where
 time:Time:=0
 stored:Time:=0
 fails:Bool:=false

def State.cached(s:State)(tenant:String)(now:Time):Option Int:=
 (s.cache tenant).bind (fun e=>if now<e.expires then some e.used else none)

def State.put(s:State)(tenant:String)(used:Int)(expires:Time):State:=
 {s with cache:=update s.cache tenant (some ⟨used,expires⟩)}

def State.usedLocked(cfg:Config)(s:State)(tenant:String)(o:Oracle):Option Int×State:=
 match s.cached tenant o.time with
 | some used=>(some used,s)
 | none=>
  if o.fails then (none,s)
  else (some (s.disk tenant),if 0<cfg.cacheTTL then s.put tenant (s.disk tenant) (o.stored+cfg.cacheTTL) else s)

inductive Reservation
 | unlimited
 | failed
 | exceeded
 | granted

def State.reserve(cfg:Config)(s:State)(tenant:String)(n:Nat)(o:Oracle):Reservation×State:=
 if cfg.limit tenant≤0 then (.unlimited,s)
 else
  match s.usedLocked cfg tenant o with
  | (none,s)=>(.failed,s)
  | (some used,s)=>
   if cfg.limit tenant<add64 (add64 used (s.inflight tenant)) n then (.exceeded,s)
   else (.granted,{s with inflight:=update s.inflight tenant (add64 (s.inflight tenant) n)})

def State.release(s:State)(tenant:String)(n:Nat):State:=
 let left:=add64 (s.inflight tenant) (-n)
 { s with
   inflight:=update s.inflight tenant (if left≤0 then 0 else left)
   cache:=update s.cache tenant none}

def State.write(s:State)(tenant:String)(bytes:Nat):State:=
 {s with disk:=update s.disk tenant (s.disk tenant+bytes)}

inductive Call
 | cached (tenant:String)
 | walk (tenant:String)
 | store (tenant:String)(used:Int)
 | reserve (tenant:String)(n:Nat)
 | write (tenant:String)(bytes:Nat)
 | release (tenant:String)(n:Nat)

@[reducible] def Res:Call→Type
 | .cached _=>Option Int
 | .walk _=>Option Int
 | .store _ _=>Unit
 | .reserve _ _=>Reservation
 | .write _ _=>Unit
 | .release _ _=>Unit

@[reducible] def sig:Sig where
 Call:=Call
 Res:=Res
 Ret:=Empty.elim

abbrev Program:=Prog sig

def ask(c:Call):Program (Res c):=Prog.ask (S:=sig) c

def step(cfg:Config):(c:Call)→Oracle→State→Res c×State
 | .cached tenant,o,s=>(s.cached tenant o.time,s)
 | .walk tenant,o,s=>(if o.fails then none else some (s.disk tenant),s)
 | .store tenant used,o,s=>((),s.put tenant used (o.stored+cfg.cacheTTL))
 | .reserve tenant n,o,s=>s.reserve cfg tenant n o
 | .write tenant bytes,_,s=>((),s.write tenant bytes)
 | .release tenant n,_,s=>((),s.release tenant n)

def used(cfg:Config)(tenant:String):Program (Option Int):=do
 match←ask (.cached tenant) with
 | some used=>return some used
 | none=>
  match←ask (.walk tenant) with
  | none=>return none
  | some used=>
   if 0<cfg.cacheTTL then
    ask (.store tenant used)
    return some used
   else return some used

def writeAll(tenant:String):List Nat→Program Unit
 | []=>return ()
 | bytes::chunks=>do
  ask (.write tenant bytes)
  writeAll tenant chunks

/-- The write that a reservation admits, in pieces, and the release. -/
def writeReserved(tenant:String)(n:Nat)(chunks:List Nat):Program Unit:=do
 writeAll tenant chunks
 ask (.release tenant n)

def upload(tenant:String)(n:Nat)(chunks:List Nat):Program Unit:=do
 match←ask (.reserve tenant n) with
 | .unlimited=>writeAll tenant chunks
 | .failed=>return ()
 | .exceeded=>return ()
 | .granted=>writeReserved tenant n chunks

inductive Entry
 | used (tenant:String)
 | upload (tenant:String)(n:Nat)(chunks:List Nat)

def entry(cfg:Config):Entry→Program Unit
 | .used tenant=>do
  let _←DiskQuota.used cfg tenant
 | .upload tenant n chunks=>DiskQuota.upload tenant n chunks

@[reducible] def machine(cfg:Config):Machine sig where
 State:=State
 Oracle:=Oracle
 step:=step cfg
 body:=Empty.rec
 Entry:=Entry
 entry:=entry cfg

/-- `holding` is a writer with a reservation of `n` bytes, of which it has written some. -/
inductive Stage
 | asking (tenant:String)(n:Nat)(chunks:List Nat)
 | holding (tenant:String)(n written:Nat)(chunks:List Nat)
 | freed (tenant:String)(written:Nat)
 | unbounded (tenant:String)(chunks:List Nat)
 | looking (tenant:String)
 | walking (tenant:String)
 | storing (tenant:String)(used:Int)
 | ended

def Stage.first:Entry→Stage
 | .used tenant=>.looking tenant
 | .upload tenant n chunks=>.asking tenant n chunks

def Stage.next(cfg:Config):Stage→(c:Call)→Res c→Stage
 | .asking tenant _ chunks,.reserve _ _,.unlimited=>.unbounded tenant chunks
 | .asking tenant n chunks,.reserve _ _,.granted=>.holding tenant n 0 chunks
 | .holding tenant n written (_::chunks),.write _ bytes,_=>.holding tenant n (written+bytes) chunks
 | .holding tenant _ written _,.release _ _,_=>.freed tenant written
 | .unbounded tenant (_::chunks),.write _ _,_=>.unbounded tenant chunks
 | .looking tenant,.cached _,none=>.walking tenant
 | .walking tenant,.walk _,some used=>if 0<cfg.cacheTTL then .storing tenant used else .ended
 | _,_,_=>.ended

def Stage.allows:Stage→Call→Prop
 | .asking tenant n _,.reserve tenant' n'=>tenant'=tenant∧n'=n
 | .holding tenant _ _ (bytes::_),.write tenant' bytes'=>tenant'=tenant∧bytes'=bytes
 | .holding tenant n _ [],.release tenant' n'=>tenant'=tenant∧n'=n
 | .unbounded tenant (bytes::_),.write tenant' bytes'=>tenant'=tenant∧bytes'=bytes
 | .looking tenant,.cached tenant'=>tenant'=tenant
 | .walking tenant,.walk tenant'=>tenant'=tenant
 | .storing tenant used,.store tenant' used'=>tenant'=tenant∧used'=used
 | _,_=>False

@[reducible] def stages(cfg:Config):Protocol (machine cfg) where
 Stage:=Stage
 first:=Stage.first
 next:=Stage.next cfg
 allowed:=Stage.allows
 pre f _:=f.elim
 post f _ _ _:=f.elim

section Follows

variable {cfg:Config}{tenant:String}

lemma obeys_used:(stages cfg).Obeys (used cfg tenant) (.looking tenant) (fun _ _=>True):=by
 refine obeys_call rfl fun
  | some count=>obeys_done trivial
  | none=>?_
 exact obeys_call rfl fun
  | none=>obeys_done trivial
  | some count=>obeys_ite (fun _=>obeys_end ⟨rfl,rfl⟩) fun _=>obeys_done trivial
lemma obeys_writeAll{n written}(chunks):
 (stages cfg).Obeys (writeAll tenant chunks) (.holding tenant n written chunks)
  (fun _ m=>∃ written',m=.holding tenant n written' []):=by
 induction chunks generalizing written with
 | nil=>exact obeys_done ⟨written,rfl⟩
 | cons bytes chunks ih=>exact obeys_call ⟨rfl,rfl⟩ (fun _=>ih)
lemma obeys_writeAll_unbounded(chunks):
 (stages cfg).Obeys (writeAll tenant chunks) (.unbounded tenant chunks) (fun _ _=>True):=by
 induction chunks with
 | nil=>exact obeys_done trivial
 | cons bytes chunks ih=>exact obeys_call ⟨rfl,rfl⟩ (fun _=>ih)
lemma follows(cfg):(stages cfg).Follows (fun _=>True) where
 entries e:=by
  cases e with
  | used tenant=>exact obeys_bind obeys_used (fun _ _ _=>obeys_done trivial)
  | upload tenant n chunks=>?_
  refine obeys_call ⟨rfl,rfl⟩ fun
   | .unlimited=>obeys_writeAll_unbounded chunks
   | .failed=>obeys_done trivial
   | .exceeded=>obeys_done trivial
   | .granted=>?_
  change (stages cfg).Obeys (writeReserved tenant n chunks) (.holding tenant n 0 chunks) _
  refine obeys_bind (obeys_writeAll chunks) fun _ m hm=>?_
  obtain ⟨written,rfl⟩:=hm
  exact obeys_ask ⟨rfl,rfl⟩ fun _=>trivial

end Follows

def Stage.written(t:String):Stage→Nat
 | .holding tenant _ written _=>if tenant=t then written else 0
 | .freed tenant written=>if tenant=t then written else 0
 | _=>0

def Stage.held(t:String):Stage→Nat
 | .holding tenant n _ _=>if tenant=t then n else 0
 | _=>0

def Stage.freedBytes(t:String):Stage→Nat
 | .freed tenant written=>if tenant=t then written else 0
 | _=>0

def Stage.stillReserved(t:String):Stage→Nat
 | .holding tenant n written _=>if tenant=t then n-written else 0
 | _=>0

def total(f:Stage→Nat)(ns:List Stage):Nat:=(ns.map f).sum

def Stage.Careful:Stage→Prop
 | .asking _ n chunks=>chunks.sum ≤ n
 | .holding _ n written chunks=>written+chunks.sum ≤ n
 | _=>True

open Stage (Careful freedBytes)

structure Fits(cfg:Config)(base:String→Nat)(t:String)(s:State)(ns:List Stage):Prop where
 disk:s.disk t=base t+total (Stage.written t) ns
 inflight:s.inflight t=total (Stage.held t) ns
 cache:∀ e,s.cache t=some e→(base t+total (freedBytes t) ns:Int) ≤ e.used
 storing:∀ count,.storing t count∈ns→(base t+total (freedBytes t) ns:Int) ≤ count
 limit:(total (freedBytes t) ns+total (Stage.held t) ns:Int) ≤ cfg.limit t
 careful:∀ n∈ns,n.Careful
 bounded:∀ chunks,.unbounded t chunks∉ns

section Fits

variable {cfg:Config}{base:String→Nat}{t:String}{s s':State}{ns:List Stage}{n n':Stage}{i:Nat}

lemma total_set(f:Stage→Nat)(hn:ns[i]? = some n)(n'):total f (ns.set i n')+f n=total f ns+f n':=
 sum_map_set_add f hn
lemma freed_le_written(ns):total (freedBytes t) ns ≤ total (Stage.written t) ns:=by
 induction ns with
 | nil=>exact le_rfl
 | cons n ns ih=>
  have hn:n.freedBytes t ≤ n.written t:=by cases n<;>simp[freedBytes,Stage.written]
  simpa[total] using Nat.add_le_add hn ih
section

variable (h:Fits cfg base t s ns)(hn:ns[i]? = some n)

include h hn

lemma Fits.keep(hdisk:s'.disk t+n.written t=s.disk t+n'.written t)
 (hin:s'.inflight t+n.held t=s.inflight t+n'.held t)
 (hcache:∀ e,s'.cache t=some e → s.cache t=some e∨(base t+total (freedBytes t) ns:Int) ≤ e.used)
 (hfreed:n'.freedBytes t=n.freedBytes t)
 (hstoring:∀ count,n'=.storing t count→(base t+total (freedBytes t) ns:Int) ≤ count)
 (hlimit:(total (freedBytes t) ns+total (Stage.held t) ns+n'.held t:Int) ≤ cfg.limit t+n.held t)
 (hcareful:n'.Careful)(hbounded:∀ chunks,n'≠.unbounded t chunks):Fits cfg base t s' (ns.set i n'):=by
 have hw:=total_set (Stage.written t) hn n'
 have hh:=total_set (Stage.held t) hn n'
 have hf:=total_set (freedBytes t) hn n'
 have hsame:total (freedBytes t) (ns.set i n')=total (freedBytes t) ns:=by omega
 have hd:=h.disk
 have hi:=h.inflight
 refine ⟨by omega,by omega,fun e he=>?_,fun count hm=>?_,by omega,fun m hm=>?_,fun chunks hm=>?_⟩
 ·rw[hsame]
  exact (hcache e he).elim (h.cache e) fun hle=>hle
 ·rw[hsame]
  rcases mem_set_cases hm with hx | ⟨j,_,hj⟩
  ·exact hstoring count hx.symm
  ·exact h.storing count (mem_of_getElem? hj)
 ·rcases mem_set_cases hm with rfl | ⟨j,_,hj⟩
  ·exact hcareful
  ·exact h.careful m (mem_of_getElem? hj)
 ·rcases mem_set_cases hm with hx | ⟨j,_,hj⟩
  ·exact hbounded chunks hx.symm
  ·exact h.bounded chunks (mem_of_getElem? hj)

structure Stage.Idle(t:String)(n:Stage):Prop where
 written:n.written t=0
 held:n.held t=0
 freed:n.freedBytes t=0

omit h hn in
lemma idle_ended:Stage.Idle t .ended:=⟨rfl,rfl,rfl⟩
lemma Fits.pass(hidle:n.Idle t)(hidle':n'.Idle t)
 (hdisk:s'.disk t=s.disk t)(hin:s'.inflight t=s.inflight t)
 (hcache:∀ e,s'.cache t=some e → s.cache t=some e∨(base t+total (freedBytes t) ns:Int) ≤ e.used)
 (hstoring:∀ count,n'=.storing t count→(base t+total (freedBytes t) ns:Int) ≤ count)
 (hcareful:n'.Careful)(hbounded:∀ chunks,n'≠.unbounded t chunks):Fits cfg base t s' (ns.set i n'):=by
 have hl:=h.limit
 exact h.keep hn (by rw[hdisk,hidle.written,hidle'.written]) (by rw[hin,hidle.held,hidle'.held]) hcache
  (by rw[hidle.freed,hidle'.freed]) hstoring (by rw[hidle.held,hidle'.held]; omega) hcareful hbounded
lemma Fits.stop(hidle:n.Idle t):Fits cfg base t s (ns.set i .ended):=
 h.pass hn hidle idle_ended rfl rfl (fun _ he=>.inl he) nofun trivial nofun

end

lemma add64_of_lt{a b}(ha: -2 ^ 63 ≤ a+b)(hb:a+b<2 ^ 63):add64 a b=a+b:=by
 unfold add64
 rw[Int.emod_eq_of_lt]<;>omega

variable {o:Oracle}{tenant:String}{m:Nat}

lemma Fits.usedLocked{count}(h:Fits cfg base t s ns)(hu:(s.usedLocked cfg t o).1=some count):
 (base t+total (freedBytes t) ns:Int) ≤ count:=by
 have hd:=h.disk
 have hle:=freed_le_written (t:=t) ns
 unfold State.usedLocked at hu
 cases hc:s.cached t o.time with
 | none=>
  simp only[hc] at hu
  split_ifs at hu
  all_goals
   cases hu
   omega
 | some used=>
  simp only[hc,Option.some.injEq] at hu
  subst hu
  unfold State.cached at hc
  obtain ⟨e,he,hx⟩:=Option.bind_eq_some_iff.1 hc
  split_ifs at hx
  cases hx
  exact h.cache e he
lemma usedLocked_same(cfg:Config)(s:State)(o:Oracle)(tenant:String):
 (s.usedLocked cfg tenant o).2.disk=s.disk∧(s.usedLocked cfg tenant o).2.inflight=s.inflight:=by
 unfold State.usedLocked
 cases s.cached tenant o.time with
 | some used=>exact ⟨rfl,rfl⟩
 | none=>
  dsimp only
  split_ifs<;>exact ⟨rfl,rfl⟩
lemma usedLocked_cache{e}(he:(s.usedLocked cfg tenant o).2.cache t=some e):
 s.cache t=some e∨tenant=t∧e.used=s.disk t:=by
 unfold State.usedLocked at he
 cases hc:s.cached tenant o.time with
 | some used=>
  simp only[hc] at he
  exact .inl he
 | none=>
  simp only[hc] at he
  split_ifs at he
  ·exact .inl he
  ·by_cases ht:t=tenant
   ·subst ht
    simp only[State.put,update_self,Option.some.injEq] at he
    subst he
    exact .inr ⟨rfl,rfl⟩
   ·simp only[State.put,update_of_ne ht] at he
    exact .inl he
  ·exact .inl he

def State.sumFits(cfg:Config)(s:State)(tenant:String)(n:Nat)(o:Oracle):Bool:=
 (s.usedLocked cfg tenant o).1.all (fun used=>used+s.inflight tenant+n<2 ^ 63)

lemma reserve_cases(cfg:Config)(s:State)(tenant:String)(m:Nat)(o:Oracle):
 (cfg.limit tenant≤0∧s.reserve cfg tenant m o=(.unlimited,s))∨
 (∃ r,(r=.failed∨r=.exceeded)∧s.reserve cfg tenant m o=(r,(s.usedLocked cfg tenant o).2))∨
 ∃ used,(s.usedLocked cfg tenant o).1=some used∧
  ¬cfg.limit tenant<add64 (add64 used (s.inflight tenant)) m∧
  s.reserve cfg tenant m o=(.granted,{ (s.usedLocked cfg tenant o).2 with
   inflight:=update s.inflight tenant (add64 (s.inflight tenant) m)}):=by
 have hsame:=(usedLocked_same cfg s o tenant).2
 unfold State.reserve
 split_ifs with hlimit
 ·exact .inl ⟨hlimit,rfl⟩
 refine .inr ?_
 generalize hu:s.usedLocked cfg tenant o=p at hsame ⊢
 obtain ⟨found,s₁⟩:=p
 cases found with
 | none=>exact .inl ⟨_,.inl rfl,rfl⟩
 | some used=>
  dsimp only at hsame ⊢
  rw[hsame]
  split_ifs with hx
  ·exact .inl ⟨_,.inr rfl,rfl⟩
  ·exact .inr ⟨used,rfl,hx,rfl⟩
section

variable (h:Fits cfg base t s ns)

include h

lemma Fits.reserve{chunks}
 (ht:0<cfg.limit t)(hn:ns[i]? = some (.asking tenant m chunks))(hsum:s.sumFits cfg tenant m o):
 Fits cfg base t (s.reserve cfg tenant m o).2
  (ns.set i ((Stage.asking tenant m chunks).next cfg (.reserve tenant m) (s.reserve cfg tenant m o).1)):=by
 have hcareful:chunks.sum ≤ m:=h.careful _ (mem_of_getElem? hn)
 have hidle:(Stage.asking tenant m chunks).Idle t:=⟨rfl,rfl,rfl⟩
 obtain ⟨hdisk,hin⟩:=usedLocked_same cfg s o tenant
 have hd:=h.disk
 have hle:=freed_le_written (t:=t) ns
 have hcache:∀ e,(s.usedLocked cfg tenant o).2.cache t=some e→
   s.cache t=some e∨(base t+total (freedBytes t) ns:Int) ≤ e.used:=by
  intro e he
  rcases usedLocked_cache he with he | ⟨_,he⟩
  ·exact .inl he
  ·exact .inr (by omega)
 rcases reserve_cases cfg s tenant m o with ⟨hlimit,hr⟩ | ⟨r,hr,hx⟩ | ⟨used,hu,hroom,hx⟩
 ·rw[hr]
  refine h.pass hn hidle ⟨rfl,rfl,rfl⟩ rfl rfl (fun _ he=>.inl he) nofun trivial fun c hc=>?_
  cases hc
  omega
 ·rw[hx]
  have hnext:(Stage.asking tenant m chunks).next cfg (.reserve tenant m) r=.ended:=by
   rcases hr with rfl | rfl<;>rfl
  rw[hnext]
  exact h.pass hn hidle idle_ended (by rw[hdisk]) (by rw[hin]) hcache nofun trivial nofun
 ·rw[hx]
  change Fits cfg base t _ (ns.set i (.holding tenant m 0 chunks))
  by_cases htt:tenant=t
  ·subst htt
   -- the sum is what it looks like, and at most the limit
   have hused:=h.usedLocked hu
   have hfl:=h.inflight
   rw[State.sumFits,hu] at hsum
   have hlt:used+s.inflight tenant+m<2 ^ 63:=of_decide_eq_true hsum
   have hsum₁:add64 used (s.inflight tenant)=used+s.inflight tenant:=add64_of_lt (by omega) (by omega)
   have hsum₂:add64 (s.inflight tenant) m=s.inflight tenant+m:=add64_of_lt (by omega) (by omega)
   rw[hsum₁,add64_of_lt (by omega) (by omega)] at hroom
   refine h.keep hn (by simp[hdisk,Stage.written]) ?_ hcache rfl nofun ?_ (by simpa[Careful] using hcareful)
    nofun
   ·simp[Stage.held,hsum₂]
   ·simp only[Stage.held,if_true]
    omega
  ·refine h.pass hn hidle ⟨by simp[Stage.written,htt],by simp[Stage.held,htt],rfl⟩ (by rw[hdisk]) ?_ hcache nofun
    (by simpa[Careful] using hcareful) nofun
   simp[update_of_ne (Ne.symm htt)]
lemma Fits.write{written bytes chunks}
 (hn:ns[i]? = some (.holding tenant m written (bytes::chunks))):
 Fits cfg base t (s.write tenant bytes) (ns.set i (.holding tenant m (written+bytes) chunks)):=by
 have hl:=h.limit
 have hcareful:written+(bytes::chunks).sum ≤ m:=h.careful _ (mem_of_getElem? hn)
 rw[sum_cons] at hcareful
 refine h.keep hn ?_ rfl (fun _ he=>.inl he) rfl nofun (by simp only[Stage.held]; omega)
  (by simp only[Careful]; omega) nofun
 by_cases ht:tenant=t
 ·subst ht
  simp only[State.write,update_self,Stage.written,if_true]
  omega
 ·simp[State.write,update_of_ne (Ne.symm ht),Stage.written,ht]
lemma Fits.release{written}(hlimit:cfg.limit t<2 ^ 63)
 (hn:ns[i]? = some (.holding tenant m written []))(hcalm:∀ count,.storing tenant count∉ns):
 Fits cfg base t (s.release tenant m) (ns.set i (.freed tenant written)):=by
 have hcareful:written+([]:List Nat).sum ≤ m:=h.careful _ (mem_of_getElem? hn)
 rw[sum_nil] at hcareful
 have hw:=total_set (Stage.written t) hn (.freed tenant written)
 have hh:=total_set (Stage.held t) hn (.freed tenant written)
 have hf:=total_set (freedBytes t) hn (.freed tenant written)
 obtain ⟨hd,hin,hcache,hstoring,hl,hc,hb⟩:=h
 simp only[Stage.written,Stage.held,freedBytes] at hw hh hf
 by_cases ht:tenant=t
 ·subst ht
  simp only[if_true] at hw hh hf
  have hleft:add64 (s.inflight tenant) (-m)=s.inflight tenant-m:=add64_of_lt (by omega) (by omega)
  refine ⟨by simp only[State.release]; omega,?_,fun e he=>?_,fun count hm=>?_,by omega,fun k hk=>?_,fun chunks hm=>?_⟩
  ·simp only[State.release,update_self,hleft]
   split_ifs<;>omega
  ·simp[State.release] at he
  ·rcases mem_set_cases hm with hx | ⟨j,_,hj⟩
   ·cases hx
   ·exact absurd (mem_of_getElem? hj) (hcalm count)
  ·rcases mem_set_cases hk with rfl | ⟨j,_,hj⟩
   ·trivial
   ·exact hc k (mem_of_getElem? hj)
  ·rcases mem_set_cases hm with hx | ⟨j,_,hj⟩
   ·cases hx
   ·exact hb chunks (mem_of_getElem? hj)
 ·have hne:t≠tenant:=Ne.symm ht
  have hold:Fits cfg base t s ns:=⟨hd,hin,hcache,hstoring,hl,hc,hb⟩
  exact hold.pass hn ⟨by simp[Stage.written,ht],by simp[Stage.held,ht],rfl⟩
   ⟨by simp[Stage.written,ht],rfl,by simp[freedBytes,ht]⟩ rfl
   (by simp[State.release,update_of_ne hne])
   (fun e he=>.inl (by simpa[State.release,update_of_ne hne] using he)) nofun trivial nofun

/-- The calls that keep the quota: no release while a count waits to be stored, and no sum
 that overflows. -/
def calmCall(cfg:Config)(s:State)(ns:List Stage):Call→Oracle→Bool
 | .release tenant _,_=>ns.all (fun m=>match m with
  | .storing tenant' _=>tenant'≠tenant
  | _=>true)
 | .reserve tenant n,o=>s.sumFits cfg tenant n o
 | _,_=>true

lemma Fits.call{c}(ht:0<cfg.limit t)(hlimit:cfg.limit t<2 ^ 63)
 (hn:ns[i]? = some n)(hall:n.allows c)(hcalm:calmCall cfg s ns c o):
 Fits cfg base t (step cfg c o s).2 (ns.set i (n.next cfg c (step cfg c o s).1)):=by
 cases n with
 | asking tenant m chunks=>
  cases c with
  | reserve tenant' m'=>
   obtain ⟨rfl,rfl⟩:=hall
   exact h.reserve ht hn hcalm
  | _=>cases hall
 | holding tenant m written chunks=>
  cases chunks with
  | nil=>
   cases c with
   | release tenant' m'=>
    obtain ⟨rfl,rfl⟩:=hall
    refine h.release hlimit hn fun count hm=>?_
    have hx:=all_eq_true.1 hcalm _ hm
    simp at hx
   | _=>cases hall
  | cons bytes chunks=>
   cases c with
   | write tenant' bytes'=>
    obtain ⟨rfl,rfl⟩:=hall
    exact h.write hn
   | _=>cases hall
 | unbounded tenant chunks=>
  cases chunks with
  | nil=>cases c<;>cases hall
  | cons bytes chunks=>?_
  cases c with
  | write tenant' bytes'=>
   obtain ⟨rfl,rfl⟩:=hall
   have hne:t≠tenant':=by
    rintro rfl
    exact h.bounded _ (mem_of_getElem? hn)
   exact h.pass hn ⟨rfl,rfl,rfl⟩ ⟨rfl,rfl,rfl⟩ (by simp[step,State.write,update_of_ne hne]) rfl
    (fun _ he=>.inl he) nofun trivial (fun _ hx=>by cases hx; exact hne rfl)
  | _=>cases hall
 | looking tenant=>
  cases c with
  | cached tenant'=>
   cases hc:s.cached tenant' o.time with
   | none=>
    simp only[step,hc]
    exact h.pass hn ⟨rfl,rfl,rfl⟩ ⟨rfl,rfl,rfl⟩ rfl rfl (fun _ he=>.inl he) nofun trivial
     nofun
   | some count=>
    simp only[step,hc]
    exact h.stop hn ⟨rfl,rfl,rfl⟩
  | _=>cases hall
 | walking tenant=>
  cases c with
  | walk tenant'=>
   obtain rfl:tenant'=tenant:=hall
   cases hfail:o.fails with
   | true=>
    simp only[step,hfail,if_true]
    exact h.stop hn ⟨rfl,rfl,rfl⟩
   | false=>
    simp only[step,hfail,Bool.false_eq_true,if_false,Stage.next]
    split_ifs
    ·refine h.pass hn ⟨rfl,rfl,rfl⟩ ⟨rfl,rfl,rfl⟩ rfl rfl (fun _ he=>.inl he) (fun count hx=>?_) trivial
      nofun
     cases hx
     have hd:=h.disk
     have hle:=freed_le_written (t:=t) ns
     omega
    ·exact h.stop hn ⟨rfl,rfl,rfl⟩
  | _=>cases hall
 | storing tenant count=>
  cases c with
  | store tenant' count'=>
   obtain ⟨rfl,rfl⟩:=hall
   refine h.pass hn ⟨rfl,rfl,rfl⟩ idle_ended rfl rfl (fun e he=>?_) nofun trivial nofun
   by_cases htt:t=tenant'
   ·subst htt
    simp only[step,State.put,update_self,Option.some.injEq] at he
    subst he
    exact .inr (h.storing count' (mem_of_getElem? hn))
   ·simp only[step,State.put,update_of_ne htt] at he
    exact .inl he
  | _=>cases hall
 | freed tenant written | ended=>cases c<;>cases hall
lemma Fits.start(e)(hc:(Stage.first e).Careful):
 Fits cfg base t s (ns++[Stage.first e]):=by
 have hidle:(Stage.first e).Idle t:=by cases e<;>exact ⟨rfl,rfl,rfl⟩
 have htotal:∀ f:Stage→Nat,f (Stage.first e)=0→total f (ns++[Stage.first e])=total f ns:=by
  intro f hf
  simp[total,hf]
 have hmem:∀ m∈ns++[Stage.first e],m∈ns∨m=Stage.first e:=by simp
 refine ⟨(htotal _ hidle.written).symm▸h.disk,(htotal _ hidle.held).symm▸h.inflight,
  (htotal _ hidle.freed).symm▸h.cache,fun count hm=>?_,by rw[htotal _ hidle.freed,htotal _ hidle.held]; exact h.limit,
  fun m hm=>(hmem m hm).elim (h.careful m) fun hx=>hx▸hc,fun chunks hm=>?_⟩
 ·rw[htotal _ hidle.freed]
  exact h.storing count ((hmem _ hm).resolve_right (by cases e<;>nofun))
 ·exact h.bounded chunks ((hmem _ hm).resolve_right (by cases e<;>nofun))

end

end Fits

def standing{cfg}(P:Pool (machine cfg)):List Stage:=(stages cfg).stages P

def honest:Entry→Bool
 | .used _=>true
 | .upload _ n chunks=>chunks.sum ≤ n

abbrev honestRuns(cfg:Config):Rules (machine cfg):=
 Allowed (fun _ e=>honest e) (fun _ _ _ _=>True)

abbrev calmRuns(cfg:Config):Rules (machine cfg):=
 Allowed (fun _ e=>honest e) (fun P _ c o=>calmCall cfg P.state (standing P) c o)

abbrev directories(cfg:Config)(base:String→Nat):Pool (machine cfg):={state:={disk:=base} }

section Runs

variable {cfg:Config}{base:String→Nat}{t:String}{P:Pool (machine cfg)}

lemma fits_of_reach(ht:0<cfg.limit t)(hlimit:cfg.limit t<2 ^ 63)
 (hr:Reach (calmRuns cfg) (directories cfg base) P):Fits cfg base t P.state (standing P):=by
 refine (follows cfg).run_inv (A:=directories cfg base) rfl (J:=Fits cfg base t) ?_ ?_ ?_ hr
 ·refine ⟨rfl,rfl,fun e he=>(by cases he),fun count hm=>(by cases hm),?_,fun n hm=>(by cases hm),nofun⟩
  simp only[total,map_nil,sum_nil]
  omega
 ·intro P e _ ha h
  refine h.start e ?_
  cases e with
  | used tenant=>trivial
  | upload tenant n chunks=>
   have hle:chunks.sum ≤ n:=of_decide_eq_true ha
   exact hle
 ·intro P i o c n _ ha hnext hn hall h
  exact h.call ht hlimit hn hall (ha c hnext)
lemma still_of_careful{ns}(hc:∀ n∈ns,n.Careful):
 total (Stage.written t) ns+total (Stage.stillReserved t) ns=total (freedBytes t) ns+total (Stage.held t) ns:=by
 induction ns with
 | nil=>rfl
 | cons n ns ih=>
  have hrest:=ih fun m hm=>hc m (mem_cons_of_mem _ hm)
  have hn:n.written t+n.stillReserved t=n.freedBytes t+n.held t:=by
   have hcn:=hc n mem_cons_self
   cases n with
   | holding tenant m written chunks=>
    simp only[Careful] at hcn
    simp only[Stage.written,Stage.stillReserved,freedBytes,Stage.held]
    split_ifs<;>omega
   | _=>rfl
  simp only[total,map_cons,sum_cons] at hrest ⊢
  omega

/-- The bytes on disk that were written under reservations and the bytes that are reserved
 and not written are together not above the limit. -/
theorem quota_not_oversold(ht:0<cfg.limit t)(hlimit:cfg.limit t<2 ^ 63)
 (hr:Reach (calmRuns cfg) (directories cfg base) P):
 P.state.disk t=base t+total (Stage.written t) (standing P)∧
  (total (Stage.written t) (standing P)+total (Stage.stillReserved t) (standing P):Int) ≤ cfg.limit t:=by
 have h:=fits_of_reach ht hlimit hr
 have hsum:=still_of_careful (t:=t) h.careful
 have hl:=h.limit
 exact ⟨h.disk,by omega⟩

end Runs

def hundred:Config where
 limits _:=100

def runsOf(i k:Nat)(time:Int:=0):List (Action (machine hundred)):=replicate k (.step i {time:=time,stored:=time})

def twoWrites:Pool (machine hundred):=
 (directories hundred fun _=>0).after (calmRuns hundred)
  ([.start (.used "acme")]++runsOf 0 3++[.start (.upload "acme" 60 [60])]++runsOf 1 3++[.start (.upload "acme" 40 [40])] ++
   runsOf 2 2)

theorem two_writes_fit:
 (total (Stage.written "acme") (standing twoWrites)+total (Stage.stillReserved "acme") (standing twoWrites):Int)≤100:=
 have hr:Reach (calmRuns hundred) (directories hundred fun _=>0) twoWrites:=reach_after (by decide +kernel)
 (quota_not_oversold (by decide) (by decide) hr).2

/-- `Used` walks the empty directory, a writer writes and releases, and then the count of the
 empty directory is cached. -/
def staleCount:Pool (machine hundred):=
 (directories hundred fun _=>0).after (honestRuns hundred)
  ([.start (.upload "acme" 60 [60])]++runsOf 0 1++[.start (.used "acme")]++runsOf 1 2 5++runsOf 0 2 5++runsOf 1 1 5 ++
   [.start (.upload "acme" 60 [60])]++runsOf 2 3 5)

def hugeSize:Pool (machine hundred):=
 (directories hundred fun _=>1).after (honestRuns hundred) ([.start (.upload "acme" (2 ^ 63-1) [])]++runsOf 0 1)

theorem quota_oversold:
 (Reach (honestRuns hundred) (directories hundred fun _=>0) staleCount∧staleCount.state.disk "acme"=120∧
  total (Stage.written "acme") (standing staleCount)=120)∧
 Reach (honestRuns hundred) (directories hundred fun _=>1) hugeSize∧
  total (Stage.stillReserved "acme") (standing hugeSize)=2 ^ 63-1:=
 ⟨⟨reach_after (by decide +kernel),by decide +kernel,by decide +kernel⟩,reach_after (by decide +kernel),by decide +kernel⟩

end Dazyflow.DiskQuota
