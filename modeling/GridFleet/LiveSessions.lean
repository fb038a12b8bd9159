import GridFleet.Dict
import Mathlib.Data.List.Induction
namespace GridFleet.LiveSessions
open Dict List Option

def sessionSettleGraceSec:ℕ:=60

/-- Tagged, so that a device id never collides with a target. -/
inductive LiveKey where
 | deviceId (id:String)
 | connectionTarget (target:String)
 deriving DecidableEq

structure Item where
 deviceId:Option String
 connectionTarget:Option String
 deriving DecidableEq

structure Node extends Item where
 hasActiveSession:Option Bool

structure Gather where
 now:ℕ
 nodes:List Node
 roster:List Item

abbrev Memory:=Dict LiveKey ℕ
def resolveLive (memory:Memory)(key:LiveKey)(active:Option Bool)(now:ℕ):Memory×Bool:=
 match active,memory.get key with
 | some false,some last=>(memory,now<last+sessionSettleGraceSec)
 | _,_=>(memory.set key now,true)

structure Flags where
 memory:Memory
 live:Dict LiveKey Bool
 idOwnedTargets:List String

def Item.primary (item:Item):Option LiveKey:=
 match item.deviceId with
 | some id=>some (.deviceId id)
 | none=>item.connectionTarget.map .connectionTarget

def Flags.node (now:ℕ)(flags:Flags)(n:Node):Flags:=
 match n.primary with
 | none=>flags
 | some primary=>
  let (memory,verdict):=resolveLive flags.memory primary n.hasActiveSession now
  let live:=flags.live.set primary verdict
  match n.connectionTarget with
  | none=>⟨memory,live,flags.idOwnedTargets⟩
  | some target=>⟨memory,live.set (.connectionTarget target) verdict,
    if n.deviceId.isSome then target::flags.idOwnedTargets else flags.idOwnedTargets⟩

def liveSessionFlags (memory:Memory)(nodes:List Node)(now:ℕ):Flags:=
 nodes.foldl (Flags.node now) ⟨memory,.empty,[]⟩

def resolveEntryLive (memory:Memory)(live:Dict LiveKey Bool)(idOwnedTargets:List String)
 (entry:Item)(now:ℕ):Memory×Bool:=
 match entry.deviceId,entry.connectionTarget with
 | some id,target=>
  match live.get (.deviceId id) with
  | some verdict=>(memory,verdict)
  | none=>
   match target.bind fun t=>if t∈idOwnedTargets then none else live.get (.connectionTarget t) with
   | some verdict=>(memory,verdict)
   | none=>resolveLive memory (.deviceId id) (some false) now
 | none,some target=>
  match live.get (.connectionTarget target) with
  | some verdict=>(memory,verdict)
  | none=>resolveLive memory (.connectionTarget target) (some false) now
 | none,none=>(memory,false)

def probeEntries (flags:Flags)(now:ℕ):Memory→List Item→Memory×List (Item×Bool)
 | memory,[]=>(memory,[])
 | memory,entry::roster=>
  let (memory,verdict):=resolveEntryLive memory flags.live flags.idOwnedTargets entry now
  let (memory,verdicts):=probeEntries flags now memory roster
  (memory,(entry,verdict)::verdicts)

/-- What a gather remembers, and the `has_live_session` it hands for each roster entry. -/
def gather (memory:Memory)(g:Gather):Memory×List (Item×Bool):=
 let flags:=liveSessionFlags memory g.nodes g.now
 probeEntries flags g.now flags.memory g.roster

def memoryAfter (gathers:List Gather):Memory:=
 gathers.foldl (fun memory g=>(gather memory g).1) .empty
def Node.attributed (n:Node)(g:Gather)(id:String):Prop:=
 n.deviceId=some id∨∃e∈g.roster,e.deviceId=some id∧n.connectionTarget.isSome∧
  n.connectionTarget=e.connectionTarget

/-- A node on the target of one of the device's roster entries carries the device's id. -/
def OwnId (id:String)(g:Gather):Prop:=
 ∀n∈g.nodes,∀e∈g.roster,e.deviceId=some id→n.connectionTarget.isSome→
  n.connectionTarget=e.connectionTarget→n.deviceId=some id

instance (id:String)(g:Gather):Decidable (OwnId id g):=
 inferInstanceAs (Decidable (∀n∈g.nodes,∀e∈g.roster,_))

variable {m m' m'':Memory}{key:LiveKey}{id:String}{now t:ℕ}

/-- Every stamp is as it was or new. -/
def Stamped (now:ℕ)(m m':Memory):Prop:=∀key,m'.get key=m.get key∨m'.get key=some now

lemma Stamped.trans (h:Stamped now m m')(h':Stamped now m' m''):Stamped now m m'':=by
 intro key
 rcases h' key with heq|heq
 · exact heq ▸ h key
 · exact .inr heq

/-- The stamp of a key is older than the grace. -/
def Settled (now:ℕ)(m:Memory)(key:LiveKey):Prop:=
 ∃last,m.get key=some last∧last+sessionSettleGraceSec≤now

lemma Settled.of_stamped (h:Settled now m' key)(hstamped:Stamped now m m'):Settled now m key:=by
 obtain ⟨last,hlast,hle⟩:=h
 rcases hstamped key with hkept|hnew
 · exact ⟨last,hkept ▸ hlast,hle⟩
 · cases hnew.symm.trans hlast
   dsimp only[sessionSettleGraceSec] at hle
   omega

/-- Only the stamp of the key moves, and a negative answer needs a settled one. -/
lemma resolveLive_spec (m:Memory)(key:LiveKey)(active:Option Bool)(now:ℕ):
 ∃m' verdict,resolveLive m key active now=(m',verdict)∧Stamped now m m'∧
  (∀k,k≠key→m'.get k=m.get k)∧(active≠some false→m'.get key=some now)∧
  (verdict=false→Settled now m' key):=by
 unfold resolveLive
 split
 · rename_i last hlast
   exact ⟨_,_,rfl,fun _=>.inl rfl,fun _ _=>rfl,by simp,fun hfalse=>⟨last,hlast,by simpa using hfalse⟩⟩
 · refine ⟨_,_,rfl,fun k=>?_,fun k hk=>get_set_of_ne _ _ hk,fun _=>get_set_self ..,by simp⟩
   rw[get_set]
   split
   · exact .inr rfl
   · exact .inl rfl

structure Joined (id:String)(now:ℕ)(m:Memory)(nodes:List Node)(flags:Flags):Prop where
 stamped:Stamped now m flags.memory
 active:∀n∈nodes,n.deviceId=some id→n.hasActiveSession≠some false→
  flags.memory.get (.deviceId id)=some now
 flagged:∀n∈nodes,n.deviceId=some id→flags.live.get (.deviceId id)≠none
 settled:flags.live.get (.deviceId id)=some false→Settled now flags.memory (.deviceId id)
 targets:∀t,flags.live.get (.connectionTarget t)≠none→∃n∈nodes,n.connectionTarget=some t

variable {nodes:List Node}{flags:Flags}

lemma Item.primary_eq_deviceId (item:Item)(id:String):item.primary=some (.deviceId id)↔item.deviceId=some id:=by
 unfold primary
 cases item.deviceId <;> simp
lemma Item.target_of_primary {item:Item}{target:String}(h:item.primary=some (.connectionTarget target)):
 item.connectionTarget=some target:=by
 unfold primary at h
 cases hid:item.deviceId <;> simp_all

lemma Joined.node (h:Joined id now m nodes flags)(n:Node):
 Joined id now m (nodes++[n]) (flags.node now n):=by
 obtain ⟨hstamped,hactive,hflagged,hsettled,htargets⟩:=h
 cases hprimary:n.primary with
 | none=>
  have hid:n.deviceId≠some id:=fun hid=>by simp[(Item.primary_eq_deviceId _ id).mpr hid] at hprimary
  have hkept:flags.node now n=flags:=by simp[Flags.node,hprimary]
  rw[hkept]
  exact ⟨hstamped,by grind,by grind,hsettled,by grind⟩
 | some primary=>
  have hid:n.deviceId=some id↔primary=.deviceId id:=by simpa[hprimary,eq_comm] using (n.primary_eq_deviceId id).symm
  have htarget:∀t,primary=.connectionTarget t→n.connectionTarget=some t:=
   fun t ht=>Item.target_of_primary (ht ▸ hprimary)
  obtain ⟨m',verdict,heq,hnew,hother,hlive,hfalse⟩:=resolveLive_spec flags.memory primary n.hasActiveSession now
  have hmemory:(flags.node now n).memory=m':=by grind[Flags.node]
  have hgetId:(flags.node now n).live.get (.deviceId id)=
    if primary=.deviceId id then some verdict else flags.live.get (.deviceId id):=by
   grind[Flags.node,get_set]
  have hgetTarget:∀t,(flags.node now n).live.get (.connectionTarget t)=
    if n.connectionTarget=some t then some verdict else flags.live.get (.connectionTarget t):=by
   grind[Flags.node,get_set]
  refine ⟨hmemory ▸ hstamped.trans hnew,?_,by grind,?_,by grind⟩
  · rw[hmemory]
    grind[Stamped]
  · rw[hmemory,hgetId]
    intro hflag
    split at hflag
    · rename_i hkey
      exact hkey ▸ hfalse (some.inj hflag)
    · rename_i hkey
      obtain ⟨last,hlast,hle⟩:=hsettled hflag
      exact ⟨last,(hother _ (Ne.symm hkey)).trans hlast,hle⟩

lemma liveSessionFlags_joined (id:String)(m:Memory)(nodes:List Node)(now:ℕ):
 Joined id now m nodes (liveSessionFlags m nodes now):=by
 induction nodes using List.reverseRecOn with
 | nil=>exact ⟨fun _=>.inl rfl,by simp,by simp,by simp[liveSessionFlags],
   by simp[liveSessionFlags]⟩
 | append_singleton nodes n ih=>
  rw[liveSessionFlags,foldl_append]
  exact ih.node n
lemma resolveEntryLive_stamped (m:Memory)(now:ℕ)(live:Dict LiveKey Bool)(owned:List String)(entry:Item):
 Stamped now m (resolveEntryLive m live owned entry now).1:=by
 have hresolve:∀key,Stamped now m (resolveLive m key (some false) now).1:=by
  intro key
  obtain ⟨m',verdict,heq,hstamped,-⟩:=resolveLive_spec m key (some false) now
  rw[heq]
  exact hstamped
 unfold resolveEntryLive
 grind[Stamped]

variable {g:Gather}{e:Item}

/-- A device that no node carries is answered from its own stamp. -/
lemma Joined.entry (h:Joined id g.now m' g.nodes flags)(hown:OwnId id g)(he:e∈g.roster)
 (hid:e.deviceId=some id)(hfalse:(resolveEntryLive m flags.live flags.idOwnedTargets e g.now).2=false)
 (hstamped:Stamped g.now flags.memory m):Settled g.now flags.memory (.deviceId id):=by
 unfold resolveEntryLive at hfalse
 rw[hid] at hfalse
 dsimp only at hfalse
 split at hfalse
 · rename_i hflag
   dsimp only at hfalse
   exact h.settled (hfalse ▸ hflag)
 · rename_i hnone
   split at hfalse
   · rename_i hflag
     obtain ⟨t,ht,hflag⟩:=bind_eq_some_iff.mp hflag
     obtain ⟨-,hflag⟩:=ite_none_left_eq_some.mp hflag
     obtain ⟨n,hn,htarget⟩:=h.targets t (by simp[hflag])
     have hcarried:=hown n hn e he hid (by simp[htarget]) (htarget.trans ht.symm)
     exact absurd hnone (h.flagged n hn hcarried)
   · obtain ⟨m'',verdict,heq,hnew,-,-,hsettled⟩:=resolveLive_spec m (.deviceId id) (some false) g.now
     rw[heq] at hfalse
     exact (hsettled hfalse).of_stamped (hstamped.trans hnew)

lemma probeEntries_spec (now:ℕ)(flags:Flags)(roster:List Item)(m:Memory):
 Stamped now m (probeEntries flags now m roster).1∧∀e,(e,false)∈(probeEntries flags now m roster).2→
  e∈roster∧∃m',Stamped now m m'∧(resolveEntryLive m' flags.live flags.idOwnedTargets e now).2=false:=by
 induction roster generalizing m with
 | nil=>exact ⟨fun _=>.inl rfl,by simp[probeEntries]⟩
 | cons entry roster ih=>
  have hentry:=resolveEntryLive_stamped m now flags.live flags.idOwnedTargets entry
  obtain ⟨hstamped,hverdicts⟩:=ih (resolveEntryLive m flags.live flags.idOwnedTargets entry now).1
  refine ⟨hentry.trans hstamped,fun e he=>?_⟩
  rcases mem_cons.mp he with heq|he
  · obtain ⟨rfl,hfalse⟩:=Prod.mk.inj heq
    exact ⟨mem_cons_self,m,fun _=>.inl rfl,hfalse.symm⟩
  · obtain ⟨hmem,m',hm',hfalse⟩:=hverdicts e he
    exact ⟨mem_cons_of_mem _ hmem,m',hentry.trans hm',hfalse⟩
lemma memoryAfter_remembers {past:List Gather}(horder:past.Pairwise (·.now ≤ ·.now)):
 ∀x∈past,∀n∈x.nodes,n.deviceId=some id→n.hasActiveSession≠some false→
  ∃t,(memoryAfter past).get (.deviceId id)=some t∧x.now≤t:=by
 induction past using List.reverseRecOn with
 | nil=>simp
 | append_singleton past g ih=>
  obtain ⟨horder,-,hle⟩:=pairwise_append.mp horder
  have hjoined:=liveSessionFlags_joined id (memoryAfter past) g.nodes g.now
  have hstamped:=(probeEntries_spec g.now (liveSessionFlags (memoryAfter past) g.nodes g.now) g.roster
   (liveSessionFlags (memoryAfter past) g.nodes g.now).memory).1
  rw[memoryAfter,foldl_append]
  intro x hx n hn hid hactive
  rcases mem_append.mp hx with hx|hx
  · obtain ⟨t,ht,hxt⟩:=ih horder x hx n hn hid hactive
    rcases (hjoined.stamped.trans hstamped) (.deviceId id) with hkept|hnew
    · exact ⟨t,hkept.trans ht,hxt⟩
    · exact ⟨g.now,hnew,hle x hx g (by simp)⟩
  · cases mem_singleton.mp hx
    have hnow:=hjoined.active n hn hid hactive
    refine ⟨g.now,?_,Nat.le_refl _⟩
    rcases hstamped (.deviceId id) with hkept|hnew
    · exact hkept.trans hnow
    · exact hnew

/-- When the nodes on a device's target carry its id, a gather that hands no live session for it found
none, and none was found within the grace before. -/
theorem no_live_session_known {past:List Gather} (horder:(past++[g]).Pairwise (·.now ≤ ·.now))
 (hown:∀x∈past++[g],OwnId id x) (hid:e.deviceId=some id)
 (hfalse:(e,false)∈(gather (memoryAfter past) g).2):∀x∈past++[g],
 g.now<x.now+sessionSettleGraceSec→∀n∈x.nodes,n.attributed x id→ n.hasActiveSession=some false:=by
 have hjoined:=liveSessionFlags_joined id (memoryAfter past) g.nodes g.now
 obtain ⟨he,m,hm,hentry⟩:=(probeEntries_spec _ _ _ _).2 e hfalse
 have hsettled:=hjoined.entry (hown g (by simp)) he hid hentry hm
 intro x hx hrecent n hn hattributed
 by_contra hactive
 have hcarried:n.deviceId=some id:=by
  rcases hattributed with hcarried|⟨e',he',hid',hsome,htarget⟩
  · exact hcarried
  · exact hown x hx n hn e' he' hid' hsome htarget
 rcases mem_append.mp hx with hx|hx
 · obtain ⟨t,ht,hle⟩:=memoryAfter_remembers (pairwise_append.mp horder).1 x hx n hn hcarried hactive
   obtain ⟨last,hlast,hold⟩:=hsettled.of_stamped hjoined.stamped
   cases ht.symm.trans hlast
   omega
 · cases mem_singleton.mp hx
   obtain ⟨last,hlast,hold⟩:=hsettled
   cases (hjoined.active n hn hcarried hactive).symm.trans hlast
   omega

def gatherAt (now:ℕ)(nodes:List Node):Gather:=⟨now,nodes,[⟨some "d",some "t"⟩]⟩

theorem no_live_session_known_gone:
 let past:=[gatherAt 0 [⟨⟨some "d",some "t"⟩,some true⟩]]
 (⟨some "d",some "t"⟩,false)∈(gather (memoryAfter past) (gatherAt 60 [])).2∧∀x∈past++[gatherAt 60 []],
 60<x.now+60→∀n∈x.nodes,n.attributed x "d" → n.hasActiveSession=some false:=
 have hfalse:(⟨some "d",some "t"⟩,false)∈
  (gather (memoryAfter [gatherAt 0 [⟨⟨some "d",some "t"⟩,some true⟩]]) (gatherAt 60 [])).2:=by decide
 ⟨hfalse,no_live_session_known (by decide) (by decide) rfl hfalse⟩

/-- A session on a node without an id is remembered under the target alone: thirty seconds later the
device has none. -/
theorem forgotten_session:
 let x:=gatherAt 100 [⟨⟨none,some "t"⟩,some true⟩]
 (gather (memoryAfter [gatherAt 0 [],x]) (gatherAt 130 [])).2=[(⟨some "d",some "t"⟩,false)]∧
 130<x.now+sessionSettleGraceSec∧∃n∈x.nodes,n.attributed x "d" ∧ n.hasActiveSession=some true:=
 ⟨by decide,by decide,_,mem_singleton.mpr rfl,.inr ⟨_,mem_singleton.mpr rfl,rfl,rfl,rfl⟩,rfl⟩
end GridFleet.LiveSessions
