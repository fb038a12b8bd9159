import GridFleet.Dict
import GridFleet.Interleaving
import GridFleet.OrderedLog
/-! The first crash of a port is withheld while its restart is tried, and the event stream of the whole
host is cut below the lowest withheld event; the backend keeps the highest sequence it has taken. How a
start ends is up to `AppiumManager`. -/
namespace GridFleet.RestartEvents
open Interleaving OrderedLog Dict List Option

abbrev Port:=ℕ
def maxRestartEvents:ℕ:=200
def autoRestartMaxAttempts:ℕ:=5
def firstRestartWithholdMaxSec:ℕ:=60
def withholdOwnershipMaxSec:ℕ:=300

inductive Kind where
 | crashDetected
 | restartSucceeded
 | restartExhausted
 | portConflict
 deriving DecidableEq

structure Event where
 sequence:ℕ
 kind:Kind
 port:Port
 attempt:ℕ
 occurredAt:ℕ
 deriving DecidableEq

structure WithheldRestart where
 sequence:ℕ
 armedAt:ℕ

def WithheldRestart.expiresAt (w:WithheldRestart):ℕ:=w.armedAt+firstRestartWithholdMaxSec

/-- Where the restart task of a port stands: at the head of its loop, or in an attempt. -/
inductive Phase where
 | due
 | trying (attempt:ℕ)
 deriving DecidableEq

inductive Outcome where
 | respawned
 | portOccupied
 | alreadyRunning
 | deferred
 | failed
 | stopped
 deriving DecidableEq

structure Manager where
 now:ℕ
 /-- Every event of this boot, oldest first; the ring holds the last of them. -/
 recorded:List Event
 withheld:Dict Port WithheldRestart
 tasks:Dict Port Phase
 /-- The ports with process info, and whether the process is running. -/
 nodes:Dict Port Bool
 /-- The start of the convergence loop that holds the lock, and whether it has adopted a withhold. -/
 starting:Option (Port×Bool)

namespace Manager

def record (m:Manager)(kind:Kind)(port:Port)(attempt:ℕ):Manager:=
 {m with recorded:=m.recorded++[⟨m.recorded.length+1,kind,port,attempt,m.now⟩]}
def release (m:Manager)(port:Port):Manager:={m with withheld:=m.withheld.pop port}
def endTask (m:Manager)(port:Port):Manager:={m with tasks:=m.tasks.pop port}
def forgetPort (m:Manager)(port:Port):Manager:=
 {(m.release port).endTask port with nodes:=m.nodes.pop port}
def respawn (m:Manager)(port:Port):Manager:={m with nodes:=m.nodes.set port true}

/-- One turn of the loop up to its backoff: only the first attempt is withheld. -/
def detectCrash (m:Manager)(port:Port)(attempt:ℕ):Manager:=
 let detected:=m.record .crashDetected port attempt
 let trying:=m.tasks.set port (.trying attempt)
 if attempt=1 then
  {detected with withheld:=m.withheld.set port ⟨m.recorded.length+1,m.now⟩,tasks:=trying}
 else if attempt≤autoRestartMaxAttempts then {detected with tasks:=trying}
 else (detected.record .restartExhausted port attempt).endTask port

/-- The `finally` of an attempt. -/
def leaveAttempt (m:Manager)(port:Port)(attempt:ℕ):Manager:=
 if attempt=1 then m.release port else m

/-- How an attempt ends: a forgotten port has lost its withhold already, a deferral keeps it for the
next start. -/
def attemptEnds (m:Manager)(port:Port)(attempt:ℕ):Outcome→Manager
 | .respawned=>
  (((m.respawn port).record .restartSucceeded port attempt).endTask port).leaveAttempt port attempt
 | .portOccupied=>(m.record .portConflict port attempt).forgetPort port
 | .alreadyRunning=>m.forgetPort port
 | .deferred=>m.endTask port
 | .failed=>{m with tasks:=m.tasks.set port .due}.leaveAttempt port attempt
 | .stopped=>(m.endTask port).leaveAttempt port attempt

def reapStaleWithhold (m:Manager)(port:Port):Manager:=
 match m.withheld.get port with
 | some w=>if withholdOwnershipMaxSec < m.now-w.armedAt then m.release port else m
 | none=>m

/-- A start refuses to spawn a second process for its port. -/
def admits (m:Manager)(port:Port)(outcome:Outcome):Bool:=
 outcome ≠ .respawned∨m.nodes.get port≠some true

def startEnds (m:Manager)(port:Port)(adopted:Bool):Outcome→Manager
 | .respawned=>
  if adopted then ((m.respawn port).record .restartSucceeded port 1).release port else m.respawn port
 | .deferred=>m
 | _=>if adopted then m.release port else m
end Manager

/-- `exits` says whether the watch of the process schedules a restart; an `attempt` without a number
returns for a stop. -/
inductive Act where
 | tick
 | exits (port:Port)(noticed:Bool)
 | attempt (port:Port)(attempt:Option ℕ)
 | ends (port:Port)(outcome:Outcome)
 | start (port:Port)
 | finish (outcome:Outcome)
 | stop (port:Port)

def Manager.act (m:Manager):Act→Option Manager
 | .tick=>some {m with now:=m.now+1}
 | .exits port noticed=>
  if m.nodes.get port=some true then
   some { m with
    nodes:=m.nodes.set port false
    tasks:=if noticed∧m.tasks.get port=none then m.tasks.set port .due else m.tasks }
  else none
 | .attempt port attempt=>
  if m.tasks.get port=some .due then some (attempt.elim (m.endTask port) (m.detectCrash port)) else none
 | .ends port outcome=>
  match m.tasks.get port with
  | some (.trying attempt)=>
   if m.admits port outcome then some (m.attemptEnds port attempt outcome) else none
  | _=>none
 | .start port=>
  -- the restart task that is cancelled here keeps its withhold for this start
  let taken:=(m.endTask port).reapStaleWithhold port
  if m.starting=none then some {taken with starting:=some (port,(taken.withheld.get port).isSome)}
  else none
 | .finish outcome=>
  m.starting.bind fun start=>
   if m.admits start.1 outcome then some {m.startEnds start.1 start.2 outcome with starting:=none}
   else none
 | .stop port=>if m.starting=none then some (m.forgetPort port) else none

structure Snapshot where
 runningNodes:List Port
 recentRestartEvents:List Event

def Manager.activeWithholds (m:Manager):Dict Port WithheldRestart:=
 m.withheld.filter fun _ w=>m.now<w.expiresAt
def Manager.truncateAt (m:Manager):Option ℕ:=
 (m.activeWithholds.entries.map (·.2.sequence)).min?
def Manager.processSnapshot (m:Manager):Snapshot:=
 let running:=(m.nodes.filter fun _ alive=>alive).keys
 { runningNodes:=running++m.activeWithholds.keys.filter fun port=>
    port ∉ running∧m.nodes.get port≠none
   recentRestartEvents:=(m.recorded.drop (m.recorded.length-maxRestartEvents)).filter fun e=>
    m.truncateAt.all (e.sequence < ·) }

/-- The events that a snapshot may emit are the ones below. -/
def Manager.bound (m:Manager):ℕ:=m.truncateAt.getD (m.recorded.length+1)

/-- `bound` and `processedBound` are those of the last snapshot and of the last one that the backend
has processed, `offered` all events in processed ones. -/
structure State where
 manager:Manager
 bound:ℕ
 processedBound:ℕ
 offered:List Event
 cursor:ℕ
 applied:List Event

def init:State:=⟨⟨0,[],.empty,.empty,.empty,none⟩,1,1,[],0,[]⟩

/-- The backend knows no `port_conflict`. -/
def restartEventKind (kind:Kind):Bool:=kind ≠ .portConflict

def collectRestartCandidateEvents (events:List Event)(lastSequence:ℕ):List Event:=
 events.filter fun e=>restartEventKind e.kind∧lastSequence<e.sequence
def ingest (s:State)(events:List Event):State:=
 let candidates:=(collectRestartCandidateEvents events s.cursor).insertionSort (·.sequence ≤ ·.sequence)
 { s with
   offered:=s.offered++events
   cursor:=candidates.foldl (fun highest e=>max highest e.sequence) s.cursor
   applied:=s.applied++candidates }

/-- A snapshot that the backend does not process is lost, or overwritten by the next. -/
inductive Label where
 | act (a:Act)
 | snapshot (processed:Bool)

def step (s:State):Label→Option State
 | .act a=>(s.manager.act a).map fun m=>{s with manager:=m}
 | .snapshot false=>some {s with bound:=s.manager.bound}
 | .snapshot true=>some { ingest s s.manager.processSnapshot.recentRestartEvents with
    bound:=s.manager.bound
    processedBound:=s.manager.bound }
def Event.firstCrash (e:Event):Bool:=e.kind=.crashDetected∧e.attempt=1

/-- When the backend processes a snapshot, the ring still holds the first event it was not offered. -/
def ringReaches (s:State):Label→Prop
 | .snapshot true=>s.manager.recorded.length<s.processedBound+maxRestartEvents
 | _=>True

def crashed:Act→Option Port
 | .attempt port (some 1)=>some port
 | _=>none

/-- No first crash is detected while that of another port is withheld. -/
def crashesApart (s:State):Label→Prop
 | .act a=>∀port,crashed a=some port→∀p w,s.manager.activeWithholds.get p=some w→p=port
 | _=>True

instance (s:State):DecidablePred (ringReaches s)
 | .act _ | .snapshot false=>isTrue trivial
 | .snapshot true=>inferInstanceAs (Decidable (_<_))

namespace Manager

structure Inv (m:Manager):Prop where
 numbered:m.recorded.map (·.sequence)=List.range' 1 m.recorded.length
 armed:∀p w,m.withheld.get p=some w→
  w.sequence ≤ m.recorded.length∧w.armedAt ≤ m.now∧m.nodes.get p≠none
 later:∀e∈m.recorded,∀p w,m.withheld.get p=some w→w.sequence≤e.sequence→
  w.armedAt≤e.occurredAt
 tracked:∀p,m.tasks.get p≠none→m.nodes.get p≠none

/-- The manager `m` was `m₀` before a step that may have detected the first crash of a port. -/
structure Follows (first:Option Port)(m₀ m:Manager):Prop extends Inv m where
 now_le:m₀.now ≤ m.now
 length_le:m₀.recorded.length ≤ m.recorded.length
 recorded_of:∀e∈m.recorded,e∈m₀.recorded∨
  m₀.recorded.length<e.sequence∧(e.firstCrash→first=some e.port)
 withheld_of:∀p w,m.withheld.get p=some w→m₀.withheld.get p=some w∨
  m₀.recorded.length<w.sequence∧first=some p

variable {first:Option Port}{m m₀ m':Manager}{port:Port}{e:Event}{kind:Kind}{attempt:ℕ}{outcome:Outcome}

lemma Inv.sequence_mem (h:Inv m)(he:e∈m.recorded):1≤e.sequence∧e.sequence ≤ m.recorded.length:=by
 have hmem:=List.mem_map_of_mem (f:=(·.sequence)) he
 rw[h.numbered,mem_range'_1] at hmem
 omega

section
variable (h:Follows first m₀ m)
include h

lemma Follows.recordWith {withheld:Dict Port WithheldRestart}
 (hwithheld:withheld=m.withheld∧(kind=.crashDetected→attempt≠1)∨first=some port∧
  withheld=m.withheld.set port ⟨m.recorded.length+1,m.now⟩∧m.nodes.get port≠none):
 Follows first m₀ {m.record kind port attempt with withheld:=withheld}:=by
 have hlength:=h.length_le
 constructor
 case toInv=>
  constructor
  case numbered=>simp[record,h.numbered,range'_concat,Nat.add_comm]
  case armed=>
   intro p w hw
   have hold:=h.armed p w
   simp only[record,length_append,length_singleton]
   grind[get_set]
  case later=>
   intro e he p w hw hle
   have hold:=h.later e
   have hpast:=h.armed p w
   have hbelow:=h.sequence_mem (e:=e)
   simp only[record,mem_append,mem_singleton] at he
   grind[get_set]
  case tracked=>exact h.tracked
 case now_le=>exact h.now_le
 case length_le=>simp[record];omega
 case recorded_of=>
  intro e he
  have hold:=h.recorded_of e
  simp only[record,mem_append,mem_singleton] at he
  grind[Event.firstCrash]
 case withheld_of=>
  intro p w hw
  grind[h.withheld_of p w,get_set]

lemma Follows.record (hlater:kind=.crashDetected→attempt≠1):
 Follows first m₀ (m.record kind port attempt):=
 h.recordWith (.inl ⟨rfl,hlater⟩)
lemma Follows.release:Follows first m₀ (m.release port):=
 { h with
   armed p w hw:=h.armed p w (get_pop_eq_some hw).2
   later e he p w hw:=h.later e he p w (get_pop_eq_some hw).2
   withheld_of p w hw:=h.withheld_of p w (get_pop_eq_some hw).2 }
lemma Follows.setTask (phase:Phase)(hnode:m.nodes.get port≠none):
 Follows first m₀ {m with tasks:=m.tasks.set port phase}:=
 {h with tracked:=by grind[get_set,h.tracked]}
lemma Follows.endTask:Follows first m₀ (m.endTask port):=
 {h with tracked:=by grind[get_pop,Manager.endTask,h.tracked]}
lemma Follows.setNode {alive:Bool}:Follows first m₀ {m with nodes:=m.nodes.set port alive}:=
 { h with
   armed p w hw:=by grind[get_set,h.armed p w hw]
   tracked:=by grind[get_set,h.tracked] }

lemma Follows.forgetPort:Follows first m₀ (m.forgetPort port):=
 have hrest:Follows first m₀ ((m.release port).endTask port):=h.release.endTask
 { hrest with
   armed p w hw:=by
    have hold:=hrest.armed p w hw
    grind[get_pop,Manager.forgetPort,Manager.endTask,Manager.release]
   tracked:=by grind[get_pop,Manager.forgetPort,Manager.endTask,Manager.release,hrest.tracked] }
lemma Follows.leaveAttempt:Follows first m₀ (m.leaveAttempt port attempt):=by
 unfold Manager.leaveAttempt
 split
 · exact h.release
 · exact h
lemma Follows.attemptEnds (hnode:m.nodes.get port≠none):
 Follows first m₀ (m.attemptEnds port attempt outcome):=by
 cases outcome with
 | respawned=>exact (h.setNode.record (by simp)).endTask.leaveAttempt
 | portOccupied=>exact (h.record (by simp)).forgetPort
 | alreadyRunning=>exact h.forgetPort
 | deferred=>exact h.endTask
 | failed=>exact (h.setTask .due hnode).leaveAttempt
 | stopped=>exact h.endTask.leaveAttempt
lemma Follows.reapStaleWithhold:Follows first m₀ (m.reapStaleWithhold port):=by
 unfold Manager.reapStaleWithhold
 split
 · split
   · exact h.release
   · exact h
 · exact h

lemma Follows.startEnds {adopted:Bool}:Follows first m₀ (m.startEnds port adopted outcome):=by
 cases outcome with
 | respawned=>
  simp only[Manager.startEnds]
  split
  · exact (h.setNode.record (by simp)).release
  · exact h.setNode
 | deferred=>exact h
 | portOccupied | alreadyRunning | failed | stopped=>
  simp only[Manager.startEnds]
  split
  · exact h.release
  · exact h
lemma Follows.detectCrash (hfirst:attempt=1→first=some port)(hnode:m.nodes.get port≠none):
 Follows first m₀ (m.detectCrash port attempt):=by
 unfold Manager.detectCrash
 dsimp only
 split
 · rename_i heq
   exact (h.recordWith (.inr ⟨hfirst heq,rfl,hnode⟩)).setTask (.trying attempt) hnode
 · rename_i hlater
   split
   · exact (h.record fun _=>hlater).setTask (.trying attempt) hnode
   · exact ((h.record fun _=>hlater).record (by simp)).endTask
end

lemma Inv.follows_act (h:Inv m){a:Act}(hact:m.act a=some m'):Follows (crashed a) m m':=by
 have h:Follows (crashed a) m m:=⟨h,le_rfl,le_rfl,fun _ he=>.inl he,fun _ _ hw=>.inl hw⟩
 cases a with
 | tick=>
  cases hact
  exact { h with
   armed:=fun p w hw=>by grind[h.armed p w hw]
   now_le:=Nat.le_succ_of_le h.now_le }
 | exits p noticed=>
  obtain ⟨-,⟨⟩⟩:=ite_none_right_eq_some.mp hact
  split
  · exact h.setNode.setTask .due (by simp)
  · exact h.setNode
 | attempt p attempt=>
  obtain ⟨hdue,⟨⟩⟩:=ite_none_right_eq_some.mp hact
  cases attempt with
  | none=>exact h.endTask
  | some n=>exact h.detectCrash (by rintro rfl;rfl) (h.tracked p (by simp[hdue]))
 | ends p outcome=>
  simp only[Manager.act] at hact
  split at hact
  · rename_i n hphase
    obtain ⟨-,⟨⟩⟩:=ite_none_right_eq_some.mp hact
    exact h.attemptEnds (h.tracked p (by simp[hphase]))
  · cases hact
 | start p=>
  obtain ⟨-,⟨⟩⟩:=ite_none_right_eq_some.mp hact
  exact {h.endTask.reapStaleWithhold with}
 | finish outcome=>
  obtain ⟨start,-,hact⟩:=bind_eq_some_iff.mp hact
  obtain ⟨-,⟨⟩⟩:=ite_none_right_eq_some.mp hact
  exact {h.startEnds with}
 | stop p=>
  obtain ⟨-,⟨⟩⟩:=ite_none_right_eq_some.mp hact
  exact h.forgetPort

def Apart (m:Manager):Prop:=
 ∀e∈m.recorded,e.firstCrash→∀p w,m.withheld.get p=some w→m.now<w.expiresAt→
  w.sequence≤e.sequence→e.port=p

lemma activeWithholds_get {p:Port}{w:WithheldRestart}:
 m.activeWithholds.get p=some w↔m.withheld.get p=some w∧m.now<w.expiresAt:=by
 simp[activeWithholds,filter_eq_some_iff]
lemma Follows.apart (h:Follows first m₀ m)(h₀:Inv m₀)(hapart:Apart m₀)
 (halone:∀port,first=some port→∀p w,m₀.activeWithholds.get p=some w→p=port):Apart m:=by
 intro e he hcrash p w hw hlive hle
 have hlive:=h.now_le.trans_lt hlive
 rcases h.withheld_of p w hw with hold|⟨hlate,hfirst⟩ <;>
  rcases h.recorded_of e he with hrecorded|⟨-,hnew⟩
 · exact hapart e hrecorded hcrash p w hold hlive hle
 · exact (halone e.port (hnew hcrash) p w (activeWithholds_get.mpr ⟨hold,hlive⟩)).symm
 · have:=(h₀.sequence_mem hrecorded).2
   omega
 · exact some.inj ((hnew hcrash).symm.trans hfirst)
lemma Inv.le_bound_iff (h:Inv m){k:ℕ}:k ≤ m.bound↔k ≤ m.recorded.length+1∧
 ∀p w,m.withheld.get p=some w→m.now<w.expiresAt→k≤w.sequence:=by
 have hactive (p:Port)(w:WithheldRestart):(p,w)∈m.activeWithholds.entries↔
   m.withheld.get p=some w∧m.now<w.expiresAt:=by
  rw[←get_eq_some_iff,activeWithholds_get]
 unfold bound
 cases htruncate:m.truncateAt with
 | none=>
  simp only[truncateAt,min?_eq_none_iff,map_eq_nil_iff] at htruncate
  simp only[htruncate,not_mem_nil,false_iff] at hactive
  exact ⟨fun hk=>⟨hk,fun p w hw hlive=>absurd ⟨hw,hlive⟩ (hactive p w)⟩,And.left⟩
 | some b=>
  obtain ⟨hmem,hleast⟩:=min?_eq_some_iff.mp htruncate
  obtain ⟨⟨p,w⟩,hw,rfl⟩:=List.mem_map.mp hmem
  obtain ⟨hw,hlive⟩:=(hactive p w).mp hw
  refine ⟨fun hk=>⟨?_,fun q v hv hlive=>?_⟩,fun hk=>hk.2 p w hw hlive⟩
  · exact hk.trans (Nat.le_succ_of_le (h.armed p w hw).1)
  · exact hk.trans (hleast _ (List.mem_map_of_mem ((hactive q v).mpr ⟨hv,hlive⟩)))
lemma Inv.mem_events (h:Inv m)(e:Event):e∈m.processSnapshot.recentRestartEvents↔
 e∈m.recorded∧m.recorded.length<e.sequence+maxRestartEvents∧e.sequence < m.bound:=by
 have hring:=filter_gt_eq_drop h.numbered (m.recorded.length-maxRestartEvents)
 rw[Nat.add_sub_cancel] at hring
 have hmem:=h.sequence_mem (e:=e)
 simp only[processSnapshot,bound,←hring,mem_filter]
 cases m.truncateAt <;> grind
lemma Inv.events_sorted (h:Inv m):
 m.processSnapshot.recentRestartEvents.Pairwise (·.sequence < ·.sequence):=by
 have hrecorded:m.recorded.Pairwise (·.sequence < ·.sequence):=
  pairwise_map.mp (h.numbered ▸ pairwise_lt_range')
 simp only[processSnapshot]
 exact (hrecorded.sublist (drop_sublist _ _)).filter _
lemma Inv.lt_bound_of_expired (h:Inv m)(he:e∈m.recorded)
 (hlate:e.occurredAt+firstRestartWithholdMaxSec ≤ m.now):e.sequence < m.bound:=by
 refine h.le_bound_iff.mpr ⟨Nat.succ_le_succ (h.sequence_mem he).2,fun p w hw hlive=>?_⟩
 by_contra hlt
 have hlater:=h.later e he p w hw (by omega)
 simp only[WithheldRestart.expiresAt] at hlive
 omega
lemma Inv.listed (h:Inv m)(hapart:Apart m)(he:e∈m.recorded)(hcrash:e.firstCrash)
 (hle:m.bound≤e.sequence):e.port∈m.processSnapshot.runningNodes:=by
 have hheld:∃p w,m.withheld.get p=some w∧m.now<w.expiresAt∧w.sequence≤e.sequence:=by
  by_contra hnone
  refine absurd (h.le_bound_iff.mpr ⟨Nat.succ_le_succ (h.sequence_mem he).2,fun p w hw hlive=>?_⟩)
   (Nat.not_succ_le_self _ ∘ (·.trans hle))
  by_contra hlt
  exact hnone ⟨p,w,hw,hlive,by omega⟩
 obtain ⟨p,w,hw,hlive,hwe⟩:=hheld
 have hnode:=(h.armed p w hw).2.2
 rw[hapart e he hcrash p w hw hlive hwe,processSnapshot]
 by_cases hrunning:p∈(m.nodes.filter fun _ alive=>alive).keys
 · exact mem_append_left _ hrunning
 · refine mem_append_right _ (mem_filter.mpr ⟨Dict.mem_keys.mpr ⟨w,?_⟩,?_⟩)
   · exact activeWithholds_get.mpr ⟨hw,hlive⟩
   · simpa using ⟨hrunning,hnode⟩
end Manager

variable {s s':State}

structure Sound (s:State):Prop where
 manager:s.manager.Inv
 ahead:s.bound ≤ s.manager.bound
 processed_le:s.processedBound ≤ s.bound
 reached:∀e∈s.manager.recorded,e.sequence<s.processedBound→
  e∈s.offered∧(restartEventKind e.kind→e∈s.applied)
 cursor_lt:s.cursor<s.processedBound
 once:s.applied.Pairwise (·.sequence < ·.sequence)
 applied_le:∀e∈s.applied,e.sequence ≤ s.cursor

lemma Sound.act (h:Sound s){first:Option Port}{m:Manager}(hfollows:s.manager.Follows first m):
 Sound {s with manager:=m}:=by
 obtain ⟨hbound,hahead⟩:=h.manager.le_bound_iff.mp h.ahead
 have hlength:=hfollows.length_le
 exact { h with
  manager:=hfollows.toInv
  ahead:=by
   refine hfollows.le_bound_iff.mpr ⟨by dsimp only;omega,fun p w hw hlive=>?_⟩
   rcases hfollows.withheld_of p w hw with hold|⟨hlate,-⟩
   · exact hahead p w hold (hfollows.now_le.trans_lt hlive)
   · dsimp only
     omega
  reached:=by
   intro e he hlt
   rcases hfollows.recorded_of e he with hold|⟨hlate,-⟩
   · exact h.reached e hold hlt
   · have:=h.processed_le
     dsimp only at hlt
     omega }

lemma Sound.processed (h:Sound s)
 (hring:s.manager.recorded.length<s.processedBound+maxRestartEvents):
 Sound { ingest s s.manager.processSnapshot.recentRestartEvents with
   bound:=s.manager.bound
   processedBound:=s.manager.bound }:=by
 have hevents:=h.manager.mem_events
 have hordered:=h.manager.events_sorted
 have hbound:=h.processed_le.trans h.ahead
 have hcursor:=h.cursor_lt
 generalize s.manager.processSnapshot.recentRestartEvents=events at hevents hordered ⊢
 have hsorted:(collectRestartCandidateEvents events s.cursor).Pairwise (·.sequence < ·.sequence):=
  hordered.filter _
 have hcandidate (e:Event):e∈collectRestartCandidateEvents events s.cursor↔
   e∈events∧restartEventKind e.kind∧s.cursor<e.sequence:=by
  simp[collectRestartCandidateEvents]
 obtain ⟨hkept,hreached⟩:=foldl_max_le_iff.mp (le_refl (ingest s events).cursor)
 have hbelow:(ingest s events).cursor ≤ s.manager.bound-1:=by
  refine foldl_max_le_iff.mpr ⟨by omega,fun e he=>?_⟩
  have:=(hevents e).mp ((hcandidate e).mp ((mem_insertionSort _).mp he)).1
  omega
 simp only[ingest,(hsorted.imp le_of_lt).insertionSort_eq] at hkept hreached hbelow ⊢
 constructor
 case manager=>exact h.manager
 case ahead=>exact le_rfl
 case processed_le=>exact le_rfl
 case reached=>
  intro e he hlt
  by_cases hold:e.sequence<s.processedBound
  · obtain ⟨hoffered,happlied⟩:=h.reached e he hold
    exact ⟨mem_append_left _ hoffered,fun hkind=>mem_append_left _ (happlied hkind)⟩
  · have hin:e∈events:=(hevents e).mpr ⟨he,by omega,hlt⟩
    refine ⟨mem_append_right _ hin,fun hkind=>mem_append_right _ ?_⟩
    exact (hcandidate e).mpr ⟨hin,hkind,by omega⟩
 case cursor_lt=>
  dsimp only
  omega
 case once=>
  refine pairwise_append.mpr ⟨h.once,hsorted,fun e he e' he'=>?_⟩
  exact (h.applied_le e he).trans_lt ((hcandidate e').mp he').2.2
 case applied_le=>
  intro e he
  rcases mem_append.mp he with hold|hnew
  · exact (h.applied_le e hold).trans hkept
  · exact hreached e hnew

lemma Sound.step (h:Sound s){label:Label}(hring:ringReaches s label)(hstep:step s label=some s'):
 Sound s':=by
 cases label with
 | act a=>
  obtain ⟨m,hm,rfl⟩:=map_eq_some_iff.mp hstep
  exact h.act (h.manager.follows_act hm)
 | snapshot processed=>
  cases processed with
  | false=>
   cases hstep
   exact { h with
    ahead:=le_rfl
    processed_le:=h.processed_le.trans h.ahead }
  | true=>
   cases hstep
   exact h.processed hring
lemma inv_init:init.manager.Inv:=by
 constructor <;> simp[init]
lemma apart_run {labels:List Label}(hrun:run step init labels=some s)
 (hapart:Guarded crashesApart step init labels):s.manager.Apart:=by
 suffices h:s.manager.Inv∧s.manager.Apart from h.2
 refine run_invariant_guarded (fun s=>s.manager.Inv∧s.manager.Apart) ?_
  ⟨inv_init,by simp[init,Manager.Apart]⟩ hapart hrun
 intro s label s' h hguard hstep
 cases label with
 | act a=>
  obtain ⟨m,hm,rfl⟩:=map_eq_some_iff.mp hstep
  have hfollows:=h.1.follows_act hm
  exact ⟨hfollows.toInv,hfollows.apart h.1 h.2 hguard⟩
 | snapshot processed=>
  cases processed <;> cases hstep <;> exact h

/-- A snapshot emits the recorded events below a bound that only rises. While the ring still holds what
the backend was not offered, the cursor passes no other event and each is applied once; none is held
back longer than a withhold lasts; and when first crashes are withheld one at a time, the node of each
one held back is listed. -/
theorem restart_events_reach_backend {labels:List Label} (hrun:run step init labels=some s)
 (hring:Guarded ringReaches step init labels):
 s.bound ≤ s.manager.bound∧
 (∀e,e∈s.manager.processSnapshot.recentRestartEvents↔e∈s.manager.recorded∧
  s.manager.recorded.length<e.sequence+maxRestartEvents∧e.sequence<s.manager.bound)∧
 (∀e∈s.manager.recorded,e.sequence ≤ s.cursor→
  e∈s.offered∧(restartEventKind e.kind→ e∈s.applied))∧
 s.applied.Pairwise (·.sequence < ·.sequence)∧
 (∀e∈s.manager.recorded,e.occurredAt+firstRestartWithholdMaxSec ≤ s.manager.now→
  e.sequence<s.manager.bound)∧
 (Guarded crashesApart step init labels→∀e∈s.manager.recorded,e.firstCrash→
  s.manager.bound≤e.sequence→ e.port∈s.manager.processSnapshot.runningNodes):=by
 have h:Sound s:=by
  refine run_invariant_guarded Sound (fun _ _ _ h hring hstep=>h.step hring hstep) ?_ hring hrun
  exact ⟨inv_init,by decide,by decide,by simp[init],by decide,by simp[init],by simp[init]⟩
 exact ⟨h.ahead,h.manager.mem_events,fun e he hle=>h.reached e he (hle.trans_lt h.cursor_lt),h.once,
  fun e he=>h.manager.lt_bound_of_expired he,
  fun hapart e he=>h.manager.listed (apart_run hrun hapart) he⟩

def twoCrashes:List Label:=
 [.act (.start 1),.act (.finish .respawned),.act (.start 2),.act (.finish .respawned),
  .act (.exits 1 true),.act (.attempt 1 (some 1)),.act (.exits 2 true),.act (.attempt 2 (some 1))]

/-- The second node is back before the first one. -/
theorem restart_events_reach_backend_twoCrashes:∃s,run step init
 (twoCrashes++[.act (.ends 2 .respawned),.snapshot true,.act (.ends 1 .respawned),.snapshot true]) =
  some s∧s.applied.length=4∧s.applied.Pairwise (·.sequence < ·.sequence):=
 have hrun:run step init (twoCrashes++[.act (.ends 2 .respawned),.snapshot true,
   .act (.ends 1 .respawned),.snapshot true])=some _:=rfl
 ⟨_,hrun,rfl,(restart_events_reach_backend hrun (by decide)).2.2.2.1⟩

/-- The restart of the second node fails while the crash of the first one is withheld: its crash is
held back and its node is not listed. -/
theorem held_back_crash_without_node:(run step init
 (twoCrashes++[.act (.ends 2 .failed),.act (.attempt 2 (some 2))])).map (fun s=>
  (s.manager.recorded.map fun e=>(e.port,e.firstCrash),s.manager.bound,
   s.manager.processSnapshot.runningNodes)) =
 some ([(1,true),(2,true),(2,false)],1,[1]):=by
 decide
end GridFleet.RestartEvents
