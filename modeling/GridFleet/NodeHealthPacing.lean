import GridFleet.Interleaving
import GridFleet.RemediationBackoff
import Mathlib.Order.MinMax
/-! A node that keeps refusing its probe is given a verdict once per failure window, by the agent's clock;
a verdict restarts the node unless a backoff of the shared ladder is open, by the backend's clock. -/
namespace GridFleet.NodeHealthPacing
open RemediationLog Interleaving List Option

structure Verdict where
 observedAt:Instant
 windowSec:ℕ

/-- A `restart_commissioned` row and the deadline of the attempt it was written with. -/
structure Restart where
 at_:Instant
 backoffUntil:Instant

structure State where
 failingSince:Option Instant
 log:List Entry
 settings:BackoffSettings
 now:Instant
 /-- The verdicts since the last ack, newest first. -/
 verdicts:List Verdict
 /-- The restarts of the node-health path since the last reset, newest first. -/
 restarts:List Restart

/-- A refused probe, with the clock readings of its fold. -/
structure Refusal where
 observedAt:Instant
 windowSec:ℕ
 gateAt:Instant
 openedAt:Instant
 attempt:Stamp
 restart:Stamp

inductive Label where
 | refused (refusal:Refusal)
 | ack (failure action cleared:Stamp)
 | restartSucceeded
 | attempted (stamp:Stamp)(source reason:String)(openedAt:Instant)
 | failureObserved (stamp:Stamp)(source reason:String)
 | acted (stamp:Stamp)(source action:String)(reason:Option String)
 | reset (stamp:Stamp)(source action:String)(reason:Option String)
 | configured (settings:BackoffSettings)

def verdictReached (failingSince:Option Instant)(observedAt:Instant)(windowSec:ℕ):Bool:=
 match failingSince with
 | none=>decide (windowSec=0)
 | some since=>decide (since<observedAt)&&decide (windowSec*1000000≤observedAt-since)

def State.ladder (s:State):LadderState:=deriveLadder s.log
def State.append (s:State)(rows:List Entry)(now:Instant):State:=
 {s with log:=s.log++rows,now}
def attemptRow (s:State)(r:Refusal):Entry:=
 (appendAttempt r.attempt "node_health" "Node health checks kept failing; automated restart escalation"
  s.settings s.ladder r.openedAt).1
def attemptNodeRestart (r:Refusal):Entry:=
 appendAction r.restart "node_health" actionRestartCommissioned (some "Node health restart")
def deadlineOf (s:State)(openedAt:Instant):Instant:=
 openedAt+backoffSeconds s.settings (s.ladder.attempts+1)*1000000

def recordHealthFailure (s:State)(r:Refusal):State:=
 if verdictReached s.failingSince r.observedAt r.windowSec then
  let s':={ s with
   failingSince:=some r.observedAt
   verdicts:=⟨r.observedAt,r.windowSec⟩::s.verdicts }
  if (s.ladder.backoffActive r.gateAt).isSome then {s' with now:=r.gateAt}
  else { s'.append [attemptRow s r,attemptNodeRestart r] r.restart.at_ with
   restarts:=⟨r.restart.at_,deadlineOf s r.openedAt⟩::s.restarts }
 else {s with failingSince:=some (s.failingSince.getD r.observedAt)}

/-- What an ack appends after failed probes. -/
def recoveredRows (s:State)(failure action cleared:Stamp):List Entry:=
 [appendFailure failure "node_health" "Node health checks recovered",
  appendAction action "node_health" "node_monitor_recovered" none] ++
 if s.ladder.deferredStopPending then
  [appendAction cleared "node_health" actionAutoStopCleared (some "Node health checks recovered")]
 else []

def step (s:State):Label→Option State
 | .refused r=>
  if s.now≤r.gateAt∧r.gateAt≤r.openedAt∧r.openedAt≤r.attempt.at_∧
    r.attempt.at_≤r.restart.at_ then some (recordHealthFailure s r) else none
 | .ack failure action cleared=>
  if s.now≤failure.at_∧failure.at_≤action.at_∧action.at_≤cleared.at_ then
   match s.failingSince with
   | none=>some {s with verdicts:=[]}
   | some _=>some { s.append (recoveredRows s failure action cleared) cleared.at_ with
     failingSince:=none
     verdicts:=[] }
  else none
 | .restartSucceeded=>some {s with failingSince:=none}
 | .attempted stamp source reason openedAt=>
  if s.now≤openedAt∧openedAt ≤ stamp.at_ then
   some (s.append [(appendAttempt stamp source reason s.settings s.ladder openedAt).1] stamp.at_)
  else none
 | .failureObserved stamp source reason=>
  if s.now ≤ stamp.at_ then some (s.append [appendFailure stamp source reason] stamp.at_) else none
 | .acted stamp source action reason=>
  if s.now ≤ stamp.at_ then some (s.append [appendAction stamp source action reason] stamp.at_) else none
 | .reset stamp source action reason=>
  if s.now ≤ stamp.at_ then
   some {s.append [appendReset stamp source action reason] stamp.at_ with restarts:=[]}
  else none
 | .configured settings=>some {s with settings}

/-- The rows of the log are stamped one after another, the backoff settings are never lowered, and no
report of the agent takes the start of an open failure window away. -/
def Orderly (s:State):Label→Prop
 | .refused r=>s.now<r.attempt.at_∧r.attempt.at_<r.restart.at_
 | .ack failure action cleared=>
  s.now<failure.at_∧failure.at_<action.at_∧action.at_<cleared.at_
 | .restartSucceeded=>s.failingSince=none
 | .attempted stamp .. | .failureObserved stamp .. | .acted stamp .. | .reset stamp ..=>s.now<stamp.at_
 | .configured settings=>
  s.settings.baseSec ≤ settings.baseSec∧s.settings.maxSec ≤ settings.maxSec

instance (s:State):(label:Label)→Decidable (Orderly s label)
 | .refused _ | .ack .. | .configured _=>inferInstanceAs (Decidable (_∧_))
 | .restartSucceeded=>inferInstanceAs (Decidable (_=_))
 | .attempted .. | .failureObserved .. | .acted .. | .reset ..=>inferInstanceAs (Decidable (_<_))

lemma backoffSeconds_mono {a b:BackoffSettings}(hbase:a.baseSec≤b.baseSec)
 (hmax:a.maxSec≤b.maxSec){m n:ℕ}(hmn:m≤n):backoffSeconds a m≤backoffSeconds b n:=
 min_le_min (max_le_max hbase hmax)
  (Nat.mul_le_mul hbase (Nat.pow_le_pow_right Nat.two_pos (Nat.sub_le_sub_right hmn 1)))

/-- A restart waits for the deadlines of the restarts before it, since the ladder never loses them. -/
structure Backoff (s:State):Prop where
 stamped:∀x∈s.log,x.at_ ≤ s.now
 bounded:∀d,s.ladder.backoffUntil=some d→
  d ≤ s.now+backoffSeconds s.settings s.ladder.attempts*1000000
 held:∀r∈s.restarts,∃d,s.ladder.backoffUntil=some d∧r.backoffUntil≤d
 paced:s.restarts.Pairwise fun later earlier=>earlier.backoffUntil≤later.at_

section Append
variable {s:State}{e:Entry}

lemma Backoff.later (h:Backoff s){now:Instant}(hnow:s.now≤now):Backoff {s with now}:=
 ⟨fun x hx=>(h.stamped x hx).trans hnow,
  fun d hd=>(h.bounded d hd).trans (Nat.add_le_add_right hnow _),h.held,h.paced⟩
lemma Backoff.ladder_append (h:Backoff s)(hwritten:Written e)(hlt:s.now<e.at_)(now:Instant):
 (s.append [e] now).ladder=advanceLadder s.ladder e:=
 deriveLadder_concat hwritten fun x hx=>Or.inl ((h.stamped x hx).trans_lt hlt)
lemma Backoff.stamped_append (h:Backoff s)(hlt:s.now<e.at_):
 ∀x∈(s.append [e] e.at_).log,x.at_≤e.at_:=by
 intro x hx
 rcases mem_append.mp hx with hold|hnew
 · exact (h.stamped x hold).trans hlt.le
 · rw[mem_singleton.mp hnew]

/-- Failures and actions leave the attempts and the deadline alone. -/
lemma Backoff.append_quiet (h:Backoff s)(hwritten:Written e)
 (hkind:e.kind=.failure∨e.kind=.action)(hlt:s.now<e.at_):
 Backoff (s.append [e] e.at_)∧(s.append [e] e.at_).ladder.backoffUntil=s.ladder.backoffUntil:=by
 have hladder:=h.ladder_append hwritten hlt e.at_
 have hsame:(s.append [e] e.at_).ladder.backoffUntil=s.ladder.backoffUntil∧
   (s.append [e] e.at_).ladder.attempts=s.ladder.attempts:=by
  rw[hladder]
  rcases hkind with hkind|hkind <;> simp[advanceLadder,hkind]
 refine ⟨⟨h.stamped_append hlt,fun d hd=>?_,fun r hr=>?_,h.paced⟩,hsame.1⟩
 · rw[hsame.2]
   exact (h.bounded d (hsame.1 ▸ hd)).trans (Nat.add_le_add_right hlt.le _)
 · rw[hsame.1]
   exact h.held r hr

lemma Backoff.append_attempt (h:Backoff s){stamp:Stamp}{source reason:String}
 {openedAt:Instant}(hnow:s.now≤openedAt)(hopened:openedAt ≤ stamp.at_)
 (hlt:s.now<stamp.at_):
 let t:=s.append [(appendAttempt stamp source reason s.settings s.ladder openedAt).1] stamp.at_
 Backoff t∧t.ladder.backoffUntil=some (deadlineOf s openedAt):=by
 intro t
 have hladder:t.ladder=_:=h.ladder_append (.attempt ..) hlt stamp.at_
 have hdeadline:t.ladder.backoffUntil=some (deadlineOf s openedAt):=by
  rw[hladder]
  rfl
 refine ⟨⟨h.stamped_append hlt,fun d hd=>?_,fun r hr=>⟨_,hdeadline,?_⟩,h.paced⟩,hdeadline⟩
 · cases hdeadline.symm.trans hd
   rw[hladder]
   exact Nat.add_le_add_right hopened _
 · obtain ⟨d,hd,hle⟩:=h.held r hr
   have hmono:backoffSeconds s.settings s.ladder.attempts ≤
     backoffSeconds s.settings (s.ladder.attempts+1):=
    backoffSeconds_mono le_rfl le_rfl (Nat.le_succ _)
   exact (hle.trans (h.bounded d hd)).trans (Nat.add_le_add hnow (Nat.mul_le_mul_right _ hmono))
lemma append_append (a b:List Entry)(m n:Instant):(s.append a m).append b n=s.append (a++b) n:=by
 simp[State.append]
lemma Backoff.restart (h:Backoff s){r:Refusal}(hclosed:¬(s.ladder.backoffActive r.gateAt).isSome)
 (hnow:s.now≤r.gateAt)(hgate:r.gateAt≤r.openedAt)(hopened:r.openedAt≤r.attempt.at_)
 (hlt:s.now<r.attempt.at_)(hlater:r.attempt.at_<r.restart.at_):
 Backoff { s.append [attemptRow s r,attemptNodeRestart r] r.restart.at_ with
  restarts:=⟨r.restart.at_,deadlineOf s r.openedAt⟩::s.restarts }:=by
 obtain ⟨hattempt,hdeadline⟩:Backoff (s.append [attemptRow s r] r.attempt.at_)∧_:=
  h.append_attempt (hnow.trans hgate) hopened hlt
 obtain ⟨hrestart,hkept⟩:=
  hattempt.append_quiet (e:=attemptNodeRestart r) (.action ..) (.inr rfl) hlater
 rw[append_append] at hrestart hkept
 refine ⟨hrestart.stamped,hrestart.bounded,fun x hx=>?_,pairwise_cons.mpr ⟨fun x hx=>?_,h.paced⟩⟩
 · rcases mem_cons.mp hx with rfl|hold
   · exact ⟨_,hkept.trans hdeadline,le_rfl⟩
   · exact hrestart.held x hold
 · obtain ⟨d,hd,hle⟩:=h.held x hx
   have hover:d≤r.gateAt:=by simpa[LadderState.backoffActive,hd] using hclosed
   exact hle.trans (hover.trans (hgate.trans (hopened.trans hlater.le)))
end Append

structure Windows (s:State):Prop where
 current:∀v,s.verdicts.head?=some v→s.failingSince=some v.observedAt
 spaced:s.verdicts.Pairwise fun later earlier=>earlier.observedAt<later.observedAt∧
  later.windowSec*1000000≤later.observedAt-earlier.observedAt

lemma Windows.verdict {s:State}(h:Windows s){r:Refusal}
 (hverdict:verdictReached s.failingSince r.observedAt r.windowSec)(v:Verdict)(hv:v∈s.verdicts):
 v.observedAt<r.observedAt∧r.windowSec*1000000≤r.observedAt-v.observedAt:=by
 cases hverdicts:s.verdicts with
 | nil=>
  rw[hverdicts] at hv
  cases hv
 | cons newest older=>
  have hsince:=h.current newest (by rw[hverdicts];rfl)
  have hspaced:=h.spaced
  rw[hverdicts] at hv hspaced
  simp only[verdictReached,hsince,Bool.and_eq_true,decide_eq_true_eq] at hverdict
  rcases mem_cons.mp hv with rfl|holder
  · exact hverdict
  · have hbefore:=(pairwise_cons.mp hspaced).1 v holder
    exact ⟨hbefore.1.trans hverdict.1,hverdict.2.trans (Nat.sub_le_sub_left hbefore.1.le _)⟩

def init (settings:BackoffSettings):State:=⟨none,[],settings,0,[],[]⟩

section Step
variable {s t:State}

lemma refused_step {r:Refusal}(h:Backoff s∧Windows s)(hguard:Orderly s (.refused r))
 (hnow:s.now≤r.gateAt)(hgate:r.gateAt≤r.openedAt)(hopened:r.openedAt≤r.attempt.at_):
 Backoff (recordHealthFailure s r)∧Windows (recordHealthFailure s r):=by
 obtain ⟨hbackoff,hwindows⟩:=h
 unfold recordHealthFailure
 by_cases hverdict:verdictReached s.failingSince r.observedAt r.windowSec
 · rw[if_pos hverdict]
   have hspaced:Windows { s with
     failingSince:=some r.observedAt
     verdicts:=⟨r.observedAt,r.windowSec⟩::s.verdicts }:=
    ⟨by rintro v ⟨⟩;rfl,pairwise_cons.mpr ⟨hwindows.verdict hverdict,hwindows.spaced⟩⟩
   dsimp only
   split
   · have hlater:=hbackoff.later hnow
     exact ⟨⟨hlater.stamped,hlater.bounded,hlater.held,hlater.paced⟩,hspaced.current,hspaced.spaced⟩
   · have hrestart:=hbackoff.restart ‹_› hnow hgate hopened hguard.1 hguard.2
     exact ⟨⟨hrestart.stamped,hrestart.bounded,hrestart.held,hrestart.paced⟩,hspaced.current,hspaced.spaced⟩
 · rw[if_neg hverdict]
   refine ⟨⟨hbackoff.stamped,hbackoff.bounded,hbackoff.held,hbackoff.paced⟩,fun v hv=>?_,
    hwindows.spaced⟩
   rw[hwindows.current v hv]
   rfl
lemma ack_step {failure action cleared:Stamp}(h:Backoff s)
 (hguard:Orderly s (.ack failure action cleared)):
 Backoff (s.append (recoveredRows s failure action cleared) cleared.at_):=by
 obtain ⟨hfirst,hsecond,hthird⟩:=hguard
 have hfailure:=(h.append_quiet (e:=appendFailure failure "node_health" "Node health checks recovered")
  (.failure ..) (.inl rfl) hfirst).1
 have haction:=(hfailure.append_quiet (e:=appendAction action "node_health" "node_monitor_recovered" none)
  (.action ..) (.inr rfl) hsecond).1
 rw[append_append] at haction
 unfold recoveredRows
 split
 · have hcleared:=(haction.append_quiet (e:=appendAction cleared "node_health" actionAutoStopCleared
    (some "Node health checks recovered")) (.action ..) (.inr rfl) hthird).1
   rw[append_append] at hcleared
   exact hcleared
 · exact haction.later hthird.le

lemma pacing_step {label:Label}(h:Backoff s∧Windows s)(hguard:Orderly s label)
 (hstep:step s label=some t):Backoff t∧Windows t:=by
 have hwindows:=h.2
 cases label with
 | refused r=>
  obtain ⟨⟨hnow,hgate,hopened,-⟩,⟨⟩⟩:=ite_none_right_eq_some.mp hstep
  exact refused_step h hguard hnow hgate hopened
 | ack failure action cleared=>
  obtain ⟨-,hstep⟩:=ite_none_right_eq_some.mp hstep
  split at hstep <;> cases hstep
  · exact ⟨⟨h.1.stamped,h.1.bounded,h.1.held,h.1.paced⟩,fun v hv=>(by cases hv),.nil⟩
  · have hack:=ack_step h.1 hguard
    exact ⟨⟨hack.stamped,hack.bounded,hack.held,hack.paced⟩,fun v hv=>(by cases hv),.nil⟩
 | restartSucceeded=>
  cases hstep
  rw[←(hguard:s.failingSince=none)]
  exact h
 | attempted stamp source reason openedAt=>
  obtain ⟨⟨hnow,hopened⟩,⟨⟩⟩:=ite_none_right_eq_some.mp hstep
  exact ⟨(h.1.append_attempt hnow hopened hguard).1,hwindows.current,hwindows.spaced⟩
 | failureObserved stamp source reason=>
  obtain ⟨-,⟨⟩⟩:=ite_none_right_eq_some.mp hstep
  exact ⟨(h.1.append_quiet (.failure ..) (.inl rfl) hguard).1,hwindows.current,hwindows.spaced⟩
 | acted stamp source action reason=>
  obtain ⟨-,⟨⟩⟩:=ite_none_right_eq_some.mp hstep
  exact ⟨(h.1.append_quiet (.action ..) (.inr rfl) hguard).1,hwindows.current,hwindows.spaced⟩
 | reset stamp source action reason=>
  obtain ⟨-,⟨⟩⟩:=ite_none_right_eq_some.mp hstep
  have hladder:=h.1.ladder_append (.reset stamp source action reason) hguard stamp.at_
  refine ⟨⟨h.1.stamped_append hguard,fun d hd=>?_,fun r hr=>(by cases hr),.nil⟩,
   hwindows.current,hwindows.spaced⟩
  cases hd.symm.trans (congrArg LadderState.backoffUntil hladder)
 | configured settings=>
  cases hstep
  refine ⟨⟨h.1.stamped,fun d hd=>(h.1.bounded d hd).trans ?_,h.1.held,h.1.paced⟩,
   hwindows.current,hwindows.spaced⟩
  exact Nat.add_le_add_left (Nat.mul_le_mul_right _ (backoffSeconds_mono hguard.1 hguard.2 le_rfl)) _
end Step

theorem escalation_paced (settings:BackoffSettings) {labels:List Label} {s:State}
 (hguard:Guarded Orderly step (init settings) labels) (hrun:run step (init settings) labels=some s):
 (s.verdicts.Pairwise fun later earlier=>earlier.observedAt<later.observedAt∧
  later.windowSec*1000000≤later.observedAt-earlier.observedAt)∧
 (∀r since,s.failingSince=some since→ r.observedAt ≤ since→
  (recordHealthFailure s r).verdicts=s.verdicts)∧
 s.restarts.Pairwise fun later earlier=>earlier.backoffUntil≤later.at_:=by
 have hinit:Backoff (init settings)∧Windows (init settings):=
  ⟨⟨fun x hx=>(by cases hx),fun d hd=>(by cases hd),fun r hr=>(by cases hr),.nil⟩,
   fun v hv=>(by cases hv),.nil⟩
 obtain ⟨hbackoff,hwindows⟩:=
  run_invariant_guarded (fun s=>Backoff s∧Windows s) (fun s a u=>pacing_step) hinit hguard hrun
 refine ⟨hwindows.spaced,fun r since hsince hle=>?_,hbackoff.paced⟩
 have hnone:verdictReached s.failingSince r.observedAt r.windowSec=false:=by
  simp[verdictReached,hsince,hle]
 simp[recordHealthFailure,hnone]

def refusedAt (second windowSec:ℕ):Label:=
 let at_:=second*1000000
 .refused ⟨at_,windowSec,at_,at_+1,⟨2*second,7,at_+2⟩,⟨2*second+1,7,at_+3⟩⟩

/-- After the first restart the base is lowered from an hour to ten seconds, and the start it asked for
fails. -/
def loweredBase:List Label:=
 [refusedAt 10 60,refusedAt 70 60,.configured ⟨10,300⟩,
  .attempted ⟨1,7,80000000⟩ "appium_reconciler" "start failed" 80000000,refusedAt 130 60]

/-- The agent reports a restart of its own; then older sections are folded. -/
def clearedWindow:List Label:=[refusedAt 10 60,refusedAt 170 60,.restartSucceeded,
 .refused ⟨20000000,60,180000000,180000000,⟨1,7,180000000⟩,⟨3,7,180000000⟩⟩,
 .refused ⟨90000000,60,190000000,190000000,⟨1,7,190000000⟩,⟨3,7,190000000⟩⟩]

theorem escalation_overtakes_backoff:
 (run step (init ⟨3600,86400⟩) loweredBase).map State.restarts =
  some [⟨130000003,170000001⟩,⟨70000003,3670000001⟩]∧
 (run step (init ⟨60,300⟩) clearedWindow).map State.verdicts =
  some [⟨90000000,60⟩,⟨170000000,60⟩]:=⟨rfl,rfl⟩

theorem escalation_paced_twice:∃s,
 run step (init ⟨10,300⟩) [refusedAt 10 60,refusedAt 70 60,refusedAt 130 60]=some s∧
 s.restarts.length=2∧s.restarts.Pairwise fun later earlier=>earlier.backoffUntil≤later.at_:=by
 obtain ⟨s,hrun⟩:∃s,
   run step (init ⟨10,300⟩) [refusedAt 10 60,refusedAt 70 60,refusedAt 130 60]=some s:=⟨_,rfl⟩
 refine ⟨s,hrun,?_,(escalation_paced ⟨10,300⟩ (by decide) hrun).2.2⟩
 cases hrun
 decide
end GridFleet.NodeHealthPacing
