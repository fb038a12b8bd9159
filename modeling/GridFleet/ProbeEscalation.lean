import GridFleet.Dict
import GridFleet.Interleaving
/-! One device: a failed probe stores its verdict in one transaction and is answered in a later one. -/
namespace GridFleet.ProbeEscalation
open Interleaving Dict Option

inductive CheckedBy where
 | scheduled | manual | recovery | verification | observation
 deriving DecidableEq

inductive Status where
 | passed | failed
 deriving DecidableEq

structure Viability where
 status:Status
 lastAttemptedAt:ℕ
 lastSucceededAt:Option ℕ
 error:Option String
 checkedBy:CheckedBy
 consecutiveFailures:ℕ

def writeSessionViability (previous:Option Viability)(status:Status)(attemptedAt:ℕ)
 (error:Option String)(checkedBy:CheckedBy):Viability where
 status:=status
 lastAttemptedAt:=attemptedAt
 lastSucceededAt:=if status=.passed then some attemptedAt else previous.bind (·.lastSucceededAt)
 error:=error
 checkedBy:=checkedBy
 consecutiveFailures:=if status=.passed then 0 else (previous.elim 0 (·.consecutiveFailures))+1

inductive ProbeStatus where
 | ack | refused | indeterminate
 deriving DecidableEq

abbrev ProbeId:=ℕ

inductive Phase where
 | claimed (checkedBy:CheckedBy)
 /-- The verdict is stored; the probe carries it to its last transaction. -/
 | finalized (checkedBy:CheckedBy)(ok:Bool)(error:Option String)(state:Viability)

inductive Outcome where
 | suppressed | deferred | stopped
 deriving DecidableEq

/-- A call of the health-failure handler, with what is stored for the device at that moment. -/
structure Escalation where
 reason:String
 failures:ℕ
 stored:Option Viability
 outcome:Outcome

structure State where
 viability:Option Viability
 /-- The probe that holds the live row, and whether its session is confirmed. -/
 row:Option (ProbeId×Bool)
 probes:Dict ProbeId Phase
 inMaintenance:Bool
 clientSession:Bool
 escalations:List Escalation

def init:State:=⟨none,none,.empty,false,false,[]⟩

inductive Label where
 /-- An admitted probe is prepared, with whether its node is observed running. -/
 | prepare (id:ProbeId)(checkedBy:CheckedBy)(observedRunning:Bool)(now:ℕ)
 | confirm (id:ProbeId)
 /-- The reaper or the liveness sweep closes the probe's row. -/
 | close
 | finalize (id:ProbeId)(result:ProbeStatus)(detail:Option String)(now:ℕ)
 | escalate (id:ProbeId)(threshold:ℕ)
 /-- The process that drives the probe is gone, or its transaction fails. -/
 | abandon (id:ProbeId)
 /-- A verification or an observation sweep records its own verdict. -/
 | record (checkedBy:CheckedBy)(status:Status)(error:Option String)(now:ℕ)
 | maintenance (entered:Bool)
 | client (live:Bool)

def State.recordResult (s:State)(status:Status)(error:Option String)(checkedBy:CheckedBy)
 (now:ℕ):State:=
 {s with viability:=some (writeSessionViability s.viability status now error checkedBy)}
def State.release (s:State)(id:ProbeId):State:=
 {s with row:=s.row.filter fun row=>row.1≠id}
def State.leave (s:State)(id:ProbeId):State:={s with probes:=s.probes.pop id}
def handleHealthFailure (s:State):Outcome:=
 if s.inMaintenance then .suppressed
 else if s.clientSession||s.row.isSome then .deferred
 else .stopped

def escalateProbeFailure (s:State)(checkedBy:CheckedBy)(ok:Bool)(error:Option String)
 (state:Viability)(threshold:ℕ):State:=
 if !ok&&checkedBy≠.recovery&&max 1 threshold ≤ state.consecutiveFailures then
  let reason:=if error.getD "" = "" then "Appium session viability probe failed" else error.getD ""
  { s with escalations:=s.escalations++
   [⟨reason,state.consecutiveFailures,s.viability,handleHealthFailure s⟩] }
 else s

def step (s:State):Label→Option State
 | .prepare id checkedBy observedRunning now=>
  if (s.probes.get id).isSome then none
  else if observedRunning then
   -- Only the live row of another session stands against the claim.
   if s.clientSession||s.row.isSome then none
   else some {s with row:=some (id,false),probes:=s.probes.set id (.claimed checkedBy)}
  else if checkedBy=.recovery then none
  else some (s.recordResult .failed (some "Appium node is not running") checkedBy now)
 | .confirm id=>
  if s.row=some (id,false) then some {s with row:=some (id,true)} else none
 | .close=>some {s with row:=none}
 | .finalize id result detail now=>
  match s.probes.get id with
  | some (.claimed checkedBy)=>
   let ok:=result=.ack
   let state:=writeSessionViability s.viability (if ok then .passed else .failed) now detail checkedBy
   some { s.release id with
    viability:=some state
    probes:=s.probes.set id (.finalized checkedBy ok detail state) }
  | _=>none
 | .escalate id threshold=>
  match s.probes.get id with
  | some (.finalized checkedBy ok error state)=>
   some ((escalateProbeFailure s checkedBy ok error state threshold).leave id)
  | _=>none
 | .abandon id=>some (s.leave id)
 | .record checkedBy status error now=>some (s.recordResult status error checkedBy now)
 | .maintenance entered=>some {s with inMaintenance:=entered}
 | .client live=>some {s with clientSession:=live}

/-- A probe that failed and whose answer is still to come. -/
def Phase.awaits:Phase→Option Viability
 | .finalized checkedBy false _ state=>if checkedBy=.recovery then none else some state
 | _=>none

def writes:Label→Bool
 | .prepare _ _ observedRunning _=>!observedRunning
 | .finalize .. | .record ..=>true
 | _=>false
def verdictStands (s:State)(label:Label):Prop:=
 writes label→∀id∈s.probes.keys,((s.probes.get id).bind Phase.awaits)=none

instance (s:State):DecidablePred (verdictStands s):=fun label=>
 inferInstanceAs (Decidable (writes label→∀id∈s.probes.keys,_))

structure Inv (s:State):Prop where
 current:∀id phase,s.probes.get id=some phase→∀state,phase.awaits=some state→
  s.viability=some state∧state.status=.failed
 answered:∀e∈s.escalations,∃v,e.stored=some v∧v.status=.failed∧v.consecutiveFailures=e.failures

variable {s s':State}{label:Label}

lemma Inv.write (h:Inv s)(hnone:∀id∈s.probes.keys,((s.probes.get id).bind Phase.awaits)=none)
 (v:Viability):Inv {s with viability:=some v} where
 answered:=h.answered
 current id phase hphase state hawaits:=by
  have:=hnone id (mem_keys.mpr ⟨phase,hphase⟩)
  simp[hphase,hawaits] at this
lemma Inv.leave (h:Inv s)(id:ProbeId):Inv (s.leave id) where
 answered:=h.answered
 current j phase hphase:=h.current j phase (get_pop_eq_some hphase).2
lemma Inv.escalate (h:Inv s){id:ProbeId}{checkedBy:CheckedBy}{ok:Bool}{error:Option String}
 {state:Viability}(hphase:s.probes.get id=some (.finalized checkedBy ok error state))(threshold:ℕ):
 Inv (escalateProbeFailure s checkedBy ok error state threshold):=by
 unfold escalateProbeFailure
 split
 · rename_i hfail
   simp only[Bool.and_eq_true,Bool.not_eq_true',decide_eq_true_eq] at hfail
   obtain ⟨⟨rfl,hkind⟩,-⟩:=hfail
   obtain ⟨hstored,hstatus⟩:=h.current id _ hphase state (by simp[Phase.awaits,hkind])
   refine ⟨h.current,List.forall_mem_append.mpr ⟨h.answered,List.forall_mem_singleton.mpr ?_⟩⟩
   exact ⟨state,hstored,hstatus,rfl⟩
 · exact h

lemma Inv.step (h:Inv s)(hguard:verdictStands s label)(hstep:step s label=some s'):Inv s':=by
 cases label with
 | prepare id checkedBy observedRunning now=>
  obtain ⟨-,hstep⟩:=ite_none_left_eq_some.mp hstep
  cases observedRunning with
  | true=>
   obtain ⟨-,⟨⟩⟩:=ite_none_left_eq_some.mp hstep
   refine ⟨forall_get_set ?_ h.current,h.answered⟩
   simp[Phase.awaits]
  | false=>
   obtain ⟨-,⟨⟩⟩:=ite_none_left_eq_some.mp hstep
   exact h.write (hguard rfl) _
 | confirm id=>
  obtain ⟨-,⟨⟩⟩:=ite_none_right_eq_some.mp hstep
  exact ⟨h.current,h.answered⟩
 | finalize id result detail now=>
  dsimp only[ProbeEscalation.step] at hstep
  split at hstep
  · cases hstep
    have hkept:=h.write (hguard rfl)
     (writeSessionViability s.viability (if result=.ack then .passed else .failed) now detail ‹_›)
    refine ⟨forall_get_set ?_ hkept.current,h.answered⟩
    intro state hawaits
    by_cases hok:result=.ack
    · simp[Phase.awaits,hok] at hawaits
    · simp only[Phase.awaits,hok,decide_false,ite_none_left_eq_some] at hawaits
      obtain ⟨-,⟨⟩⟩:=hawaits
      exact ⟨by simp[hok],by simp[writeSessionViability]⟩
  · cases hstep
 | escalate id threshold=>
  dsimp only[ProbeEscalation.step] at hstep
  split at hstep
  · rename_i hphase
    cases hstep
    exact (h.escalate hphase threshold).leave id
  · cases hstep
 | abandon id=>
  cases hstep
  exact h.leave id
 | record=>
  cases hstep
  exact h.write (hguard rfl) _
 | close | maintenance | client=>
  cases hstep
  exact ⟨h.current,h.answered⟩

/-- While no verdict is stored between a failed probe's own and its escalation, the escalation answers
what is stored. -/
theorem escalation_answers_stored_failure {labels:List Label} (hrun:run step init labels=some s)
 (hguard:Guarded verdictStands step init labels):∀e∈s.escalations,
 ∃v,e.stored=some v∧v.status=.failed∧v.consecutiveFailures=e.failures:=by
 have hinit:Inv init:=by constructor <;> simp[init]
 exact (run_invariant_guarded Inv (fun _ _ _ h hguard hstep=>h.step hguard hstep) hinit hguard hrun).answered

def refusedProbe:List Label:=
 [.prepare 1 .manual true 0,.confirm 1,.finalize 1 .refused (some "no answer") 5]

theorem escalation_answers_stored_failure_refused:∃s,run step init (refusedProbe++[.escalate 1 1])=some s∧
 s.escalations.length=1∧∀e∈s.escalations,
 ∃v,e.stored=some v∧v.status=.failed∧v.consecutiveFailures=e.failures:=
 have hrun:run step init (refusedProbe++[.escalate 1 1])=some _:=rfl
 ⟨_,hrun,rfl,escalation_answers_stored_failure hrun (by decide)⟩

/-- A recovery probe passes before the failed probe is answered: the device is stopped. -/
theorem passed_probe_stopped:(run step init (refusedProbe++[.prepare 2 .recovery true 6,.confirm 2,
  .finalize 2 .ack none 9,.escalate 1 1])).map (fun s=>s.escalations.map fun e=>
   (e.failures,e.stored.map fun v=>(v.status,v.consecutiveFailures),e.outcome)) =
 some [(1,some (.passed,0),.stopped)]:=by
 decide
end GridFleet.ProbeEscalation
