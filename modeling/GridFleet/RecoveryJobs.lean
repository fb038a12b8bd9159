import GridFleet.Interleaving
import GridFleet.StateProjection
/-! A device that reconnects is recovered by a durable job, whose id is the device's recovery generation:
while the device carries it no second recovery is prepared, and the job's last transaction checks that
it is still the one the device waits for. -/
namespace GridFleet.RecoveryJobs
open Decision StateProjection Option

abbrev JobId:=ℕ
abbrev ExecId:=ℕ

inductive ExclusionKind where
 | exclusion | cooldown
 deriving DecidableEq

structure Reservation where
 runState:RunState
 excluded:Bool
 exclusionKind:Option ExclusionKind
 excludedUntil:Option Instant

inductive StopSource where
 | node | recovery
 deriving DecidableEq

structure DeviceRow where
 recoveryGeneration:Option JobId
 inMaintenance:Bool
 stopIntents:Dict StopSource (Option Instant)
 reservation:Option Reservation

structure Facts where
 hasRunningSession:Bool
 hasVerificationLease:Bool
 stopInFlight:Bool
 ready:Bool
 isReadyForUse:Bool
 hasLiveSession:Bool
 deferredStopPending:Bool
 backoffActive:Bool
 nodeObservedRunning:Bool
 hasNode:Bool
 freePort:Bool

section
variable (device:DeviceRow)(facts:Facts)(now:Instant)

def operationalState:OperationalState:=
 evaluateOperationalState
  ⟨facts.hasRunningSession,facts.hasVerificationLease,device.inMaintenance,facts.stopInFlight,
   facts.ready⟩
def stopIntentActive (source:StopSource):Bool:=
 (device.stopIntents.get source).any fun expiry=>expiry.all (now < ·)
def cooldownActive:Bool:=
 device.reservation.any fun entry=>
  decide (entry.exclusionKind=some .cooldown)&&entry.excludedUntil.any (now < ·)

inductive RecoveryBlockKind where
 | operator | maintenance | cooldown | notReady | deferredStop | session | backoff

/-- The recovery ladder: the first rung that denies, or none. -/
def recoveryBlock:Option RecoveryBlockKind:=
 if stopIntentActive device now .recovery then some .operator
 else if device.inMaintenance then some .maintenance
 else if cooldownActive device now then some .cooldown
 else if !facts.isReadyForUse then some .notReady
 else if facts.deferredStopPending&&facts.hasLiveSession then some .deferredStop
 else if facts.hasLiveSession then some .session
 else if facts.backoffActive then some .backoff
 else none

/-- The device row after preparing, and whether the generation is the device's. A device without a
node and without a free port sets the generation and takes it back. -/
def prepareAutoRecovery (generation:JobId):DeviceRow×Bool:=
 match device.recoveryGeneration with
 | some current=>(device,decide (current=generation))
 | none=>
  if (recoveryBlock device facts now).isSome then (device,false)
  else if operationalState device facts=.available then (device,false)
  else if facts.hasNode||facts.freePort then
   ({device with recoveryGeneration:=some generation},true)
  else (device,false)

def clearRecoveryGeneration (expected:JobId):DeviceRow:=
 if device.recoveryGeneration=some expected then {device with recoveryGeneration:=none}
 else device
def terminalStates:List RunState:=[.completed,.failed,.expired,.cancelled]
def reservationEntryIsExcluded (entry:Reservation):Bool:=
 entry.excluded&&entry.excludedUntil.all (now < ·)
def restoredEntry (entry:Reservation):Reservation:=
 {entry with excluded:=false,exclusionKind:=none,excludedUntil:=none}

def restoreLockedReservation (entry:Reservation):Option Reservation:=
 if entry.excludedUntil.any (now < ·) then none
 else if !reservationEntryIsExcluded now entry then none
 else some (restoredEntry entry)

def restoreRunAfterSelfHeal (state:OperationalState)(operatorStopped:Bool):Option DeviceRow:=
 if operatorStopped then none
 else if state ≠ .available then none
 else
  match device.reservation with
  | none=>none
  | some entry=>
   if entry.runState∈terminalStates then none
   else if !entry.excluded then none
   else if entry.exclusionKind=some .cooldown∧entry.excludedUntil.any (now < ·) then none
   else (restoreLockedReservation now entry).map fun restored=>
    {device with reservation:=some restored}

/-- A failed probe excludes the device from a live run that still counts on it. -/
def excludeForFailure:DeviceRow:=
 { device with reservation:=device.reservation.map fun entry=>
    if entry.runState ∉ terminalStates∧!entry.excluded then
     {entry with excluded:=true,exclusionKind:=some .exclusion,excludedUntil:=none}
    else entry }

inductive ProbeResult where
 | passed | failed | skipped
 deriving DecidableEq

/-- The restore of a passed probe takes the device's availability for granted. -/
def finalizeRestore:Option DeviceRow:=restoreRunAfterSelfHeal device now .available false

def finalizeAutoRecovery (generation:JobId)(result:ProbeResult):DeviceRow:=
 if device.recoveryGeneration≠some generation then device
 else
  match result with
  | .skipped=>clearRecoveryGeneration device generation
  | .failed=>clearRecoveryGeneration (excludeForFailure device) generation
  | .passed=>clearRecoveryGeneration ((finalizeRestore device now).getD device) generation

def alreadyHealthy:Bool:=
 decide (operationalState device facts=.available)&&facts.nodeObservedRunning&&
  !device.inMaintenance&&device.reservation.all fun entry=>!entry.excluded
def selfHealRestore:Option DeviceRow:=
 restoreRunAfterSelfHeal device now (operationalState device facts)
  (stopIntentActive device now .node)
end

inductive JobStatus where
 | pending | running | completed | failed
 deriving DecidableEq

structure Job where
 device:DeviceId
 status:JobStatus

/-- Claimed, its device lock statement failed, prepared and probing, device finalised, an exception under
way, generation cleared. -/
inductive Phase where
 | claimed | lockFailed | prepared | finalized | crashed | cleared
 deriving DecidableEq

structure Exec where
 job:JobId
 device:DeviceId
 phase:Phase

structure Lift where
 device:DeviceId
 before:DeviceRow
 at_:Instant

structure State where
 now:Instant
 devices:Dict DeviceId DeviceRow
 jobs:Dict JobId Job
 execs:Dict ExecId Exec
 lifts:List Lift

inductive Label where
 | tick (elapsed:ℕ)
 | operatorStop (d:DeviceId)
 | requestStart (d:DeviceId)
 | enterMaintenance (d:DeviceId)
 | releaseAndMaintain (d:DeviceId)
 | exitMaintenance (d:DeviceId)
 | scheduleDeviceRecovery (d:DeviceId)(job:JobId)
 | writeReservation (d:DeviceId)(reservation:Option Reservation)
 | deleteDevice (d:DeviceId)
 | unhealthyFold (d:DeviceId)
 | healthyFold (d:DeviceId)(facts:Facts)(generation:JobId)
 | claimJob (job:JobId)(exec:ExecId)
 | ensurePrepared (exec:ExecId)(facts:Facts)
 | deviceLockFails (exec:ExecId)
 | failUnlocked (exec:ExecId)
 | finalizeDevice (exec:ExecId)(result:ProbeResult)
 | finalizeJob (exec:ExecId)
 | crash (exec:ExecId)
 | clearGeneration (exec:ExecId)
 | failJob (exec:ExecId)
 | die (exec:ExecId)
 | resetStaleJob (job:JobId)

def State.setDevice (s:State)(d:DeviceId)(row:DeviceRow):State:=
 {s with devices:=s.devices.set d row}
def State.setPhase (s:State)(e:ExecId)(exec:Exec)(phase:Phase):State:=
 { s with execs:=s.execs.set e {exec with phase:=phase} }
def State.endJob (s:State)(e:ExecId)(exec:Exec)(status:JobStatus):State:=
 {s with jobs:=s.jobs.set exec.job ⟨exec.device,status⟩,execs:=s.execs.pop e}
def State.lift (s:State)(d:DeviceId)(before row:DeviceRow):State:=
 {s with devices:=s.devices.set d row,lifts:=s.lifts++[⟨d,before,s.now⟩]}

/-- The operator stop's intents carry no expiry. -/
def operatorStopIntents (intents:Dict StopSource (Option Instant)):
 Dict StopSource (Option Instant):=
 (intents.set .node none).set .recovery none

def revokeOperatorStop (intents:Dict StopSource (Option Instant)):Dict StopSource (Option Instant):=
 (intents.pop .node).pop .recovery

/-- A healthy verdict: nothing in maintenance; a device that is not offline drops its generation and
self-heals; an offline one that is set up gets a recovery prepared with its job. -/
def healthyFold (s:State)(d:DeviceId)(row:DeviceRow)(facts:Facts)(generation:JobId):State:=
 if row.inMaintenance then s
 else if operationalState row facts ≠ .offline then
  let cleared:={row with recoveryGeneration:=none}
  match selfHealRestore cleared facts s.now with
  | some restored=>s.lift d row restored
  | none=>s.setDevice d cleared
 else if !facts.isReadyForUse then s
 else
  let prepared:=prepareAutoRecovery row facts s.now generation
  if prepared.2 then
   { s with
     devices:=s.devices.set d prepared.1
     jobs:=s.jobs.set generation ⟨d,.pending⟩ }
  else s.setDevice d prepared.1

def ensurePrepared (s:State)(e:ExecId)(exec:Exec)(facts:Facts):State:=
 match s.devices.get exec.device with
 | none=>s.endJob e exec .completed
 | some row=>
  match row.recoveryGeneration with
  | some current=>
   if current≠exec.job then s.endJob e exec .completed
   else if alreadyHealthy row facts then
    (s.setDevice exec.device (clearRecoveryGeneration row exec.job)).endJob e exec .completed
   else s.setPhase e exec .prepared
  | none=>
   let prepared:=prepareAutoRecovery row facts s.now exec.job
   if prepared.2 then (s.setDevice exec.device prepared.1).setPhase e exec .prepared
   else (s.setDevice exec.device prepared.1).endJob e exec .completed

def finalizeDevice (s:State)(e:ExecId)(exec:Exec)(result:ProbeResult):State:=
 match s.devices.get exec.device with
 | none=>s.setPhase e exec .crashed
 | some row=>
  let finalized:=finalizeAutoRecovery row s.now exec.job result
  let lifted:=decide (row.recoveryGeneration=some exec.job)&&decide (result=.passed)&&
   (finalizeRestore row s.now).isSome
  (if lifted then s.lift exec.device row finalized
   else s.setDevice exec.device finalized).setPhase e exec .finalized

def clearGeneration (s:State)(e:ExecId)(exec:Exec):State:=
 match s.devices.get exec.device with
 | none=>s.setPhase e exec .cleared
 | some row=>
  (s.setDevice exec.device (clearRecoveryGeneration row exec.job)).setPhase e exec .cleared
def onDevice (s:State)(d:DeviceId)(f:DeviceRow→Option State):Option State:=
 (s.devices.get d).bind f
def inPhase (s:State)(e:ExecId)(phase:Phase)(f:Exec→State):Option State:=
 (s.execs.get e).bind fun exec=>if exec.phase=phase then some (f exec) else none

def step (s:State):Label→Option State
 | .tick elapsed=>some {s with now:=s.now+elapsed}
 | .operatorStop d=>onDevice s d fun row=>
   some (s.setDevice d {row with stopIntents:=operatorStopIntents row.stopIntents})
 | .requestStart d=>onDevice s d fun row=>
   some (s.setDevice d {row with stopIntents:=revokeOperatorStop row.stopIntents})
 | .enterMaintenance d=>onDevice s d fun row=>
   if row.reservation.isSome then none else some (s.setDevice d {row with inMaintenance:=true})
 | .releaseAndMaintain d=>onDevice s d fun row=>
   some (s.setDevice d {row with reservation:=none,inMaintenance:=true})
 | .exitMaintenance d=>onDevice s d fun row=>
   if row.inMaintenance then some (s.setDevice d {row with inMaintenance:=false}) else none
 | .scheduleDeviceRecovery d job=>
   if (s.jobs.get job).isSome then none else some {s with jobs:=s.jobs.set job ⟨d,.pending⟩}
 | .writeReservation d reservation=>onDevice s d fun row=>
   if row.inMaintenance∧reservation.isSome then none
   else some (s.setDevice d {row with reservation:=reservation})
 | .deleteDevice d=>some {s with devices:=s.devices.pop d}
 | .unhealthyFold d=>onDevice s d fun row=>
   some (s.setDevice d {row with recoveryGeneration:=none})
 | .healthyFold d facts generation=>onDevice s d fun row=>
   if (s.jobs.get generation).isSome then none else some (healthyFold s d row facts generation)
 | .claimJob job e=>
   match s.jobs.get job,s.execs.get e with
   | some ⟨device,.pending⟩,none=>
    some { s with
     jobs:=s.jobs.set job ⟨device,.running⟩
     execs:=s.execs.set e ⟨job,device,.claimed⟩ }
   | _,_=>none
 | .ensurePrepared e facts=>inPhase s e .claimed fun exec=>ensurePrepared s e exec facts
 | .deviceLockFails e=>inPhase s e .claimed fun exec=>s.setPhase e exec .lockFailed
 | .failUnlocked e=>inPhase s e .lockFailed fun exec=>s.endJob e exec .failed
 | .finalizeDevice e result=>inPhase s e .prepared fun exec=>finalizeDevice s e exec result
 | .finalizeJob e=>inPhase s e .finalized fun exec=>s.endJob e exec .completed
 | .crash e=>(s.execs.get e).bind fun exec=>
   if exec.phase=.crashed∨exec.phase=.cleared then none
   else some (s.setPhase e exec .crashed)
 | .clearGeneration e=>inPhase s e .crashed fun exec=>clearGeneration s e exec
 | .failJob e=>inPhase s e .cleared fun exec=>s.endJob e exec .failed
 | .die e=>some {s with execs:=s.execs.pop e}
 | .resetStaleJob job=>
   match s.jobs.get job with
   | some ⟨device,.running⟩=>some {s with jobs:=s.jobs.set job ⟨device,.pending⟩}
   | _=>none

variable {s t:State}

lemma onDevice_eq_some {d:DeviceId}{f:DeviceRow→Option State}:
 onDevice s d f=some t↔∃row,s.devices.get d=some row∧f row=some t:=
 bind_eq_some_iff
lemma inPhase_eq_some {e:ExecId}{phase:Phase}{f:Exec→State}:
 inPhase s e phase f=some t↔∃exec,s.execs.get e=some exec∧exec.phase=phase∧f exec=t:=by
 unfold inPhase
 rw[bind_eq_some_iff]
 refine exists_congr fun exec=>and_congr_right fun _=>?_
 split
 · rename_i hphase
   simp[hphase]
 · rename_i hphase
   simp[hphase]

inductive Transition (s:State):Label→State→Prop where
 | tick (elapsed:Instant):Transition s (.tick elapsed) {s with now:=s.now+elapsed}
 | operatorStop {d:DeviceId}{row:DeviceRow}(hrow:s.devices.get d=some row):
   Transition s (.operatorStop d)
    (s.setDevice d {row with stopIntents:=operatorStopIntents row.stopIntents})
 | requestStart {d:DeviceId}{row:DeviceRow}(hrow:s.devices.get d=some row):
   Transition s (.requestStart d)
    (s.setDevice d {row with stopIntents:=revokeOperatorStop row.stopIntents})
 | enterMaintenance {d:DeviceId}{row:DeviceRow}(hrow:s.devices.get d=some row)
   (hfree:row.reservation=none):
   Transition s (.enterMaintenance d) (s.setDevice d {row with inMaintenance:=true})
 | releaseAndMaintain {d:DeviceId}{row:DeviceRow}(hrow:s.devices.get d=some row):
   Transition s (.releaseAndMaintain d)
    (s.setDevice d {row with reservation:=none,inMaintenance:=true})
 | exitMaintenance {d:DeviceId}{row:DeviceRow}(hrow:s.devices.get d=some row):
   Transition s (.exitMaintenance d) (s.setDevice d {row with inMaintenance:=false})
 | scheduleDeviceRecovery {d:DeviceId}{job:JobId}(hfresh:s.jobs.get job=none):
   Transition s (.scheduleDeviceRecovery d job) {s with jobs:=s.jobs.set job ⟨d,.pending⟩}
 | writeReservation {d:DeviceId}{row:DeviceRow}{reservation:Option Reservation}
   (hrow:s.devices.get d=some row)(hfree:row.inMaintenance→ reservation=none):
   Transition s (.writeReservation d reservation) (s.setDevice d {row with reservation:=reservation})
 | deleteDevice (d:DeviceId):Transition s (.deleteDevice d) {s with devices:=s.devices.pop d}
 | unhealthyFold {d:DeviceId}{row:DeviceRow}(hrow:s.devices.get d=some row):
   Transition s (.unhealthyFold d) (s.setDevice d {row with recoveryGeneration:=none})
 | healthyFold {d:DeviceId}{row:DeviceRow}{facts:Facts}{generation:JobId}
   (hrow:s.devices.get d=some row)(hfresh:s.jobs.get generation=none):
   Transition s (.healthyFold d facts generation) (healthyFold s d row facts generation)
 | claimJob {job:JobId}{e:ExecId}{device:DeviceId}(hjob:s.jobs.get job=some ⟨device,.pending⟩)
   (hfresh:s.execs.get e=none):
   Transition s (.claimJob job e) { s with
    jobs:=s.jobs.set job ⟨device,.running⟩
    execs:=s.execs.set e ⟨job,device,.claimed⟩ }
 | ensurePrepared {e:ExecId}{exec:Exec}{facts:Facts}(hexec:s.execs.get e=some exec)
   (hphase:exec.phase=.claimed):
   Transition s (.ensurePrepared e facts) (ensurePrepared s e exec facts)
 | deviceLockFails {e:ExecId}{exec:Exec}(hexec:s.execs.get e=some exec):
   Transition s (.deviceLockFails e) (s.setPhase e exec .lockFailed)
 | failUnlocked {e:ExecId}{exec:Exec}(hexec:s.execs.get e=some exec)
   (hphase:exec.phase=.lockFailed):Transition s (.failUnlocked e) (s.endJob e exec .failed)
 | finalizeDevice {e:ExecId}{exec:Exec}{result:ProbeResult}(hexec:s.execs.get e=some exec):
   Transition s (.finalizeDevice e result) (finalizeDevice s e exec result)
 | finalizeJob {e:ExecId}{exec:Exec}(hexec:s.execs.get e=some exec)
   (hphase:exec.phase=.finalized):Transition s (.finalizeJob e) (s.endJob e exec .completed)
 | crash {e:ExecId}{exec:Exec}(hexec:s.execs.get e=some exec):
   Transition s (.crash e) (s.setPhase e exec .crashed)
 | clearGeneration {e:ExecId}{exec:Exec}(hexec:s.execs.get e=some exec):
   Transition s (.clearGeneration e) (clearGeneration s e exec)
 | failJob {e:ExecId}{exec:Exec}(hexec:s.execs.get e=some exec)
   (hphase:exec.phase=.cleared):Transition s (.failJob e) (s.endJob e exec .failed)
 | die (e:ExecId):Transition s (.die e) {s with execs:=s.execs.pop e}
 | resetStaleJob {job:JobId}{device:DeviceId}(hjob:s.jobs.get job=some ⟨device,.running⟩):
   Transition s (.resetStaleJob job) {s with jobs:=s.jobs.set job ⟨device,.pending⟩}

lemma transition_of_step {label:Label}(hstep:step s label=some t):Transition s label t:=by
 cases label with
 | tick elapsed=>
  cases hstep
  exact .tick elapsed
 | operatorStop=>
  obtain ⟨row,hrow,hset⟩:=onDevice_eq_some.mp hstep
  cases hset
  exact .operatorStop hrow
 | requestStart=>
  obtain ⟨row,hrow,hset⟩:=onDevice_eq_some.mp hstep
  cases hset
  exact .requestStart hrow
 | enterMaintenance d=>
  obtain ⟨row,hrow,hset⟩:=onDevice_eq_some.mp hstep
  split at hset
  · cases hset
  rename_i hfree
  cases hset
  exact .enterMaintenance hrow (by simpa using hfree)
 | releaseAndMaintain=>
  obtain ⟨row,hrow,hset⟩:=onDevice_eq_some.mp hstep
  cases hset
  exact .releaseAndMaintain hrow
 | exitMaintenance=>
  obtain ⟨row,hrow,hset⟩:=onDevice_eq_some.mp hstep
  split at hset
  · cases hset
    exact .exitMaintenance hrow
  · cases hset
 | scheduleDeviceRecovery d job=>
  simp only[step] at hstep
  split at hstep
  · cases hstep
  rename_i hfresh
  cases hstep
  exact .scheduleDeviceRecovery (by simpa using hfresh)
 | writeReservation d reservation=>
  obtain ⟨row,hrow,hset⟩:=onDevice_eq_some.mp hstep
  split at hset
  · cases hset
  rename_i hfree
  cases hset
  refine .writeReservation hrow fun hmaintenance=>?_
  simpa[hmaintenance] using hfree
 | deleteDevice d=>
  cases hstep
  exact .deleteDevice d
 | unhealthyFold=>
  obtain ⟨row,hrow,hset⟩:=onDevice_eq_some.mp hstep
  cases hset
  exact .unhealthyFold hrow
 | healthyFold d facts generation=>
  obtain ⟨row,hrow,hset⟩:=onDevice_eq_some.mp hstep
  split at hset
  · cases hset
  rename_i hfresh
  cases hset
  exact .healthyFold hrow (by simpa using hfresh)
 | claimJob job e=>
  simp only[step] at hstep
  split at hstep
  · rename_i hjob hfresh
    cases hstep
    exact .claimJob hjob hfresh
  · cases hstep
 | ensurePrepared=>
  obtain ⟨exec,hexec,hphase,rfl⟩:=inPhase_eq_some.mp hstep
  exact .ensurePrepared hexec hphase
 | deviceLockFails=>
  obtain ⟨exec,hexec,-,rfl⟩:=inPhase_eq_some.mp hstep
  exact .deviceLockFails hexec
 | failUnlocked=>
  obtain ⟨exec,hexec,hphase,rfl⟩:=inPhase_eq_some.mp hstep
  exact .failUnlocked hexec hphase
 | finalizeDevice=>
  obtain ⟨exec,hexec,-,rfl⟩:=inPhase_eq_some.mp hstep
  exact .finalizeDevice hexec
 | finalizeJob=>
  obtain ⟨exec,hexec,hphase,rfl⟩:=inPhase_eq_some.mp hstep
  exact .finalizeJob hexec hphase
 | crash=>
  obtain ⟨exec,hexec,hset⟩:=bind_eq_some_iff.mp hstep
  split at hset
  · cases hset
  cases hset
  exact .crash hexec
 | clearGeneration=>
  obtain ⟨exec,hexec,-,rfl⟩:=inPhase_eq_some.mp hstep
  exact .clearGeneration hexec
 | failJob=>
  obtain ⟨exec,hexec,hphase,rfl⟩:=inPhase_eq_some.mp hstep
  exact .failJob hexec hphase
 | die e=>
  cases hstep
  exact .die e
 | resetStaleJob job=>
  simp only[step] at hstep
  split at hstep
  · rename_i hjob
    cases hstep
    exact .resetStaleJob hjob
  · cases hstep

lemma prepareAutoRecovery_cases (row:DeviceRow)(facts:Facts)(now:Instant)(generation:JobId):
 ((prepareAutoRecovery row facts now generation).1=row∧
  ((prepareAutoRecovery row facts now generation).2→ row.recoveryGeneration=some generation))∨
 (prepareAutoRecovery row facts now generation =
   ({row with recoveryGeneration:=some generation},true)∧
  row.recoveryGeneration=none∧recoveryBlock row facts now=none):=by
 unfold prepareAutoRecovery
 cases hcurrent:row.recoveryGeneration with
 | some=>
  left
  simp
 | none=>
  dsimp only
  split
  · left
    simp
  · rename_i hallowed
    split
    · left
      simp
    · split
      · right
        simpa using hallowed
      · left
        simp
lemma clearRecoveryGeneration_ne (row:DeviceRow)(generation:JobId):
 (clearRecoveryGeneration row generation).recoveryGeneration≠some generation:=by
 unfold clearRecoveryGeneration
 split
 · simp
 · assumption
lemma clearRecoveryGeneration_keep (row:DeviceRow)(generation:JobId):
 (clearRecoveryGeneration row generation).recoveryGeneration=none∨
  (clearRecoveryGeneration row generation).recoveryGeneration=row.recoveryGeneration:=by
 unfold clearRecoveryGeneration
 split
 · exact .inl rfl
 · exact .inr rfl

lemma restoreRunAfterSelfHeal_eq_some {row restored:DeviceRow}{now:Instant}
 {state:OperationalState}{operatorStopped:Bool}
 (h:restoreRunAfterSelfHeal row now state operatorStopped=some restored):
 operatorStopped=false∧state=.available∧∃entry,row.reservation=some entry∧entry.excluded∧
   entry.excludedUntil.any (now < ·)=false∧
   restored={row with reservation:=some (restoredEntry entry)}:=by
 unfold restoreRunAfterSelfHeal at h
 split at h
 · cases h
 rename_i hoperator
 split at h
 · cases h
 rename_i hstate
 split at h
 · cases h
 rename_i entry hentry
 split at h
 · cases h
 split at h
 · cases h
 rename_i hexcluded
 split at h
 · cases h
 unfold restoreLockedReservation at h
 split at h
 · cases h
 rename_i huntil
 split at h
 · cases h
 cases h
 refine ⟨by simpa using hoperator,by simpa using hstate,entry,hentry,?_,?_,rfl⟩
 · simpa using hexcluded
 · simpa using huntil

lemma finalizeAutoRecovery_ne (row:DeviceRow)(now:Instant)(generation:JobId)(result:ProbeResult):
 (finalizeAutoRecovery row now generation result).recoveryGeneration≠some generation:=by
 unfold finalizeAutoRecovery
 split
 · assumption
 · cases result <;> exact clearRecoveryGeneration_ne _ _
lemma finalizeAutoRecovery_keep (row:DeviceRow)(now:Instant)(generation:JobId)(result:ProbeResult):
 (finalizeAutoRecovery row now generation result).recoveryGeneration=none∨
  (finalizeAutoRecovery row now generation result).recoveryGeneration = row.recoveryGeneration:=by
 unfold finalizeAutoRecovery
 split
 · exact .inr rfl
 · rename_i hcarried
   left
   have hown:row.recoveryGeneration=some generation:=by simpa using hcarried
   have hclear:∀cleared:DeviceRow,cleared.recoveryGeneration=some generation→
     (clearRecoveryGeneration cleared generation).recoveryGeneration=none:=by
    intro cleared hcleared
    simp[clearRecoveryGeneration,hcleared]
   cases result with
   | skipped=>exact hclear row hown
   | failed=>exact hclear _ hown
   | passed=>
    apply hclear
    cases hrestore:finalizeRestore row now with
    | none=>exact hown
    | some=>
     obtain ⟨-,-,entry,-,-,-,rfl⟩:=restoreRunAfterSelfHeal_eq_some hrestore
     exact hown

def initial (devices:Dict DeviceId DeviceRow):State:=⟨0,devices,.empty,.empty,[]⟩
end GridFleet.RecoveryJobs
