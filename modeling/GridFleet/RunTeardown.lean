import GridFleet.RecoveryJobs
import GridFleet.SessionRows
/-! Cancel, expire and force-release end a run in three phases: `prepare` snapshots its live sessions into
a durable job, the effect deletes their Appium sessions outside any transaction, and `finalize`
terminalises the run, closes its sessions and releases its reservations. The command that prepared the
job and the durable worker may both execute it. The model follows one run; a transaction is one step,
taken under the row locks that the source holds until its commit. -/
namespace GridFleet.RunTeardown
open Dict Option
open SessionLifecycle (isLive isOpen ended terminalStatus TxId)
open SessionRows
open RecoveryJobs (JobId ExecId JobStatus terminalStates)

inductive RunTeardownKind where
 | cancel | expire | forceRelease
 deriving DecidableEq

structure Run extends TestRun where
 error:Option String
 ttlMinutes:ℕ
 lastHeartbeat:Option Instant
 heartbeatTimeoutSec:ℕ
 createdAt:Instant
 startedAt:Option Instant
 completedAt:Option Instant

def Run.isTerminal (run:Run):Bool:=decide (run.state∈terminalStates)

structure Reservation where
 deviceId:DeviceId
 releasedAt:Option Instant

structure SessionTeardownTarget where
 sessionPk:RowId
 deviceId:DeviceId
 appiumSessionId:String
 target:Option String
 deriving DecidableEq

structure RunTeardownEffect where
 operationId:JobId
 kind:RunTeardownKind
 expectedState:RunState
 reason:Option String
 targets:List SessionTeardownTarget
 deriving DecidableEq

structure RunTeardownResult where
 terminatedSessionIds:List RowId
 survivorDeviceIds:List DeviceId
 deriving DecidableEq

/-- What Appium answered for one target: the `DELETE`, and the two liveness probes. -/
structure Outcome where
 deleted:Bool
 alive:Option Bool
 aliveAgain:Option Bool

/-- A target that was pending at the snapshot has no Appium address and is never deleted. -/
def terminated (p:SessionTeardownTarget×Outcome):Bool:=p.1.target.isSome&&p.2.deleted

/-- An indeterminate probe is repeated once and then counts as alive. -/
def survives (p:SessionTeardownTarget×Outcome):Bool:=
 p.1.target.isNone||decide (p.2.alive.or p.2.aliveAgain≠some false)

def performRunTeardownEffect (effect:RunTeardownEffect)(outcomes:List Outcome):
 RunTeardownResult where
 terminatedSessionIds:=
  ((effect.targets.zip outcomes).filter terminated).map fun p=>p.1.sessionPk
 survivorDeviceIds:=
  if effect.kind=.forceRelease then
   ((effect.targets.zip outcomes).filter survives).map fun p=>p.1.deviceId
  else []

/-- The Appium sessions whose `DELETE` succeeded, each with the address it was sent to. -/
def deletedSessions (effect:RunTeardownEffect)(outcomes:List Outcome):List (String×String):=
 (effect.targets.zip outcomes).filterMap fun p=>
  if p.2.deleted then p.1.target.map fun url=>(url,p.1.appiumSessionId) else none

inductive RunEvent where
 | active
 | completed (duration:Option ℕ)(severity:String)
 | cancelled (cancelledBy:String)
 | neverActivated (reason:String)
 | expired (reason:String)

def RunEvent.isTerminal:RunEvent→Bool
 | .completed .. | .cancelled _ | .expired _=>true
 | .active | .neverActivated _=>false
def microsPerSecond:ℕ:=1000000
def runCompletedSeverity (run:Run):String:=
 if run.error.any (· ≠ "") then "warning" else "success"

/-- The reason an expiry records; `None` is formatted as Python formats it. -/
def effectiveReason (effect:RunTeardownEffect):String:=
 if effect.expectedState=.preparing then
  effect.reason.getD "None" ++
   "; run was still in `preparing` — `/api/runs/\x7bid\x7d/active` was never signaled"
 else effect.reason.getD ""

def applyRunTerminal (run:Run)(effect:RunTeardownEffect)(now:Instant):Run:=
 match effect.kind with
 | .cancel=>{run with state:=.cancelled,completedAt:=some now}
 | .forceRelease=>
  { run with state:=.cancelled,error:=some "Force released by admin",completedAt:=some now }
 | .expire=>
  {run with state:=.expired,error:=some (effectiveReason effect),completedAt:=some now}

def queueRunEvents (effect:RunTeardownEffect):List RunEvent:=
 match effect.kind with
 | .cancel=>[.cancelled "user"]
 | .forceRelease=>[.cancelled "admin (force release)"]
 | .expire=>
  (if effect.expectedState=.preparing then [.neverActivated (effectiveReason effect)] else []) ++
   [.expired (effectiveReason effect)]

structure Job where
 effect:RunTeardownEffect
 status:JobStatus

def Job.isOpen (job:Job):Bool:=decide (job.status=.pending∨job.status=.running)

/-- Found by the reaper's query, called, holding an effect, holding its result, finalised, about to fail
its job, returned normally. -/
inductive Phase where
 | candidate
 | called (kind:RunTeardownKind)(reason:Option String)
 | prepared (effect:RunTeardownEffect)
 | performed (effect:RunTeardownEffect)(result:RunTeardownResult)
 | finalized (operation:JobId)
 | failing (operation:JobId)
 | returned
 deriving DecidableEq

/-- An inline `teardown_run`, or the durable worker on a claimed job. -/
structure Exec where
 worker:Bool
 phase:Phase

/-- `claims`: the device whose row lock a claim for the run waits for. `resetting`: the jobs that an open
stale-job reset has read as running. `deleted`: the Appium sessions whose `DELETE` has succeeded. -/
structure World where
 now:Instant
 run:Run
 reservations:List Reservation
 sessions:Dict RowId Session
 claims:Dict TxId DeviceId
 jobs:Dict JobId Job
 execs:Dict ExecId Exec
 resetting:List JobId
 events:List RunEvent
 forcedStops:List DeviceId
 deleted:List (String×String)

def lockedDevices (w:World):List DeviceId:=w.reservations.map Reservation.deviceId
def heartbeat (w:World):World:=
 if w.run.isTerminal then w else { w with run:={w.run with lastHeartbeat:=some w.now} }
def activate (w:World):World:=
 { w with
   run:={w.run with state:=.active,startedAt:=some w.now,lastHeartbeat:=some w.now}
   events:=w.events++[.active] }
def signalReady (w:World):Option World:=
 if w.run.state=.preparing then some (activate w) else none
def signalActive (w:World):Option World:=
 if w.run.state=.active then some w
 else if w.run.state=.preparing then some (activate w)
 else none

/-- The close of a run ends the live rows on locked devices; with a set of ids, only those of the
running rows. -/
def closes (w:World)(closeSessionIds:Option (List RowId))(pk:RowId)(row:Session):Bool:=
 isLive row&&row.deviceId.any (fun device=>decide (device∈lockedDevices w))&&
  !(closeSessionIds.any fun ids=>decide (row.status=.running)&&decide (pk ∉ ids))

def closeRunSessions (w:World)(run:Run)(closeSessionIds:Option (List RowId)):Dict RowId Session:=
 w.sessions.map fun pk row=>
  if closes w closeSessionIds pk row then ended row (terminalStatus (some run.state)) w.now else row
def releasedReservation (now:Instant)(reservation:Reservation):Reservation:=
 if reservation.releasedAt.isNone then {reservation with releasedAt:=some now} else reservation
def endRun (w:World)(run:Run)(closeSessionIds:Option (List RowId))(events:List RunEvent):World:=
 { w with
   run:=run
   sessions:=closeRunSessions w run closeSessionIds
   reservations:=w.reservations.map (releasedReservation w.now)
   events:=w.events++events }
def completeRun (w:World):Option World:=
 if w.run.isTerminal then none
 else
  let run:={w.run with state:=.completed,completedAt:=some w.now}
  let duration:=run.startedAt.map fun started=>(w.now-started) / microsPerSecond
  some (endRun w run none [.completed duration (runCompletedSeverity run)])
def heartbeatStale (run:Run)(now:Instant):Bool:=
 run.lastHeartbeat.any fun last=>last+run.heartbeatTimeoutSec*microsPerSecond<now
def ttlStale (run:Run)(now:Instant):Bool:=
 decide (run.createdAt+run.ttlMinutes*60*microsPerSecond<now)
def heartbeatTimeout:String:= "Heartbeat timeout"

/-- The reason is the condition still stale under the row lock. -/
def decideExpiry (run:Run)(now:Instant):Option String:=
 if run.isTerminal then none
 else if heartbeatStale run now then some heartbeatTimeout
 else if ttlStale run now then
  some ("TTL exceeded (" ++ toString run.ttlMinutes ++ " minutes)")
 else none

section
variable (w:World)(x:ExecId)

def setPhase (exec:Exec)(phase:Phase):World:=
 { w with execs:=w.execs.set x {exec with phase:=phase} }
def snapshotTargets (resolve:List (RowId×String)):List SessionTeardownTarget:=
 w.sessions.entries.filterMap fun p=>
  if isLive p.2 then
   p.2.deviceId.map fun device=>
    ⟨p.1,device,p.2.sessionId,if p.2.status=.running then resolve.lookup p.1 else none⟩
  else none

/-- A terminal run ends the command: with an error for a cancel, silently otherwise. An open job of the
run, `operationId`, is adopted, whatever its kind; a fresh one is created only when none is open. -/
def prepare (exec:Exec)(kind:RunTeardownKind)(reason:Option String)(operationId:JobId)
 (resolve:List (RowId×String)):Option World:=
 if w.run.isTerminal then
  if kind=.cancel then some {w with execs:=w.execs.pop x}
  else some (setPhase w x exec .returned)
 else
  match w.jobs.get operationId with
  | some job=>if job.isOpen then some (setPhase w x exec (.prepared job.effect)) else none
  | none=>
   if w.jobs.entries.any fun p=>p.2.isOpen then none
   else
    let effect:RunTeardownEffect:=
     ⟨operationId,kind,w.run.state,reason,snapshotTargets w resolve⟩
    some { setPhase w x exec (.prepared effect) with
     jobs:=w.jobs.set operationId ⟨effect,.pending⟩ }

def perform (exec:Exec)(effect:RunTeardownEffect)(outcomes:List Outcome):Option World:=
 if outcomes.length=effect.targets.length then
  some { setPhase w x exec (.performed effect (performRunTeardownEffect effect outcomes)) with
   deleted:=w.deleted++deletedSessions effect outcomes }
 else none
def completeJob (job:Job)(operationId:JobId):Dict JobId Job:=
 w.jobs.set operationId {job with status:=.completed}

/-- Devices that a force-release stops: those of active reservations whose session survived. -/
def forcedStopDevices (effect:RunTeardownEffect)(result:RunTeardownResult):List DeviceId:=
 if effect.kind=.forceRelease then
  ((w.reservations.filter fun r=>r.releasedAt.isNone).map Reservation.deviceId).filter
   fun device=>decide (device∈result.survivorDeviceIds)
 else []

def applyTeardown (job:Job)(effect:RunTeardownEffect)(result:RunTeardownResult):World:=
 { endRun w (applyRunTerminal w.run effect w.now) (some result.terminatedSessionIds)
    (queueRunEvents effect) with
   jobs:=completeJob w job effect.operationId
   forcedStops:=w.forcedStops++forcedStopDevices w effect result }

/-- The finalising transaction: nothing for a job that is gone or over; a run that is terminal by then
supersedes the job. -/
def finalizeTxn (effect:RunTeardownEffect)(result:RunTeardownResult):World:=
 match w.jobs.get effect.operationId with
 | none=>w
 | some job=>
  if !job.isOpen then w
  else if job.effect.operationId≠effect.operationId then w
  else if w.run.isTerminal then {w with jobs:=completeJob w job effect.operationId}
  else applyTeardown w job effect result

/-- The worker's last resort; it does not look at the job's status. -/
def failJob (operationId:JobId):Dict JobId Job:=
 match w.jobs.get operationId with
 | none=>w.jobs
 | some job=>w.jobs.set operationId {job with status:=.failed}
end

inductive Label where
 | advance (elapsed:ℕ)
 | lockClaim (tx:TxId)(device:DeviceId)
 /-- `modified`: the device row was, since the snapshot of the lock statement. -/
 | claim (tx:TxId)(pk:RowId)(sessionId:String)(ticket:TicketId)(modified:Bool)
 | promote (pk:RowId)(appiumSessionId:String)
 | endSession (pk:RowId)(status:SessionStatus)
 | releaseReservation (device:DeviceId)
 | heartbeat
 | signalReady
 | signalActive
 | completeRun
 | cancelRun (x:ExecId)
 | forceRelease (x:ExecId)
 | discover (x:ExecId)
 | decideExpiry (x:ExecId)
 | prepare (x:ExecId)(operationId:JobId)(resolve:List (RowId×String))
 | perform (x:ExecId)(outcomes:List Outcome)
 | finalize (x:ExecId)
 | finish (x:ExecId)
 | raise (x:ExecId)
 | crash (x:ExecId)
 | failJob (x:ExecId)
 | claimJob (x:ExecId)(job:JobId)
 | readStaleJobs (jobs:List JobId)
 | resetStaleJobs

def ownsDevice (w:World)(device:DeviceId):Bool:=
 !w.run.isTerminal&&w.reservations.any fun r=>decide (r.deviceId=device)&&r.releasedAt.isNone

/-- The lock statement of a claim decides the owner on its snapshot and then waits for the row. -/
def lockClaim (w:World)(tx:TxId)(device:DeviceId):Option World:=
 if ownsDevice w device then some {w with claims:=w.claims.set tx device} else none

/-- Under the lock the owner is decided again only if the row was modified meanwhile; the live sessions of
the device are always read again. -/
def claim (w:World)(tx:TxId)(pk:RowId)(sessionId:String)(ticket:TicketId)(modified:Bool):
 Option World:=
 (w.claims.get tx).bind fun device=>
  if modified&&!ownsDevice w device then none
  else if w.sessions.entries.any fun p=>isLive p.2&&decide (p.2.deviceId=some device) then none
  else if (w.sessions.get pk).isSome then none
  else
   let row:Session:=⟨pk,sessionId,some device,none,.pending,none,some ticket,some w.run.id⟩
   some {w with sessions:=w.sessions.set pk row,claims:=w.claims.pop tx}

/-- `UPDATE sessions … WHERE id = pk AND guard`. -/
def updateSession (w:World)(pk:RowId)(guard:Session→Bool)(set:Session→Session):World:=
 {w with sessions:=w.sessions.map fun k row=>if k=pk&&guard row then set row else row}

/-- A reported preparation failure or an escalated cooldown frees one device of a live run. -/
def releaseReservation (w:World)(device:DeviceId):Option World:=
 if w.run.isTerminal then none
 else some { w with reservations:=w.reservations.map fun r=>
  if r.deviceId=device then releasedReservation w.now r else r }

def startExec (w:World)(x:ExecId)(exec:Exec):Option World:=
 if (w.execs.get x).isSome then none else some {w with execs:=w.execs.set x exec}
def discover (w:World)(x:ExecId):Option World:=
 if !w.run.isTerminal&&(heartbeatStale w.run w.now||ttlStale w.run w.now) then
  startExec w x ⟨false,.candidate⟩
 else none

/-- The reaper's recheck under the row lock, which it gives back before it calls `expire_run`. -/
def recheck (w:World)(x:ExecId)(exec:Exec):World:=
 match decideExpiry w.run w.now with
 | none=>{w with execs:=w.execs.pop x}
 | some reason=>setPhase w x exec (.called .expire (some reason))

def Phase.effect:Phase→Option RunTeardownEffect
 | .prepared effect | .performed effect _=>some effect
 | _=>none
def Phase.operation:Phase→Option JobId
 | .prepared effect | .performed effect _=>some effect.operationId
 | .finalized operation=>some operation
 | _=>none

/-- An exception ends an inline command; the worker catches it and goes on to fail its job. -/
def raise (w:World)(x:ExecId)(exec:Exec):World:=
 match exec.worker,exec.phase.operation with
 | true,some operation=>setPhase w x exec (.failing operation)
 | _,_=>{w with execs:=w.execs.pop x}

def step (w:World):Label→Option World
 | .advance elapsed=>some {w with now:=w.now+elapsed}
 | .lockClaim tx device=>lockClaim w tx device
 | .claim tx pk sessionId ticket modified=>claim w tx pk sessionId ticket modified
 | .promote pk appiumSessionId=>
  some (updateSession w pk (fun row=>row.status=.pending)
   fun row=>{row with sessionId:=appiumSessionId,status:=.running})
 | .endSession pk status=>some (updateSession w pk isOpen fun row=>ended row status w.now)
 | .releaseReservation device=>releaseReservation w device
 | .heartbeat=>some (heartbeat w)
 | .signalReady=>signalReady w
 | .signalActive=>signalActive w
 | .completeRun=>completeRun w
 | .cancelRun x=>startExec w x ⟨false,.called .cancel none⟩
 | .forceRelease x=>startExec w x ⟨false,.called .forceRelease none⟩
 | .discover x=>discover w x
 | .decideExpiry x=>(w.execs.get x).bind fun exec=>
   if exec.phase=.candidate then some (recheck w x exec) else none
 | .prepare x operationId resolve=>(w.execs.get x).bind fun exec=>
   match exec.phase with
   | .called kind reason=>prepare w x exec kind reason operationId resolve
   | _=>none
 | .perform x outcomes=>(w.execs.get x).bind fun exec=>
   match exec.phase with
   | .prepared effect=>perform w x exec effect outcomes
   | _=>none
 | .finalize x=>(w.execs.get x).bind fun exec=>
   match exec.phase with
   | .performed effect result=>
    some (setPhase (finalizeTxn w effect result) x exec (.finalized effect.operationId))
   | _=>none
 | .finish x=>(w.execs.get x).bind fun exec=>
   match exec.phase with
   | .finalized _=>
    if exec.worker then some {w with execs:=w.execs.pop x}
    else some (setPhase w x exec .returned)
   | _=>none
 | .raise x=>(w.execs.get x).bind fun exec=>
   if exec.phase=.returned then none else some (raise w x exec)
 | .crash x=>(w.execs.get x).bind fun exec=>
   if exec.phase=.returned then none else some {w with execs:=w.execs.pop x}
 | .failJob x=>(w.execs.get x).bind fun exec=>
   match exec.phase with
   | .failing operation=>
    some {w with jobs:=failJob w operation,execs:=w.execs.pop x}
   | _=>none
 | .claimJob x j=>(w.jobs.get j).bind fun job=>
   if job.status=.pending then
    (startExec w x ⟨true,.prepared job.effect⟩).map fun w'=>
     { w' with jobs:=w.jobs.set j {job with status:=.running} }
   else none
 | .readStaleJobs jobs=>
   if jobs.all fun j=>(w.jobs.get j).any fun job=>decide (job.status=.running) then
    some {w with resetting:=jobs}
   else none
 | .resetStaleJobs=>
   some { w with
    jobs:=w.jobs.map fun j job=>
     if j∈w.resetting then {job with status:=.pending} else job
    resetting:=[] }

inductive Transition (w:World):Label→World→Prop where
 | advance (elapsed:ℕ):Transition w (.advance elapsed) {w with now:=w.now+elapsed}
 | lockClaim {tx:TxId}{device:DeviceId}(hdevice:device∈lockedDevices w):
   Transition w (.lockClaim tx device) {w with claims:=w.claims.set tx device}
 | claim {tx:TxId}{pk:RowId}{sessionId:String}{ticket:TicketId}{modified:Bool}{device:DeviceId}
   {row:Session}(hclaim:w.claims.get tx=some device)(hfresh:w.sessions.get pk=none)
   (hrow:row.deviceId=some device):Transition w (.claim tx pk sessionId ticket modified)
    {w with sessions:=w.sessions.set pk row,claims:=w.claims.pop tx}
 | updateRows {label:Label}(f:RowId→Session→Session)(hf:∀pk row,RowLater row (f pk row)):
   Transition w label {w with sessions:=w.sessions.map f}
 | releaseReservation {device:DeviceId}(f:Reservation→Reservation)
   (hlive:w.run.isTerminal=false)(hf:∀r,(f r).deviceId=r.deviceId):
   Transition w (.releaseReservation device) {w with reservations:=w.reservations.map f}
 | stay (label:Label):Transition w label w
 | heartbeat (hlive:w.run.isTerminal=false):
   Transition w .heartbeat { w with run:={w.run with lastHeartbeat:=some w.now} }
 | signalReady (hstate:w.run.state=.preparing):Transition w .signalReady (activate w)
 | signalActive (hstate:w.run.state=.preparing):Transition w .signalActive (activate w)
 | completeRun (hlive:w.run.isTerminal=false)(event:RunEvent)
   (hevent:event.isTerminal):
   Transition w .completeRun
    (endRun w {w.run with state:=.completed,completedAt:=some w.now} none [event])
 | start {label:Label}(x:ExecId)(phase:Phase)
   (hphase:phase=.candidate∨∃kind,phase=.called kind none):
   Transition w label {w with execs:=w.execs.set x ⟨false,phase⟩}
 | leave (label:Label)(x:ExecId):Transition w label {w with execs:=w.execs.pop x}
 | decided {x:ExecId}{exec:Exec}{reason:String}(hexec:w.execs.get x=some exec)
   (hreason:RunTeardown.decideExpiry w.run w.now=some reason):
   Transition w (.decideExpiry x) (setPhase w x exec (.called .expire (some reason)))
 | returnEarly {x:ExecId}{operationId:JobId}{resolve:List (RowId×String)}(exec:Exec)
   (hended:w.run.isTerminal):
   Transition w (.prepare x operationId resolve) (setPhase w x exec .returned)
 | adopt {x:ExecId}{operationId:JobId}{resolve:List (RowId×String)}(exec:Exec){job:Job}
   (hjob:w.jobs.get operationId=some job)(hopen:job.isOpen):
   Transition w (.prepare x operationId resolve) (setPhase w x exec (.prepared job.effect))
 | create {x:ExecId}{operationId:JobId}{resolve:List (RowId×String)}{exec:Exec}
   {kind:RunTeardownKind}{reason:Option String}(hexec:w.execs.get x=some exec)
   (hphase:exec.phase=.called kind reason)(hfresh:w.jobs.get operationId=none)
   (effect:RunTeardownEffect)
   (heffect:effect=⟨operationId,kind,w.run.state,reason,snapshotTargets w resolve⟩):
   Transition w (.prepare x operationId resolve)
    { setPhase w x exec (.prepared effect) with
      jobs:=w.jobs.set operationId ⟨effect,.pending⟩ }
 | perform {x:ExecId}{outcomes:List Outcome}{exec:Exec}{effect:RunTeardownEffect}
   (hexec:w.execs.get x=some exec)(hphase:exec.phase=.prepared effect):
   Transition w (.perform x outcomes)
    { setPhase w x exec (.performed effect (performRunTeardownEffect effect outcomes)) with
      deleted:=w.deleted++deletedSessions effect outcomes }
 | finalize {x:ExecId}{exec:Exec}{effect:RunTeardownEffect}{result:RunTeardownResult}
   (hexec:w.execs.get x=some exec)(hphase:exec.phase=.performed effect result):
   Transition w (.finalize x)
    (setPhase (finalizeTxn w effect result) x exec (.finalized effect.operationId))
 | returnNormally {x:ExecId}{exec:Exec}{operation:JobId}(hexec:w.execs.get x=some exec)
   (hphase:exec.phase=.finalized operation)(hinline:exec.worker=false):
   Transition w (.finish x) (setPhase w x exec .returned)
 | workerRaises {x:ExecId}{exec:Exec}(operation:JobId)(hworker:exec.worker):
   Transition w (.raise x) (setPhase w x exec (.failing operation))
 | failJob {x:ExecId}{exec:Exec}{operation:JobId}(hexec:w.execs.get x=some exec)
   (hphase:exec.phase=.failing operation):
   Transition w (.failJob x)
    {w with jobs:=RunTeardown.failJob w operation,execs:=w.execs.pop x}
 | claimJob {x:ExecId}{j:JobId}{job:Job}(hjob:w.jobs.get j=some job)
   (hpending:job.status=.pending):
   Transition w (.claimJob x j)
    { w with
      execs:=w.execs.set x ⟨true,.prepared job.effect⟩
      jobs:=w.jobs.set j {job with status:=.running} }
 | readStaleJobs (jobs:List JobId)
   (hrunning:∀j∈jobs,∃job,w.jobs.get j=some job∧job.status=.running):
   Transition w (.readStaleJobs jobs) {w with resetting:=jobs}
 | resetStaleJobs:Transition w .resetStaleJobs
   { w with
     jobs:=w.jobs.map fun j job=>
      if j∈w.resetting then {job with status:=.pending} else job
     resetting:=[] }

section
variable {w w':World}

lemma mem_of_ownsDevice {device:DeviceId}(h:ownsDevice w device):device∈lockedDevices w:=by
 obtain ⟨reservation,hmem,hactive⟩:=List.any_eq_true.mp (Bool.and_eq_true_iff.mp h).2
 have hdevice:reservation.deviceId=device:=by simpa using (Bool.and_eq_true_iff.mp hactive).1
 exact List.mem_map.mpr ⟨reservation,hmem,hdevice⟩
lemma transition_claim {tx:TxId}{pk:RowId}{sessionId:String}{ticket:TicketId}{modified:Bool}
 (h:claim w tx pk sessionId ticket modified=some w'):
 Transition w (.claim tx pk sessionId ticket modified) w':=by
 obtain ⟨device,hclaim,hrest⟩:=bind_eq_some_iff.mp h
 split at hrest
 · cases hrest
 split at hrest
 · cases hrest
 split at hrest
 · cases hrest
 rename_i hfresh
 cases hrest
 exact .claim hclaim (by simpa using hfresh) rfl

lemma transition_prepare {x:ExecId}{exec:Exec}{kind:RunTeardownKind}{reason:Option String}
 {operationId:JobId}{resolve:List (RowId×String)}(hexec:w.execs.get x=some exec)
 (hphase:exec.phase=.called kind reason)
 (h:prepare w x exec kind reason operationId resolve=some w'):
 Transition w (.prepare x operationId resolve) w':=by
 unfold prepare at h
 split at h
 · rename_i hended
   split at h
   · cases h
     exact .leave _ x
   · cases h
     exact .returnEarly exec hended
 · split at h
   · rename_i job hjob
     split at h
     · rename_i hopen
       cases h
       exact .adopt exec hjob hopen
     · cases h
   · rename_i hfresh
     split at h
     · cases h
     cases h
     exact .create hexec hphase hfresh _ rfl
lemma transition_completeRun (h:completeRun w=some w'):Transition w .completeRun w':=by
 unfold completeRun at h
 split at h
 · cases h
 rename_i hlive
 cases h
 exact .completeRun (by simpa using hlive) _ rfl
lemma transition_startExec {label:Label}{x:ExecId}{phase:Phase}
 (hphase:phase=.candidate∨∃kind,phase=.called kind none)
 (h:startExec w x ⟨false,phase⟩=some w'):Transition w label w':=by
 unfold startExec at h
 split at h
 · cases h
 cases h
 exact .start x phase hphase

lemma transition_of_step {label:Label}(h:step w label=some w'):Transition w label w':=by
 cases label with
 | advance elapsed=>
  cases h
  exact .advance elapsed
 | lockClaim=>
  simp only[step,RunTeardown.lockClaim] at h
  split at h
  · rename_i howns
    cases h
    exact .lockClaim (mem_of_ownsDevice howns)
  · cases h
 | claim=>exact transition_claim h
 | promote pk appiumSessionId=>
  cases h
  apply Transition.updateRows
  intro k row
  split
  · rename_i hguard
    exact rowLater_promoted (by simpa using (Bool.and_eq_true_iff.mp hguard).2) appiumSessionId
  · exact rowLater_refl row
 | endSession _ status=>
  cases h
  apply Transition.updateRows
  intro k row
  split
  · exact rowLater_ended row status w.now
  · exact rowLater_refl row
 | releaseReservation device=>
  simp only[step,RunTeardown.releaseReservation] at h
  split at h
  · cases h
  rename_i hlive
  cases h
  apply Transition.releaseReservation _ (by simpa using hlive)
  intro r
  unfold releasedReservation
  split
  · split <;> rfl
  · rfl
 | heartbeat=>
  cases h
  unfold RunTeardown.heartbeat
  split
  · exact .stay _
  · rename_i hlive
    exact .heartbeat (by simpa using hlive)
 | signalReady=>
  simp only[step,RunTeardown.signalReady] at h
  split at h
  · rename_i hstate
    cases h
    exact .signalReady hstate
  · cases h
 | signalActive=>
  simp only[step,RunTeardown.signalActive] at h
  split at h
  · cases h
    exact .stay _
  · split at h
    · rename_i hstate
      cases h
      exact .signalActive hstate
    · cases h
 | completeRun=>exact transition_completeRun h
 | cancelRun | forceRelease=>exact transition_startExec (.inr ⟨_,rfl⟩) h
 | discover=>
  simp only[step,RunTeardown.discover] at h
  split at h
  · exact transition_startExec (.inl rfl) h
  · cases h
 | decideExpiry x=>
  obtain ⟨exec,hexec,hrest⟩:=bind_eq_some_iff.mp h
  split at hrest
  · cases hrest
    unfold recheck
    split
    · exact .leave _ x
    · rename_i reason hreason
      exact .decided hexec hreason
  · cases hrest
 | prepare x operationId resolve=>
  obtain ⟨exec,hexec,hrest⟩:=bind_eq_some_iff.mp h
  split at hrest
  · rename_i kind reason hphase
    exact transition_prepare hexec hphase hrest
  · cases hrest
 | perform x outcomes=>
  obtain ⟨exec,hexec,hrest⟩:=bind_eq_some_iff.mp h
  split at hrest
  · rename_i effect hphase
    unfold RunTeardown.perform at hrest
    split at hrest
    · cases hrest
      exact .perform hexec hphase
    · cases hrest
  · cases hrest
 | finalize x=>
  obtain ⟨exec,hexec,hrest⟩:=bind_eq_some_iff.mp h
  split at hrest
  · rename_i effect result hphase
    cases hrest
    exact .finalize hexec hphase
  · cases hrest
 | finish x=>
  obtain ⟨exec,hexec,hrest⟩:=bind_eq_some_iff.mp h
  split at hrest
  · rename_i operation hphase
    split at hrest
    · cases hrest
      exact .leave _ x
    · rename_i hinline
      cases hrest
      exact .returnNormally hexec hphase (by simpa using hinline)
  · cases hrest
 | raise x=>
  obtain ⟨exec,hexec,hrest⟩:=bind_eq_some_iff.mp h
  split at hrest
  · cases hrest
  cases hrest
  unfold RunTeardown.raise
  split
  · rename_i operation hworker _
    exact .workerRaises operation hworker
  · exact .leave _ x
 | crash x=>
  obtain ⟨exec,hexec,hrest⟩:=bind_eq_some_iff.mp h
  split at hrest
  · cases hrest
  cases hrest
  exact .leave _ x
 | failJob x=>
  obtain ⟨exec,hexec,hrest⟩:=bind_eq_some_iff.mp h
  split at hrest
  · rename_i operation hphase
    cases hrest
    exact .failJob hexec hphase
  · cases hrest
 | claimJob x j=>
  obtain ⟨job,hjob,hrest⟩:=bind_eq_some_iff.mp h
  split at hrest
  · rename_i hpending
    unfold startExec at hrest
    split at hrest
    · cases hrest
    cases hrest
    exact .claimJob hjob hpending
  · cases hrest
 | readStaleJobs jobs=>
  simp only[step] at h
  split at h
  · rename_i hall
    cases h
    refine .readStaleJobs jobs (fun j hj=>?_)
    have hjob:=List.all_eq_true.mp hall j hj
    obtain ⟨job,hget,hstatus⟩:=(any_eq_true _ _).mp hjob
    exact ⟨job,hget,by simpa using hstatus⟩
  · cases h
 | resetStaleJobs=>
  cases h
  exact .resetStaleJobs
end

/-- A job is filed under its operation id, and an executor holds the payload of a filed job. -/
structure Keyed (w:World):Prop where
 job:∀j job,w.jobs.get j=some job→job.effect.operationId=j
 exec:∀x exec effect,w.execs.get x=some exec→exec.phase.effect=some effect→
  ∃job,w.jobs.get effect.operationId=some job∧job.effect=effect

def SamePayload (jobs jobs':Dict JobId Job):Prop:=
 ∀j,(jobs'.get j).map Job.effect=(jobs.get j).map Job.effect

lemma samePayload_refl (jobs:Dict JobId Job):SamePayload jobs jobs:=fun _=>rfl
lemma samePayload_set {jobs:Dict JobId Job}{j:JobId}{job:Job}(status:JobStatus)
 (hjob:jobs.get j=some job):SamePayload jobs (jobs.set j {job with status:=status}):=by
 intro k
 rw[get_set]
 split
 · rename_i hk
   rw[hk,hjob]
   rfl
 · rfl
lemma samePayload_reset (jobs:Dict JobId Job)(resetting:List JobId):
 SamePayload jobs (jobs.map fun j job=>
  if j∈resetting then {job with status:=.pending} else job):=by
 intro j
 rw[Dict.get_map,map_map]
 congr 1
 funext job
 simp only[Function.comp_apply]
 split <;> rfl
lemma samePayload_failJob (w:World)(operation:JobId):SamePayload w.jobs (failJob w operation):=by
 unfold failJob
 split
 · exact samePayload_refl _
 · rename_i job hjob
   exact samePayload_set .failed hjob
lemma finalizeTxn_of_open {w:World}{effect:RunTeardownEffect}{job:Job}
 (result:RunTeardownResult)(hjob:w.jobs.get effect.operationId=some job)
 (hopen:job.isOpen)(hkey:job.effect.operationId=effect.operationId):finalizeTxn w effect result =
  if w.run.isTerminal then {w with jobs:=completeJob w job effect.operationId}
  else applyTeardown w job effect result:=by
 simp[finalizeTxn,hjob,hopen,hkey]

/-- A finalisation finds nothing to do, or an open job whose run is already over, or ends the run. -/
lemma finalizeTxn_cases (w:World)(effect:RunTeardownEffect)(result:RunTeardownResult):
 finalizeTxn w effect result=w∨∃job,w.jobs.get effect.operationId=some job∧job.isOpen∧
   (w.run.isTerminal∧
     finalizeTxn w effect result={w with jobs:=completeJob w job effect.operationId}∨
    w.run.isTerminal=false∧finalizeTxn w effect result=applyTeardown w job effect result):=by
 cases hjob:w.jobs.get effect.operationId with
 | none=>
  left
  simp[finalizeTxn,hjob]
 | some job=>
  by_cases hkeyed:job.isOpen∧job.effect.operationId=effect.operationId
  · right
    refine ⟨job,rfl,hkeyed.1,?_⟩
    rw[finalizeTxn_of_open result hjob hkeyed.1 hkeyed.2]
    cases hended:w.run.isTerminal <;> simp
  · left
    by_cases hopen:job.isOpen
    · have hother:job.effect.operationId≠effect.operationId:=fun h=>hkeyed ⟨hopen,h⟩
      simp[finalizeTxn,hjob,hopen,hother]
    · simp[finalizeTxn,hjob,hopen]

lemma samePayload_finalizeTxn (w:World)(effect:RunTeardownEffect)(result:RunTeardownResult):
 SamePayload w.jobs (finalizeTxn w effect result).jobs:=by
 rcases finalizeTxn_cases w effect result with h|⟨job,hjob,-,⟨-,h⟩|⟨-,h⟩⟩
 · rw[h]
   exact samePayload_refl _
 · rw[h]
   exact samePayload_set .completed hjob
 · rw[h]
   exact samePayload_set .completed hjob
lemma finalizeTxn_frame (w:World)(effect:RunTeardownEffect)(result:RunTeardownResult):
 (finalizeTxn w effect result).execs=w.execs∧(finalizeTxn w effect result).deleted=w.deleted:=by
 rcases finalizeTxn_cases w effect result with h|⟨job,-,-,⟨-,h⟩|⟨-,h⟩⟩
 · rw[h]
   exact ⟨rfl,rfl⟩
 · rw[h]
   exact ⟨rfl,rfl⟩
 · rw[h]
   exact ⟨rfl,rfl⟩
lemma execs_finalized (w:World)(x:ExecId)(exec:Exec)(effect:RunTeardownEffect)
 (result:RunTeardownResult):
 (setPhase (finalizeTxn w effect result) x exec (.finalized effect.operationId)).execs =
  w.execs.set x {exec with phase:=.finalized effect.operationId}:=by
 simp only[setPhase,(finalizeTxn_frame w effect result).1]

section
variable {w w':World}

variable {jobs:Dict JobId Job}{exec:Exec}

lemma SamePayload.get_eq_some {jobs':Dict JobId Job}(h:SamePayload jobs jobs'){j:JobId}{job:Job}
 (hjob:jobs.get j=some job):∃job',jobs'.get j=some job'∧job'.effect=job.effect:=by
 have hsame:=h j
 rw[hjob,map_some,map_eq_some_iff] at hsame
 exact hsame
lemma SamePayload.symm {jobs':Dict JobId Job}(h:SamePayload jobs jobs'):
 SamePayload jobs' jobs:=fun j=>(h j).symm

section
variable (h:Keyed w)
include h

lemma Keyed.update (hjobs:SamePayload w.jobs w'.jobs)
 (hexecs:∀x exec effect,w'.execs.get x=some exec→exec.phase.effect=some effect→
  (∃exec',w.execs.get x=some exec'∧exec'.phase.effect=some effect)∨
   ∃j job,w.jobs.get j=some job∧job.effect=effect):Keyed w':=by
 refine ⟨?_,?_⟩
 · intro j job hjob
   obtain ⟨old,hold,heffect⟩:=hjobs.symm.get_eq_some hjob
   rw[←heffect]
   exact h.job j old hold
 · intro x exec effect hexec heffect
   have hfiled:∃job,w.jobs.get effect.operationId=some job∧job.effect=effect:=by
    rcases hexecs x exec effect hexec heffect with ⟨exec',hexec',heffect'⟩|⟨j,job,hjob,rfl⟩
    · exact h.exec x exec' effect hexec' heffect'
    · rw[h.job j job hjob]
      exact ⟨job,hjob,rfl⟩
   obtain ⟨job,hjob,rfl⟩:=hfiled
   exact hjobs.get_eq_some hjob
lemma Keyed.popExec (hjobs:SamePayload w.jobs jobs)(x:ExecId):
 Keyed {w with jobs:=jobs,execs:=w.execs.pop x}:=by
 apply h.update hjobs
 intro y exec effect hexec heffect
 exact .inl ⟨exec,(get_pop_eq_some hexec).2,heffect⟩
lemma Keyed.setExec (hjobs:SamePayload w.jobs w'.jobs){x:ExecId}
 (hexecs:w'.execs=w.execs.set x exec)(heffect:∀effect,exec.phase.effect=some effect→
  ∃j job,w.jobs.get j=some job∧job.effect=effect):Keyed w':=by
 apply h.update hjobs
 intro y other effect hother hholds
 rw[hexecs] at hother
 rcases get_set_eq_some hother with ⟨rfl,rfl⟩|⟨-,hold⟩
 · exact .inr (heffect effect hholds)
 · exact .inl ⟨other,hold,hholds⟩
lemma Keyed.filed {x:ExecId}{effect:RunTeardownEffect}
 (hexec:w.execs.get x=some exec)(heffect:exec.phase.effect=some effect):
 ∃j job,w.jobs.get j=some job∧job.effect=effect:=by
 obtain ⟨job,hjob,heq⟩:=h.exec x exec effect hexec heffect
 exact ⟨_,job,hjob,heq⟩
lemma Keyed.create {x:ExecId}{effect:RunTeardownEffect}(hfresh:w.jobs.get effect.operationId=none):
 Keyed { setPhase w x exec (.prepared effect) with
  jobs:=w.jobs.set effect.operationId ⟨effect,.pending⟩ }:=by
 refine ⟨?_,?_⟩
 · exact forall_get_set rfl h.job
 · intro y other held hother hholds
   rcases get_set_eq_some hother with ⟨rfl,rfl⟩|⟨-,hold⟩
   · cases hholds
     exact ⟨_,get_set_self ..,rfl⟩
   · obtain ⟨job,hjob,heq⟩:=h.exec y other held hold hholds
     have hne:held.operationId≠effect.operationId:=by
      intro heq
      rw[heq,hfresh] at hjob
      cases hjob
     exact ⟨job,(get_set_of_ne _ _ hne).trans hjob,heq⟩

lemma keyed_step {label:Label}(hstep:step w label=some w'):Keyed w':=by
 -- only executors and job statuses matter; the other transitions leave both alone
 cases transition_of_step hstep with
 | advance | lockClaim | claim | updateRows | releaseReservation | stay | heartbeat | signalReady
 | signalActive | completeRun | readStaleJobs=>exact ⟨h.job,h.exec⟩
 | start _ _ hphase=>
  refine h.setExec (samePayload_refl _) rfl ?_
  intro effect heffect
  rcases hphase with rfl|⟨kind,rfl⟩ <;> cases heffect
 | leave _ x=>exact h.popExec (samePayload_refl _) x
 | decided | returnEarly | returnNormally | workerRaises=>
  refine h.setExec (samePayload_refl _) rfl ?_
  intro effect heffect
  cases heffect
 | adopt _ hjob=>
  refine h.setExec (samePayload_refl _) rfl ?_
  intro effect heffect
  cases heffect
  exact ⟨_,_,hjob,rfl⟩
 | create _ _ hfresh _ heffect=>
  subst heffect
  exact h.create hfresh
 | perform hexec hphase=>
  refine h.setExec (samePayload_refl _) rfl ?_
  intro effect heffect
  cases heffect
  exact h.filed hexec (by rw[hphase];rfl)
 | @finalize x exec effect result hexec hphase=>
  refine h.setExec (samePayload_finalizeTxn w effect result) (execs_finalized w x exec effect result) ?_
  intro held hholds
  cases hholds
 | failJob=>exact h.popExec (samePayload_failJob w _) _
 | claimJob hjob=>
  refine h.setExec (samePayload_set .running hjob) rfl ?_
  intro effect heffect
  cases heffect
  exact ⟨_,_,hjob,rfl⟩
 | resetStaleJobs=>
  apply h.update (samePayload_reset _ _)
  intro x exec effect hexec heffect
  exact .inl ⟨exec,hexec,heffect⟩
end
end
end GridFleet.RunTeardown
