import GridFleet.RecoveryJobs
import Mathlib.Data.Prod.Lex
/-! Any number of worker processes poll one table of jobs. A worker resets stale jobs once when it starts
and then claims one job after the other. Each statement is a step; rows are locked from their UPDATE, or
from a SELECT FOR UPDATE, to the end of the transaction. -/
namespace GridFleet.JobQueue
open RecoveryJobs (JobId JobStatus)

abbrev WorkerId:=ℕ

inductive JobKind where
 | deviceVerification | deviceRecovery | deviceHealthRemediation | runSessionTeardown | sessionKill
 | other (kind:String)
 deriving DecidableEq

structure RemediationPayload where
 deviceId:DeviceId
 failureEpisode:ℕ
 repeatSafe:Bool
 deriving DecidableEq

/-- Of the snapshot only the status is kept. -/
structure JobRow where
 kind:JobKind
 status:JobStatus
 snapshotStatus:JobStatus
 payload:Option RemediationPayload
 attempts:ℕ
 scheduledAt:Instant
 createdAt:Instant
 startedAt:Option Instant
 deriving DecidableEq

structure DeviceHealth where
 checksHealthy:Option Bool
 failureEpisode:Option ℕ
 inMaintenance:Bool

structure JobClaim where
 id:JobId
 kind:JobKind
 payload:Option RemediationPayload
 attempts:ℕ
 claimedAt:Instant
 deriving DecidableEq

/-- A worker inside a runner. `remembered` is the status in the runner's memory, `loaded` the status that
an open transaction has read, `dispatched` that a remediation action went out. -/
structure Execution where
 claim:JobClaim
 remembered:Option JobStatus
 loaded:Option JobStatus
 dispatched:Bool
 deriving DecidableEq

/-- A starting worker has the kinds it still resets and the rows its open reset has selected. -/
inductive WorkerPhase where
 | starting (since:Instant)(kinds:List JobKind)(selected:Option (List (JobId×JobRow)))
 | polling
 | executing (e:Execution)
 deriving DecidableEq

structure State where
 jobs:Dict JobId JobRow
 devices:Dict DeviceId DeviceHealth
 workers:Dict WorkerId WorkerPhase
 now:Instant

def staleJobTimeout:ℕ:=600000000
def staleKinds:List JobKind:=
 [.deviceVerification,.deviceRecovery,.deviceHealthRemediation,.runSessionTeardown,.sessionKill]
def isTerminal:JobStatus→Bool
 | .completed | .failed=>true
 | .pending | .running=>false

inductive Label where
 | tick (now:Instant)
 | setDevice (id:DeviceId)(health:Option DeviceHealth)
 | enqueue (id:JobId)(kind:JobKind)(payload:Option RemediationPayload)(scheduledAt:Instant)
 | start (w:WorkerId)
 | resetRead (w:WorkerId)(readAt:Instant)
 | resetWrite (w:WorkerId)
 | poll (w:WorkerId)(skipped:List JobId)
 | load (w:WorkerId)
 | stage (w:WorkerId)
 | finish (w:WorkerId)(status:JobStatus)
 | commit (w:WorkerId)
 | prepare (w:WorkerId)(budget:Bool)
 | finalize (w:WorkerId)
 | failClaim (w:WorkerId)
 | closeLocked (id:JobId)
 | leave (w:WorkerId)
 | abort (w:WorkerId)
 | crash (w:WorkerId)

section
variable (s:State)

def staleRows (kind:JobKind)(readAt:Instant):List (JobId×JobRow):=
 s.jobs.entries.filter fun e=>e.2.kind=kind&&e.2.status=.running&&
  e.2.startedAt.any fun started=>decide (started+staleJobTimeout<readAt)
def resetRow (row:JobRow):JobRow:=
 {row with status:=.pending,startedAt:=none,snapshotStatus:=.pending}

/-- The UPDATE goes by primary key, whatever the row has become. -/
def resetRows (selected:List (JobId×JobRow)):Dict JobId JobRow:=
 s.jobs.map fun id row=>if id∈selected.map Prod.fst then resetRow row else row

def queueOrder (e:JobId×JobRow):ℕ ×ₗ ℕ:=toLex (e.2.createdAt,e.1)

/-- The pending jobs that are due, without the rows that other transactions have locked. -/
def dueJobs (skipped:List JobId):List (JobId×JobRow):=
 s.jobs.entries.filter fun e=>e.2.status=.pending&&decide (e.2.scheduledAt ≤ s.now)&&
  !decide (e.1∈skipped)

def nextJob (skipped:List JobId):Option (JobId×JobRow):=
 ((dueJobs s skipped).insertionSort fun a b=>queueOrder a≤queueOrder b).head?
def claimRow (now:Instant)(row:JobRow):JobRow:=
 {row with status:=.running,attempts:=row.attempts+1,startedAt:=some now}
/-- The code reads the clock just before the statement; here one step does both. -/
def claimNextJob (skipped:List JobId):Option (JobClaim×Dict JobId JobRow):=
 (nextJob s skipped).map fun e=>
  (⟨e.1,e.2.kind,e.2.payload,e.2.attempts+1,s.now⟩,s.jobs.set e.1 (claimRow s.now e.2))

/-- The row of a remediation claim, while the claim is still the current one. -/
def lockClaimedJob (claim:JobClaim):Option JobRow:=
 (s.jobs.get claim.id).filter fun row=>
  row.kind=.deviceHealthRemediation&&row.status=.running&&row.attempts=claim.attempts

def endRow (status:JobStatus)(row:JobRow):JobRow:=
 {row with status:=status,snapshotStatus:=status}

/-- The unit of work writes the status only when it differs from the one read. -/
def publishRow (loaded remembered:JobStatus)(row:JobRow):JobRow:=
 { row with
   status:=if loaded=remembered then row.status else remembered
   snapshotStatus:=remembered }

def setJob (id:JobId)(row:JobRow):State:={s with jobs:=s.jobs.set id row}
def setPhase (w:WorkerId)(phase:WorkerPhase):State:={s with workers:=s.workers.set w phase}

/-- The device has left the failure that the job was made for. -/
def superseded (payload:RemediationPayload)(health:DeviceHealth):Bool:=
 health.checksHealthy≠some false||health.failureEpisode≠some payload.failureEpisode
end

section
variable (s:State)(w:WorkerId)

def startWorker:Option State:=
 match s.workers.get w with
 | none=>some (setPhase s w (.starting s.now staleKinds none))
 | some _=>none

def resetRead (readAt:Instant):Option State:=
 match s.workers.get w with
 | some (.starting since (kind::kinds) none)=>
  if since≤readAt∧readAt ≤ s.now then
   some (setPhase s w (.starting since (kind::kinds) (some (staleRows s kind readAt))))
  else none
 | _=>none

def resetWrite:Option State:=
 match s.workers.get w with
 | some (.starting since (_::kinds) (some selected))=>
  some { s with
   jobs:=resetRows s selected
   workers:=s.workers.set w (if kinds=[] then .polling else .starting since kinds none) }
 | _=>none

/-- `run_pending_once`; nothing to do leaves the worker polling. -/
def runPendingOnce (skipped:List JobId):Option State:=
 match s.workers.get w with
 | some .polling=>
  match claimNextJob s skipped with
  | none=>some s
  | some (claim,jobs)=>
   some {s with jobs:=jobs,workers:=s.workers.set w (.executing ⟨claim,none,none,false⟩)}
 | _=>none

def executionOf:Option Execution:=
 match s.workers.get w with
 | some (.executing e)=>some e
 | _=>none

/-- `_load_persisted_job`: the runner remembers the status of the snapshot. -/
def load:Option State:=do
 let e ←executionOf s w
 let row ←s.jobs.get e.claim.id
 if e.claim.kind=.deviceVerification∧e.remembered=none then
  some (setPhase s w (.executing {e with remembered:=some row.snapshotStatus,loaded:=none}))
 else none

/-- `set_stage` up to the read of `publish`. -/
def stage:Option State:=do
 let e ←executionOf s w
 let row ←s.jobs.get e.claim.id
 let remembered ←e.remembered
 if e.claim.kind=.deviceVerification then
  some (setPhase s w (.executing
   { e with
     remembered:=some (if remembered=.pending then .running else remembered)
     loaded:=some row.status }))
 else none

/-- The end of a verification, and the last write of the runners without a fence, up to the read. -/
def finish (status:JobStatus):Option State:=do
 let e ←executionOf s w
 let row ←s.jobs.get e.claim.id
 if isTerminal status∧e.claim.kind ≠ .deviceHealthRemediation∧
   (e.claim.kind=.deviceVerification→e.remembered.isSome) then
  some (setPhase s w (.executing {e with remembered:=some status,loaded:=some row.status}))
 else none

def commit:Option State:=do
 let e ←executionOf s w
 let row ←s.jobs.get e.claim.id
 let remembered ←e.remembered
 let loaded ←e.loaded
 some (setPhase (setJob s e.claim.id (publishRow loaded remembered row)) w
  (.executing {e with loaded:=none}))

/-- `_prepare` of the remediation runner: every exit that does not dispatch ends the job in place, and a
lost claim ends nothing. -/
def prepare (budget:Bool):Option State:=do
 let e ←executionOf s w
 let payload ←e.claim.payload
 if e.claim.kind=.deviceHealthRemediation∧e.dispatched=false then
  match lockClaimedJob s e.claim with
  | none=>some (setPhase s w .polling)
  | some row=>
   match s.devices.get payload.deviceId with
   | none=>some (setPhase (setJob s e.claim.id (endRow .completed row)) w .polling)
   | some health=>
    if health.inMaintenance||superseded payload health||!payload.repeatSafe||!budget then
     some (setPhase (setJob s e.claim.id (endRow .completed row)) w .polling)
    else some (setPhase s w (.executing {e with dispatched:=true}))
 else none

/-- `_finalize`: a result that has become stale leaves the row as it is. -/
def finalize:Option State:=do
 let e ←executionOf s w
 let payload ←e.claim.payload
 if e.claim.kind=.deviceHealthRemediation∧e.dispatched then
  match lockClaimedJob s e.claim,s.devices.get payload.deviceId with
  | some row,some health=>
   if superseded payload health then some (setPhase s w .polling)
   else some (setPhase (setJob s e.claim.id (endRow .completed row)) w .polling)
  | _,_=>some (setPhase s w .polling)
 else none

def failClaim:Option State:=do
 let e ←executionOf s w
 if e.claim.kind=.deviceHealthRemediation then
  match lockClaimedJob s e.claim with
  | none=>some (setPhase s w .polling)
  | some row=>some (setPhase (setJob s e.claim.id (endRow .failed row)) w .polling)
 else none

/-- The finalisation of a teardown or of a session kill completes the locked row unless it is finished. -/
def closeLocked (id:JobId):Option State:=do
 let row ←s.jobs.get id
 if (row.kind=.runSessionTeardown∨row.kind=.sessionKill)∧isTerminal row.status=false then
  some (setJob s id (endRow .completed row))
 else none

def leave:Option State:=do
 let e ←executionOf s w
 let row ←s.jobs.get e.claim.id
 if (e.remembered.any isTerminal∧e.loaded=none)∨
   ((e.claim.kind=.runSessionTeardown∨e.claim.kind=.sessionKill)∧isTerminal row.status) then
  some (setPhase s w .polling)
 else none

def abort:Option State:=do
 let _ ←executionOf s w
 some (setPhase s w .polling)
end

def step (s:State):Label→Option State
 | .tick now=>if s.now≤now then some {s with now:=now} else none
 | .setDevice id (some health)=>some {s with devices:=s.devices.set id health}
 | .setDevice id none=>some {s with devices:=s.devices.pop id}
 | .enqueue id kind payload scheduledAt=>
  match s.jobs.get id with
  | none=>some (setJob s id ⟨kind,.pending,.pending,payload,0,scheduledAt,s.now,none⟩)
  | some _=>none
 | .start w=>startWorker s w
 | .resetRead w readAt=>resetRead s w readAt
 | .resetWrite w=>resetWrite s w
 | .poll w skipped=>runPendingOnce s w skipped
 | .load w=>load s w
 | .stage w=>stage s w
 | .finish w status=>finish s w status
 | .commit w=>commit s w
 | .prepare w budget=>prepare s w budget
 | .finalize w=>finalize s w
 | .failClaim w=>failClaim s w
 | .closeLocked id=>closeLocked s id
 | .leave w=>leave s w
 | .abort w=>abort s w
 | .crash w=>if (s.workers.get w).isSome then some {s with workers:=s.workers.pop w} else none
end GridFleet.JobQueue
