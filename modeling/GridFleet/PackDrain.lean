import GridFleet.ReservationGate
import GridFleet.RowLocks
import GridFleet.RunTeardown
/-! An operator takes a pack out of service, and a settle check disables it once its devices have no work
left. Statements run under READ COMMITTED: each reads what is committed when it starts, with its own
transaction's writes. One that finds its row locked waits, and so does one that has raised, until its
transaction is rolled back. -/
namespace GridFleet.PackDrain
open SessionLifecycle (TxId isLive isOpen ended terminalStatus)
open ReservationGate (Ticket isTerminal reservationActive reservationOf)
open Readiness (Catalog loadPackCatalog assessDeviceWithPack)
open RunTeardown (RunTeardownKind)
open RowLocks

abbrev PackId:=String

inductive PackState where
 | enabled | draining | disabled
 deriving DecidableEq

structure DriverPack extends Readiness.PackView where
 state:PackState

structure DeviceRequirement where
 packId:PackId
 platformId:String
 osVersion:Option String

structure Run where
 state:RunState
 requirements:List DeviceRequirement

structure Tables where
 packs:Dict PackId DriverPack
 devices:Dict DeviceId Device
 sessions:Dict RowId Session
 runs:Dict RunId Run
 reservations:Dict RowId DeviceReservation

section
variable (t:Tables)

def packOf (device:DeviceId):Option PackId:=(t.devices.get device).map Device.packId
def onPack (pack:PackId)(device:DeviceId):Bool:=packOf t device=some pack
def packState (pack:PackId):Option PackState:=(t.packs.get pack).map DriverPack.state
def liveSessionExists (device:DeviceId):Bool:=
 t.sessions.entries.any fun e=>isLive e.2&&e.2.deviceId=some device
def activeReservationExists (device:DeviceId):Bool:=
 t.reservations.entries.any fun e=>reservationActive e.2&&e.2.deviceId=device

def runsWithReservations (pack:PackId):List RunId:=
 (t.runs.entries.filter fun run=>!isTerminal run.2.state&&
  t.reservations.entries.any fun res=>res.2.runId=run.1&&reservationActive res.2&&
   onPack t pack res.2.deviceId).map Prod.fst
def runsWithRequirements (pack:PackId):List RunId:=
 (t.runs.entries.filter fun run=>(run.2.state=.pending||run.2.state=.preparing)&&
  run.2.requirements.any fun req=>req.packId=pack).map Prod.fst

structure ActiveWork where
 activeRuns:ℕ
 liveSessions:ℕ

/-- A run that reaches the pack both ways is counted once. -/
def countActiveWorkForPack (pack:PackId):ActiveWork where
 activeRuns:=(runsWithReservations t pack ∪ runsWithRequirements t pack).length
 liveSessions:=(t.sessions.entries.filter fun e=>
  isLive e.2&&e.2.deviceId.any (onPack t pack)).length

def catalog (packIds:List PackId):Catalog:=
 loadPackCatalog (Dict.ofList (t.packs.entries.map fun e=>(e.1,e.2.toPackView))) packIds

/-- Readiness never looks at the state of the pack. -/
def isReady (packs:Catalog)(device:DeviceId):Bool:=
 (t.devices.get device).any fun row=>
  (assessDeviceWithPack row (packs.get row.packId)).readinessState=.verified

inductive RunnableError where
 | packUnavailable | packDisabled | packDraining | platformRemoved

def evaluateRunnable (pack:Option DriverPack)(platformId:String):Option RunnableError:=
 match pack with
 | none=>some .packUnavailable
 | some pack=>
  match pack.state with
  | .disabled=>some .packDisabled
  | .draining=>some .packDraining
  | .enabled=>
   let release:=ReleaseOrdering.selectedRelease Readiness.PackReleaseView.release pack.releases
    pack.currentRelease
   if release.any fun r=>r.platforms.any fun row=>row.manifestPlatformId=platformId then none
   else some .platformRemoved

def matchesRequirement (device:DeviceId)(req:DeviceRequirement):Bool:=
 (t.devices.get device).any fun row=>row.packId=req.packId&&row.platformId=req.platformId&&
  req.osVersion.all fun version=>version = "" || row.osVersion=version
end

/-- How a run ends: completed by its client, or torn down with the sessions whose `DELETE` succeeded. -/
inductive Ending where
 | complete
 | teardown (kind:RunTeardownKind)(terminated:List RowId)
 deriving DecidableEq

def Ending.state:Ending→RunState
 | complete=>.completed
 | teardown .cancel _ | teardown .forceRelease _=>.cancelled
 | teardown .expire _=>.expired
def Ending.closeSessionIds:Ending→Option (List RowId)
 | complete=>none
 | teardown _ terminated=>some terminated

def released (release:Instant×Option String)(res:DeviceReservation):DeviceReservation:=
 { res with
   releasedAt:=some release.1
   excluded:=false
   exclusionKind:=none
   excludedUntil:=none
   exclusionReason:=release.2.or res.exclusionReason }

/-- The changes of a transaction that closes, releases or moves packs. `settled`: the packs that its
settle check found idle and disabled. -/
structure Writes where
 packs:Dict PackId PackState
 sessions:Dict RowId (SessionStatus×Instant)
 runs:Dict RunId Ending
 reservations:Dict RowId (Instant×Option String)
 settled:List PackId

def Writes.none:Writes:=⟨.empty,.empty,.empty,.empty,[]⟩
def Writes.view (w:Writes)(t:Tables):Tables where
 packs:=overlay t.packs w.packs fun state pack=>{pack with state:=state}
 devices:=t.devices
 sessions:=overlay t.sessions w.sessions fun close row=>ended row close.1 close.2
 runs:=overlay t.runs w.runs fun ending run=>{run with state:=ending.state}
 reservations:=overlay t.reservations w.reservations released

inductive Row where
 | pack (id:PackId)
 | device (id:DeviceId)
 | session (id:RowId)
 | run (id:RunId)
 deriving DecidableEq

inductive Statement where
 | lockDevice (device:DeviceId)
 | closeRunningSession (id:RowId)(now:Instant)
 | closeRunningSessionLocked (id:RowId)(statusOverride:Option SessionStatus)(now:Instant)
 | terminalizeSessionWithoutDevice (id:RowId)(now:Instant)
 | fail (id:RowId)(now:Instant)
 | failPending (id:RowId)(now:Instant)
 | releaseLocked (device:DeviceId)(reason:String)(now:Instant)
 | lockRun (run:RunId)(ending:Ending)(now:Instant)
 | endRun (run:RunId)(ending:Ending)(now:Instant)
 | closeRunSessions (run:RunId)(closeSessionIds:Option (List RowId))(now:Instant)
 | releaseDevices (run:RunId)(now:Instant)
 | completeDrainIfDraining (pack:PackId)
 | tryCompleteDrain (pack:PackId)
 /-- The two readings of `_drain_settled`; `otherwise` is the state written when work is left. -/
 | drainSettled (pack:PackId)(otherwise:Option PackState)
 | drainRecheck (pack:PackId)(otherwise:Option PackState)
 | completeDrainingPacks
 | transitionPack (pack:PackId)(target:PackState)

inductive ClaimStage where
 | matching
 | candidates (rows:List DeviceId)(packs:Catalog)
 | locked (device:DeviceId)(rest:List DeviceId)(packs:Catalog)
 | inserted (session:Session)

inductive RunStage where
 | packs
 | candidates (packs:Catalog)
 | selected (picked:List DeviceId)(packs:Catalog)
 | locked (ready:List DeviceId)
 | inserted (run:RunId)(reservations:List (RowId×DeviceReservation))

inductive Work where
 | claim (ticket:Ticket)(stage:ClaimStage)
 | createRun (requirements:List DeviceRequirement)(stage:RunStage)
 | program (rest:List Statement)(writes:Writes)

structure Tx where
 locks:List (Row×Mode)
 work:Work

/-- `nextTx` numbers the transactions in the order they start. -/
structure State where
 tables:Tables
 txs:Dict TxId Tx
 nextTx:TxId

def init (packs:Dict PackId DriverPack)(devices:Dict DeviceId Device):State:=
 ⟨⟨packs,devices,.empty,.empty,.empty⟩,.empty,0⟩

inductive Operation where
 | allocate (ticket:Ticket)
 | createRun (requirements:List DeviceRequirement)
 | transition (pack:PackId)(target:PackState)
 | completeDrainingPacksOnce
 | closeSession (id:RowId)(now:Instant)
 | finalizePreemption (id:RowId)(device:DeviceId)(now:Instant)
 | failAllocation (id:RowId)(now:Instant)
 | endRun (run:RunId)(ending:Ending)(now:Instant)
 | releaseReservation (device:DeviceId)(reason:String)(now:Instant)

def Operation.work:Operation→Work
 | allocate ticket=>.claim ticket .matching
 | createRun requirements=>.createRun requirements .packs
 | transition pack target=>.program [.transitionPack pack target] .none
 | completeDrainingPacksOnce=>.program [.completeDrainingPacks] .none
 | closeSession id now=>.program [.closeRunningSession id now] .none
 | finalizePreemption id device now=>
  .program [.lockDevice device,.closeRunningSessionLocked id (some .error) now] .none
 | failAllocation id now=>.program [.fail id now] .none
 | endRun run ending now=>.program [.lockRun run ending now] .none
 | releaseReservation device reason now=>
  .program [.lockDevice device,.releaseLocked device reason now] .none

section
variable (s:State)(tx:TxId)(locks:List (Row×Mode))(w:Writes)

def acquire (row:Row)(mode:Mode):Option (List (Row×Mode)):=
 if grantable Tx.locks s.txs tx row mode then some ((row,mode)::locks) else none

structure Progress where
 locks:List (Row×Mode)
 first:List Statement
 writes:Writes

def closing (id:RowId)(status:SessionStatus)(now:Instant):Writes:=
 {w with sessions:=w.sessions.set id (status,now)}

/-- The devices of a run, in the order they are locked. -/
def runDevices (t:Tables)(run:RunId):List DeviceId:=
 let ids:=(t.reservations.entries.filter fun e=>e.2.runId=run).map fun e=>e.2.deviceId
 (ids.dedup.filter fun id=>(t.devices.get id).isSome).insertionSort (· ≤ ·)

def runPacks (t:Tables)(run:RunId):List PackId:=
 ((runDevices t run).filterMap (packOf t)).dedup.insertionSort (· ≤ ·)

/-- The close of a run ends its live rows on locked devices; with a set of ids, only those of the
running rows. -/
def closes (t:Tables)(run:RunId)(closeSessionIds:Option (List RowId))(id:RowId)(row:Session):Bool:=
 row.runId=some run&&isLive row&&row.deviceId.any (fun d=>d∈runDevices t run)&&
  !(closeSessionIds.any fun ids=>decide (row.status=.running)&&decide (id ∉ ids))

def releasable (t:Tables)(run:RunId):List RowId:=
 (t.reservations.entries.filter fun e=>e.2.runId=run&&reservationActive e.2&&
  (t.devices.get e.2.deviceId).isSome).map Prod.fst
def releasing (ids:List RowId)(release:Instant×Option String):Writes:=
 {w with reservations:=ids.foldl (fun d id=>d.set id release) w.reservations}
def movingPack (pack:PackId)(state:PackState):Writes:=
 {w with packs:=w.packs.set pack state}
def settling (pack:PackId):Writes:=
 {movingPack w pack .disabled with settled:=pack::w.settled}

def validTransitions:PackState→List PackState
 | .enabled=>[.draining,.disabled]
 | .draining=>[.enabled,.disabled]
 | .disabled=>[.enabled]
def isIdle (work:ActiveWork):Bool:=work.activeRuns=0&&work.liveSessions=0
def closeStatus (t:Tables)(row:Session)(statusOverride:Option SessionStatus):SessionStatus:=
 statusOverride.getD (terminalStatus ((row.runId.bind t.runs.get).map Run.state))
def unsettled (pack:PackId):Option PackState→Writes
 | none=>w
 | some state=>movingPack w pack state

def exec:Statement→Option Progress
 | .lockDevice device=>(acquire s tx locks (.device device) .update).map fun l=>⟨l,[],w⟩
 | .closeRunningSession id now=>
  ((w.view s.tables).sessions.get id).map fun row=>
   match row.deviceId.filter fun d=>(s.tables.devices.get d).isSome with
   | none=>⟨locks,[.terminalizeSessionWithoutDevice id now],w⟩
   | some device=>⟨locks,[.lockDevice device,.closeRunningSessionLocked id none now],w⟩
 | .closeRunningSessionLocked id statusOverride now=>
  (acquire s tx locks (.session id) .update).map fun l=>
   match (w.view s.tables).sessions.get id with
   | none=>⟨l,[],w⟩
   | some row=>
    if isOpen row then
     ⟨l,((row.deviceId.bind (packOf s.tables)).map .completeDrainIfDraining).toList,
      closing w id (closeStatus (w.view s.tables) row statusOverride) now⟩
    else ⟨l,[],w⟩
 | .terminalizeSessionWithoutDevice id now=>
  (acquire s tx locks (.session id) .update).map fun l=>
   match (w.view s.tables).sessions.get id with
   | none=>⟨l,[],w⟩
   | some row=>
    if isOpen row then ⟨l,[],closing w id (closeStatus (w.view s.tables) row none) now⟩
    else ⟨l,[],w⟩
 | .fail id now=>
  some (match (w.view s.tables).sessions.get id with
   | none=>⟨locks,[],w⟩
   | some row=>⟨locks,(row.deviceId.map .lockDevice).toList++[.failPending id now],w⟩)
 | .failPending id now=>
  (acquire s tx locks (.session id) .update).map fun l=>
   match (w.view s.tables).sessions.get id with
   | none=>⟨l,[],w⟩
   | some row=>if row.status=.pending then ⟨l,[],closing w id .error now⟩ else ⟨l,[],w⟩
 | .releaseLocked device reason now=>
  some ⟨locks,[],releasing w (((w.view s.tables).reservations.entries.filter fun e=>
   reservationActive e.2&&e.2.deviceId=device).map Prod.fst) (now,some reason)⟩
 | .lockRun run ending now=>
  (acquire s tx locks (.run run) .update).bind fun l=>
   match (w.view s.tables).runs.get run,ending with
   | some row,ending=>
    if !isTerminal row.state then
     some ⟨l,(runDevices (w.view s.tables) run).map .lockDevice++[.endRun run ending now],w⟩
    else if ending=.complete then none
    else some ⟨l,[],w⟩
   | none,.complete=>none
   | none,.teardown ..=>some ⟨l,[],w⟩
 | .endRun run ending now=>
  ((w.view s.tables).runs.get run).map fun _=>
   ⟨locks,[.closeRunSessions run ending.closeSessionIds now,.releaseDevices run now],
    {w with runs:=w.runs.set run ending}⟩
 | .closeRunSessions run closeSessionIds now=>
  let t:=w.view s.tables
  some ⟨locks,(t.sessions.entries.filter fun e=>closes t run closeSessionIds e.1 e.2).map
   fun e=>.closeRunningSessionLocked e.1 none now,w⟩
 | .releaseDevices run now=>
  let t:=w.view s.tables
  if releasable t run=[] then some ⟨locks,[],w⟩
  else some ⟨locks,(runPacks t run).map .completeDrainIfDraining,
   releasing w (releasable t run) (now,none)⟩
 | .completeDrainIfDraining pack=>
  -- the pre-check reads the pack without locking it
  if packState (w.view s.tables) pack=some .draining then some ⟨locks,[.tryCompleteDrain pack],w⟩
  else some ⟨locks,[],w⟩
 | .tryCompleteDrain pack=>
  (acquire s tx locks (.pack pack) .update).bind fun l=>
   (packState (w.view s.tables) pack).map fun state=>
    if state=.draining then ⟨l,[.drainSettled pack none],w⟩ else ⟨l,[],w⟩
 | .drainSettled pack otherwise=>
  if isIdle (countActiveWorkForPack (w.view s.tables) pack) then
   some ⟨locks,[.drainRecheck pack otherwise],w⟩
  else some ⟨locks,[],unsettled w pack otherwise⟩
 | .drainRecheck pack otherwise=>
  if isIdle (countActiveWorkForPack (w.view s.tables) pack) then some ⟨locks,[],settling w pack⟩
  else some ⟨locks,[],unsettled w pack otherwise⟩
 | .completeDrainingPacks=>
  let ids:=((w.view s.tables).packs.entries.filter fun e=>e.2.state=.draining).map Prod.fst
  some ⟨locks,(ids.insertionSort (· ≤ ·)).map .tryCompleteDrain,w⟩
 | .transitionPack pack target=>
  (acquire s tx locks (.pack pack) .update).bind fun l=>
   (packState (w.view s.tables) pack).bind fun current=>
    if target=.disabled∧current=.enabled then
     some ⟨l,[.drainSettled pack (some .draining)],w⟩
    else if target∈validTransitions current then some ⟨l,[],movingPack w pack target⟩
    else none
end

inductive Label where
 | begin (operation:Operation)
 /-- The matching pass of a grid claim. `devices`: the rows that pass the gates which do not concern the
 pack (availability, node, reservation owner, groups, capabilities, older waiters). -/
 | matchPass (tx:TxId)(devices:List DeviceId)
 /-- The lock on the next candidate; `holds`: the same gates inside the lock query. -/
 | lockCandidate (tx:TxId)(holds:Bool)
 /-- The rechecks on the locked row; `holds`: group membership and the node's address. -/
 | recheck (tx:TxId)(holds:Bool)(id:RowId)(marker:String)
 | sharePacks (tx:TxId)
 /-- Candidate selection of a run creation; `devices` pass the gates outside the pack. -/
 | selectDevices (tx:TxId)(devices:List DeviceId)
 | lockSelected (tx:TxId)(holding:List DeviceId)
 /-- `kept`: what the requirements take of the locked devices. -/
 | insertRun (tx:TxId)(run:RunId)(kept:List DeviceId)(firstId:RowId)(now:Instant)
 | exec (tx:TxId)
 | commit (tx:TxId)
 | rollback (tx:TxId)
 | touchDevice (device:DeviceId)(row:Device)

section
variable (s:State)(tx:TxId)(locks:List (Row×Mode))

def matchPass (ticket:Ticket)(devices:List DeviceId):Tx:=
 let packs:=catalog s.tables (devices.filterMap (packOf s.tables))
 ⟨locks,.claim ticket (.candidates (devices.filter fun d=>
  isReady s.tables packs d&&!liveSessionExists s.tables d) packs)⟩
def lockCandidate (ticket:Ticket)(device:DeviceId)(rest:List DeviceId)(packs:Catalog)
 (holds:Bool):Option Tx:=
 if holds then
  (acquire s tx locks (.device device) .update).map fun l=>
   ⟨l,.claim ticket (.locked device rest packs)⟩
 else some ⟨locks,.claim ticket (.candidates rest packs)⟩

/-- The readiness of the locked row is assessed against the catalog of the matching pass. -/
def recheck (ticket:Ticket)(device:DeviceId)(rest:List DeviceId)(packs:Catalog)
 (holds:Bool)(id:RowId)(marker:String):Tx:=
 if isReady s.tables packs device&&holds&&!liveSessionExists s.tables device then
  ⟨locks,.claim ticket (.inserted
   { id:=id,sessionId:=marker,deviceId:=some device,testName:=ticket.testName,
     status:=.pending,endedAt:=none,ticketId:=some ticket.id,runId:=ticket.runId })⟩
 else ⟨locks,.claim ticket (.candidates rest packs)⟩

/-- Step 2 of `_batch_select_devices`: the packs are locked in share mode, then checked. -/
def sharePacks (requirements:List DeviceRequirement):Option Tx:=
 let ids:=(requirements.map DeviceRequirement.packId).dedup.insertionSort (· ≤ ·)
 if ids.all (fun id=>grantable Tx.locks s.txs tx (.pack id) .share)&&
   requirements.all (fun req=>
    evaluateRunnable (s.tables.packs.get req.packId) req.platformId=none) then
  some ⟨ids.map (fun id=>(.pack id,.share))++locks,
   .createRun requirements (.candidates (catalog s.tables ids))⟩
 else none

def selectDevices (requirements:List DeviceRequirement)(packs:Catalog)(devices:List DeviceId):Tx:=
 ⟨locks,.createRun requirements (.selected (devices.filter fun d=>
  requirements.any (matchesRequirement s.tables d)&&isReady s.tables packs d&&
   !activeReservationExists s.tables d) packs)⟩

/-- `FOR UPDATE OF devices SKIP LOCKED`: a row another transaction holds is left out. -/
def lockSelected (requirements:List DeviceRequirement)(picked:List DeviceId)(packs:Catalog)
 (holding:List DeviceId):Tx:=
 let rows:=picked.filter fun d=>d∈holding&&!activeReservationExists s.tables d&&
  grantable Tx.locks s.txs tx (.device d) .update
 ⟨rows.map (fun d=>(.device d,.update))++locks,
  .createRun requirements (.locked (rows.filter (isReady s.tables packs)))⟩

def insertRun (requirements:List DeviceRequirement)(ready:List DeviceId)(run:RunId)
 (kept:List DeviceId)(firstId:RowId)(now:Instant):Option Tx:=
 if kept.Nodup∧∀d∈kept,d∈ready then
  some ⟨locks,.createRun requirements (.inserted run
   ((kept.zipIdx firstId).map fun e=>(e.2,reservationOf run now e.2 e.1)))⟩
 else none
end

def commit (t:Tables):Work→Option Tables
 | .claim _ (.inserted session)=>
  if t.sessions.get session.id=none then
   some {t with sessions:=t.sessions.set session.id session}
  else none
 | .claim _ (.candidates [] _)=>some t
 | .createRun requirements (.inserted run reservations)=>
  if t.runs.get run=none∧∀e∈reservations,t.reservations.get e.1=none then
   some { t with
    runs:=t.runs.set run ⟨.preparing,requirements⟩
    reservations:=reservations.foldl (fun d e=>d.set e.1 e.2) t.reservations }
  else none
 | .program [] writes=>some (writes.view t)
 | .claim _ _ | .createRun _ _ | .program _ _=>none

def move (s:State)(label:Label)(tx:TxId)(x:Tx):Option Tx:=
 match label,x.work with
 | .matchPass _ devices,.claim ticket .matching=>some (matchPass s x.locks ticket devices)
 | .lockCandidate _ holds,.claim ticket (.candidates (device::rest) packs)=>
  lockCandidate s tx x.locks ticket device rest packs holds
 | .recheck _ holds id marker,.claim ticket (.locked device rest packs)=>
  some (recheck s x.locks ticket device rest packs holds id marker)
 | .sharePacks _,.createRun requirements .packs=>sharePacks s tx x.locks requirements
 | .selectDevices _ devices,.createRun requirements (.candidates packs)=>
  some (selectDevices s x.locks requirements packs devices)
 | .lockSelected _ holding,.createRun requirements (.selected picked packs)=>
  some (lockSelected s tx x.locks requirements picked packs holding)
 | .insertRun _ run kept firstId now,.createRun requirements (.locked ready)=>
  insertRun x.locks requirements ready run kept firstId now
 | .exec _,.program (statement::rest) writes=>
  (exec s tx x.locks writes statement).map fun progress=>
   ⟨progress.locks,.program (progress.first++rest) progress.writes⟩
 | _,_=>none

def Label.tx:Label→Option TxId
 | .matchPass tx _ | .lockCandidate tx _ | .recheck tx _ _ _ | .sharePacks tx | .selectDevices tx _
 | .lockSelected tx _ | .insertRun tx _ _ _ _ | .exec tx=>some tx
 | .begin _ | .commit _ | .rollback _ | .touchDevice _ _=>none

def step (s:State)(label:Label):Option State:=
 match label with
 | .begin operation=>
  some {s with txs:=s.txs.set s.nextTx ⟨[],operation.work⟩,nextTx:=s.nextTx+1}
 | .commit tx=>
  (s.txs.get tx).bind fun x=>(commit s.tables x.work).map fun t=>
   {s with tables:=t,txs:=s.txs.pop tx}
 | .rollback tx=>(s.txs.get tx).map fun _=>{s with txs:=s.txs.pop tx}
 | .touchDevice device row=>
  if packOf s.tables device=some row.packId∧
    s.txs.entries.all fun e=>(.device device,.update) ∉ e.2.locks then
   some { s with tables:={s.tables with devices:=s.tables.devices.set device row} }
  else none
 | label=>
  label.tx.bind fun tx=>(s.txs.get tx).bind fun x=>
   (move s label tx x).map fun x'=>{s with txs:=s.txs.set tx x'}

def ClaimStage.devices:ClaimStage→List DeviceId
 | .matching=>[]
 | .candidates rows _=>rows
 | .locked device rest _=>device::rest
 | .inserted session=>session.deviceId.toList
def claims (t:Tables)(x:Tx)(pack:PackId):Bool:=
 match x.work with
 | .claim _ stage=>stage.devices.any (onPack t pack)
 | .createRun _ _ | .program _ _=>false

def LiveOn (t:Tables)(pack:PackId)(id:RowId):Prop:=
 ∃row,t.sessions.get id=some row∧isLive row∧row.deviceId.any (onPack t pack)
def HeldOn (t:Tables)(pack:PackId)(id:RowId)(run:RunId):Prop:=
 ∃res,t.reservations.get id=some res∧reservationActive res∧
  onPack t pack res.deviceId∧res.runId=run
def Idle (t:Tables)(pack:PackId):Prop:=
 (∀id,¬LiveOn t pack id)∧∀id run,¬HeldOn t pack id run

/-- A commit that brings no live session and no active reservation to the pack's devices. -/
def NoNewWork (pack:PackId)(t t':Tables):Prop:=
 (∀id,LiveOn t' pack id→LiveOn t pack id)∧
  ∀id run,HeldOn t' pack id run→HeldOn t pack id run

def OutOfService (t:Tables)(pack:PackId):Prop:=
 ∃state,packState t pack=some state∧state ≠ .enabled
def Settles (s:State)(tx:TxId)(pack:PackId):Prop:=
 ∃locks rest writes,s.txs.get tx=some ⟨locks,.program rest writes⟩∧pack∈writes.settled
def rechecked:Work→Option PackId
 | .program (.drainRecheck pack _::_) _=>some pack
 | _=>none

/-- A matching pass finds the packs of its devices enabled and not locked by a pack transaction; a settle
check reads for the second time when no grid claim has a device of the pack in hand. -/
def Screened (s:State):Label→Prop
 | .matchPass _ devices=>∀device∈devices,∀pack∈(packOf s.tables device).toList,
   packState s.tables pack=some .enabled∧
    ∀e∈s.txs.entries,(Row.pack pack,Mode.update) ∉ e.2.locks
 | .exec tx=>∀pack∈((s.txs.get tx).bind fun x=>rechecked x.work).toList,
   ∀e∈s.txs.entries,claims s.tables e.2 pack=false
 | .begin _ | .lockCandidate _ _ | .recheck _ _ _ _ | .sharePacks _ | .selectDevices _ _
 | .lockSelected _ _ | .insertRun _ _ _ _ _ | .commit _ | .rollback _ | .touchDevice _ _=>True

instance (s:State):(label:Label)→Decidable (Screened s label)
 | .matchPass _ devices=>inferInstanceAs (Decidable (∀device∈devices,
   ∀pack∈(packOf s.tables device).toList,packState s.tables pack=some .enabled∧
    ∀e∈s.txs.entries,(Row.pack pack,Mode.update) ∉ e.2.locks))
 | .exec tx=>inferInstanceAs (Decidable
   (∀pack∈((s.txs.get tx).bind fun x=>rechecked x.work).toList,
    ∀e∈s.txs.entries,claims s.tables e.2 pack=false))
 | .begin _ | .lockCandidate _ _ | .recheck _ _ _ _ | .sharePacks _ | .selectDevices _ _
 | .lockSelected _ _ | .insertRun _ _ _ _ _ | .commit _ | .rollback _ | .touchDevice _ _=>
  isTrue trivial
end GridFleet.PackDrain
