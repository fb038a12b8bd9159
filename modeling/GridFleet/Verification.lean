import GridFleet.ReleaseRollout
import GridFleet.SessionLifecycle
/-! A verification runs through separate transactions with remote calls in between. Each one locks the
device row, so a transaction is one step here; between two of them operators, grid claims, reconciles
and other verifications of the device run theirs. -/
namespace GridFleet.Verification
open Decision DecisionSnapshot IntentReconciler IntentStore ReleaseRollout
open SessionLifecycle (isLive isOpen ended ProbeResult mapProbeResultToStatus)
open StateProjection (isMasking isOpenLease probeTestName)

/-- The text of a uuid, as the lease payload holds it. -/
abbrev OpId:=String

inductive Mode where
 | create | update
 deriving DecidableEq

/-- A payload over the device columns; a missing key leaves its column alone. -/
structure DeviceFields where
 packId:Option String
 platformId:Option String
 identityScheme:Option String
 identityScope:Option IdentityScope
 identityValue:Option String
 connectionTarget:Option (Option String)
 name:Option String
 hostId:Option HostId
 osVersion:Option String
 osVersionDisplay:Option (Option String)
 manufacturer:Option (Option String)
 model:Option (Option String)
 modelNumber:Option (Option String)
 softwareVersions:Option (Option JsonObject)
 deviceType:Option DeviceType
 connectionType:Option ConnectionType
 ipAddress:Option (Option String)
 deviceConfig:Option (Option JsonObject)

namespace DeviceFields

def none:DeviceFields:=
 ⟨.none,.none,.none,.none,.none,.none,.none,.none,.none,.none,.none,.none,.none,.none,.none,.none,
  .none,.none⟩

def original (payload:DeviceFields)(device:Device):DeviceFields where
 packId:=payload.packId.map fun _=>device.packId
 platformId:=payload.platformId.map fun _=>device.platformId
 identityScheme:=payload.identityScheme.map fun _=>device.identityScheme
 identityScope:=payload.identityScope.map fun _=>device.identityScope
 identityValue:=payload.identityValue.map fun _=>device.identityValue
 connectionTarget:=payload.connectionTarget.map fun _=>device.connectionTarget
 name:=payload.name.map fun _=>device.name
 hostId:=payload.hostId.map fun _=>device.hostId
 osVersion:=payload.osVersion.map fun _=>device.osVersion
 osVersionDisplay:=payload.osVersionDisplay.map fun _=>device.osVersionDisplay
 manufacturer:=payload.manufacturer.map fun _=>device.manufacturer
 model:=payload.model.map fun _=>device.model
 modelNumber:=payload.modelNumber.map fun _=>device.modelNumber
 softwareVersions:=payload.softwareVersions.map fun _=>device.softwareVersions
 deviceType:=payload.deviceType.map fun _=>device.deviceType
 connectionType:=payload.connectionType.map fun _=>device.connectionType
 ipAddress:=payload.ipAddress.map fun _=>device.ipAddress
 deviceConfig:=payload.deviceConfig.map fun _=>device.deviceConfig

def restore (fields:DeviceFields)(device:Device):Device:=
 { device with
   packId:=fields.packId.getD device.packId
   platformId:=fields.platformId.getD device.platformId
   identityScheme:=fields.identityScheme.getD device.identityScheme
   identityScope:=fields.identityScope.getD device.identityScope
   identityValue:=fields.identityValue.getD device.identityValue
   connectionTarget:=fields.connectionTarget.getD device.connectionTarget
   name:=fields.name.getD device.name
   hostId:=fields.hostId.getD device.hostId
   osVersion:=fields.osVersion.getD device.osVersion
   osVersionDisplay:=fields.osVersionDisplay.getD device.osVersionDisplay
   manufacturer:=fields.manufacturer.getD device.manufacturer
   model:=fields.model.getD device.model
   modelNumber:=fields.modelNumber.getD device.modelNumber
   softwareVersions:=fields.softwareVersions.getD device.softwareVersions
   deviceType:=fields.deviceType.getD device.deviceType
   connectionType:=fields.connectionType.getD device.connectionType
   ipAddress:=fields.ipAddress.getD device.ipAddress
   deviceConfig:=fields.deviceConfig.getD device.deviceConfig }
end DeviceFields

structure Tables where
 device:Option Device
 node:Option AppiumNode
 intents:IntentTable
 sessions:Dict RowId Session

def observedRunning (node:Option AppiumNode):Bool:=
 node.any fun n=>n.pid.isSome&&n.activeConnectionTarget.isSome

/-- Any live row counts, a probe's as well. -/
def deviceHasLiveSession (t:Tables):Bool:=t.sessions.entries.any fun e=>isLive e.2

def operationIdKey:String:= "operation_id"
def sessionViabilityKey:String:= "session_viability"
def operatorStopNodeSource (deviceId:DeviceId):String:= "operator:stop:node:" ++ toString deviceId
def operatorStopRecoverySource (deviceId:DeviceId):String:=
 "operator:stop:recovery:" ++ toString deviceId
def operatorStartSource (deviceId:DeviceId):String:= "operator:start:" ++ toString deviceId
def operatorStopSources (deviceId:DeviceId):List String:=
 [operatorStopNodeSource deviceId,operatorStopRecoverySource deviceId]

/-- Both time-bounded commands last for a start, a viability check and a minute. -/
def deadline (now:Instant)(startupTimeoutSec viabilityTimeoutSec:ℕ):Instant:=
 now+(startupTimeoutSec+viabilityTimeoutSec+60)*1000000

def verificationLease (deviceId:DeviceId)(operationId:OpId)(expiresAt:Instant):
 IntentRegistration where
 source:=verificationIntentSource deviceId
 kind:=.verificationStart
 payload:=(Dict.empty.set "action" (.str "start")).set operationIdKey (.str operationId)
 runId:=none
 expiresAt:=some expiresAt

def operatorStartIntent (deviceId:DeviceId)(expiresAt:Instant):IntentRegistration where
 source:=operatorStartSource deviceId
 kind:=.operatorStart
 payload:=Dict.empty.set "action" (.str "start")
 runId:=none
 expiresAt:=some expiresAt

def operatorRestartIntent (text:DatetimeText)(deviceId:DeviceId)(requestedAt:Instant)
 (windowSec:ℕ):IntentRegistration where
 source:=operatorStartSource deviceId
 kind:=.operatorStart
 payload:=(Dict.empty.set "action" (.str "start")).set restartRequestedAtKey
  (.str (text.isoformat requestedAt))
 runId:=none
 expiresAt:=some (requestedAt+windowSec*1000000)

def operatorStopIntents (deviceId:DeviceId):List IntentRegistration:=
 [{ source:=operatorStopNodeSource deviceId
    kind:=.operatorStop
    payload:=Dict.empty.set "action" (.str "stop")
    runId:=none
    expiresAt:=none },
  { source:=operatorStopRecoverySource deviceId
    kind:=.operatorRecoveryDeny
    payload:=(Dict.empty.set "allowed" (.bool false)).set "reason"
     (.str "Operator stopped the node")
    runId:=none
    expiresAt:=none }]

def recordSessionViabilityResult (status:String)(device:Device):Device:=
 { device with
   sessionViabilityStatus:=some status
   deviceConfig:=device.deviceConfig.map fun config=>config.pop sessionViabilityKey }

/-- `stopped` is written as the desired state and the observation is cleared with it. -/
def stoppedNode (node:AppiumNode):AppiumNode:=
 match writeDesiredState node ⟨.stopped,none,none, "verification"⟩ with
 | .ok (written,_)=>{written with pid:=none,activeConnectionTarget:=none}
 | .error _=>node

def stampVerificationOutcome (deviceId:DeviceId)(outcome:String)(t:IntentTable):IntentTable:=
 t.modify
  (fun row=>
   if row.source=verificationIntentSource deviceId then
    {row with payload:=row.payload.set verificationOutcomeKey (.str outcome)}
   else row)
  (fun row=>by split <;> rfl) (fun row=>by split <;> rfl)

/-- The device row goes with the rows that reference it. -/
def deleteDevice (t:Tables):Tables where
 device:=none
 node:=none
 intents:=t.intents.delete fun _=>true
 sessions:=Dict.empty

def updateSession (t:Tables)(id:RowId)(guard:Session→Bool)(set:Session→Session):Tables:=
 {t with sessions:=t.sessions.map fun k row=>if k=id∧guard row then set row else row}

/-- A claim that was lost in the meantime is not promoted. -/
def promoteToRunning (t:Tables)(id:RowId)(appiumSessionId:String):Tables:=
 updateSession t id (fun row=>row.status=.pending&&isOpen row)
  (fun row=>{row with sessionId:=appiumSessionId,status:=.running})

section
variable (text:DatetimeText)(deviceId:DeviceId)

def holdsLease (t:Tables)(operationId:OpId):Bool:=
 t.intents.rows.any fun row=>row.source=verificationIntentSource deviceId&&
  payloadGet row.payload operationIdKey=some (.str operationId)
def operatorStopActive (t:Tables)(now:Instant):Bool:=
 t.intents.rows.any fun row=>row.source=operatorStopNodeSource deviceId&&
  row.expiresAt.all fun expiry=>now<expiry

/-- What a reconcile reads: the rows here, and `facts` for everything other tables say. -/
def snapshotOf (t:Tables)(facts:DeviceDecisionSnapshot)(now:Instant):DeviceDecisionSnapshot:=
 { withIntents facts t.intents with
   hasLiveSession:=deviceHasLiveSession t
   stateFacts:=
    { facts.stateFacts with
      hasRunningSession:=t.sessions.entries.any fun e=>isMasking e.2
      hasVerificationLease:=t.intents.rows.any (isVerificationLeaseActive deviceId now) }
   nodeObservedPackRelease:=t.node.bind (·.observedPackRelease)
   nodePort:=t.node.map (·.port)
   nodeObservedRunning:=observedRunning t.node }

/-- The lock of a deleted device raises. -/
def reconcile (t:Tables)(facts:DeviceDecisionSnapshot)(now:Instant):Option Tables:=
 match t.device with
 | none=>none
 | some device=>
  match reconcileLockedDevice text device t.node (snapshotOf deviceId t facts now) now with
  | .error _=>none
  | .ok result=>some
   { t with
     device:=some {device with operationalStateLastEmitted:=result.lastEmitted}
     node:=result.node
     intents:=result.intentWrites.foldl IntentTable.applyWrite t.intents }

def registerIntentsAndReconcile (t:Tables)(intents:List IntentRegistration)
 (facts:DeviceDecisionSnapshot)(now:Instant):Option Tables:=
 (registerIntents t.intents deviceId intents).bind fun table=>
  reconcile text deviceId {t with intents:=table} facts now
def revokeIntentsAndReconcile (t:Tables)(sources:List String)(facts:DeviceDecisionSnapshot)
 (now:Instant):Option Tables:=
 reconcile text deviceId {t with intents:=sources.foldl revokeIntent t.intents} facts now

/-- The choices a node start takes from outside: whether its resources could be reserved, the first
free port, the two timeouts and what its two reconciles read. -/
structure StartChoices where
 reserved:Bool
 port:ℕ
 startupTimeoutSec:ℕ
 viabilityTimeoutSec:ℕ
 revoked:DeviceDecisionSnapshot
 registered:DeviceDecisionSnapshot

def newNode (port:ℕ):AppiumNode where
 deviceId:=deviceId
 port:=port
 pid:=none
 activeConnectionTarget:=none
 observedPackRelease:=none
 desiredState:=.stopped
 desiredPort:=none
 desiredGridRunId:=none
 acceptingNewSessions:=true
 stopPending:=false
 restartRequestedAt:=none
 healthRunning:=none

/-- The operator's stop is revoked whoever asks for the start. -/
def requestStart (t:Tables)(c:StartChoices)(now:Instant):Option Tables:=
 (revokeIntentsAndReconcile text deviceId {t with node:=some (t.node.getD (newNode deviceId c.port))}
  (operatorStopSources deviceId) c.revoked now).bind fun u=>
   registerIntentsAndReconcile text deviceId u
    [operatorStartIntent deviceId (deadline now c.startupTimeoutSec c.viabilityTimeoutSec)]
    c.registered now

/-- `none` is the refusal; nothing is committed then. -/
def startNodeTxn (t:Tables)(c:StartChoices)(now:Instant):Option Tables:=
 if observedRunning t.node||!c.reserved then none else requestStart text deviceId t c now

def writeVerificationLease (t:Tables)(operationId:OpId)
 (startupTimeoutSec viabilityTimeoutSec:ℕ)(facts:DeviceDecisionSnapshot)(now:Instant):
 Option Tables:=
 registerIntentsAndReconcile text deviceId t
  [verificationLease deviceId operationId (deadline now startupTimeoutSec viabilityTimeoutSec)] facts
  now
def stopExistingNode (t:Tables):Tables:=
 if observedRunning t.node then {t with node:=t.node.map stoppedNode} else t

/-- The node is read by the id that the start returned, if it got that far. -/
def stopVerificationNodeIfRunning (t:Tables)(nodeStarted:Bool):Tables:=
 if nodeStarted then {t with node:=t.node.map stoppedNode} else t

def finalizeSuccess (t:Tables)(payload:DeviceFields)(facts:DeviceDecisionSnapshot)
 (now:Instant):Option Tables:=
 revokeIntentsAndReconcile text deviceId
  { t with
    device:=t.device.map fun device=>recordSessionViabilityResult "passed"
     {payload.restore device with verifiedAt:=some now}
    intents:=stampVerificationOutcome deviceId "passed" t.intents }
  [verificationIntentSource deviceId] facts now

def finalizeFailure (t:Tables)(original:DeviceFields)(nodeStarted:Bool)
 (facts:DeviceDecisionSnapshot)(now:Instant):Option Tables:=
 revokeIntentsAndReconcile text deviceId
  (stopVerificationNodeIfRunning
   { t with
     device:=t.device.map fun device=>
      recordSessionViabilityResult "failed" (original.restore device)
     intents:=stampVerificationOutcome deviceId "failed" t.intents } nodeStarted)
  (verificationIntentSource deviceId::operatorStopSources deviceId++[operatorStartSource deviceId])
  facts now
end

inductive Phase where
 | loaded | sessionsRead | checked
 | prepared | stopping | starting | started | ready
 | probing (probe:RowId)
 | succeeding
 | failing (nodeStarted:Bool)
 | finished
 deriving DecidableEq

structure Operation where
 mode:Mode
 phase:Phase
 payload:DeviceFields
 original:DeviceFields

def Operation.goto (o:Operation)(phase:Phase):Operation:={o with phase:=phase}

/-- The update has read that no operator stop is in force, and has not ended. -/
def Phase.pastStopRead:Phase→Bool
 | loaded | sessionsRead | finished=>false
 | checked | prepared | stopping | starting | started | ready | probing _ | succeeding | failing _=>
  true

def Phase.unleased:Phase→Bool
 | sessionsRead | checked=>true
 | loaded | prepared | stopping | starting | started | ready | probing _ | succeeding | failing _
 | finished=>false
def Phase.prepareDone:Phase→Bool
 | loaded | sessionsRead | checked=>false
 | prepared | stopping | starting | started | ready | probing _ | succeeding | failing _
 | finished=>true
def Phase.crashed:Phase→Option Phase
 | prepared | stopping | starting=>some (failing false)
 | started | ready | probing _ | succeeding=>some (failing true)
 | loaded | sessionsRead | checked | failing _ | finished=>none

inductive Action where
 | readSessions
 | readOperatorStop
 | refuse
 | writeLease (payload:DeviceFields)(startupTimeoutSec viabilityTimeoutSec:ℕ)
   (facts:DeviceDecisionSnapshot)
 | deviceHealth (healthy:Bool)
 | stopExistingNode
 | startNode (choices:StartChoices)
 | waitForNodeRunning (timedOut:Bool)
 | claimProbe (id:RowId)(sessionId:String)
 | confirmProbe (appiumSessionId:String)
 | finalizeProbe (result:ProbeResult)
 | finalizeSuccess (facts:DeviceDecisionSnapshot)
 | finalizeFailure (facts:DeviceDecisionSnapshot)
 | crash

/-- A transaction of the job that does not pass `lock_verification_operation`. -/
def Action.unfenced:Action→Bool
 | .stopExistingNode | .claimProbe _ _ | .confirmProbe _ | .finalizeProbe _=>true
 | .readSessions | .readOperatorStop | .refuse | .writeLease _ _ _ _ | .deviceHealth _ | .startNode _
 | .waitForNodeRunning _ | .finalizeSuccess _ | .finalizeFailure _ | .crash=>false

section
variable (text:DatetimeText)(deviceId:DeviceId)

def probeRow (id:RowId)(sessionId:String):Session where
 id:=id
 sessionId:=sessionId
 deviceId:=some deviceId
 testName:=some probeTestName
 status:=.pending
 endedAt:=none
 ticketId:=none
 runId:=none

/-- A superseded transaction writes nothing and ends the job. -/
def fenced (t:Tables)(operationId:OpId)(o:Operation)(body:Option (Tables×Operation)):
 Option (Tables×Operation):=
 if holdsLease deviceId t operationId then body else some (t,o.goto .finished)

def act (t:Tables)(now:Instant)(operationId:OpId)(o:Operation):
 Action→Option (Tables×Operation)
 | .readSessions=>
  if o.phase=.loaded then
   some (t,o.goto (if deviceHasLiveSession t then .finished else .sessionsRead))
  else none
 | .readOperatorStop=>
  if o.phase=.sessionsRead then
   some (t,o.goto (if operatorStopActive deviceId t now then .finished else .checked))
  else none
 | .refuse=>if o.phase.prepareDone then none else some (t,o.goto .finished)
 | .writeLease payload startupTimeoutSec viabilityTimeoutSec facts=>
  if o.phase=.checked then
   (writeVerificationLease text deviceId t operationId startupTimeoutSec viabilityTimeoutSec facts
    now).map fun u=>(u,{o with phase:=.prepared,payload:=payload})
  else none
 | .deviceHealth healthy=>
  if o.phase=.prepared then
   some (t,o.goto (if healthy then (if o.mode=.update then .stopping else .starting)
    else .failing false))
  else none
 | .stopExistingNode=>
  if o.phase=.stopping∧t.device.isSome then some (stopExistingNode t,o.goto .starting)
  else none
 | .startNode choices=>
  if o.phase=.starting∧t.device.isSome then
   fenced deviceId t operationId o <|
    match startNodeTxn text deviceId t choices now with
    | none=>some (t,o.goto (.failing false))
    | some u=>some (u,o.goto .started)
  else none
 | .waitForNodeRunning timedOut=>
  if o.phase=.started then
   if timedOut then some (t,o.goto (.failing true))
   else if observedRunning t.node then some (t,o.goto .ready) else none
  else none
 | .claimProbe id sessionId=>
  if o.phase=.ready∧t.device.isSome then
   if deviceHasLiveSession t then some (t,o.goto (.failing true))
   else if (t.sessions.get id).isSome then none
   else some ({t with sessions:=t.sessions.set id (probeRow deviceId id sessionId)},
    o.goto (.probing id))
  else none
 | .confirmProbe appiumSessionId=>
  match o.phase,t.device with
  | .probing probe,some _=>some (promoteToRunning t probe appiumSessionId,o)
  | _,_=>none
 | .finalizeProbe result=>
  match o.phase,t.device with
  | .probing probe,some _=>
   some (updateSession t probe isOpen (fun row=>ended row (mapProbeResultToStatus result) now),
    o.goto (if result=.ack then .succeeding else .failing true))
  | _,_=>none
 | .finalizeSuccess facts=>
  if o.phase=.succeeding∧t.device.isSome then
   fenced deviceId t operationId o <|
    if o.mode=.update∧deviceHasLiveSession t then some (t,o.goto .finished)
    else (finalizeSuccess text deviceId t o.payload facts now).map fun u=>(u,o.goto .finished)
  else none
 | .finalizeFailure facts=>
  match o.phase,t.device with
  | .failing nodeStarted,some _=>
   fenced deviceId t operationId o <|
    match o.mode with
    | .create=>some (deleteDevice t,o.goto .finished)
    | .update=>(finalizeFailure text deviceId t o.original nodeStarted facts now).map fun u=>
      (u,o.goto .finished)
  | _,_=>none
 | .crash=>o.phase.crashed.map fun phase=>(t,o.goto phase)
end

structure State where
 tables:Tables
 ops:Dict OpId Operation
 claims:List TicketId
 now:Instant

inductive Label where
 | beginUpdate (op:OpId)(payload:DeviceFields)
 | createDevice (op:OpId)(device:Device)(payload:DeviceFields)
   (startupTimeoutSec viabilityTimeoutSec:ℕ)(facts:DeviceDecisionSnapshot)
 | verification (op:OpId)(action:Action)
 | operatorStop (facts:DeviceDecisionSnapshot)
 | operatorStart (ready:Bool)(choices:StartChoices)
 | operatorRestart (windowSec:ℕ)(facts:DeviceDecisionSnapshot)
 | lockQuery (ticket:TicketId)(otherGates:Bool)
 | claim (ticket:TicketId)(confirmed:Bool)(id:RowId)(sessionId:String)
   (testName:Option String)(runId:Option RunId)(facts:DeviceDecisionSnapshot)
 | promote (id:RowId)(appiumSessionId:String)
 | closeSession (id:RowId)(status:SessionStatus)(facts:DeviceDecisionSnapshot)
 | reconcileScan (facts:DeviceDecisionSnapshot)
 | observe (device:Device)(node:Option AppiumNode)
 | tick (elapsed:ℕ)

section
variable (text:DatetimeText)(deviceId:DeviceId)

def availableForClaim (t:Tables)(now:Instant):Bool:=
 !(t.sessions.entries.any fun e=>isMasking e.2)&&
  !(t.intents.rows.any fun row=>
   row.kind=CommandKind.verificationStart.value&&isOpenLease now row)

def clientRow (ticket:TicketId)(id:RowId)(sessionId:String)(testName:Option String)
 (runId:Option RunId):Session where
 id:=id
 sessionId:=sessionId
 deviceId:=some deviceId
 testName:=testName
 status:=.pending
 endedAt:=none
 ticketId:=some ticket
 runId:=runId

def step (s:State):Label→Option State
 | .beginUpdate op payload=>
  match s.ops.get op,s.tables.device with
  | none,some device=>some
   {s with ops:=s.ops.set op ⟨.update,.loaded,payload,payload.original device⟩}
  | _,_=>none
 | .createDevice op device payload startupTimeoutSec viabilityTimeoutSec facts=>
  if s.ops.get op=none∧s.tables.device=none then
   (writeVerificationLease text deviceId
    { deleteDevice s.tables with
      device:=some {device with id:=deviceId,operationalStateLastEmitted:=.verifying} }
    op startupTimeoutSec viabilityTimeoutSec facts s.now).map fun t=>
     {s with tables:=t,ops:=s.ops.set op ⟨.create,.prepared,payload,DeviceFields.none⟩}
  else none
 | .verification op action=>
  (s.ops.get op).bind fun o=>
   (act text deviceId s.tables s.now op o action).map fun next=>
    {s with tables:=next.1,ops:=s.ops.set op next.2}
 | .operatorStop facts=>
  if observedRunning s.tables.node then
   (registerIntentsAndReconcile text deviceId s.tables (operatorStopIntents deviceId) facts s.now).map
    fun t=>{s with tables:=t}
  else none
 | .operatorStart ready choices=>
  if ready then
   (startNodeTxn text deviceId s.tables choices s.now).map fun t=>{s with tables:=t}
  else none
 | .operatorRestart windowSec facts=>
  if observedRunning s.tables.node then
   (registerIntentsAndReconcile text deviceId s.tables
    [operatorRestartIntent text deviceId s.now windowSec] facts s.now).map fun t=>
     {s with tables:=t}
  else none
 | .lockQuery ticket otherGates=>
  if s.tables.device.isSome&&availableForClaim s.tables s.now&&otherGates then
   some {s with claims:=ticket::s.claims}
  else none
 | .claim ticket confirmed id sessionId testName runId facts=>
  if ticket∈s.claims then
   let rest:=s.claims.erase ticket
   if !confirmed||deviceHasLiveSession s.tables||(s.tables.sessions.get id).isSome then
    some {s with claims:=rest}
   else
    (reconcile text deviceId
     { s.tables with sessions:=
        s.tables.sessions.set id (clientRow deviceId ticket id sessionId testName runId) }
     facts s.now).map fun t=>{s with tables:=t,claims:=rest}
  else none
 | .promote id appiumSessionId=>
  some {s with tables:=promoteToRunning s.tables id appiumSessionId}
 | .closeSession id status facts=>
  (reconcile text deviceId (updateSession s.tables id isOpen fun row=>ended row status s.now) facts
   s.now).map fun t=>{s with tables:=t}
 | .reconcileScan facts=>
  (reconcile text deviceId
   {s.tables with intents:=deleteExpiredIntents s.tables.intents s.now} facts s.now).map fun t=>
     {s with tables:=t}
 | .observe device node=>
  match s.tables.device with
  | none=>none
  | some stored=>some
   { s with tables:=
      {s.tables with device:=some {device with id:=stored.id},node:=node} }
 | .tick elapsed=>some {s with now:=s.now+elapsed}
end

def init (device:Option Device)(node:Option AppiumNode):State where
 tables:=⟨device,node,⟨[],0,List.nodup_nil,by simp,List.nodup_nil⟩,.empty⟩
 ops:=Dict.empty
 claims:=[]
 now:=0
end GridFleet.Verification
