import GridFleet.StateProjection
namespace GridFleet.DecisionSnapshot
open Decision Readiness RemediationLog StateProjection List

structure ReservationDecisionSnapshot where
 id:RowId
 runId:RunId
 runName:String
 runState:RunState
 excluded:Bool
 exclusionKind:Option String
 exclusionReason:Option String
 excludedUntil:Option Instant

structure DeviceDecisionSnapshot where
 intents:List DeviceIntent
 intents_unique:(intents.map DeviceIntent.id).Nodup
 hasLiveSession:Bool
 ladder:LadderState
 decisionFacts:DecisionFacts
 stateFacts:DeviceStateFacts
 nodeObservedPackRelease:Option String
 nodePort:Option ℕ
 reservation:Option ReservationDecisionSnapshot
 isReadyForUse:Bool
 nodeObservedRunning:Bool
 recoveryGeneration:Option ℕ

section
variable (db:Database)(deviceId:DeviceId)(now:Instant)(preloaded packs:Option Catalog)

def intentRows:List DeviceIntent:=
 (db.intents.filter fun row=>row.deviceId=deviceId).insertionSort fun a b=>a.source≤b.source

lemma intentRows_unique:((intentRows db deviceId).map DeviceIntent.id).Nodup:=by
 have hperm:=perm_insertionSort (fun a b:DeviceIntent=>a.source≤b.source)
  (db.intents.filter fun row=>row.deviceId=deviceId)
 have hfilter:((db.intents.filter fun row=>row.deviceId=deviceId).map DeviceIntent.id).Nodup:=
  db.intents_unique.sublist (filter_sublist.map _)
 exact (hperm.map DeviceIntent.id).nodup_iff.mpr hfilter

def activeReservation:Option ReservationDecisionSnapshot:=
 let active:=db.reservations.filter fun r=>r.deviceId=deviceId&&r.releasedAt.isNone
 let joined:=active.filterMap fun r=>
  (db.runs.find? fun run=>run.id=r.runId).map fun run=>(r,run)
 (joined.insertionSort fun a b=>b.1.createdAt≤a.1.createdAt).head?.map fun (r,run)=>
  ⟨r.id,r.runId,run.name,run.state,r.excluded,r.exclusionKind,r.exclusionReason,
   r.excludedUntil⟩

def deviceHasLiveSession:Bool:=
 db.sessions.any fun s=>
  Sql.and (Sql.eq s.deviceId (some deviceId)) (liveSessionPredicate s) == some true
def isVerificationLeaseActive (intent:DeviceIntent):Bool:=
 decide (intent.source=verificationIntentSource deviceId)&&
  (payloadGet intent.payload verificationOutcomeKey).isNone&&
  intent.expiresAt.all fun expiry=>now<expiry

def decisionFactsOf (device:Device)(ladder:LadderState)
 (reservation:Option ReservationDecisionSnapshot):DecisionFacts:=
 let withdrawal:=WithdrawalFacts.fromDevice device
 let (runId,cooldownActive,cooldownReason):=
  reservationDecisionAxes (reservation.map (·.runId)) (reservation.bind (·.exclusionKind))
   (reservation.bind (·.exclusionReason)) (reservation.bind (·.excludedUntil)) now
 { inMaintenance:=withdrawal.inMaintenance
   deviceChecksUnhealthy:=device.deviceChecksHealthy=some false
   inService:=withdrawal.inService
   reservationRunId:=runId
   cooldownActive:=cooldownActive
   cooldownReason:=cooldownReason
   remediationDirective:=ladder.nodeDirective }
end

/-- `uuid.UUID(str(value))`; the text of a value of another kind is never one. -/
def uuidOf:Json→Option ℕ
 | .str text=>PythonNumbers.uuid text
 | .int n=>PythonNumbers.uuid (toString n)
 | _=>none

/-- Unlike `lifecycle_policy_state.recovery_generation`, which reads a malformed text as none. -/
def recoveryGeneration (device:Device):Except ReadError (Option ℕ):=
 match device.lifecyclePolicyState.bind fun state=>Json.field state "recovery_generation" with
 | none | some .null=>.ok none
 | some value=>(uuidOf value).elim (.error .valueError) fun generation=>.ok (some generation)

/-- The device was locked with its node loaded; reading an unloaded one raises. -/
def loadDeviceDecisionSnapshot (db:Database)(now:Instant)(preloaded packs:Option Catalog)
 (device:OrmDevice):Except ReadError DeviceDecisionSnapshot:=do
 let id:=device.row.id
 let intents:=intentRows db id
 let reservation:=activeReservation db id
 let ladder:=deriveLadder (ladderEntries db.remediationLog id)
 let withdrawal:=WithdrawalFacts.fromDevice device.row
 let assessmentReady:=isReadyForUseAsync db.packs preloaded packs device.row
 let generation ←recoveryGeneration device.row
 let ready ←readyFact assessmentReady device
 let node ←match device.appiumNode with
  | .unloaded=>throw .missingGreenlet
  | .loaded node=>pure node
 return {
  intents:=intents
  intents_unique:=intentRows_unique db id
  hasLiveSession:=deviceHasLiveSession db id
  ladder:=ladder
  decisionFacts:=decisionFactsOf now device.row ladder reservation
  stateFacts:=
   { hasRunningSession:=deviceHasMaskingLiveSession db id
     hasVerificationLease:=intents.any (isVerificationLeaseActive id now)
     inMaintenance:=withdrawal.inMaintenance
     stopInFlight:=appiumNodeStopInFlight device
     ready:=ready }
  nodeObservedPackRelease:=node.bind (·.observedPackRelease)
  nodePort:=node.map (·.port)
  reservation:=reservation
  isReadyForUse:=assessmentReady
  nodeObservedRunning:=node.any fun n=>n.pid.isSome&&n.activeConnectionTarget.isSome
  recoveryGeneration:=generation }

section
variable {db:Database}{now:Instant}{preloaded packs:Option Catalog}

lemma leaseInSnapshot_eq (hkinds:VerificationKindsMatch db)(id:DeviceId):
 (intentRows db id).any (isVerificationLeaseActive id now)=leased db now id:=by
 rw[Bool.eq_iff_iff,leased,any_eq_true,any_eq_true]
 refine exists_congr fun intent=>?_
 have hall:(intent.expiresAt.all fun expiry=>decide (now<expiry)) =
   decide (∀expiry∈intent.expiresAt,now<expiry):=by
  cases intent.expiresAt <;> simp
 simp only[intentRows,mem_insertionSort,mem_filter,isVerificationLeaseActive,
  isOpenLease,hall,Bool.and_eq_true,decide_eq_true_eq]
 constructor
 · rintro ⟨⟨hmem,rfl⟩,⟨hsource,hopen⟩,hexpiry⟩
   exact ⟨hmem,rfl,(hkinds intent hmem).mpr hsource,hopen,hexpiry⟩
 · rintro ⟨hmem,rfl,hkind,hopen,hexpiry⟩
   exact ⟨⟨hmem,rfl⟩,⟨(hkinds intent hmem).mp hkind,hopen⟩,hexpiry⟩
lemma loadDeviceDecisionSnapshot_stateFacts (hkinds:VerificationKindsMatch db)
 (hpreloaded:CurrentCatalog db.packs preloaded)(hpacks:CurrentCatalog db.packs packs)
 {device:OrmDevice}(hcurrent:device.Current db)(hnode:device.HasNode)
 (hreadable:(recoveryGeneration device.row).isOk):
 ∃snapshot,loadDeviceDecisionSnapshot db now preloaded packs device=.ok snapshot∧
  snapshot.stateFacts=pythonFacts db now device.row:=by
 obtain ⟨hready,hstop⟩:=readyFact_hasNode hcurrent hnode
  (isReadyForUseAsync db.packs preloaded packs device.row)
 obtain ⟨row,node⟩:=device
 cases node with
 | unloaded=>exact absurd rfl hnode
 | loaded=>
  unfold loadDeviceDecisionSnapshot
  dsimp only at hready hstop hreadable ⊢
  cases hgeneration:recoveryGeneration row with
  | error=>
   rw[hgeneration] at hreadable
   cases hreadable
  | ok=>
   rw[hready]
   refine ⟨_,rfl,?_⟩
   simp only[hstop,leaseInSnapshot_eq hkinds,deviceHasMaskingLiveSession_eq,
    isReadyForUseAsync_eq hpreloaded hpacks]
   rfl
lemma readable_of_load {device:OrmDevice}{snapshot:DeviceDecisionSnapshot}
 (hload:loadDeviceDecisionSnapshot db now preloaded packs device=.ok snapshot):
 (recoveryGeneration device.row).isOk:=by
 unfold loadDeviceDecisionSnapshot at hload
 cases hgeneration:recoveryGeneration device.row with
 | error=>
  rw[hgeneration] at hload
  cases hload
 | ok=>rfl
end

/-- The five predicates and the `CASE` expression of SQL agree with one another and, up to the manifest's
readiness, with the one value that the three projections of Python give. -/
def TwinsAgree (db:Database)(now:Instant)(preloaded packs:Option Catalog)(device:Device):Prop:=
 (∀state,isStateSql db now device state =
  some (decide (state=operationalStateSql db now device)))∧
 ∃value,
  (∀orm:OrmDevice,orm.row=device→ orm.Current db→
   deriveOperationalState db now preloaded packs orm=.ok value)∧
  (∀orms:List OrmDevice,(∀orm∈orms,orm.Current db)→
   (∀states,deriveOperationalStates db now preloaded packs orms=.ok states→
    (∃orm∈orms,orm.row=device)→states.get device.id=some value)∧
   ((∀orm∈orms,orm.HasNode)→
    ∃states,deriveOperationalStates db now preloaded packs orms=.ok states))∧
  (∀orm:OrmDevice,orm.row=device→ orm.Current db→ orm.HasNode→
   ∃snapshot,loadDeviceDecisionSnapshot db now preloaded packs orm=.ok snapshot∧
    evaluateOperationalState snapshot.stateFacts=value)∧
  ((assessDeviceAsync db.packs preloaded packs device).readinessState=.verified∨
    device.verifiedAt=none→
   value=operationalStateSql db now device)∧
  (value=.available→ operationalStateSql db now device=.available)

theorem operational_state_twins_agree (db:Database) (now:Instant)
 (hkinds:VerificationKindsMatch db) (preloaded packs:Option Catalog)
 (hpreloaded:CurrentCatalog db.packs preloaded) (hpacks:CurrentCatalog db.packs packs)
 (device:Device) (hdevice:device∈db.devices):
 TwinsAgree db now preloaded packs device↔(recoveryGeneration device).isOk:=by
 constructor
 · rintro ⟨-,value,-,-,hsnapshot,-⟩
   have hcurrent:OrmDevice.Current db ⟨device,.loaded (db.nodeOf device.id)⟩:=
    ⟨hdevice,fun node h=>by cases h;rfl⟩
   obtain ⟨snapshot,hload,-⟩:=hsnapshot _ rfl hcurrent nofun
   exact readable_of_load hload
 intro hreadable
 have hsql:=operationalStateSql_eq db now device
 refine ⟨fun state=>by rw[hsql];exact isStateSql_eq db now device state,
  evaluateOperationalState (pythonFacts db now device),?_,?_,?_,?_,?_⟩
 · rintro orm rfl hcurrent
   exact deriveOperationalState_eq hkinds hpreloaded hpacks hcurrent
 · intro orms hcurrent
   obtain ⟨hget,hok⟩:=deriveOperationalStates_eq now hpreloaded hpacks hcurrent
   refine ⟨?_,hok⟩
   rintro states hstates ⟨orm,hmem,rfl⟩
   exact hget states hstates orm hmem
 · rintro orm rfl hcurrent hnode
   obtain ⟨snapshot,hload,hfacts⟩:=
    loadDeviceDecisionSnapshot_stateFacts hkinds hpreloaded hpacks hcurrent hnode hreadable
   exact ⟨snapshot,hload,by rw[hfacts]⟩
 · intro hassess
   rw[assessDeviceAsync_eq hpreloaded hpacks] at hassess
   rw[hsql,pythonFacts_eq_of_verified hassess]
 · intro havailable
   rw[hsql]
   exact available_of_pythonFacts havailable

def phone:Device:=
 { emulator with
   id:=7
   packId:= "ios"
   platformId:= "ios_real"
   identityScheme:= "apple_udid"
   identityScope:=.global
   connectionTarget:=some "00008110"
   osVersion:= "18.1"
   deviceType:=.realDevice
   lifecyclePolicyState:=some (.obj [("maintenance_reason",.null)])
   deviceChecksHealthy:=some true }

def probedFleet:Database where
 devices:=[phone]
 nodes:=[runningNode]
 sessions:=
  [{ id:=1,sessionId:= "probe",deviceId:=some 7,testName:=some probeTestName
     status:=.running,endedAt:=none,ticketId:=none,runId:=none }]
 intents:=
  [{ id:=1,deviceId:=7,source:=verificationIntentSource 7
     kind:=CommandKind.verificationStart.value,runId:=none,payload:=Dict.empty
     expiresAt:=some 50 }]
 reservations:=[]
 runs:=[]
 remediationLog:=[]
 packs:=Dict.empty.set "ios"
  { currentRelease:=some "1.0"
    releases:=[
     { release:= "1.0"
       platforms:=[
        { manifestPlatformId:= "ios_real"
          data:=⟨[],.empty⟩ }] }] }
 devices_unique:=by decide
 nodes_unique:=by decide
 intents_unique:=by decide

theorem operational_state_twins_agree_probed:
 deriveOperationalState probedFleet 60 none none ⟨phone,.unloaded⟩=.ok .available∧
  operationalStateSql probedFleet 60 phone=.available∧
  operationalStateSql probedFleet 40 phone=.verifying:=by
 have hkinds:VerificationKindsMatch probedFleet:=by
  intro intent hmem
  rw[mem_singleton.mp hmem]
  exact ⟨fun _=>rfl,fun _=>rfl⟩
 have hmem:phone∈probedFleet.devices:=mem_singleton_self _
 have hsql:operationalStateSql probedFleet 60 phone=.available:=rfl
 obtain ⟨-,value,hone,-,-,hsame,-⟩:=
  (operational_state_twins_agree probedFleet 60 hkinds none none (currentCatalog_none _)
   (currentCatalog_none _) phone hmem).mpr rfl
 have hcurrent:OrmDevice.Current probedFleet ⟨phone,.unloaded⟩:=
  ⟨hmem,fun node h=>by cases h⟩
 refine ⟨?_,hsql,rfl⟩
 rw[hone ⟨phone,.unloaded⟩ rfl hcurrent,hsame (.inl rfl),hsql]

def mislabelled:Device:=
 { phone with lifecyclePolicyState:=some (.obj [("recovery_generation",.str "unknown")]) }
def mislabelledFleet:Database:={probedFleet with devices:=[mislabelled],devices_unique:=by decide}

/-- The projection answers, and the load of the snapshot raises. -/
theorem malformed_generation_parts_twins:
 deriveOperationalState mislabelledFleet 60 none none ⟨mislabelled,.unloaded⟩=.ok .available∧
  loadDeviceDecisionSnapshot mislabelledFleet 60 none none
   ⟨mislabelled,.loaded (mislabelledFleet.nodeOf 7)⟩=.error .valueError∧
  ¬TwinsAgree mislabelledFleet 60 none none mislabelled:=by
 have hload:loadDeviceDecisionSnapshot mislabelledFleet 60 none none
   ⟨mislabelled,.loaded (mislabelledFleet.nodeOf 7)⟩=.error .valueError:=rfl
 refine ⟨rfl,hload,?_⟩
 rintro ⟨-,value,-,-,hsnapshot,-⟩
 have hcurrent:OrmDevice.Current mislabelledFleet
   ⟨mislabelled,.loaded (mislabelledFleet.nodeOf 7)⟩:=
  ⟨mem_singleton_self _,fun node h=>by cases h;rfl⟩
 obtain ⟨snapshot,hok,-⟩:=hsnapshot _ rfl hcurrent nofun
 cases hload.symm.trans hok
end GridFleet.DecisionSnapshot
