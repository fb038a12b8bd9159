import GridFleet.Decision
import GridFleet.Readiness
import GridFleet.SqlLogic
import GridFleet.Fallible
/-! The operational state of a device is computed from loaded rows and, for filtering and sorting, inside
the database. `StateFacts` is where the two meet. -/
namespace GridFleet.StateProjection
open Readiness RemediationLog Decision List

structure Database where
 devices:List Device
 nodes:List AppiumNode
 sessions:List Session
 intents:List DeviceIntent
 reservations:List DeviceReservation
 runs:List TestRun
 remediationLog:List RemediationLog.Entry
 packs:Catalog
 devices_unique:(devices.map Device.id).Nodup
 nodes_unique:(nodes.map AppiumNode.deviceId).Nodup
 intents_unique:(intents.map DeviceIntent.id).Nodup

def Database.nodeOf (db:Database)(id:DeviceId):Option AppiumNode:=
 db.nodes.find? fun node=>node.deviceId=id
def probeTestName:String:= "__gridfleet_probe__"
def Json.field (value:Json)(key:String):Option Json:=
 match value with
 | .obj fields=>fields.lookup key
 | _=>none

/-- `column ->> key`: a missing key, a JSON null and a value that is no object all read as NULL. -/
def astext (column:Option Json)(key:String):Option Json:=
 (column.bind fun value=>Json.field value key).filter (· ≠ .null)

section
open Sql

def liveSessionPredicate (s:Session):Truth:=
 and (isIn (some s.status) [.running,.pending]) (isNull s.endedAt)
def maskingLiveSessionPredicate (s:Session):Truth:=
 and (liveSessionPredicate s) (or (isNull s.testName) (ne s.testName (some probeTestName)))

variable (db:Database)(now:Instant)(device:Device)

def maskingLiveSessionExists:Truth:=
 exists_ db.sessions fun s=>and (eq s.deviceId (some device.id)) (maskingLiveSessionPredicate s)
def leaseOpen (intent:DeviceIntent):Truth:=
 and (isNull (payloadGet intent.payload verificationOutcomeKey))
  (or (isNull intent.expiresAt) (lt (some now) intent.expiresAt))
def verificationLeaseExists:Truth:=
 exists_ db.intents fun intent=>
  and (eq (some intent.deviceId) (some device.id))
   (and (eq (some intent.kind) (some CommandKind.verificationStart.value)) (leaseOpen now intent))
def verificationLeasePredicate (deviceId:DeviceId)(intent:DeviceIntent):Truth:=
 and (eq (some intent.deviceId) (some deviceId))
  (and (eq (some intent.source) (some (verificationIntentSource deviceId))) (leaseOpen now intent))
def maintenanceSql:Truth:=isNotNull (astext device.lifecyclePolicyState "maintenance_reason")
def stopInFlightSql:Truth:=
 exists_ db.nodes fun node=>
  and (eq (some node.deviceId) (some device.id))
   (or (eq (some node.desiredState) (some .stopped)) (isTrue (some node.stopPending)))
def nodePresentNotRunning:Truth:=
 exists_ db.nodes fun node=>
  and (eq (some node.deviceId) (some device.id))
   (or (isFalse node.healthRunning)
    (and (isNull node.healthRunning)
     (or (isNull node.pid) (isNull node.activeConnectionTarget))))
def allowsAllocationSql:Truth:=
 and (isNotFalse device.deviceChecksHealthy)
  (and (not (nodePresentNotRunning db device))
   (or (isNull device.sessionViabilityStatus)
    (ne device.sessionViabilityStatus (some "failed"))))

/-- The setup fields of the pack manifest have no SQL form: `verified_at` stands in for them. -/
def readySql:Truth:=
 and (isNotNull device.verifiedAt) (and (not (maintenanceSql device)) (allowsAllocationSql db device))

def isBusyishSql:Truth:=maskingLiveSessionExists db device
def isVerifyingSql:Truth:=
 and (not (maskingLiveSessionExists db device)) (verificationLeaseExists db now device)
def isMaintenanceSql:Truth:=
 and (not (maskingLiveSessionExists db device))
  (and (not (verificationLeaseExists db now device)) (maintenanceSql device))
def isOfflineSql:Truth:=
 and (not (maskingLiveSessionExists db device))
  (and (not (verificationLeaseExists db now device))
   (and (not (maintenanceSql device))
    (or (stopInFlightSql db device) (not (readySql db device)))))
def availableApartFromLiveSessionSql:Truth:=
 and (not (verificationLeaseExists db now device))
  (and (not (maintenanceSql device))
   (and (not (stopInFlightSql db device)) (readySql db device)))
def isAvailableSql:Truth:=
 and (not (maskingLiveSessionExists db device)) (availableApartFromLiveSessionSql db now device)

def operationalStateSql:OperationalState:=
 case
  [(maskingLiveSessionExists db device,.busy),
   (verificationLeaseExists db now device,.verifying),
   (maintenanceSql device,.maintenance),
   (or (stopInFlightSql db device) (not (readySql db device)),.offline)]
  .available

def isStateSql:OperationalState→Truth
 | .available=>isAvailableSql db now device
 | .busy=>isBusyishSql db device
 | .offline=>isOfflineSql db now device
 | .verifying=>isVerifyingSql db now device
 | .maintenance=>isMaintenanceSql db now device
end

structure DeviceStateFacts where
 hasRunningSession:Bool
 hasVerificationLease:Bool
 inMaintenance:Bool
 stopInFlight:Bool
 ready:Bool

def evaluateOperationalState (facts:DeviceStateFacts):OperationalState:=
 if facts.hasRunningSession then .busy
 else if facts.hasVerificationLease then .verifying
 else if facts.inMaintenance then .maintenance
 else if facts.stopInFlight||!facts.ready then .offline
 else .available

structure WithdrawalFacts where
 verified:Bool
 inMaintenance:Bool

def inMaintenance (device:Device):Bool:=
 match device.lifecyclePolicyState with
 | some (.obj fields)=>((fields.lookup "maintenance_reason").filter (· ≠ .null)).isSome
 | _=>false
def WithdrawalFacts.fromDevice (device:Device):WithdrawalFacts:=
 ⟨device.verifiedAt.isSome,StateProjection.inMaintenance device⟩
def WithdrawalFacts.inService (facts:WithdrawalFacts):Bool:=facts.verified&&!facts.inMaintenance
def nodeRunningSignal (node:AppiumNode):Bool:=
 node.healthRunning.getD (node.pid.isSome&&node.activeConnectionTarget.isSome)

def mergedLiveness (device:Device)(node:Option AppiumNode):Option Bool:=
 let checks:=device.deviceChecksHealthy
 let viability:=
  if device.sessionViabilityStatus=some "passed" then some true
  else if device.sessionViabilityStatus=some "failed" then some false
  else none
 let signals:=checks.toList++(node.map nodeRunningSignal).toList++viability.toList
 if signals.isEmpty then none else some (signals.all id)

def nodeStopRequested (node:AppiumNode):Bool:=
 decide (node.desiredState=.stopped)||node.stopPending

/-- A relationship attribute of a loaded object: reading an unloaded one needs IO that an async
session refuses. -/
inductive Loaded (α:Type) where
 | unloaded
 | loaded (value:α)

structure OrmDevice where
 row:Device
 appiumNode:Loaded (Option AppiumNode)

inductive ReadError where
 | missingGreenlet | noResultFound | valueError

def appiumNodeStopInFlight (device:OrmDevice):Bool:=
 match device.appiumNode with
 | .unloaded=>false
 | .loaded node=>node.any nodeStopRequested
def deviceAllowsAllocation (device:OrmDevice):Except ReadError Bool:=
 match device.appiumNode with
 | .unloaded=>.error .missingGreenlet
 | .loaded node=>.ok (mergedLiveness device.row node != some false)

/-- `is_ready and device_allows_allocation(device) and in_service`, left to right. -/
def readyFact (isReady:Bool)(device:OrmDevice):Except ReadError Bool:=
 if isReady then do
  let allows ←deviceAllowsAllocation device
  return allows&&(WithdrawalFacts.fromDevice device.row).inService
 else return false

section
variable (db:Database)(now:Instant)(preloaded packs:Option Catalog)

def deviceHasMaskingLiveSession (deviceId:DeviceId):Bool:=
 !(Sql.select db.sessions fun s=>
  Sql.and (Sql.eq s.deviceId (some deviceId)) (maskingLiveSessionPredicate s)).isEmpty
def deviceHasVerificationLease (deviceId:DeviceId):Bool:=
 !(Sql.select db.intents (verificationLeasePredicate now deviceId)).isEmpty

/-- Re-selects a device whose node relationship was not loaded. -/
def withAppiumNode (device:OrmDevice):Except ReadError OrmDevice:=
 match device.appiumNode with
 | .loaded _=>.ok device
 | .unloaded=>
  match db.devices.find? fun row=>row.id=device.row.id with
  | none=>.error .noResultFound
  | some row=>.ok ⟨row,.loaded (db.nodeOf row.id)⟩

def gatherDeviceStateFacts (device:OrmDevice):Except ReadError DeviceStateFacts:=do
 let device ←withAppiumNode db device
 let ready ←readyFact (isReadyForUseAsync db.packs preloaded packs device.row) device
 return {
  hasRunningSession:=deviceHasMaskingLiveSession db device.row.id
  hasVerificationLease:=deviceHasVerificationLease db now device.row.id
  inMaintenance:=(WithdrawalFacts.fromDevice device.row).inMaintenance
  stopInFlight:=appiumNodeStopInFlight device
  ready:=ready }

def deriveOperationalState (device:OrmDevice):Except ReadError OperationalState:=do
 let facts ←gatherDeviceStateFacts db now preloaded packs device
 return evaluateOperationalState facts

def batchState (liveIds leasedIds:List DeviceId)(device:OrmDevice):
 Except ReadError OperationalState:=do
 let ready ←readyFact (isReadyForUseAsync db.packs preloaded packs device.row) device
 return evaluateOperationalState {
  hasRunningSession:=device.row.id∈liveIds
  hasVerificationLease:=device.row.id∈leasedIds
  inMaintenance:=(WithdrawalFacts.fromDevice device.row).inMaintenance
  stopInFlight:=appiumNodeStopInFlight device
  ready:=ready }

def collectStates (stateOf:OrmDevice→Except ReadError OperationalState):
 Dict DeviceId OperationalState→List OrmDevice→Except ReadError (Dict DeviceId OperationalState)
 | acc,[]=>.ok acc
 | acc,device::rest=>do
  let state ←stateOf device
  collectStates stateOf (acc.set device.row.id state) rest

def deriveOperationalStates (devices:List OrmDevice):
 Except ReadError (Dict DeviceId OperationalState):=
 let ids:=devices.map fun device=>device.row.id
 if ids.isEmpty then .ok Dict.empty
 else
  let liveIds:=(Sql.select db.sessions fun s=>
   Sql.and (Sql.isIn s.deviceId ids) (maskingLiveSessionPredicate s)).filterMap Session.deviceId
  let leasedIds:=(Sql.select db.devices fun d=>
   Sql.and (Sql.isIn (some d.id) ids) (verificationLeaseExists db now d)).map Device.id
  let packs:=packs.getD (loadPackCatalog db.packs (devices.map fun device=>device.row.packId))
  collectStates (batchState db preloaded (some packs) liveIds leasedIds) Dict.empty devices
end

section
variable (db:Database)(now:Instant)(device:Device)

def isMasking (s:Session):Bool:=
 decide (s.status=.running∨s.status=.pending)&&s.endedAt.isNone&&
  decide (s.testName≠some probeTestName)
def masked (id:DeviceId):Bool:=db.sessions.any fun s=>decide (s.deviceId=some id)&&isMasking s
def isOpenLease (intent:DeviceIntent):Bool:=
 (payloadGet intent.payload verificationOutcomeKey).isNone&&
  decide (∀expiry∈intent.expiresAt,now<expiry)
def leased (id:DeviceId):Bool:=
 db.intents.any fun intent=>decide (intent.deviceId=id)&&
  (decide (intent.kind=CommandKind.verificationStart.value)&&isOpenLease now intent)
def allowsAllocation:Bool:=mergedLiveness device (db.nodeOf device.id) != some false

def factsWith (verified:Bool):DeviceStateFacts where
 hasRunningSession:=masked db device.id
 hasVerificationLease:=leased db now device.id
 inMaintenance:=inMaintenance device
 stopInFlight:=(db.nodeOf device.id).any nodeStopRequested
 ready:=verified&&(allowsAllocation db device&&(WithdrawalFacts.fromDevice device).inService)
end

section
variable (db:Database)(now:Instant)(device:Device)

lemma maskingLiveSessionPredicate_eq (s:Session):
 maskingLiveSessionPredicate s=some (isMasking s):=by
 unfold maskingLiveSessionPredicate liveSessionPredicate
 rw[Sql.isNull_or_ne]
 simp[Sql.isIn,Sql.isNull,isMasking]
lemma leaseOpen_eq (intent:DeviceIntent):leaseOpen now intent=some (isOpenLease now intent):=by
 unfold leaseOpen
 rw[Sql.isNull_or_lt]
 simp[Sql.isNull,isOpenLease]
lemma maskingLiveSessionExists_eq:maskingLiveSessionExists db device=some (masked db device.id):=by
 refine Sql.exists_eq fun s _=>?_
 rw[Sql.and_eq_true_iff,Sql.eq_eq_true_iff,maskingLiveSessionPredicate_eq]
 simp
lemma verificationLeaseExists_eq:
 verificationLeaseExists db now device=some (leased db now device.id):=by
 refine Sql.exists_eq fun intent _=>?_
 rw[leaseOpen_eq]
 simp
lemma maintenanceSql_eq:maintenanceSql device=some (inMaintenance device):=by
 unfold maintenanceSql inMaintenance astext Sql.isNotNull
 split
 · rename_i fields hstate
   simp only[hstate]
   rfl
 · rename_i hother
   cases hstate:device.lifecyclePolicyState with
   | none=>rfl
   | some value=>
    cases value with
    | obj fields=>exact absurd hstate (hother fields)
    | _=>rfl
lemma stopInFlightSql_eq:
 stopInFlightSql db device=some ((db.nodeOf device.id).any nodeStopRequested):=by
 have hsql:stopInFlightSql db device =
   some (db.nodes.any fun node=>decide (node.deviceId=device.id)&&nodeStopRequested node):=by
  refine Sql.exists_eq fun node _=>?_
  simp[Sql.isTrue,nodeStopRequested]
 rw[hsql,Sql.any_of_unique_key db.nodes_unique]
 rfl
lemma nodePresentNotRunning_eq:nodePresentNotRunning db device =
  some ((db.nodeOf device.id).any fun node=>!nodeRunningSignal node):=by
 have hsql:nodePresentNotRunning db device =
   some (db.nodes.any fun node=>decide (node.deviceId=device.id)&&!nodeRunningSignal node):=by
  refine Sql.exists_eq fun node _=>?_
  cases hrunning:node.healthRunning with
  | none=>
   cases hpid:node.pid <;> cases htarget:node.activeConnectionTarget <;>
    simp[Sql.isFalse,Sql.isNull,nodeRunningSignal,hrunning,hpid,htarget]
  | some running=>cases running <;> simp[Sql.isFalse,Sql.isNull,nodeRunningSignal,hrunning]
 rw[hsql,Sql.any_of_unique_key db.nodes_unique]
 rfl
lemma mergedLiveness_ne_false (node:Option AppiumNode):
 (mergedLiveness device node != some false) =
  (device.deviceChecksHealthy != some false&&
   (!(node.any fun node=>!nodeRunningSignal node)&&
    decide (device.sessionViabilityStatus≠some "failed"))):=by
 have hverdict:∀signals:List Bool,
   ((if signals.isEmpty then none else some (signals.all id)) != some false)=signals.all id:=by
  intro signals
  cases signals with
  | nil=>rfl
  | cons b bs=>cases h:(b::bs).all id <;> rfl
 unfold mergedLiveness
 rw[hverdict,all_append,all_append,Bool.and_assoc]
 have hchecks:device.deviceChecksHealthy.toList.all id=(device.deviceChecksHealthy != some false):=by
  rcases device.deviceChecksHealthy with _|_|_ <;> rfl
 have hnode:(node.map nodeRunningSignal).toList.all id =
   !(node.any fun node=>!nodeRunningSignal node):=by
  cases node <;> simp
 rw[hchecks,hnode]
 by_cases hpassed:device.sessionViabilityStatus=some "passed"
 · simp[hpassed]
 · by_cases hfailed:device.sessionViabilityStatus=some "failed"
   · simp[hfailed]
   · simp[hpassed,hfailed]
lemma allowsAllocationSql_eq:allowsAllocationSql db device=some (allowsAllocation db device):=by
 unfold allowsAllocationSql allowsAllocation
 rw[nodePresentNotRunning_eq,Sql.isNull_or_ne,mergedLiveness_ne_false]
 simp only[Sql.isNotFalse,Sql.not_some,Sql.and_some]
lemma readySql_eq:
 readySql db device=some (factsWith db now device device.verifiedAt.isSome).ready:=by
 unfold readySql
 rw[maintenanceSql_eq,allowsAllocationSql_eq]
 simp only[Sql.isNotNull,Sql.not_some,Sql.and_some,factsWith,WithdrawalFacts.inService,
  WithdrawalFacts.fromDevice]
 cases device.verifiedAt.isSome <;> cases allowsAllocation db device <;>
  cases inMaintenance device <;> rfl
lemma operationalStateSql_eq:operationalStateSql db now device =
  evaluateOperationalState (factsWith db now device device.verifiedAt.isSome):=by
 unfold operationalStateSql
 rw[maskingLiveSessionExists_eq,verificationLeaseExists_eq,maintenanceSql_eq,stopInFlightSql_eq,
  readySql_eq db now]
 simp only[Sql.case,Sql.not_some,Sql.or_some,Option.some.injEq]
 rfl

/-- The masking order, one predicate per state. -/
def onlyState (facts:DeviceStateFacts):OperationalState→Bool
 | .busy=>facts.hasRunningSession
 | .verifying=>!facts.hasRunningSession&&facts.hasVerificationLease
 | .maintenance=>
  !facts.hasRunningSession&&(!facts.hasVerificationLease&&facts.inMaintenance)
 | .offline=>
  !facts.hasRunningSession&&(!facts.hasVerificationLease&&(!facts.inMaintenance&&
   (facts.stopInFlight||!facts.ready)))
 | .available=>
  !facts.hasRunningSession&&(!facts.hasVerificationLease&&(!facts.inMaintenance&&
   (!facts.stopInFlight&&facts.ready)))

lemma onlyState_eq (facts:DeviceStateFacts)(state:OperationalState):
 onlyState facts state=decide (state=evaluateOperationalState facts):=by
 obtain ⟨running,lease,maintenance,stop,ready⟩:=facts
 cases running
 · cases lease
   · cases maintenance
     · cases stop <;> cases ready <;> cases state <;> rfl
     · cases state <;> rfl
   · cases state <;> rfl
 · cases state <;> rfl

/-- Each filter predicate is definite and holds in exactly the state the facts evaluate to. -/
lemma isStateSql_eq (state:OperationalState):isStateSql db now device state=some (decide
  (state=evaluateOperationalState (factsWith db now device device.verifiedAt.isSome))):=by
 rw[←onlyState_eq]
 have hbusy:=maskingLiveSessionExists_eq db device
 have hlease:=verificationLeaseExists_eq db now device
 have hmaintenance:=maintenanceSql_eq device
 have hstop:=stopInFlightSql_eq db device
 have hready:=readySql_eq db now device
 cases state with
 | available=>
  simp only[isStateSql,isAvailableSql,availableApartFromLiveSessionSql,hbusy,hlease,
   hmaintenance,hstop,hready,Sql.not_some,Sql.and_some]
  rfl
 | busy=>exact hbusy
 | offline=>
  simp only[isStateSql,isOfflineSql,hbusy,hlease,hmaintenance,hstop,hready,Sql.not_some,
   Sql.and_some,Sql.or_some]
  rfl
 | verifying=>
  simp only[isStateSql,isVerifyingSql,hbusy,hlease,Sql.not_some,Sql.and_some]
  rfl
 | maintenance=>
  simp only[isStateSql,isMaintenanceSql,hbusy,hlease,hmaintenance,Sql.not_some,Sql.and_some]
  rfl
end

/-- As the two registration sites write them: an intent is a verification exactly when its source
names its own device's verification. -/
def VerificationKindsMatch (db:Database):Prop:=
 ∀intent∈db.intents,
  intent.kind=CommandKind.verificationStart.value↔
   intent.source=verificationIntentSource intent.deviceId

/-- A loaded object that shows the committed row; its node, if loaded, is the committed one. -/
def OrmDevice.Current (db:Database)(device:OrmDevice):Prop:=
 device.row∈db.devices∧
  ∀node,device.appiumNode=.loaded node→node=db.nodeOf device.row.id

def OrmDevice.HasNode (device:OrmDevice):Prop:=device.appiumNode ≠ .unloaded

section
variable {db:Database}{now:Instant}{preloaded packs:Option Catalog}

lemma deviceHasMaskingLiveSession_eq (id:DeviceId):
 deviceHasMaskingLiveSession db id=masked db id:=by
 have hexists:=Sql.select_isEmpty db.sessions fun s=>
  Sql.and (Sql.eq s.deviceId (some id)) (maskingLiveSessionPredicate s)
 have hmasked:Sql.exists_ db.sessions (fun s=>
   Sql.and (Sql.eq s.deviceId (some id)) (maskingLiveSessionPredicate s))=some (masked db id):=by
  refine Sql.exists_eq fun s _=>?_
  rw[Sql.and_eq_true_iff,Sql.eq_eq_true_iff,maskingLiveSessionPredicate_eq]
  simp
 exact Option.some.inj (hexists.symm.trans hmasked)
lemma deviceHasVerificationLease_eq (hkinds:VerificationKindsMatch db)(id:DeviceId):
 deviceHasVerificationLease db now id=leased db now id:=by
 have hexists:=Sql.select_isEmpty db.intents (verificationLeasePredicate now id)
 have hleased:Sql.exists_ db.intents (verificationLeasePredicate now id) =
   some (leased db now id):=by
  refine Sql.exists_eq fun intent hmem=>?_
  unfold verificationLeasePredicate
  rw[leaseOpen_eq]
  simp only[Sql.eq_some,Sql.and_some,Option.some.injEq,Bool.and_eq_true,decide_eq_true_eq]
  refine and_congr_right fun hid=>and_congr_left fun _=>?_
  rw[←hid]
  exact (hkinds intent hmem).symm
 exact Option.some.inj (hexists.symm.trans hleased)
lemma row_unique {a b:Device}(ha:a∈db.devices)(hb:b∈db.devices)(hid:a.id=b.id):a=b:=
 inj_on_of_nodup_map db.devices_unique ha hb hid
lemma withAppiumNode_eq {device:OrmDevice}(hcurrent:device.Current db):
 withAppiumNode db device=.ok ⟨device.row,.loaded (db.nodeOf device.row.id)⟩:=by
 obtain ⟨row,node⟩:=device
 obtain ⟨hmem,hnode⟩:=hcurrent
 cases node with
 | unloaded=>
  unfold withAppiumNode
  dsimp only
  rw[(Sql.find_eq_some_iff db.devices_unique).mpr ⟨hmem,rfl⟩]
 | loaded node=>
  have heq:node=db.nodeOf row.id:=hnode node rfl
  subst heq
  rfl

variable (db now) in
def pythonFacts (device:Device):DeviceStateFacts:=
 factsWith db now device
  (decide ((assessDeviceWithPack device (db.packs.get device.packId)).readinessState=.verified))

lemma readyFact_loaded (isReady:Bool)(row:Device):
 readyFact isReady ⟨row,.loaded (db.nodeOf row.id)⟩ =
  .ok (isReady&&(allowsAllocation db row&&(WithdrawalFacts.fromDevice row).inService)):=by
 cases isReady <;> rfl
lemma isReadyForUseAsync_eq (hpreloaded:CurrentCatalog db.packs preloaded)
 (hpacks:CurrentCatalog db.packs packs)(row:Device):
 isReadyForUseAsync db.packs preloaded packs row =
  decide ((assessDeviceWithPack row (db.packs.get row.packId)).readinessState=.verified):=by
 unfold isReadyForUseAsync
 rw[assessDeviceAsync_eq hpreloaded hpacks]
lemma deriveOperationalState_eq (hkinds:VerificationKindsMatch db)
 (hpreloaded:CurrentCatalog db.packs preloaded)(hpacks:CurrentCatalog db.packs packs)
 {device:OrmDevice}(hcurrent:device.Current db):
 deriveOperationalState db now preloaded packs device =
  .ok (evaluateOperationalState (pythonFacts db now device.row)):=by
 unfold deriveOperationalState gatherDeviceStateFacts
 rw[withAppiumNode_eq hcurrent]
 simp only[bind,Except.bind,pure,Except.pure]
 rw[readyFact_loaded,isReadyForUseAsync_eq hpreloaded hpacks]
 simp only[deviceHasMaskingLiveSession_eq,deviceHasVerificationLease_eq hkinds]
 rfl
lemma mem_liveIds (ids:List DeviceId){id:DeviceId}(hid:id∈ids):
 id∈(Sql.select db.sessions fun s=>
  Sql.and (Sql.isIn s.deviceId ids) (maskingLiveSessionPredicate s)).filterMap Session.deviceId↔
  masked db id:=by
 simp only[mem_filterMap,Sql.mem_select,Sql.and_eq_true_iff,maskingLiveSessionPredicate_eq,
  Option.some.injEq,masked,any_eq_true,Bool.and_eq_true,decide_eq_true_eq]
 constructor
 · rintro ⟨s,⟨hmem,-,hmasking⟩,hdevice⟩
   exact ⟨s,hmem,hdevice,hmasking⟩
 · rintro ⟨s,hmem,hdevice,hmasking⟩
   exact ⟨s,⟨hmem,by simp[Sql.isIn,hdevice,hid],hmasking⟩,hdevice⟩

lemma mem_leasedIds (ids:List DeviceId){row:Device}(hrow:row∈db.devices)
 (hid:row.id∈ids):
 row.id∈(Sql.select db.devices fun d=>
  Sql.and (Sql.isIn (some d.id) ids) (verificationLeaseExists db now d)).map Device.id↔
  leased db now row.id:=by
 simp only[mem_map,Sql.mem_select,Sql.and_eq_true_iff,verificationLeaseExists_eq,
  Option.some.injEq]
 constructor
 · rintro ⟨d,⟨-,-,hleased⟩,hd⟩
   rw[←hd]
   exact hleased
 · intro hleased
   exact ⟨row,⟨hrow,by simp[Sql.isIn,hid],hleased⟩,rfl⟩
lemma readyFact_hasNode {device:OrmDevice}(hcurrent:device.Current db)
 (hnode:device.HasNode)(isReady:Bool):readyFact isReady device =
   .ok (isReady&&(allowsAllocation db device.row&&
    (WithdrawalFacts.fromDevice device.row).inService))∧
  appiumNodeStopInFlight device=(db.nodeOf device.row.id).any nodeStopRequested:=by
 obtain ⟨row,node⟩:=device
 cases node with
 | unloaded=>exact absurd rfl hnode
 | loaded node=>
  have heq:node=db.nodeOf row.id:=hcurrent.2 node rfl
  subst heq
  exact ⟨readyFact_loaded isReady row,rfl⟩

/-- The loop body answers what the single-device form answers, or raises because it needs a node that was
not loaded. Without one the stop-in-flight fact reads false, which only a ready device shows. -/
lemma batchState_eq (now:Instant){liveIds leasedIds:List DeviceId}{device:OrmDevice}
 (hpreloaded:CurrentCatalog db.packs preloaded)(hpacks:CurrentCatalog db.packs packs)
 (hcurrent:device.Current db)(hlive:device.row.id∈liveIds↔masked db device.row.id)
 (hleased:device.row.id∈leasedIds↔leased db now device.row.id):
 (∀state,batchState db preloaded packs liveIds leasedIds device=.ok state→
   state=evaluateOperationalState (pythonFacts db now device.row))∧
  (device.HasNode→∃state,batchState db preloaded packs liveIds leasedIds device=.ok state):=by
 unfold batchState
 rw[isReadyForUseAsync_eq hpreloaded hpacks]
 simp only[hlive,hleased,Bool.decide_eq_true]
 unfold pythonFacts
 generalize decide ((assessDeviceWithPack device.row (db.packs.get device.row.packId)).readinessState =
  .verified)=isReady
 by_cases hnode:device.HasNode
 · obtain ⟨hready,hstop⟩:=readyFact_hasNode hcurrent hnode isReady
   rw[hready,hstop]
   refine ⟨?_,fun _=>⟨_,rfl⟩⟩
   rintro state ⟨rfl⟩
   rfl
 · refine ⟨?_,fun h=>absurd h hnode⟩
   obtain ⟨row,node⟩:=device
   cases node with
   | loaded=>exact absurd (fun h=>by cases h) hnode
   | unloaded=>
    cases isReady with
    | true=>
     intro state h
     cases h
    | false=>
     rintro state ⟨rfl⟩
     simp[evaluateOperationalState,factsWith,WithdrawalFacts.fromDevice]

section
variable {stateOf:OrmDevice→Except ReadError OperationalState}

lemma collectStates_get {devices:List OrmDevice}{acc states:Dict DeviceId OperationalState}
 {id:DeviceId}{v:OperationalState}(hv:∀device∈devices,device.row.id=id→∀s,stateOf device=.ok s→s=v)
 (hcollect:collectStates stateOf acc devices=.ok states)
 (hseen:acc.get id=some v∨∃device∈devices,device.row.id=id):states.get id=some v:=by
 induction devices generalizing acc with
 | nil=>
  cases hcollect
  obtain hget|⟨device,hmem,-⟩:=hseen
  · exact hget
  · cases hmem
 | cons device rest ih=>
  obtain ⟨s,hstate,hrest⟩:=bind_eq_ok.mp hcollect
  refine ih (fun d hd=>hv d (mem_cons_of_mem _ hd)) hrest ?_
  by_cases hid:device.row.id=id
  · rw[hv device mem_cons_self hid s hstate,hid,Dict.get_set_self]
    exact .inl rfl
  · rw[Dict.get_set_of_ne _ _ (Ne.symm hid)]
    obtain hget|⟨d,hmem,hd⟩:=hseen
    · exact .inl hget
    · rcases mem_cons.mp hmem with rfl|hmem
      · exact absurd hd hid
      · exact .inr ⟨d,hmem,hd⟩
lemma collectStates_ok {devices:List OrmDevice}(acc:Dict DeviceId OperationalState)
 (h:∀device∈devices,∃s,stateOf device=.ok s):
 ∃states,collectStates stateOf acc devices=.ok states:=by
 induction devices generalizing acc with
 | nil=>exact ⟨acc,rfl⟩
 | cons device _ ih=>
  obtain ⟨s,hs⟩:=h device mem_cons_self
  rw[collectStates,hs]
  exact ih _ fun d hd=>h d (mem_cons_of_mem _ hd)
end

lemma deriveOperationalStates_eq (now:Instant)(hpreloaded:CurrentCatalog db.packs preloaded)
 (hpacks:CurrentCatalog db.packs packs){devices:List OrmDevice}
 (hcurrent:∀device∈devices,device.Current db):
 (∀states,deriveOperationalStates db now preloaded packs devices=.ok states→∀device∈devices,
    states.get device.row.id=some (evaluateOperationalState (pythonFacts db now device.row)))∧
  ((∀device∈devices,device.HasNode)→
   ∃states,deriveOperationalStates db now preloaded packs devices=.ok states):=by
 have hcatalog:∀ids,CurrentCatalog db.packs (some (packs.getD (loadPackCatalog db.packs ids))):=by
  intro ids
  cases packs with
  | none=>exact currentCatalog_loadPackCatalog db.packs ids
  | some=>exact hpacks
 have hbody:∀device∈devices,_:=fun device hmem=>
  batchState_eq now hpreloaded (hcatalog (devices.map fun device=>device.row.packId))
   (hcurrent device hmem)
   (mem_liveIds (devices.map fun device=>device.row.id) (mem_map_of_mem hmem))
   (mem_leasedIds (devices.map fun device=>device.row.id) (hcurrent device hmem).1
    (mem_map_of_mem hmem))
 unfold deriveOperationalStates
 dsimp only
 split
 · rename_i hempty
   have hnil:devices=[]:=by simpa using hempty
   subst hnil
   refine ⟨?_,fun _=>⟨_,rfl⟩⟩
   intro states _ device hmem
   cases hmem
 · refine ⟨?_,fun hnodes=>collectStates_ok _ fun d hd=>(hbody d hd).2 (hnodes d hd)⟩
   intro states hcollect device hmem
   refine collectStates_get ?_ hcollect (.inr ⟨device,hmem,rfl⟩)
   intro d hd hid s hs
   rw[(hbody d hd).1 s hs,row_unique (hcurrent d hd).1 (hcurrent device hmem).1 hid]
end

variable {db:Database}{now:Instant}{device:Device}

lemma pythonFacts_eq_of_verified
 (h:(assessDeviceWithPack device (db.packs.get device.packId)).readinessState=.verified∨
  device.verifiedAt=none):
 pythonFacts db now device=factsWith db now device device.verifiedAt.isSome:=by
 unfold pythonFacts
 rcases h with hverified|hnone
 · have hsome:=Option.isSome_iff_ne_none.mpr (verifiedAt_of_assessDeviceWithPack hverified)
   rw[hverified,hsome]
   rfl
 · have hnot:(assessDeviceWithPack device (db.packs.get device.packId)).readinessState ≠ .verified:=
    fun h=>verifiedAt_of_assessDeviceWithPack h hnone
   simp[hnot,hnone]
lemma available_of_pythonFacts (h:evaluateOperationalState (pythonFacts db now device)=.available):
 evaluateOperationalState (factsWith db now device device.verifiedAt.isSome)=.available:=by
 by_cases hverified:
   (assessDeviceWithPack device (db.packs.get device.packId)).readinessState=.verified
 · rw[←pythonFacts_eq_of_verified (.inl hverified)]
   exact h
 · -- not ready, so never available
   have hready:(pythonFacts db now device).ready=false:=by
    simp[pythonFacts,factsWith,hverified]
   have honly:=onlyState_eq (pythonFacts db now device) .available
   rw[h] at honly
   simp[onlyState,hready] at honly
end GridFleet.StateProjection
