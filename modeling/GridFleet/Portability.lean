import GridFleet.FleetRows
import GridFleet.FreshRows
import Mathlib.Data.List.Dedup
import Mathlib.Data.List.Sort
import Mathlib.Data.String.Basic
/-! Portable bundles of the registered devices and groups: the export, the read-only validation and the
commit, as they run when nothing else writes. Row ids are drawn fresh. -/
namespace GridFleet.Portability

abbrev GroupId:=ℕ

inductive GroupType where
 | static | dynamic
 deriving DecidableEq

structure DeviceRow where
 packId:String
 platformId:String
 identityScheme:String
 identityScope:IdentityScope
 identityValue:String
 name:String
 deviceType:DeviceType
 connectionType:ConnectionType
 connectionTarget:Option String
 hostId:HostId
 deviceConfig:Option JsonObject
 testData:JsonObject
 createdAt:Instant
 deriving DecidableEq

/-- The stored axes of a dynamic group, as the dump without nulls writes them. -/
structure NativeFilters where
 packId:Option String:=none
 platformId:Option String:=none
 status:Option OperationalState:=none
 reserved:Option Bool:=none
 hostId:Option HostId:=none
 identityValue:Option String:=none
 connectionTarget:Option String:=none
 deviceType:Option DeviceType:=none
 connectionType:Option ConnectionType:=none
 osVersion:Option String:=none
 osVersionDisplay:Option String:=none
 needsAttention:Option Bool:=none
 deriving DecidableEq

def NativeFilters.empty:NativeFilters:={}

/-- `key` is any text: the grammar of `GroupKey`, outside of which an export raises, is left out. -/
structure GroupRow where
 key:String
 name:String
 description:Option String
 groupType:GroupType
 filters:Option NativeFilters

/-- `memberOf` pairs a dynamic group with a static one, `memberships` a group with a device. -/
structure Tables where
 hosts:Dict HostId String
 devices:Dict DeviceId DeviceRow
 groups:Dict GroupId GroupRow
 memberOf:List (GroupId×GroupId)
 memberships:List (GroupId×DeviceId)

/-- The unique indexes of the devices table: partial ones, by scope. -/
def sameIdentity (a b:DeviceRow):Bool:=
 a.identityScope=b.identityScope∧a.identityScheme=b.identityScheme∧
  a.identityValue=b.identityValue∧(a.identityScope=.host→a.hostId=b.hostId)

structure Constraints (t:Tables):Prop where
 hostname:∀i j name,t.hosts.get i=some name→t.hosts.get j=some name→i=j
 host:∀i d,t.devices.get i=some d→∃name,t.hosts.get d.hostId=some name
 identity:∀i j d e,t.devices.get i=some d→t.devices.get j=some e→
  sameIdentity d e→i=j
 key:∀i j g h,t.groups.get i=some g→t.groups.get j=some h→ g.key=h.key→i=j
 memberOf:∀e∈t.memberOf,∃g h,t.groups.get e.1=some g∧g.groupType=.dynamic∧
  t.groups.get e.2=some h∧h.groupType=.static

structure DeviceGroupFilters where
 native:NativeFilters
 memberOf:List String

structure ExportedDeviceGroup where
 key:String
 name:String
 description:Option String
 groupType:GroupType
 filters:Option DeviceGroupFilters

structure OriginalHost where
 hostname:String
 hostId:Option HostId

structure ExportedDevice where
 packId:String
 platformId:String
 identityScheme:String
 identityScope:IdentityScope
 identityValue:String
 name:String
 deviceType:DeviceType
 connectionType:ConnectionType
 connectionTarget:Option String
 staticGroups:List String
 deviceConfig:JsonObject
 testData:JsonObject
 originalHost:OriginalHost

def schemaVersion:ℕ:=2

structure ExportBundle where
 version:ℕ
 exportedAt:Instant
 groups:List ExportedDeviceGroup
 devices:List ExportedDevice

def sortedKeys (keys:List String):List String:=keys.dedup.insertionSort (· ≤ ·)
def memberOfKeys (t:Tables)(group:GroupId):List String:=
 sortedKeys (t.memberOf.filterMap fun e=>
  if e.1=group then (t.groups.get e.2).map GroupRow.key else none)
def staticGroupKeys (t:Tables)(device:DeviceId):List String:=
 sortedKeys (t.memberships.filterMap fun e=>
  if e.2=device then
   ((t.groups.get e.1).filter fun g=>g.groupType=.static).map GroupRow.key
  else none)
def exportedFilters (native:Option NativeFilters)(keys:List String):Option DeviceGroupFilters:=
 let axes:=native.getD .empty
 if axes=.empty∧keys=[] then none else some ⟨axes,keys⟩
def exportedGroup (t:Tables)(id:GroupId)(g:GroupRow):ExportedDeviceGroup:=
 ⟨g.key,g.name,g.description,g.groupType,
  if g.groupType=.dynamic then exportedFilters g.filters (memberOfKeys t id) else none⟩

def exportedDeviceOn (t:Tables)(id:DeviceId)(d:DeviceRow)(hostname:String):ExportedDevice:=
 { packId:=d.packId,platformId:=d.platformId,identityScheme:=d.identityScheme
   identityScope:=d.identityScope,identityValue:=d.identityValue,name:=d.name
   deviceType:=d.deviceType,connectionType:=d.connectionType
   connectionTarget:=d.connectionTarget,staticGroups:=staticGroupKeys t id
   deviceConfig:=d.deviceConfig.getD Dict.empty,testData:=d.testData
   originalHost:=⟨hostname,some d.hostId⟩ }

/-- A device whose host is not loaded is an error. -/
def exportedDevice (t:Tables)(id:DeviceId)(d:DeviceRow):Option ExportedDevice:=
 (t.hosts.get d.hostId).map (exportedDeviceOn t id d)

def buildExportBundle (t:Tables)(now:Instant):Option ExportBundle:=do
 let devices:=t.devices.entries.insertionSort fun a b=>a.2.createdAt≤b.2.createdAt
 let groups:=t.groups.entries.insertionSort fun a b=>a.2.key≤b.2.key
 let exported ←devices.mapM fun e=>exportedDevice t e.1 e.2
 return ⟨schemaVersion,now,groups.map fun e=>exportedGroup t e.1 e.2,exported⟩

inductive PackRunnable where
 | runnable | unavailable | disabled | draining | platformRemoved

structure Env where
 lower:String→String
 assertRunnable:String→String→PackRunnable
 computeBundleHash:ExportBundle→String

inductive ImportRowStatus where
 | validNew | conflictSkip | duplicateInBundle | invalid

structure HostSuggestion where
 id:HostId
 hostname:String

structure ImportPreviewRow where
 index:ℕ
 device:ExportedDevice
 status:ImportRowStatus
 hostSuggestion:Option HostSuggestion
 issues:List String

structure ImportPreview where
 bundleHash:String
 availableHosts:List HostSuggestion
 rows:List ImportPreviewRow

inductive ImportError where
 | bundleHashMismatch
 | unsupportedSchemaVersion
 | groupKeyCollision (keys:List String)
 | unknownGroupReference (keys:List String)

def identityKey (device:ExportedDevice):String×IdentityScope×String:=
 (device.identityScheme,device.identityScope,device.identityValue)
def loadAvailableHosts (t:Tables):List HostSuggestion:=
 (t.hosts.entries.map fun e=>(⟨e.1,e.2⟩:HostSuggestion)).insertionSort
  fun a b=>a.hostname≤b.hostname

def pickHostSuggestion (env:Env)(device:ExportedDevice)(hosts:List HostSuggestion):
 Option HostSuggestion:=
 let found:=hosts.filter fun h=>env.lower h.hostname=env.lower device.originalHost.hostname
 match found with
 | []=>none
 | [only]=>some only
 | first::_::_=>
  match device.originalHost.hostId with
  | none=>some first
  | some id=>some ((found.find? fun h=>h.id=id).getD first)

def classifyPackRunnable (env:Env)(device:ExportedDevice):Option (ImportRowStatus×List String):=
 let missing:= "pack/platform not installed: " ++ device.packId ++ "/" ++ device.platformId
 match env.assertRunnable device.packId device.platformId with
 | .runnable=>none
 | .unavailable | .disabled | .platformRemoved=>some (.invalid,[missing])
 | .draining=>some (.invalid,["pack not runnable: pack " ++ device.packId ++ " is draining"])

def classifyExistingIdentity (t:Tables)(device:ExportedDevice)
 (suggestion:Option HostSuggestion):Option (ImportRowStatus×List String):=
 let named:=fun d:DeviceRow=>decide (d.identityScope=device.identityScope∧
  d.identityScheme=device.identityScheme∧d.identityValue=device.identityValue)
 match device.identityScope,suggestion with
 | .global,_=>
  if t.devices.entries.any fun e=>named e.2 then
   some (.conflictSkip,["identity already exists (global scope)"])
  else none
 | .host,some host=>
  if t.devices.entries.any fun e=>named e.2&&e.2.hostId=host.id then
   some (.conflictSkip,["identity already exists on suggested host"])
  else none
 | .host,none=>none

def classifyRow (env:Env)(t:Tables)(hosts:List HostSuggestion)
 (duplicateKeys:List (String×IdentityScope×String))(staticGroupKeys:List String)
 (device:ExportedDevice):ImportRowStatus×List String:=
 let unknown:=sortedKeys (device.staticGroups.filter fun key=>key ∉ staticGroupKeys)
 if unknown≠[] then
  (.invalid,["unknown static group keys: " ++ ", ".intercalate unknown])
 else match classifyPackRunnable env device with
  | some verdict=>verdict
  | none=>
   if identityKey device∈duplicateKeys then
    (.duplicateInBundle,["identity duplicated within bundle"])
   else
    (classifyExistingIdentity t device (pickHostSuggestion env device hosts)).getD
     (.validNew,[])

def staticKeys (bundle:ExportBundle):List String:=
 (bundle.groups.filter fun g=>g.groupType=.static).map ExportedDeviceGroup.key
def memberOfReferences (g:ExportedDeviceGroup):List String:=
 (g.filters.map DeviceGroupFilters.memberOf).getD []

def validateGroupReferences (t:Tables)(bundle:ExportBundle):Except ImportError (List String):=
 let existing:=(bundle.groups.map ExportedDeviceGroup.key).filter fun key=>
  t.groups.entries.any fun e=>e.2.key=key
 let static:=staticKeys bundle
 let references:=((bundle.groups.filter fun g=>g.groupType=.dynamic).flatMap
  memberOfReferences)++bundle.devices.flatMap ExportedDevice.staticGroups
 let unknown:=references.filter fun key=>key ∉ static
 if existing≠[] then .error (.groupKeyCollision (sortedKeys existing))
 else if unknown≠[] then .error (.unknownGroupReference (sortedKeys unknown))
 else .ok static

def duplicateKeys (bundle:ExportBundle):List (String×IdentityScope×String):=
 let keys:=bundle.devices.map identityKey
 keys.filter fun key=>1<keys.count key
def previewRow (env:Env)(t:Tables)(bundle:ExportBundle)(static:List String)
 (device:ExportedDevice)(index:ℕ):ImportPreviewRow:=
 let hosts:=loadAvailableHosts t
 let verdict:=classifyRow env t hosts (duplicateKeys bundle) static device
 ⟨index,device,verdict.1,pickHostSuggestion env device hosts,verdict.2⟩

def validateBundle (env:Env)(t:Tables)(bundle:ExportBundle):Except ImportError ImportPreview:=
 if bundle.version≠schemaVersion then .error .unsupportedSchemaVersion
 else match validateGroupReferences t bundle with
  | .error e=>.error e
  | .ok static=>
   .ok ⟨env.computeBundleHash bundle,loadAvailableHosts t,
    bundle.devices.zipIdx.map fun e=>previewRow env t bundle static e.1 e.2⟩

structure ImportMapping where
 index:ℕ
 targetHostId:HostId

structure ImportCommitRequest where
 bundle:ExportBundle
 bundleHash:String
 mappings:List ImportMapping

structure ImportCommitResult where
 created:List (ℕ×DeviceId)
 skipped:List (ℕ×String)
 failed:List (ℕ×String)
 membershipsSkipped:List (ℕ×String×String)

def groupFiltersPayload (g:ExportedDeviceGroup):Option NativeFilters:=
 match g.filters with
 | none=>none
 | some filters=>if filters.native=.empty then none else some filters.native
def groupDefinition (g:ExportedDeviceGroup):GroupRow:=
 match g.groupType with
 | .static=>⟨g.key,g.name,g.description,.static,none⟩
 | .dynamic=>⟨g.key,g.name,g.description,.dynamic,groupFiltersPayload g⟩

/-- A flush of definitions, with the ids by key; a key that is taken fails the transaction. -/
def insertGroupDefinitions (t:Tables)(groups:List ExportedDeviceGroup):
 Except ImportError (Tables×List (String×GroupId)):=
 let keys:=groups.map ExportedDeviceGroup.key
 let taken:=keys.filter fun key=>t.groups.entries.any fun e=>e.2.key=key
 if taken≠[]∨¬keys.Nodup then .error (.groupKeyCollision (sortedKeys taken))
 else
  let inserted:=t.groups.insertAll (groups.map groupDefinition)
  .ok ({t with groups:=inserted.1},keys.zip inserted.2)

def memberOfValues (groups:List ExportedDeviceGroup)
 (dynamicIds staticIds:List (String×GroupId)):List (GroupId×GroupId):=
 groups.flatMap fun g=>(sortedKeys (memberOfReferences g)).filterMap fun target=>
  match dynamicIds.lookup g.key,staticIds.lookup target with
  | some source,some static=>some (source,static)
  | _,_=>none

/-- Static definitions, dynamic definitions and the edges between them, in one transaction. -/
def commitGroupDefinitions (t:Tables)(bundle:ExportBundle):
 Except ImportError (Tables×List (String×GroupId)):=do
 let statics:=bundle.groups.filter fun g=>g.groupType=.static
 let dynamics:=bundle.groups.filter fun g=>g.groupType=.dynamic
 let withStatics ←insertGroupDefinitions t statics
 let withDynamics ←insertGroupDefinitions withStatics.1 dynamics
 let edges:=memberOfValues dynamics withDynamics.2 withStatics.2
 return ({withDynamics.1 with memberOf:=withDynamics.1.memberOf++edges},withStatics.2)

structure PlannedRow where
 index:ℕ
 device:ExportedDevice
 targetHostId:HostId

def skipReason (row:ImportPreviewRow):Option String:=
 match row.status with
 | .duplicateInBundle=>some "duplicate in bundle"
 | .conflictSkip=>some "identity already exists"
 | .invalid=>some "invalid"
 | .validNew=>none

def planDeviceRows (rows:List ImportPreviewRow)(mappings:Dict ℕ HostId):
 List PlannedRow×List (ℕ×String):=
 (rows.filterMap fun row=>match skipReason row,mappings.get row.index with
   | none,some host=>some ⟨row.index,row.device,host⟩
   | _,_=>none,
  rows.filterMap fun row=>match skipReason row,mappings.get row.index with
   | some reason,_=>some (row.index,reason)
   | none,none=>some (row.index, "no mapping")
   | none,some _=>none)

def buildCreatePayload (device:ExportedDevice)(targetHostId:HostId)(now:Instant):DeviceRow:=
 { packId:=device.packId,platformId:=device.platformId
   identityScheme:=device.identityScheme,identityScope:=device.identityScope
   identityValue:=device.identityValue,name:=device.name
   deviceType:=device.deviceType,connectionType:=device.connectionType
   connectionTarget:=device.connectionTarget,hostId:=targetHostId
   deviceConfig:=some device.deviceConfig,testData:=device.testData,createdAt:=now }

structure DeviceInserts where
 devices:Dict DeviceId DeviceRow
 created:List (ℕ×DeviceId)
 failed:List (ℕ×String)

/-- One row in its savepoint: a broken unique index fails this row only. -/
def insertRow (hosts:Dict HostId String)(now:Instant)(acc:DeviceInserts)
 (row:PlannedRow):DeviceInserts:=
 let payload:=buildCreatePayload row.device row.targetHostId now
 match hosts.get row.targetHostId with
 | none=>{ acc with failed:=acc.failed++[(row.index, "host not found")] }
 | some _=>
  if acc.devices.entries.any fun e=>sameIdentity e.2 payload then
   { acc with failed:=acc.failed++[(row.index, "identity conflict")] }
  else
   let id:=acc.devices.freshKey
   { acc with
     devices:=acc.devices.set id payload,created:=acc.created++[(row.index,id)] }

def deviceImportBatchSize:ℕ:=100
def membershipBatchSize:ℕ:=1000
def insertDeviceBatches (t:Tables)(now:Instant)(rows:List PlannedRow):DeviceInserts:=
 (batched deviceImportBatchSize rows).foldl
  (fun acc batch=>batch.foldl (insertRow t.hosts now) acc) ⟨t.devices,[],[]⟩

structure PlannedMembership where
 index:ℕ
 key:String
 deviceId:DeviceId
 groupId:GroupId

/-- What the batch inserts and what it skips, against the rows as they are now. -/
def membershipVerdict (t:Tables)(m:PlannedMembership):(GroupId×DeviceId) ⊕ (ℕ×String×String):=
 match (t.groups.entries.find? fun e=>e.2.key=m.key).map Prod.fst with
 | none=>.inr (m.index,m.key, "static group '" ++ m.key ++ "' deleted during import")
 | some current=>
  if current≠m.groupId then
   .inr (m.index,m.key, "static group '" ++ m.key ++ "' deleted and recreated during import")
  else if (t.devices.get m.deviceId).isNone then
   .inr (m.index,m.key, "device was deleted during import")
  else .inl (m.groupId,m.deviceId)

def addMembership (memberships:List (GroupId×DeviceId))(e:GroupId×DeviceId):
 List (GroupId×DeviceId):=
 if e∈memberships then memberships else memberships++[e]

structure MembershipInserts where
 memberships:List (GroupId×DeviceId)
 skipped:List (ℕ×String×String)

def stageMembership (t:Tables)(acc:MembershipInserts)(m:PlannedMembership):MembershipInserts:=
 match membershipVerdict t m with
 | .inl e=>{acc with memberships:=addMembership acc.memberships e}
 | .inr skip=>{acc with skipped:=acc.skipped++[skip]}
def plannedMemberships (devices:List ExportedDevice)(deviceIds:List (ℕ×DeviceId))
 (groupIds:List (String×GroupId)):List PlannedMembership:=
 deviceIds.flatMap fun e=>match devices[e.1]? with
  | none=>[]
  | some device=>device.staticGroups.filterMap fun key=>
   (groupIds.lookup key).map fun group=>⟨e.1,key,e.2,group⟩
def stageStaticMemberships (t:Tables)(planned:List PlannedMembership):MembershipInserts:=
 (batched membershipBatchSize planned).foldl
  (fun acc batch=>batch.foldl (stageMembership t) acc) ⟨t.memberships,[]⟩

def commitImport (env:Env)(t:Tables)(now:Instant)(request:ImportCommitRequest):
 Except ImportError (Tables×ImportCommitResult):=do
 if env.computeBundleHash request.bundle≠request.bundleHash then throw .bundleHashMismatch
 let preview ←validateBundle env t request.bundle
 let (defined,groupIds) ←commitGroupDefinitions t request.bundle
 let mappings:=Dict.ofList (request.mappings.map fun m=>(m.index,m.targetHostId))
 let (planned,skipped):=planDeviceRows preview.rows mappings
 let inserts:=insertDeviceBatches defined now planned
 let withDevices:={defined with devices:=inserts.devices}
 let staged:=stageStaticMemberships withDevices
  (plannedMemberships request.bundle.devices inserts.created groupIds)
 return ({withDevices with memberships:=staged.memberships},
  ⟨inserts.created,skipped,inserts.failed,staged.skipped⟩)
end GridFleet.Portability
