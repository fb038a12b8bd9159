import GridFleet.CapabilityMatching
import GridFleet.GroupMembership
/-! A matching pass reads the eligible devices once and yields the pairs of a device and a candidate that
match. It advertises only the groups it was asked about; `fullSurface` advertises all of them, and no
candidate can tell the difference. -/
namespace GridFleet.GridMatching
open FleetTables GroupMembership CapabilityMatching Readiness List

structure EligibleRow where
 device:FleetDevice
 reservationRunId:Option RunId
 staticGroupKeys:List String
 operationalState:OperationalState

structure MatchPass where
 rows:List EligibleRow
 membership:GroupMembershipIndex
 packCatalog:Catalog

structure Match where
 row:EligibleRow
 candidate:Capabilities
 stereotype:Capabilities

section
variable (f:Fleet)(now:Instant)(restartWindow:ℕ)

def gatingOwner (device:DeviceId):Option RunId:=
 ReservationGate.reservationGatingOwner f.gate device now
def availabilityHolds (includeBusy:Bool)(device:FleetDevice):Bool:=
 (if includeBusy then
  StateProjection.availableApartFromLiveSessionSql f.database now device.toDevice
 else StateProjection.isAvailableSql f.database now device.toDevice) == some true
def nodeServes (device:FleetDevice):Bool:=
 nodeViable (f.nodeOf device.id) now restartWindow&&nodeAcceptingNewSessions (f.nodeOf device.id)
def isEligible (exclude:List DeviceId)(includeBusy:Bool)(device:FleetDevice):Bool:=
 availabilityHolds f now includeBusy device&&nodeServes f now restartWindow device&&
  (includeBusy||!ReservationGate.liveSessionExists f.gate device.id)&&
  !decide (device.id∈exclude)
def stateColumn (device:FleetDevice):OperationalState:=
 if StateProjection.maskingLiveSessionExists f.database device.toDevice=some true then .busy
 else .available
def eligibleRow (groupKeys:List String)(device:FleetDevice):EligibleRow where
 device:=device
 reservationRunId:=gatingOwner f now device.id
 staticGroupKeys:=(loadStaticGroupKeys f.groups device.id).filter (· ∈ groupKeys)
 operationalState:=stateColumn f device
def eligibleDevicesWithFacts (groupKeys:List String)(exclude:List DeviceId)(includeBusy:Bool):
 List EligibleRow:=
 (f.devices.filter (isEligible f now restartWindow exclude includeBusy)).map
  (eligibleRow f now groupKeys)

def catalogOf (rows:List EligibleRow):Catalog:=
 loadPackCatalog f.packs (rows.map fun row=>row.device.packId)
def readinessState (packs:Catalog)(device:FleetDevice):ReadinessState:=
 (assessDeviceAsync f.packs none (some packs) device.toDevice).readinessState
def factsFromEligibleRow (packs:Catalog)(row:EligibleRow):DeviceGroupFacts:=
 buildDeviceGroupFacts row.operationalState row.reservationRunId.isSome
  (readinessState f packs row.device) row.staticGroupKeys
def readyRows (packs:Catalog)(rows:List EligibleRow):List EligibleRow:=
 rows.filter fun row=>(factsFromEligibleRow f packs row).readinessState=.verified

def matchPass (definitions:GroupDefinitionBatch)(groupKeys:List String)(exclude:List DeviceId)
 (includeBusy:Bool):MatchPass:=
 let rows:=eligibleDevicesWithFacts f now restartWindow groupKeys exclude includeBusy
 let packs:=catalogOf f rows
 { rows:=readyRows f packs rows
   membership:=evaluateGroupMemberships definitions ((readyRows f packs rows).map EligibleRow.device)
    fun device=>factsFromEligibleRow f packs (eligibleRow f now groupKeys device)
   packCatalog:=packs }

/-- The template of the selected release's platform; a device without pack or platform has none. -/
def stereotypeTemplate (packs:Catalog)(device:FleetDevice):Option StereotypeTemplate:=
 if device.packId = "" ∨ device.platformId = "" then none
 else do
  let pack ←packs.get device.packId
  let release ←ReleaseOrdering.selectedRelease PackReleaseView.release pack.releases
   pack.currentRelease
  let platform ←release.platforms.find? fun row=>row.manifestPlatformId=device.platformId
  return f.stereotypes device.packId release.release platform.manifestPlatformId

def matchingGroupKeysForDevice (membership:GroupMembershipIndex)(device:DeviceId)
 (groupKeys:List String):List String:=
 groupKeys.filter fun key=>membership.matchesAll device [key]
def stereotypeOf (text:Text)(pass:MatchPass)(advertised:List String)(device:FleetDevice):
 Capabilities:=
 deviceMatchSurface text (stereotypeTemplate f pass.packCatalog device) device
  (matchingGroupKeysForDevice pass.membership device.id advertised)

def iterMatches (text:Text)(pass:MatchPass)(candidates:List Capabilities)
 (advertised:List String)(ticketRunId:Option RunId):List Match:=
 pass.rows.flatMap fun row=>
  let stereotype:=stereotypeOf f text pass advertised row.device
  (candidates.filter fun candidate=>candidateMatchesStereotype text candidate stereotype&&
   ReservationGate.ticketPassesReservation ticketRunId row.reservationRunId).map fun candidate=>
    ⟨row,candidate,stereotype⟩
end

section
variable (f:Fleet)(now:Instant)

def IsVerified (device:FleetDevice):Prop:=
 (assessDeviceWithPack device.toDevice (f.packs.get device.packId)).readinessState=.verified
def groupFacts (state:OperationalState)(device:FleetDevice):DeviceGroupFacts:=
 buildDeviceGroupFacts state (gatingOwner f now device.id).isSome .verified
  (loadStaticGroupKeys f.groups device.id)
def fullSurface (text:Text)(state:OperationalState)(device:FleetDevice):Capabilities:=
 deviceMatchSurface text (stereotypeTemplate f f.packs device) device
  (memberGroupKeys f.groups device (groupFacts f now state device))

variable {f now}{restartWindow:ℕ}{text:Text}

lemma readinessState_catalogOf (rows:List EligibleRow)(device:FleetDevice):
 readinessState f (catalogOf f rows) device =
  (assessDeviceWithPack device.toDevice (f.packs.get device.packId)).readinessState:=by
 unfold readinessState catalogOf
 rw[assessDeviceAsync_eq (currentCatalog_none _) (currentCatalog_loadPackCatalog _ _)]
lemma stereotypeTemplate_catalogOf {rows:List EligibleRow}{row:EligibleRow}(hrow:row∈rows):
 stereotypeTemplate f (catalogOf f rows) row.device=stereotypeTemplate f f.packs row.device:=by
 unfold stereotypeTemplate
 split
 · rfl
 · rename_i hnonempty
   have hpack:row.device.packId ≠ "" :=fun h=>hnonempty (.inl h)
   unfold catalogOf
   rw[get_loadPackCatalog f.packs hpack (mem_map.mpr ⟨row,hrow,rfl⟩)]
lemma device_unique {a b:FleetDevice}(ha:a∈f.devices)(hb:b∈f.devices)(hid:a.id=b.id):a=b:=
 inj_on_of_nodup_map f.devices_unique ha hb hid
lemma staticKeysCover (g:GroupTables)(keys:List String)(device:DeviceId):
 StaticKeysCover g keys device ((loadStaticGroupKeys g device).filter
  (· ∈ (loadGroupDefinitionBatch g keys).loadedKeys)):=by
 intro key hkey
 rw[mem_filter,decide_eq_true_eq]
 exact and_iff_left hkey

def passFor (f:Fleet)(now:Instant)(restartWindow:ℕ)(keys:List String)
 (exclude:List DeviceId)(includeBusy:Bool):MatchPass:=
 matchPass f now restartWindow (loadGroupDefinitionBatch f.groups keys)
  (loadGroupDefinitionBatch f.groups keys).loadedKeys exclude includeBusy

lemma mem_passFor_rows {keys:List String}{exclude:List DeviceId}{includeBusy:Bool}{row:EligibleRow}:
 row∈(passFor f now restartWindow keys exclude includeBusy).rows↔
  ∃device∈f.devices,isEligible f now restartWindow exclude includeBusy device∧IsVerified f device∧
   row=eligibleRow f now (loadGroupDefinitionBatch f.groups keys).loadedKeys device:=by
 simp only[passFor,matchPass,readyRows,mem_filter,decide_eq_true_eq]
 unfold factsFromEligibleRow buildDeviceGroupFacts
 simp only[readinessState_catalogOf,eligibleDevicesWithFacts,mem_map,mem_filter]
 constructor
 · rintro ⟨⟨device,⟨hmem,heligible⟩,rfl⟩,hready⟩
   exact ⟨device,hmem,heligible,hready,rfl⟩
 · rintro ⟨device,hmem,heligible,hready,rfl⟩
   exact ⟨⟨device,⟨hmem,heligible⟩,rfl⟩,hready⟩

section
variable {keys:List String}{exclude:List DeviceId}{includeBusy:Bool}{device:FleetDevice}
 (hmem:device∈f.devices)
 (heligible:isEligible f now restartWindow exclude includeBusy device=true)
 (hverified:IsVerified f device)

include hmem heligible hverified

lemma matchesAll_passFor {asked:List String}(hasked:∀key∈asked,key∈keys∧key ≠ ""):
 (passFor f now restartWindow keys exclude includeBusy).membership.matchesAll device.id asked =
  true↔
 ∀key∈asked,BelongsTo f.groups device (groupFacts f now (stateColumn f device) device) key:=by
 have hrow:eligibleRow f now (loadGroupDefinitionBatch f.groups keys).loadedKeys device ∈
   (passFor f now restartWindow keys exclude includeBusy).rows:=
  mem_passFor_rows.mpr ⟨device,hmem,heligible,hverified,rfl⟩
 have hdevices:∀other∈(passFor f now restartWindow keys exclude includeBusy).rows.map
   EligibleRow.device,other.id=device.id→ other=device:=by
  intro other hother hid
  obtain ⟨row,hrow',rfl⟩:=mem_map.mp hother
  obtain ⟨device',hmem',-,-,rfl⟩:=mem_passFor_rows.mp hrow'
  exact device_unique hmem' hmem hid
 have hin:device∈(passFor f now restartWindow keys exclude includeBusy).rows.map
   EligibleRow.device:=mem_map.mpr ⟨_,hrow,rfl⟩
 refine (matchesAll_iff hin hdevices (staticKeysCover f.groups keys device.id) hasked).trans ?_
 refine forall₂_congr fun key _=>BelongsTo.congr rfl rfl ?_
 simp only[factsFromEligibleRow,buildDeviceGroupFacts,groupFacts,eligibleRow,
  readinessState_catalogOf]
 exact congrArg (computeNeedsAttention (stateColumn f device)) hverified

/-- A candidate whose groups are all advertised matches the advertised surface exactly when it matches
the full one. -/
lemma matches_stereotypeOf {advertised:List String}
 (hadvertised:∀key∈advertised,key∈keys∧key ≠ ""){candidate:Capabilities}
 (hcandidate:∀key,groupPrefix++key∈candidate.keys→key∈advertised):
 candidateMatchesStereotype text candidate (stereotypeOf f text
  (passFor f now restartWindow keys exclude includeBusy) advertised device) =
 candidateMatchesStereotype text candidate
  (fullSurface f now text (stateColumn f device) device):=by
 have hrow:eligibleRow f now (loadGroupDefinitionBatch f.groups keys).loadedKeys device ∈
   eligibleDevicesWithFacts f now restartWindow
    (loadGroupDefinitionBatch f.groups keys).loadedKeys exclude includeBusy:=
  mem_map.mpr ⟨device,mem_filter.mpr ⟨hmem,heligible⟩,rfl⟩
 have htemplate:stereotypeTemplate f
   (passFor f now restartWindow keys exclude includeBusy).packCatalog device =
    stereotypeTemplate f f.packs device:=stereotypeTemplate_catalogOf hrow
 unfold stereotypeOf fullSurface
 rw[htemplate]
 refine matches_surface_congr fun key hkey=>?_
 have hadv:=hcandidate key hkey
 rw[mem_memberGroupKeys,matchingGroupKeysForDevice,mem_filter,and_iff_right hadv,
  matchesAll_passFor hmem heligible hverified (by simpa using hadvertised key hadv)]
 simp
end

lemma mem_iterMatches {pass:MatchPass}{candidates:List Capabilities}{advertised:List String}
 {ticketRunId:Option RunId}{m:Match}:m∈iterMatches f text pass candidates advertised ticketRunId↔
  m.row∈pass.rows∧m.candidate∈candidates∧ticketRunId=m.row.reservationRunId∧
   m.stereotype=stereotypeOf f text pass advertised m.row.device∧
   candidateMatchesStereotype text m.candidate m.stereotype:=by
 simp only[iterMatches,mem_flatMap,mem_map,mem_filter,Bool.and_eq_true,
  ReservationGate.ticketPassesReservation,decide_eq_true_eq]
 constructor
 · rintro ⟨row,hrow,candidate,⟨hcandidate,hmatches,hrun⟩,rfl⟩
   exact ⟨hrow,hcandidate,hrun,rfl,hmatches⟩
 · rintro ⟨hrow,hcandidate,hrun,hstereotype,hmatches⟩
   rw[hstereotype] at hmatches
   exact ⟨m.row,hrow,m.candidate,⟨hcandidate,hmatches,hrun⟩,by rw[←hstereotype]⟩
end
end GridFleet.GridMatching
