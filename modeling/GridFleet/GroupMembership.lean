import GridFleet.FleetTables
/-! A batch loads the groups some keys name with the static groups these refer to, and evaluates all of
them from facts gathered beforehand. `BelongsTo` says what membership means without a batch. -/
namespace GridFleet.GroupMembership
open FleetTables Portability Readiness Dict List Option

structure GroupDefinitionBatch where
 groups:List (GroupId×GroupRow)
 memberOfKeysByDynamicGroupId:GroupId→List String

section
variable (g:GroupTables)

def directIds (keys:List String):List GroupId:=
 (g.groups.entries.filter fun e=>e.2.key ≠ "" ∧ e.2.key∈keys).map Prod.fst
def wantedIds (keys:List String):List GroupId:=
 directIds g keys++(g.memberOf.filter fun e=>e.1∈directIds g keys).map Prod.snd
def memberOfKeys (id:GroupId):List String:=
 (g.memberOf.filter fun e=>e.1=id).filterMap fun e=>(g.groups.get e.2).map GroupRow.key
def loadGroupDefinitionBatch (keys:List String):GroupDefinitionBatch where
 groups:=(g.groups.entries.filter fun e=>e.1∈wantedIds g keys).insertionSort
  fun a b=>a.2.key≤b.2.key
 memberOfKeysByDynamicGroupId:=memberOfKeys g
def loadStaticGroupKeys (device:DeviceId):List String:=
 g.memberships.filterMap fun e=>
  if e.2=device then
   (g.groups.get e.1).bind fun row=>if row.groupType=.static then some row.key else none
  else none
end

def GroupDefinitionBatch.loadedKeys (batch:GroupDefinitionBatch):List String:=
 batch.groups.map fun e=>e.2.key

structure DeviceGroupFacts where
 operationalState:OperationalState
 isReserved:Bool
 readinessState:ReadinessState
 needsAttention:Bool
 staticGroupKeys:List String

def computeNeedsAttention (operationalState:OperationalState)(readinessState:ReadinessState):Bool:=
 match operationalState with
 | .offline | .maintenance=>true
 | .available | .busy | .verifying=>
  match readinessState with
  | .setupRequired | .verificationRequired=>true
  | .verified=>false

def buildDeviceGroupFacts (operationalState:OperationalState)(isReserved:Bool)
 (readinessState:ReadinessState)(staticGroupKeys:List String):DeviceGroupFacts where
 operationalState:=operationalState
 isReserved:=isReserved
 readinessState:=readinessState
 needsAttention:=computeNeedsAttention operationalState readinessState
 staticGroupKeys:=staticGroupKeys

def matchesNativeFilters (device:FleetDevice)(facts:DeviceGroupFacts)(filters:NativeFilters):Bool:=
 filters.packId.all (device.packId = ·)&&
 filters.platformId.all (device.platformId = ·)&&
 filters.status.all (facts.operationalState = ·)&&
 filters.reserved.all (facts.isReserved = ·)&&
 filters.hostId.all (device.hostId = ·)&&
 filters.identityValue.all (device.identityValue = ·)&&
 filters.connectionTarget.all (device.connectionTarget=some ·)&&
 filters.deviceType.all (device.deviceType = ·)&&
 filters.connectionType.all (device.connectionType = ·)&&
 filters.osVersion.all (device.osVersion = ·)&&
 -- An empty display version falls back to the version, as `or` does.
 filters.osVersionDisplay.all
  ((if textTruthy device.osVersionDisplay then device.osVersionDisplay
   else some device.osVersion)=some ·)&&
 filters.needsAttention.all (facts.needsAttention = ·)

def deviceMatchesDynamicFilters (device:FleetDevice)(facts:DeviceGroupFacts)
 (filters:NativeFilters)(memberOfKeys:List String):Bool:=
 matchesNativeFilters device facts filters&&memberOfKeys.all (· ∈ facts.staticGroupKeys)

structure GroupMembershipIndex where
 byKey:Dict String (List DeviceId)

namespace GroupMembershipIndex

variable (index:GroupMembershipIndex)

def deviceIds (key:String):List DeviceId:=(index.byKey.get key).getD []
def matchesAll (device:DeviceId)(keys:List String):Bool:=
 keys.all fun key=>device∈index.deviceIds key
end GroupMembershipIndex

section
variable (batch:GroupDefinitionBatch)(devices:List FleetDevice)
 (factsOf:FleetDevice→DeviceGroupFacts)

def isMember (group:GroupId×GroupRow)(device:FleetDevice):Bool:=
 match group.2.groupType with
 | .static=>group.2.key∈(factsOf device).staticGroupKeys
 | .dynamic=>
  deviceMatchesDynamicFilters device (factsOf device) (group.2.filters.getD NativeFilters.empty)
   (batch.memberOfKeysByDynamicGroupId group.1)
def evaluateGroupMemberships:GroupMembershipIndex where
 byKey:=Dict.ofList (batch.groups.map fun group=>
  (group.2.key,(devices.filter (isMember batch factsOf group)).map fun device=>device.id))
end

section
variable {g:GroupTables}

def BelongsTo (g:GroupTables)(device:FleetDevice)(facts:DeviceGroupFacts)(key:String):Prop:=
 ∃id row,g.groups.get id=some row∧row.key=key∧
  match row.groupType with
  | .static=>(id,device.id)∈g.memberships
  | .dynamic=>matchesNativeFilters device facts (row.filters.getD NativeFilters.empty)∧
    ∀e∈g.memberOf,e.1=id→(e.2,device.id)∈g.memberships

variable {device:FleetDevice}{facts:DeviceGroupFacts}{key:String}{id:GroupId}
 {keys:List String}{row:GroupRow}

lemma BelongsTo.congr {facts':DeviceGroupFacts}
 (hstate:facts.operationalState=facts'.operationalState)
 (hreserved:facts.isReserved=facts'.isReserved)
 (hattention:facts.needsAttention=facts'.needsAttention):
 BelongsTo g device facts key↔BelongsTo g device facts' key:=by
 have hfilters:∀filters,matchesNativeFilters device facts filters =
   matchesNativeFilters device facts' filters:=by
  intro filters
  simp only[matchesNativeFilters,hstate,hreserved,hattention]
 unfold BelongsTo
 simp only[hfilters]

def memberGroupKeys (g:GroupTables)(device:FleetDevice)(facts:DeviceGroupFacts):List String:=
 (g.groups.entries.filter fun e=>
  match e.2.groupType with
  | .static=>g.memberships.contains (e.1,device.id)
  | .dynamic=>matchesNativeFilters device facts (e.2.filters.getD NativeFilters.empty)&&
    g.memberOf.all fun reference=>
     reference.1≠e.1||g.memberships.contains (reference.2,device.id)).map fun e=>e.2.key

lemma mem_memberGroupKeys:key∈memberGroupKeys g device facts↔BelongsTo g device facts key:=by
 simp only[memberGroupKeys,List.mem_map,mem_filter,Prod.exists]
 refine exists_congr fun id=>exists_congr fun row=>?_
 rw[get_eq_some_iff,and_assoc]
 refine and_congr_right fun _=>?_
 rw[and_comm]
 refine and_congr_right fun _=>?_
 cases row.groupType <;> simp[imp_iff_not_or]
lemma mem_directIds:
 id∈directIds g keys↔∃row,g.groups.get id=some row∧row.key ≠ "" ∧ row.key∈keys:=by
 simp only[directIds,List.mem_map,mem_filter,decide_eq_true_eq,Prod.exists]
 constructor
 · rintro ⟨_,row,⟨hentry,hkey⟩,rfl⟩
   exact ⟨row,get_eq_some_iff.mpr hentry,hkey⟩
 · rintro ⟨row,hget,hkey⟩
   exact ⟨id,row,⟨get_eq_some_iff.mp hget,hkey⟩,rfl⟩
lemma mem_groups:(id,row)∈(loadGroupDefinitionBatch g keys).groups↔
  g.groups.get id=some row∧id∈wantedIds g keys:=by
 simp only[loadGroupDefinitionBatch,mem_insertionSort,mem_filter,decide_eq_true_eq]
 rw[get_eq_some_iff]
lemma mem_groups_of_key (hget:g.groups.get id=some row)(hkey:row.key∈keys)(hne:row.key ≠ ""):
 (id,row)∈(loadGroupDefinitionBatch g keys).groups:=by
 rw[mem_groups]
 exact ⟨hget,mem_append_left _ (mem_directIds.mpr ⟨row,hget,hne,hkey⟩)⟩
lemma mem_loadedKeys (hkey:key∈keys)(hne:key ≠ ""):
 key∈(loadGroupDefinitionBatch g keys).loadedKeys↔
  ∃id row,g.groups.get id=some row∧row.key=key:=by
 unfold GroupDefinitionBatch.loadedKeys
 rw[List.mem_map]
 constructor
 · rintro ⟨⟨id,row⟩,hgroup,rfl⟩
   exact ⟨id,row,(mem_groups.mp hgroup).1,rfl⟩
 · rintro ⟨id,row,hget,rfl⟩
   exact ⟨(id,row),mem_groups_of_key hget hkey hne,rfl⟩

/-- The references of a loaded dynamic group are loaded with it: it was named directly, since the
groups that come along are static. -/
lemma mem_wantedIds_of_reference (hgroup:(id,row)∈(loadGroupDefinitionBatch g keys).groups)
 (hdynamic:row.groupType=.dynamic){e:GroupId×GroupId}(he:e∈g.memberOf)(hid:e.1=id):
 e.2∈wantedIds g keys:=by
 obtain ⟨hget,hwanted⟩:=mem_groups.mp hgroup
 refine mem_append_right _ (List.mem_map.mpr ⟨e,mem_filter.mpr ⟨he,?_⟩,rfl⟩)
 rw[decide_eq_true_eq,hid]
 rcases mem_append.mp hwanted with hdirect|htarget
 · exact hdirect
 · obtain ⟨e',he',hid'⟩:=List.mem_map.mp htarget
   obtain ⟨-,h,-,-,htarget,hstatic⟩:=g.memberOf_typed e' (mem_filter.mp he').1
   rw[hid',hget,some.injEq] at htarget
   rw[htarget,hstatic] at hdynamic
   cases hdynamic

lemma mem_loadStaticGroupKeys {device:DeviceId}:key∈loadStaticGroupKeys g device↔
  ∃id row,(id,device)∈g.memberships∧g.groups.get id=some row∧row.groupType=.static∧row.key=key:=by
 simp only[loadStaticGroupKeys,mem_filterMap,Prod.exists]
 constructor
 · rintro ⟨id,member,hmem,hkey⟩
   split at hkey
   · rename_i hdevice
     obtain ⟨row,hget,hstatic⟩:=bind_eq_some_iff.mp hkey
     split at hstatic
     · rename_i htype
       exact ⟨id,row,hdevice ▸ hmem,hget,htype,some.inj hstatic⟩
     · cases hstatic
   · cases hkey
 · rintro ⟨id,row,hmem,hget,htype,rfl⟩
   exact ⟨id,device,hmem,by simp[hget,htype]⟩
lemma key_mem_loadStaticGroupKeys (hget:g.groups.get id=some row)(hstatic:row.groupType=.static)
 {device:DeviceId}:row.key∈loadStaticGroupKeys g device↔(id,device)∈g.memberships:=by
 rw[mem_loadStaticGroupKeys]
 constructor
 · rintro ⟨id',row',hmem,hget',-,hkey⟩
   rwa [g.key_unique id' id row' row hget' hget hkey] at hmem
 · intro hmem
   exact ⟨id,row,hmem,hget,hstatic,rfl⟩
lemma mem_memberOfKeys:key∈memberOfKeys g id↔
  ∃e∈g.memberOf,e.1=id∧∃row,g.groups.get e.2=some row∧row.key=key:=by
 simp[memberOfKeys,and_assoc]

/-- The static keys a batch is evaluated with: at least the loaded ones among the device's keys. -/
def StaticKeysCover (g:GroupTables)(keys:List String)(device:DeviceId)
 (staticKeys:List String):Prop:=
 ∀key∈(loadGroupDefinitionBatch g keys).loadedKeys,
  key∈staticKeys↔key∈loadStaticGroupKeys g device

lemma isMember_iff {factsOf:FleetDevice→DeviceGroupFacts}(hfacts:factsOf device=facts)
 (hcover:StaticKeysCover g keys device.id facts.staticGroupKeys)
 (hgroup:(id,row)∈(loadGroupDefinitionBatch g keys).groups):
 isMember (loadGroupDefinitionBatch g keys) factsOf (id,row) device↔
  BelongsTo g device facts row.key:=by
 obtain ⟨hget,hwanted⟩:=mem_groups.mp hgroup
 have hloaded:∀{id' row'},g.groups.get id'=some row'→id'∈wantedIds g keys→
   row'.groupType=.static→
   (row'.key∈facts.staticGroupKeys↔(id',device.id)∈g.memberships):=by
  intro id' row' hget' hwanted' hstatic
  have hmem:row'.key∈(loadGroupDefinitionBatch g keys).loadedKeys:=
   List.mem_map.mpr ⟨(id',row'),mem_groups.mpr ⟨hget',hwanted'⟩,rfl⟩
  rw[hcover _ hmem,key_mem_loadStaticGroupKeys hget' hstatic]
 have honly:∀(P:GroupId→GroupRow→Prop),
   (∃id' row',g.groups.get id'=some row'∧row'.key=row.key∧P id' row')↔P id row:=by
  intro P
  constructor
  · rintro ⟨id',row',hget',hkey,hP⟩
    obtain rfl:=g.key_unique id' id row' row hget' hget hkey
    rw[hget,some.injEq] at hget'
    rw[hget']
    exact hP
  · intro hP
    exact ⟨id,row,hget,rfl,hP⟩
 unfold BelongsTo
 rw[honly fun id row=>match row.groupType with
  | .static=>(id,device.id)∈g.memberships
  | .dynamic=>matchesNativeFilters device facts (row.filters.getD NativeFilters.empty)∧
    ∀e∈g.memberOf,e.1=id→(e.2,device.id)∈g.memberships]
 unfold isMember
 rw[hfacts]
 cases htype:row.groupType with
 | static=>
  simp only[decide_eq_true_eq]
  exact hloaded hget hwanted htype
 | dynamic=>
  simp only[deviceMatchesDynamicFilters,Bool.and_eq_true,List.all_eq_true,decide_eq_true_eq]
  refine and_congr_right fun _=>?_
  constructor
  · intro hkeys e he hid
    obtain ⟨-,target,-,-,hgetTarget,hstatic⟩:=g.memberOf_typed e he
    have hkey:target.key∈memberOfKeys g id:=
     mem_memberOfKeys.mpr ⟨e,he,hid,target,hgetTarget,rfl⟩
    exact (hloaded hgetTarget (mem_wantedIds_of_reference hgroup htype he hid) hstatic).mp
     (hkeys _ hkey)
  · intro hall key hkey
    obtain ⟨e,he,hid,target,hgetTarget,rfl⟩:=mem_memberOfKeys.mp hkey
    obtain ⟨-,target',-,-,hgetTarget',hstatic⟩:=g.memberOf_typed e he
    rw[hgetTarget,some.injEq] at hgetTarget'
    subst hgetTarget'
    exact (hloaded hgetTarget (mem_wantedIds_of_reference hgroup htype he hid) hstatic).mpr
     (hall e he hid)

lemma keys_nodup (keys:List String):
 ((loadGroupDefinitionBatch g keys).groups.map fun e=>e.2.key).Nodup:=by
 have hentries:(loadGroupDefinitionBatch g keys).groups.Nodup:=by
  have hperm:=perm_insertionSort (fun a b:GroupId×GroupRow=>a.2.key≤b.2.key)
   (g.groups.entries.filter fun e=>e.1∈wantedIds g keys)
  exact hperm.nodup_iff.mpr (g.groups.nodup.of_map _ |>.filter _)
 refine hentries.map_on ?_
 rintro ⟨id,row⟩ he ⟨id',row'⟩ he' hkey
 have hget:=(mem_groups.mp he).1
 have hget':=(mem_groups.mp he').1
 obtain rfl:=g.key_unique id id' row row' hget hget' hkey
 rw[hget,some.injEq] at hget'
 rw[hget']

/-- What a batch answers about a key it was loaded for is what the rows say. -/
lemma matchesAll_iff {asked:List String}{devices:List FleetDevice}
 {factsOf:FleetDevice→DeviceGroupFacts}(hdevice:device∈devices)
 (hunique:∀other∈devices,other.id=device.id→ other=device)
 (hcover:StaticKeysCover g keys device.id (factsOf device).staticGroupKeys)
 (hasked:∀key∈asked,key∈keys∧key ≠ ""):
 (evaluateGroupMemberships (loadGroupDefinitionBatch g keys) devices factsOf).matchesAll device.id
  asked↔∀key∈asked,BelongsTo g device (factsOf device) key:=by
 unfold GroupMembershipIndex.matchesAll
 rw[List.all_eq_true]
 refine forall₂_congr fun key hkey=>?_
 obtain ⟨hmem,hne⟩:=hasked key hkey
 rw[decide_eq_true_eq]
 unfold GroupMembershipIndex.deviceIds evaluateGroupMemberships
 constructor
 · intro hids
   cases hget:(Dict.ofList ((loadGroupDefinitionBatch g keys).groups.map fun group=>
     (group.2.key,(devices.filter (isMember (loadGroupDefinitionBatch g keys) factsOf group)).map
      fun device=>device.id))).get key with
   | none=>rw[hget] at hids;cases hids
   | some=>
    rw[hget] at hids
    obtain ⟨group,hgroup,heq⟩:=List.mem_map.mp (mem_of_get_ofList hget)
    obtain ⟨hkeyEq,rfl⟩:=Prod.mk.inj heq
    obtain ⟨other,hother,hid⟩:=List.mem_map.mp hids
    obtain ⟨hin,hmember⟩:=mem_filter.mp hother
    rw[hunique other hin hid] at hmember
    exact hkeyEq ▸ (isMember_iff rfl hcover hgroup).mp hmember
 · rintro hbelongs
   obtain ⟨id,row,hget,rfl,-⟩:=id hbelongs
   have hgroup:=mem_groups_of_key hget hmem hne
   have hnodup:(((loadGroupDefinitionBatch g keys).groups.map fun group=>
     (group.2.key,(devices.filter (isMember (loadGroupDefinitionBatch g keys) factsOf group)).map
      fun device=>device.id)).map Prod.fst).Nodup:=by
    rw[List.map_map]
    exact keys_nodup keys
   rw[get_ofList_of_mem hnodup (List.mem_map.mpr ⟨(id,row),hgroup,rfl⟩),getD_some]
   exact List.mem_map.mpr ⟨device,mem_filter.mpr
    ⟨hdevice,(isMember_iff rfl hcover hgroup).mpr hbelongs⟩,rfl⟩
end
end GridFleet.GroupMembership
