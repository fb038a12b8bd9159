import GridFleet.GridFifo
import GridFleet.ReservationTwins
/-! The filters of a dynamic group as SQL conditions: they bound the devices a group is evaluated over,
and they are the device list's. -/
namespace GridFleet.DeviceFilters
open FleetTables GroupMembership Portability Readiness StateProjection ReservationTwins ReservationGate List

section
variable (f:Fleet)(now:Instant)

def statusCondition (d:FleetDevice):OperationalState→Sql.Truth
 | .busy=>Sql.or (isBusyishSql f.database d.toDevice) (isVerifyingSql f.database now d.toDevice)
 | status=>isStateSql f.database now d.toDevice status
def reservedCondition (d:FleetDevice)(reserved:Bool):Sql.Truth:=
 let active:Sql.Truth:=some (activeReservationExists f.gate d.id)
 if reserved then active else Sql.not active
abbrev Conditions:=List (FleetDevice→Sql.Truth)
def axis {α:Type}(value:Option α)(condition:FleetDevice→α→Sql.Truth):Conditions:=
 value.toList.map fun v d=>condition d v

def deviceFilterConditions (filters:NativeFilters):Conditions:=
 axis filters.packId (fun d v=>Sql.eq (some d.packId) (some v))++
 axis filters.platformId (fun d v=>Sql.eq (some d.platformId) (some v))++
 axis filters.status (statusCondition f now)++axis filters.reserved (reservedCondition f)++
 axis filters.hostId (fun d v=>Sql.eq (some d.hostId) (some v))++
 axis filters.identityValue (fun d v=>Sql.eq (some d.identityValue) (some v))++
 axis filters.connectionTarget (fun d v=>Sql.eq d.connectionTarget (some v))++
 axis filters.deviceType (fun d v=>Sql.eq (some d.deviceType) (some v))++
 axis filters.connectionType (fun d v=>Sql.eq (some d.connectionType) (some v))++
 axis filters.osVersion (fun d v=>Sql.eq (some d.osVersion) (some v))++
 -- `coalesce`: an empty display version is a version.
 axis filters.osVersionDisplay (fun d v=>Sql.eq (d.osVersionDisplay.or (some d.osVersion)) (some v))

def selects (conditions:Conditions)(d:FleetDevice):Bool:=conditions.all fun condition=>condition d=some true

variable (g:GroupTables)

def staticGroupMembershipExists (key:String)(d:FleetDevice):Sql.Truth:=
 some (g.memberships.any fun e=>e.2=d.id&&
  (g.groups.get e.1).any fun row=>row.key=key&&row.groupType=.static)

/-- The axes of `_COLUMN_SCOPE_AXES`. -/
def columnFilters (filters:NativeFilters):NativeFilters:=
 {filters with status:=none,reserved:=none,needsAttention:=none}

def deviceScopeConditions (group:GroupId×GroupRow):Conditions:=
 deviceFilterConditions f now (columnFilters (group.2.filters.getD NativeFilters.empty))++
 (memberOfKeys g group.1).map (staticGroupMembershipExists g)
def loadDevicesInScope (groups:List (GroupId×GroupRow)):List FleetDevice:=
 let scopes:=groups.map (deviceScopeConditions f now g)
 if scopes.any List.isEmpty||scopes.isEmpty then f.devices
 else f.devices.filter fun d=>scopes.any (selects · d)

variable (factsOf:FleetDevice→DeviceGroupFacts)

def fleetIndex (groups:List (GroupId×GroupRow)):GroupMembershipIndex:=
 evaluateGroupMemberships ⟨groups,memberOfKeys g⟩ f.devices factsOf

/-- Over all dynamic groups for `list_groups`, over one for the other readers. -/
def scopedIndex (groups:List (GroupId×GroupRow)):GroupMembershipIndex:=
 evaluateGroupMemberships ⟨groups,memberOfKeys g⟩ (loadDevicesInScope f now g groups) factsOf

def dynamicGroups:List (GroupId×GroupRow):=g.groups.entries.filter fun e=>e.2.groupType=.dynamic
def loadGroupDetail (group:GroupId×GroupRow):List FleetDevice:=
 (loadDevicesInScope f now g [group]).filter fun d=>d.id∈(scopedIndex f now g factsOf [group]).deviceIds group.2.key

/-- What the narrowed reads answer about a group is what an evaluation over the fleet answers. -/
def NarrowingExact:Prop:=
 ∀groups,groups⊆dynamicGroups g→∀group∈groups,
  let members:=(fleetIndex f g factsOf (dynamicGroups g)).deviceIds group.2.key
  (∀d∈f.devices,d.id∈members→d∈loadDevicesInScope f now g groups)∧
  (scopedIndex f now g factsOf groups).deviceIds group.2.key=members∧
  (loadGroupDetail f now g factsOf group).map (·.id)=members
end

variable {f:Fleet}{now:Instant}{d:FleetDevice}{filters:NativeFilters}

lemma selects_append (a b:Conditions):selects (a++b) d=(selects a d&&selects b d):=all_append
lemma selects_axis {α:Type}(value:Option α){condition:FleetDevice→α→Sql.Truth}{p:α→Bool}
 (h:∀v∈value,condition d v=some true↔p v):selects (axis value condition) d=value.all p:=by
 cases value with
 | none=>rfl
 | some v=>
  rw[Bool.eq_iff_iff]
  simpa[selects,axis] using h v rfl
lemma coalesce_eq_or (h:d.osVersionDisplay=some "" →d.osVersion=""):d.osVersionDisplay.or (some d.osVersion)=
 if textTruthy d.osVersionDisplay then d.osVersionDisplay else some d.osVersion:=by
 cases hdisplay:d.osVersionDisplay with
 | none=>rfl
 | some text=>
  by_cases hempty:text=""
  · cases hempty
    exact congrArg some (h hdisplay).symm
  · rw[if_pos (by simpa[textTruthy] using hempty)]
    rfl

/-- The two readings of the filters agree where they agree on the two derived axes. -/
lemma matchesNativeFilters_eq {facts:DeviceGroupFacts}
 (hstatus:∀v∈filters.status,statusCondition f now d v=some true↔facts.operationalState=v)
 (hreserved:∀v∈filters.reserved,reservedCondition f d v=some true↔facts.isReserved=v)
 (hdisplay:d.osVersionDisplay=some "" →d.osVersion=""):
 matchesNativeFilters d facts filters=(selects (deviceFilterConditions f now filters) d&&
  filters.needsAttention.all (facts.needsAttention = ·)):=by
 have heq:∀{α:Type} [DecidableEq α](a:Option α)(v:α),Sql.eq a (some v)=some true↔decide (a=some v):=
  fun a v=>(Sql.eq_eq_true_iff a v).trans decide_eq_true_iff.symm
 have hsome:∀{α:Type} [DecidableEq α](a v:α),Sql.eq (some a) (some v)=some true↔decide (a=v):=by simp
 simp only[deviceFilterConditions,selects_append,matchesNativeFilters]
 rw[selects_axis filters.packId fun v _=>hsome ..,selects_axis filters.platformId fun v _=>hsome ..,
  selects_axis filters.status fun v hv=>(hstatus v hv).trans decide_eq_true_iff.symm,
  selects_axis filters.reserved fun v hv=>(hreserved v hv).trans decide_eq_true_iff.symm,
  selects_axis filters.hostId fun v _=>hsome ..,selects_axis filters.identityValue fun v _=>hsome ..,
  selects_axis filters.connectionTarget fun v _=>heq ..,selects_axis filters.deviceType fun v _=>hsome ..,
  selects_axis filters.connectionType fun v _=>hsome ..,selects_axis filters.osVersion fun v _=>hsome ..,
  selects_axis filters.osVersionDisplay fun v _=>heq ..,coalesce_eq_or hdisplay]

variable {g:GroupTables}{factsOf:FleetDevice→DeviceGroupFacts}{groups:List (GroupId×GroupRow)}
 {group:GroupId×GroupRow}

lemma staticGroupMembershipExists_iff {key:String}:
 staticGroupMembershipExists g key d=some true↔key∈loadStaticGroupKeys g d.id:=by
 rw[mem_loadStaticGroupKeys]
 simp only[staticGroupMembershipExists,Option.some.injEq,any_eq_true,Bool.and_eq_true,decide_eq_true_eq,
  Option.any_eq_true,Prod.exists]
 constructor
 · rintro ⟨id,device,hmem,rfl,row,hrow,hkey,hstatic⟩
   exact ⟨id,row,hmem,hrow,hstatic,hkey⟩
 · rintro ⟨id,row,hmem,hrow,hstatic,hkey⟩
   exact ⟨id,d.id,hmem,rfl,row,hrow,hkey,hstatic⟩

variable (g factsOf) in
def inGroup (group:GroupId×GroupRow)(d:FleetDevice):Bool:=isMember ⟨[group],memberOfKeys g⟩ factsOf group d

lemma deviceIds_evaluate (hsub:groups⊆dynamicGroups g)(hmem:group∈groups)(devices:List FleetDevice):
 (evaluateGroupMemberships ⟨groups,memberOfKeys g⟩ devices factsOf).deviceIds group.2.key=
  (devices.filter (inGroup g factsOf group)).map (·.id):=by
 have hget:(evaluateGroupMemberships ⟨groups,memberOfKeys g⟩ devices factsOf).byKey.get group.2.key=
   some ((devices.filter (inGroup g factsOf group)).map (·.id)):=by
  refine Dict.get_ofList_of_forall (mem_map.mpr ⟨group,hmem,rfl⟩) fun ids hids=>?_
  obtain ⟨other,hother,heq⟩:=mem_map.mp hids
  obtain ⟨hkey,rfl⟩:=Prod.mk.inj heq
  have hrow:∀e∈groups,g.groups.get e.1=some e.2:=fun e he=>Dict.get_eq_some_iff.mpr (mem_filter.mp (hsub he)).1
  have hid:=g.key_unique _ _ _ _ (hrow other hother) (hrow group hmem) hkey
  have hsame:other=group:=Prod.ext hid (Option.some.inj ((hrow other hother).symm.trans (hid ▸ hrow group hmem)))
  rw[hsame]
  rfl
 rw[GroupMembershipIndex.deviceIds,hget]
 rfl
lemma mem_ids_iff (hd:d∈f.devices)(p:FleetDevice→Bool):d.id∈(f.devices.filter p).map (·.id)↔p d:=by
 constructor
 · intro hid
   obtain ⟨other,hother,heq⟩:=mem_map.mp hid
   obtain ⟨hin,hp⟩:=mem_filter.mp hother
   exact inj_on_of_nodup_map f.devices_unique hin hd heq ▸ hp
 · exact fun hp=>mem_map_of_mem (mem_filter.mpr ⟨hd,hp⟩)
lemma loadDevicesInScope_eq_filter (f:Fleet)(now:Instant)(g:GroupTables)(groups:List (GroupId×GroupRow)):
 ∃p:FleetDevice→Bool,loadDevicesInScope f now g groups=f.devices.filter p:=by
 unfold loadDevicesInScope
 dsimp only
 split
 · exact ⟨fun _=>true,by simp⟩
 · exact ⟨_,rfl⟩

/-- A member meets the conditions of its group's scope. -/
lemma mem_loadDevicesInScope (hd:d∈f.devices)(hsub:groups⊆dynamicGroups g)(hmem:group∈groups)
 (hkeys:(factsOf d).staticGroupKeys=loadStaticGroupKeys g d.id)
 (hdisplay:d.osVersionDisplay=some "" →d.osVersion="")(hmember:inGroup g factsOf group d):
 d∈loadDevicesInScope f now g groups:=by
 have hdynamic:group.2.groupType=.dynamic:=by simpa using (mem_filter.mp (hsub hmem)).2
 simp only[inGroup,isMember,hdynamic,deviceMatchesDynamicFilters,Bool.and_eq_true,all_eq_true,decide_eq_true_eq,
  hkeys] at hmember
 obtain ⟨hnative,hreferences⟩:=hmember
 -- leaving the derived axes out only widens
 have hcolumns:matchesNativeFilters d (factsOf d) (columnFilters (group.2.filters.getD NativeFilters.empty)):=by
  simp only[columnFilters,matchesNativeFilters,Bool.and_eq_true,Option.all_none] at hnative ⊢
  tauto
 rw[matchesNativeFilters_eq (by simp[columnFilters]) (by simp[columnFilters]) hdisplay] at hcolumns
 have hselects:selects (deviceScopeConditions f now g group) d:=by
  rw[deviceScopeConditions,selects_append,Bool.and_eq_true]
  refine ⟨(Bool.and_eq_true_iff.mp hcolumns).1,?_⟩
  simp only[selects,all_map,all_eq_true,Function.comp_apply,decide_eq_true_eq]
  exact fun key hkey=>staticGroupMembershipExists_iff.mpr (hreferences key hkey)
 unfold loadDevicesInScope
 dsimp only
 split
 · exact hd
 · exact mem_filter.mpr ⟨hd,any_eq_true.mpr ⟨_,mem_map_of_mem hmem,hselects⟩⟩

lemma narrowingExact (hkeys:∀d∈f.devices,(factsOf d).staticGroupKeys=loadStaticGroupKeys g d.id)
 (hdisplay:∀d∈f.devices,d.osVersionDisplay=some "" →d.osVersion=""):NarrowingExact f now g factsOf:=by
 have hloaded:∀{groups},groups⊆dynamicGroups g→∀{group},group∈groups→∀d∈f.devices,
   inGroup g factsOf group d→d∈loadDevicesInScope f now g groups:=
  fun hsub _ hmem d hd=>mem_loadDevicesInScope hd hsub hmem (hkeys d hd) (hdisplay d hd)
 have hfilter:∀{groups},groups⊆dynamicGroups g→∀{group},group∈groups→
   (loadDevicesInScope f now g groups).filter (inGroup g factsOf group)=f.devices.filter (inGroup g factsOf group):=by
  intro groups hsub group hmem
  have hload:=hloaded hsub hmem
  obtain ⟨p,hp⟩:=loadDevicesInScope_eq_filter f now g groups
  rw[hp] at hload ⊢
  rw[filter_filter]
  exact filter_congr fun d hd=>Bool.and_eq_left_iff_imp.mpr fun hmember=>(mem_filter.mp (hload d hd hmember)).2
 intro groups hsub group hmem
 have hsingle:[group]⊆dynamicGroups g:=by simpa using hsub hmem
 dsimp only
 rw[fleetIndex,scopedIndex,deviceIds_evaluate (Subset.refl _) (hsub hmem),deviceIds_evaluate hsub hmem,
  hfilter hsub hmem]
 refine ⟨fun d hd hid=>hloaded hsub hmem d hd ((mem_ids_iff hd _).mp hid),rfl,?_⟩
 have hdetail:loadGroupDetail f now g factsOf group=
   (loadDevicesInScope f now g [group]).filter (inGroup g factsOf group):=by
  refine filter_congr fun d hd=>?_
  obtain ⟨p,hp⟩:=loadDevicesInScope_eq_filter f now g [group]
  rw[hp] at hd
  rw[scopedIndex,deviceIds_evaluate hsingle mem_cons_self,hfilter hsingle mem_cons_self,Bool.eq_iff_iff,
   decide_eq_true_eq]
  exact mem_ids_iff (mem_filter.mp hd).1 _
 rw[hdetail,hfilter hsingle mem_cons_self]

def oneGroup (filters:NativeFilters):GroupTables where
 groups:=Dict.ofList [(1,⟨"phones","phones",none,.dynamic,some filters⟩)]
 memberOf:=[]
 memberships:=[]
 key_unique _ _ _ _ hi hj _:=
  (Dict.key_of_get_ofList_singleton hi).trans (Dict.key_of_get_ofList_singleton hj).symm
 memberOf_typed:=by simp

def noFacts:DeviceGroupFacts:=buildDeviceGroupFacts .offline false .setupRequired []

/-- Narrowing is exact for all groups just when no device shows an empty display version beside a version. -/
theorem narrowing_exact_iff (f:Fleet) (now:Instant):
 (∀(g:GroupTables) (factsOf:FleetDevice→DeviceGroupFacts),
  (∀d∈f.devices,(factsOf d).staticGroupKeys=loadStaticGroupKeys g d.id)→NarrowingExact f now g factsOf)↔
 ∀d∈f.devices,d.osVersionDisplay=some "" → d.osVersion="" :=by
 constructor
 · intro hexact d hd hdisplay
   by_contra hversion
   let filters:NativeFilters:={osVersionDisplay:=some d.osVersion}
   let group:GroupId×GroupRow:=(1,⟨"phones","phones",none,.dynamic,some filters⟩)
   have hsub:[group]⊆dynamicGroups (oneGroup filters):=Subset.refl _
   have hmember:inGroup (oneGroup filters) (fun _=>noFacts) group d:=by
    simp[inGroup,isMember,group,deviceMatchesDynamicFilters,matchesNativeFilters,filters,hdisplay,textTruthy,
     GroupMembership.memberOfKeys,oneGroup]
   obtain ⟨hloaded,-⟩:=hexact (oneGroup filters) (fun _=>noFacts) (fun _ _=>rfl) [group] hsub group mem_cons_self
   rw[fleetIndex,deviceIds_evaluate (Subset.refl _) (hsub mem_cons_self)] at hloaded
   have hscope:=hloaded d hd ((mem_ids_iff hd _).mpr hmember)
   simp[loadDevicesInScope,deviceScopeConditions,deviceFilterConditions,columnFilters,axis,filters,group,selects,
    hdisplay,GroupMembership.memberOfKeys,oneGroup] at hscope
   exact hversion hscope.2
 · exact fun hdisplay g factsOf hkeys=>narrowingExact hkeys hdisplay

def unnamedRelease:Fleet:=
 { GridFifo.idleHandset [] nodup_nil with
   devices:=[{handset with osVersionDisplay:=some ""}]
   devices_unique:=by decide }

/-- The evaluator falls back to the version, the scope query does not: the handset leaves its group. -/
theorem dropped_member:
 let g:=oneGroup {osVersionDisplay:=some "14"}
 (fleetIndex unnamedRelease g (fun _=>noFacts) (dynamicGroups g)).deviceIds "phones"=[1]∧
 loadDevicesInScope unnamedRelease 0 g (dynamicGroups g)=[]∧
 (scopedIndex unnamedRelease 0 g (fun _=>noFacts) (dynamicGroups g)).deviceIds "phones"=[]:=
 ⟨rfl,rfl,rfl⟩

/-- With the constraints of the reservation rows. -/
structure ListedFleet extends Fleet where
 rows:ReservationRows
 rows_eq:rows.toTables=toFleet.gate

section
variable (f:Fleet)(now:Instant)(d:FleetDevice)

def readinessOf:ReadinessState:=(assessDeviceWithPack d.toDevice (f.packs.get d.packId)).readinessState

/-- As `deriveOperationalState_eq` and `deriveOperationalStates_eq` have it, for one device and for many. -/
def operationalStateOf:OperationalState:=evaluateOperationalState (pythonFacts f.database now d.toDevice)

def indexFacts:DeviceGroupFacts:=
 buildDeviceGroupFacts (operationalStateOf f now d) (groupReserved f.gate now (f.devices.map (·.id)) d.id)
  (readinessOf f d) (loadStaticGroupKeys f.groups d.id)
def groupDevices (filters:NativeFilters):List FleetDevice:=
 f.devices.filter fun d=>deviceMatchesDynamicFilters d (indexFacts f now d) filters []

/-- In the order of the table: the sort clause is left out. -/
def listDevicesByFilters (filters:NativeFilters):List FleetDevice:=
 (f.devices.filter (selects (deviceFilterConditions f now filters))).filter fun d=>
  filters.needsAttention.all (computeNeedsAttention (operationalStateOf f now d) (readinessOf f d) = ·)

/-- What the two readings of the filters need to agree on a device. -/
structure ListedAlike:Prop where
 lease:leased f.database now d.id→masked f.database d.id
 setup:d.verifiedAt.isSome→ readinessOf f d≠.verified→masked f.database d.id∨inMaintenance d.toDevice∨
  (f.database.nodeOf d.id).any nodeStopRequested∨allowsAllocation f.database d.toDevice=false
 reservation:∀res∈f.reservations,res.deviceId=d.id→ res.releasedAt=none→∀run∈f.runs,run.id=res.runId→
  isTerminal run.state=false∧reservationEntryIsExcluded now res=false
 display:d.osVersionDisplay=some "" →d.osVersion=""
end

lemma statusCondition_iff (f:Fleet)(now:Instant)(d:FleetDevice)(v:OperationalState):
 let state:=evaluateOperationalState (factsWith f.database now d.toDevice d.verifiedAt.isSome)
 statusCondition f now d v=some true↔v=state∨v=.busy∧state=.verifying:=by
 have hstate:=isStateSql_eq f.database now d.toDevice
 have hbusy:isBusyishSql f.database d.toDevice=some _:=hstate .busy
 have hverifying:isVerifyingSql f.database now d.toDevice=some _:=hstate .verifying
 cases v with
 | busy=>
  simp only[statusCondition,hbusy,hverifying,Sql.or_some,Option.some.injEq,Bool.or_eq_true,decide_eq_true_eq]
  grind
 | _=>simp[statusCondition,hstate]
lemma states_alike:∀masked leased maintenance stopping allows stamped ready:Bool,
 (ready→stamped)→(leased→masked)→((stamped→ ready=false→masked∨maintenance∨stopping∨allows=false)↔
  evaluateOperationalState ⟨masked,leased,maintenance,stopping,stamped&&(allows&&(stamped&&!maintenance))⟩=
  evaluateOperationalState ⟨masked,leased,maintenance,stopping,ready&&(allows&&(stamped&&!maintenance))⟩):=by
 rintro (_|_) (_|_) (_|_) (_|_) (_|_) (_|_) (_|_) <;> decide
lemma not_verifying_iff:∀facts:DeviceStateFacts,evaluateOperationalState facts≠.verifying↔
 (facts.hasVerificationLease→facts.hasRunningSession):=by
 rintro ⟨_|_,_|_,_|_,_|_,_|_⟩ <;> decide
lemma reserved_alike (t:ReservationRows)(now:Instant){deviceIds:List DeviceId}{device:DeviceId}
 (hmem:device∈deviceIds):
 activeReservationExists t.toTables device=groupReserved t.toTables now deviceIds device↔
 ∀res∈t.reservations,res.deviceId=device→ res.releasedAt=none→∀run∈t.runs,run.id=res.runId→
  isTerminal run.state=false∧reservationEntryIsExcluded now res=false:=by
 rw[groupReserved_eq t now hmem,allocatorReserved]
 by_cases hheld:∃res∈t.reservations,res.deviceId=device∧res.releasedAt=none
 · obtain ⟨res,hres,rfl,hactive⟩:=hheld
   obtain ⟨run,hholds⟩:=t.exists_holds hres hactive
   have hexists:activeReservationExists t.toTables res.deviceId=true:=
    any_eq_true.mpr ⟨res,hres,by simp[reservationActive,hactive]⟩
   rw[hexists,hholds.sql now]
   constructor
   · intro hsome res' hres' hdevice hactive' run' hrun' hid
     cases hholds.eq_of_active hres' hdevice hactive'
     cases hholds.eq_of_run hrun' hid
     simpa using hsome
   · intro hall
     simp[hall res hres rfl hactive run hholds.run_mem hholds.run_eq]
 · push Not at hheld
   have hexists:activeReservationExists t.toTables device=false:=by
    refine any_eq_false.mpr fun res hres=>?_
    simpa[reservationActive] using hheld res hres
   rw[t.sql_eq_none hheld,hexists]
   exact iff_of_true rfl fun res hres hdevice hactive=>absurd hactive (hheld res hres hdevice)

/-- The readings of all filters agree on a device just when it is listed alike. -/
lemma listedAlike_iff (f:ListedFleet)(now:Instant)(hd:d∈f.devices):
 (∀filters,matchesNativeFilters d (indexFacts f.toFleet now d) filters=
  (selects (deviceFilterConditions f.toFleet now filters) d&&
   filters.needsAttention.all ((indexFacts f.toFleet now d).needsAttention = ·)))↔ListedAlike f.toFleet now d:=by
 have hready:decide (readinessOf f.toFleet d=.verified)→d.verifiedAt.isSome:=fun hverified=>
  Option.isSome_iff_ne_none.mpr (verifiedAt_of_assessDeviceWithPack (of_decide_eq_true hverified))
 have hstates:=states_alike (masked f.database d.id) (leased f.database now d.id) (inMaintenance d.toDevice)
  ((f.database.nodeOf d.id).any nodeStopRequested) (allowsAllocation f.database d.toDevice) d.verifiedAt.isSome
  (decide (readinessOf f.toFleet d=.verified)) hready
 have hstatus:=statusCondition_iff f.toFleet now d
 have hreserved:=reserved_alike f.rows now (mem_map_of_mem (f:=(·.id)) hd)
 rw[f.rows_eq] at hreserved
 dsimp only at hstatus
 constructor
 · intro hagree
   have hone:∀v,statusCondition f.toFleet now d v=some true↔operationalStateOf f.toFleet now d=v:=by
    intro v
    have:=hagree {status:=some v}
    simp[matchesNativeFilters,deviceFilterConditions,selects,axis] at this
    exact this.symm
   have hlease:leased f.database now d.id→masked f.database d.id:=by
    refine (not_verifying_iff (factsWith f.database now d.toDevice d.verifiedAt.isSome)).mp fun hverifying=>?_
    have hbusy:=(hone .busy).mp ((hstatus .busy).mpr (.inr ⟨rfl,hverifying⟩))
    cases hbusy.symm.trans ((hone .verifying).mp ((hstatus .verifying).mpr (.inl hverifying.symm)))
   have hsame:=(hone _).mp ((hstatus _).mpr (.inl rfl))
   refine ⟨hlease,by simpa using (hstates hlease).mpr hsame.symm,hreserved.mp ?_,fun hdisplay=>?_⟩
   · have:=hagree {reserved:=some true}
     simp[matchesNativeFilters,deviceFilterConditions,selects,axis,reservedCondition] at this
     exact this.symm
   · have:=hagree {osVersionDisplay:=some d.osVersion}
     simp[matchesNativeFilters,deviceFilterConditions,selects,axis,hdisplay,textTruthy] at this
     exact this
 · rintro ⟨hlease,hsetup,hreservation,hdisplay⟩ filters
   have hsame:=(hstates hlease).mp (by simpa using hsetup)
   have hnot:=(not_verifying_iff (factsWith f.database now d.toDevice d.verifiedAt.isSome)).mpr hlease
   refine matchesNativeFilters_eq (fun v _=>?_) (fun v _=>?_) hdisplay
   · rw[hstatus v]
     simp only[hnot,and_false,or_false]
     exact ⟨fun h=>hsame.symm.trans h.symm,fun h=>h.symm.trans hsame.symm⟩
   · cases v <;> simp[reservedCondition,hreserved.mpr hreservation,indexFacts,buildDeviceGroupFacts]

/-- A dynamic group holds what the device list shows, for all filters, just when the devices are listed alike. -/
theorem group_matches_list_iff (f:ListedFleet) (now:Instant):
 (∀filters,groupDevices f.toFleet now filters=listDevicesByFilters f.toFleet now filters)↔
 ∀d∈f.devices,ListedAlike f.toFleet now d:=by
 constructor
 · intro hagree d hd
   refine (listedAlike_iff f now hd).mp fun filters=>Bool.eq_iff_iff.mpr ?_
   have hmem:=congrArg (d∈·) (hagree filters)
   simp only[groupDevices,listDevicesByFilters,mem_filter,hd,true_and,deviceMatchesDynamicFilters,all_nil,
    Bool.and_true] at hmem
   rw[hmem,Bool.and_eq_true]
   rfl
 · intro halike filters
   rw[groupDevices,listDevicesByFilters,filter_filter]
   refine filter_congr fun d hd=>?_
   rw[deviceMatchesDynamicFilters,all_nil,Bool.and_true,(listedAlike_iff f now hd).mpr (halike d hd),Bool.and_comm]
   rfl

def cooledHandset:ListedFleet:=
 { GridFifo.idleHandset [] nodup_nil with
   reservations:=[⟨1,1,1,true,some "cooldown",some "flaky",none,none,0⟩]
   runs:=[⟨1,"nightly",.active⟩]
   rows:=⟨⟨.empty,[],[⟨1,1,1,true,some "cooldown",some "flaky",none,none,0⟩],[⟨1,"nightly",.active⟩]⟩,
    by decide,by decide,by decide⟩
   rows_eq:=rfl }

/-- The list shows an excluded device as reserved; the group of reserved devices does not hold it. -/
theorem excluded_only_listed:
 listDevicesByFilters cooledHandset.toFleet 0 {reserved:=some true}=[handset]∧
 groupDevices cooledHandset.toFleet 0 {reserved:=some true}=[]:=
 ⟨rfl,rfl⟩
end GridFleet.DeviceFilters
