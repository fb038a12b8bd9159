import GridFleet.RunAllocation
namespace GridFleet.RunAllocation
open FleetTables GroupMembership Readiness List Option GreedySelection

section
variable {packs:Catalog}{definitions:GroupDefinitionBatch}{recheck:Recheck}
 {requirements:List DeviceRequirement}{s:Selection}

lemma lockedReady_eq_some {id:DeviceId}{device:FleetDevice}
 (h:(lockedReady packs definitions recheck requirements s).get id=some device):
 ∃row∈recheck.lockable,row.device=device∧device.id=id∧id∈s.selectedIds∧
  rowPasses packs definitions recheck requirements (lockedRows recheck s.selectedIds) s row =
   true:=by
 obtain ⟨row,hrow,heq⟩:=List.mem_map.mp (Dict.mem_of_get_ofList h)
 obtain ⟨hid,rfl⟩:=Prod.mk.inj heq
 obtain ⟨hlocked,hpasses⟩:=mem_filter.mp hrow
 obtain ⟨hlockable,hselected⟩:=mem_filter.mp hlocked
 rw[decide_eq_true_eq,hid] at hselected
 exact ⟨row,hlockable,rfl,hid,hselected,hpasses⟩

def survivors (ready:Dict DeviceId FleetDevice)(own:List FleetDevice):List FleetDevice:=
 own.filterMap fun d=>ready.get d.id
def ById (ready:Dict DeviceId FleetDevice):Prop:=
 ∀id device,ready.get id=some device→device.id=id

lemma byId_lockedReady:ById (lockedReady packs definitions recheck requirements s):=by
 intro id device h
 obtain ⟨-,-,-,hid,-,-⟩:=lockedReady_eq_some h
 exact hid

variable {ready:Dict DeviceId FleetDevice}

lemma mem_survivors (hready:ById ready){own:List FleetDevice}{device:FleetDevice}:
 device∈survivors ready own↔device.id∈own.map (fun d=>d.id)∧ready.get device.id=some device:=by
 unfold survivors
 rw[mem_filterMap,List.mem_map]
 constructor
 · rintro ⟨d,hd,hget⟩
   have hid:=hready _ _ hget
   exact ⟨⟨d,hd,hid.symm⟩,hid.symm ▸ hget⟩
 · rintro ⟨⟨d,hd,hid⟩,hget⟩
   exact ⟨d,hd,hid.symm ▸ hget⟩
lemma survivors_ids_sublist (hready:ById ready)(own:List FleetDevice):
 ((survivors ready own).map fun d=>d.id).Sublist (own.map fun d=>d.id):=by
 induction own with
 | nil=>exact List.Sublist.refl _
 | cons d _ ih=>
  unfold survivors at ih ⊢
  rw[filterMap_cons]
  cases hget:ready.get d.id with
  | none=>exact ih.trans (sublist_cons_self _ _)
  | some=>
   rw[map_cons,map_cons,hready _ _ hget]
   exact ih.cons_cons _
lemma survivors_ids_of_all (hready:ById ready){own:List FleetDevice}
 (hall:∀d∈own,(ready.get d.id).isSome):
 (survivors ready own).map (fun d=>d.id)=own.map fun d=>d.id:=by
 induction own with
 | nil=>rfl
 | cons d _ ih=>
  have hrest:=ih fun d' hd'=>hall d' (mem_cons_of_mem d hd')
  obtain ⟨device,hget⟩:=isSome_iff_exists.mp (hall d mem_cons_self)
  unfold survivors at hrest ⊢
  rw[filterMap_cons,hget,map_cons,map_cons,hrest,hready _ _ hget]
end

section
variable {ready:Dict DeviceId FleetDevice}{requirements:List DeviceRequirement}
 {lists:List (List FleetDevice)}

lemma reconciled_ids_sublist (hready:ById ready):
 ((List.zipWith (fun req own=>atMost (DeviceRequirement.limit req)
  (survivors ready own)) requirements lists).flatten.map fun d=>d.id).Sublist
   (lists.flatten.map fun d=>d.id):=by
 induction lists generalizing requirements with
 | nil=>simp
 | cons own _ ih=>
  cases requirements with
  | nil=>simp
  | cons=>
   rw[zipWith_cons_cons,flatten_cons,flatten_cons,map_append,
    map_append]
   exact (((atMost_sublist _ _).map _).trans
    (survivors_ids_sublist hready own)).append ih
end

section
variable (groups:GroupTables)(packs:Catalog)(candidates:Candidates)(facts:MatchFacts)
 (recheck:Recheck)(requirements:List DeviceRequirement)

def selection:Selection:=
 selectCandidates (deviceMatchesRequirementStatic facts) candidates.devices requirements
def definitionsOf:GroupDefinitionBatch:=
 loadGroupDefinitionBatch groups (requestedGroupKeys requirements)
def survived:Dict DeviceId FleetDevice:=
 lockedReady packs (definitionsOf groups requirements) recheck requirements
  (selection candidates facts requirements)
def spareFree:List (List FleetDevice):=
 greedySelection (deviceMatchesRequirementStatic facts) candidates.devices requirements

def PassesRecheck (req:DeviceRequirement)(device:FleetDevice):Prop:=
 ∃row∈recheck.lockable,row.device=device∧readinessOf packs device=.verified∧
  StateProjection.mergedLiveness device.toDevice row.node≠some false∧
  (req.groups≠[]→∃index,
   lockedGroupIndex packs (definitionsOf groups requirements) recheck
    (lockedRows recheck (selection candidates facts requirements).selectedIds)=some index∧
   index.matchesAll device.id req.groups)

structure Served (i:ℕ)(req:DeviceRequirement)(devices:List FleetDevice):Prop where
 seen:∀device∈devices,∃row∈candidates.devices,row.id=device.id∧
  staticAttributesMatch row req
 rechecked:∀device∈devices,
  PassesRecheck groups packs candidates facts recheck requirements req device
 bounded:∀count positive,req.allocation=.fixed count positive→devices.length≤count
 ordered:∀primaries,(spareFree candidates facts requirements)[i]?=some primaries→
  ∃kept:List FleetDevice,kept.Sublist candidates.devices∧
   kept.Pairwise (fun a b=>a.createdAt≤b.createdAt)∧
   (devices.filter fun d=>d.id∈primaries.map fun p=>p.id).map (fun d=>d.id) =
    kept.map fun d=>d.id
 exhausted:devices.length < minimumRequiredCount req→∀own,
  (selection candidates facts requirements).perRequirementCandidates[i]?=some own→
   ∀d∈own,
    ((survived groups packs candidates facts recheck requirements).get d.id).isSome→
     d.id∈devices.map fun d=>d.id

variable {groups packs candidates facts recheck requirements}

variable (candidates facts requirements) in
lemma allotment_selection:
 Allotment (deviceMatchesRequirementStatic facts) candidates.devices requirements
  (selection candidates facts requirements):=
 allotment_selectCandidates candidates.unique requirements
lemma reconciled_of_nil {ready:Dict DeviceId FleetDevice}{requirements:List DeviceRequirement}
 {lists:List (List FleetDevice)}(hlength:lists.length=requirements.length)(hnil:∀own∈lists,own=[]):
 List.zipWith (fun req own=>atMost (DeviceRequirement.limit req)
  (survivors ready own)) requirements lists=lists:=by
 induction lists generalizing requirements with
 | nil=>simp
 | cons own _ ih=>
  obtain ⟨req,requirements,rfl⟩:=exists_cons_of_length_eq_add_one hlength.symm
  have hown:own=[]:=hnil own mem_cons_self
  have hempty:atMost req.limit (survivors ready own)=[]:=by
   rw[hown]
   exact sublist_nil.mp (atMost_sublist _ _)
  rw[zipWith_cons_cons,hempty,hown,
   ih (Nat.succ.inj hlength) fun own' hown'=>hnil own' (mem_cons_of_mem _ hown')]

lemma batchSelectDevices_eq_ok {result:List (List FleetDevice)}
 (h:batchSelectDevices groups packs candidates facts recheck requirements=.ok result):
 (∀key∈requestedGroupKeys requirements,key∈(definitionsOf groups requirements).loadedKeys)∧
  result=List.zipWith (fun req own=>atMost (DeviceRequirement.limit req)
   (survivors (survived groups packs candidates facts recheck requirements) own))
    requirements (selection candidates facts requirements).perRequirementCandidates:=by
 unfold batchSelectDevices at h
 simp only at h
 split at h
 · cases h
 rename_i hmissing
 constructor
 · intro key hkey
   by_contra hnot
   apply hmissing
   apply ne_nil_of_mem
   show key∈_
   simp only[Portability.sortedKeys,mem_insertionSort,mem_dedup,mem_filter,
    decide_eq_true_eq]
   exact ⟨hkey,hnot⟩
 · split at h
   · rename_i hnone
     have hallot:=allotment_selection candidates facts requirements
     rw[reconciled_of_nil hallot.length_lists]
     · exact (Except.ok.inj h).symm
     · intro own hown
       obtain ⟨i,hget⟩:=mem_iff_getElem?.mp hown
       rw[eq_nil_iff_forall_not_mem]
       intro d hd
       have hselected:=(hallot.indexed i own hget d hd).1
       rw[selection,hnone] at hselected
       cases hselected
   · exact (Except.ok.inj h).symm

section
variable {i:ℕ}{req:DeviceRequirement}{own:List FleetDevice}
 (hreq:requirements[i]?=some req)
 (hown:(selection candidates facts requirements).perRequirementCandidates[i]?=some own)

include hreq hown in
lemma mem_own {d:FleetDevice}(hd:d∈own):
 d∈candidates.devices∧deviceMatchesRequirementStatic facts req d:=by
 obtain ⟨primaries,spares,hprimaries,hspares,rfl⟩:=(allotment_selection ..).own hown
 unfold greedySelection at hprimaries
 unfold spareSelection at hspares
 rw[getElem?_pass,hreq,map_some,some.injEq] at hprimaries hspares
 rcases mem_append.mp hd with hprimary|hspare
 · rw[←hprimaries] at hprimary
   exact ⟨(mem_pick hprimary).1,(mem_pick hprimary).2.2⟩
 · rw[←hspares] at hspare
   exact ⟨(mem_pick hspare).1,(mem_pick hspare).2.2⟩

include hreq hown in
lemma passesRecheck_of_survived (hloaded:∀key∈requestedGroupKeys requirements,
  key∈(definitionsOf groups requirements).loadedKeys){device:FleetDevice}(hmem:device∈survivors
  (survived groups packs candidates facts recheck requirements) own):
 PassesRecheck groups packs candidates facts recheck requirements req device:=by
 obtain ⟨hid,hget⟩:=(mem_survivors byId_lockedReady).mp hmem
 obtain ⟨row,hlockable,hdevice,-,-,hpasses⟩:=lockedReady_eq_some hget
 obtain ⟨d,hd,heq⟩:=List.mem_map.mp hid
 have hidx:=((allotment_selection ..).indexed i own hown d hd).2
 subst hdevice
 simp only[rowPasses,Bool.and_eq_true,decide_eq_true_eq,bne_iff_ne,ne_eq] at hpasses
 obtain ⟨⟨hready,hallows⟩,hgroups⟩:=hpasses
 rw[←heq,hidx,bind_some,hreq,all_some] at hgroups
 refine ⟨row,hlockable,rfl,hready,hallows,?_⟩
 intro hne
 have hsome:(lockedGroupIndex packs (definitionsOf groups requirements) recheck (lockedRows recheck
   (selection candidates facts requirements).selectedIds)).isSome:=by
  obtain ⟨key,hkey⟩:=exists_mem_of_ne_nil _ hne
  have hrequested:key∈requestedGroupKeys requirements:=
   mem_flatMap.mpr ⟨req,mem_of_getElem? hreq,hkey⟩
  have hgroups:(definitionsOf groups requirements).groups≠[]:=by
   intro hnil
   have:=hloaded key hrequested
   simp[GroupDefinitionBatch.loadedKeys,hnil] at this
  simp[lockedGroupIndex,hgroups]
 obtain ⟨index,hindex⟩:=isSome_iff_exists.mp hsome
 refine ⟨index,hindex,?_⟩
 rw[groupsHold,hindex,all_some,Bool.or_eq_true,List.isEmpty_iff,or_iff_right hne]
  at hgroups
 exact heq ▸ hgroups

include hreq hown in
/-- The kept primaries stand in the order of the candidates: the spares of the same list are other
devices. -/
lemma kept_primaries {devices primaries:List FleetDevice}
 (hsub:(devices.map fun d=>d.id).Sublist (own.map fun d=>d.id))
 (hprimaries:(spareFree candidates facts requirements)[i]?=some primaries):
 ∃kept:List FleetDevice,kept.Sublist candidates.devices∧
  kept.Pairwise (fun a b=>a.createdAt≤b.createdAt)∧
  (devices.filter fun d=>d.id∈primaries.map fun p=>p.id).map (fun d=>d.id) =
   kept.map fun d=>d.id:=by
 obtain ⟨primaries',spares,hprimaries',hspares,rfl⟩:=(allotment_selection ..).own hown
 obtain rfl:primaries'=primaries:=some.inj (hprimaries'.symm.trans hprimaries)
 have hothers:∀id∈spares.map (fun d=>d.id),id ∉ primaries'.map fun p=>p.id:=by
  intro id hspare hprimary
  obtain ⟨d,hd,rfl⟩:=List.mem_map.mp hspare
  obtain ⟨p,hp,hid⟩:=List.mem_map.mp hprimary
  have hflat:d∈(spareSelection (deviceMatchesRequirementStatic facts) candidates.devices
    requirements).flatten:=mem_flatten.mpr ⟨spares,mem_of_getElem? hspares,hd⟩
  refine notMem_taken_of_mem_pass hflat ?_
  exact List.mem_map.mpr ⟨p,mem_flatten.mpr
   ⟨primaries',mem_of_getElem? hprimaries',hp⟩,hid⟩
 have hids:((devices.filter fun d=>d.id∈primaries'.map fun p=>p.id).map
   fun d=>d.id).Sublist (primaries'.map fun d=>d.id):=by
  have hfilter:=hsub.filter fun id=>decide (id∈primaries'.map fun p=>p.id)
  have hself:(primaries'.map fun d=>d.id).filter (fun id=>id∈primaries'.map fun p=>p.id) =
    primaries'.map fun d=>d.id:=filter_eq_self.mpr fun id hid=>decide_eq_true hid
  have hnone:(spares.map fun d=>d.id).filter (fun id=>id∈primaries'.map fun p=>p.id) =
    []:=filter_eq_nil_iff.mpr fun id hid=>by simpa using hothers id hid
  rw[map_append,filter_append,hself,hnone,append_nil,List.filter_map] at hfilter
  exact hfilter
 obtain ⟨kept,hkept,heq⟩:=sublist_map_iff.mp hids
 have hcandidates:primaries'.Sublist candidates.devices:=by
  unfold greedySelection at hprimaries'
  rw[getElem?_pass,hreq,map_some,some.injEq] at hprimaries'
  rw[←hprimaries']
  exact pick_sublist
 have hsublist:=hkept.trans hcandidates
 exact ⟨kept,hsublist,candidates.ordered.sublist hsublist,heq⟩

lemma short_of_length_lt {devices:List FleetDevice}
 (h:devices.length < minimumRequiredCount req)(n:ℕ)(hn:n∈req.limit):devices.length<n:=by
 unfold minimumRequiredCount at h
 unfold DeviceRequirement.limit at hn
 cases hreq:req.allocation with
 | fixed=>
  rw[hreq] at h hn
  cases hn
  exact h
 | allAvailable=>
  rw[hreq] at hn
  cases hn

include hreq hown in
lemma served_of_own (hloaded:∀key∈requestedGroupKeys requirements,
  key∈(definitionsOf groups requirements).loadedKeys):
 Served groups packs candidates facts recheck requirements i req (atMost req.limit
  (survivors (survived groups packs candidates facts recheck requirements) own)):=by
 have hsub:=(atMost_sublist req.limit
  (survivors (survived groups packs candidates facts recheck requirements) own))
 refine ⟨?_,?_,?_,?_,?_⟩
 · intro device hdevice
   obtain ⟨hid,-⟩:=(mem_survivors byId_lockedReady).mp (hsub.subset hdevice)
   obtain ⟨d,hd,heq⟩:=List.mem_map.mp hid
   obtain ⟨hcandidate,hmatches⟩:=mem_own hreq hown hd
   simp only[deviceMatchesRequirementStatic,Bool.and_eq_true] at hmatches
   exact ⟨d,hcandidate,heq,hmatches.1.1⟩
 · intro device hdevice
   exact passesRecheck_of_survived hreq hown hloaded (hsub.subset hdevice)
 · intro count positive hallocation
   exact length_atMost_le (by rw[DeviceRequirement.limit,hallocation]) _
 · intro primaries hprimaries
   exact kept_primaries hreq hown
    ((hsub.map _).trans (survivors_ids_sublist byId_lockedReady own)) hprimaries
 · intro hshort own' hown' d hd hsurvived
   obtain rfl:own'=own:=some.inj (hown'.symm.trans hown)
   rw[atMost_eq_of_short (short_of_length_lt hshort)]
   obtain ⟨device,hget⟩:=isSome_iff_exists.mp hsurvived
   have hid:device.id=d.id:=byId_lockedReady _ _ hget
   refine List.mem_map.mpr ⟨device,(mem_survivors byId_lockedReady).mpr ⟨?_,?_⟩,hid⟩
   · exact List.mem_map.mpr ⟨d,hd,hid.symm⟩
   · rw[hid]
     exact hget
end

lemma ids_of_all_survive {i:ℕ}{req:DeviceRequirement}{own primaries:List FleetDevice}
 {ready:Dict DeviceId FleetDevice}(hready:ById ready)(hreq:requirements[i]?=some req)
 (hown:(selection candidates facts requirements).perRequirementCandidates[i]?=some own)
 (hprimaries:(spareFree candidates facts requirements)[i]?=some primaries)
 (hall:∀d∈own,(ready.get d.id).isSome):(atMost req.limit (survivors ready own)).map (fun d=>d.id) =
  primaries.map fun d=>d.id:=by
 obtain ⟨primaries',spares,hprimaries',hspares,rfl⟩:=(allotment_selection ..).own hown
 obtain rfl:primaries'=primaries:=some.inj (hprimaries'.symm.trans hprimaries)
 have hbound:∀n∈req.limit,primaries'.length≤n:=by
  intro n hn
  unfold greedySelection at hprimaries'
  rw[getElem?_pass,hreq,map_some,some.injEq] at hprimaries'
  rw[←hprimaries']
  exact length_atMost_le hn _
 have hspare:GreedySelection.Short req.limit primaries'→spares=[]:=by
  intro hshort
  unfold spareSelection at hspares
  rw[getElem?_pass,hreq,map_some,some.injEq] at hspares
  rw[←hspares]
  refine pick_eq_nil fun d hd hfits=>mem_append_left _ ?_
  exact mem_taken_of_short hreq hprimaries' hshort hd hfits
 have hcut:∀l:List FleetDevice,(atMost req.limit l).map (fun d=>d.id) =
   atMost req.limit (l.map fun d=>d.id):=by
  intro l
  cases req.limit with
  | none=>rfl
  | some=>exact map_take
 rw[hcut,survivors_ids_of_all hready hall,←hcut,
  atMost_append_spares hbound hspare]

lemma nodup_result {result:List (List FleetDevice)}
 (h:batchSelectDevices groups packs candidates facts recheck requirements=.ok result):
 (result.flatten.map fun d=>d.id).Nodup:=by
 obtain ⟨-,rfl⟩:=batchSelectDevices_eq_ok h
 have hallot:=allotment_selection candidates facts requirements
 exact (hallot.nodup_lists candidates.unique).sublist (reconciled_ids_sublist byId_lockedReady)

/-- Every device goes to at most one requirement, every requirement is served from its own candidates
as the recheck left them, and spares show only where rows were lost. -/
theorem run_devices_selected {result:List (List FleetDevice)}
 (h:batchSelectDevices groups packs candidates facts recheck requirements=.ok result):
 result.length=requirements.length∧
  (result.flatten.map fun d=>d.id).Nodup∧
  (∀i req devices,requirements[i]?=some req→ result[i]?=some devices→
   Served groups packs candidates facts recheck requirements i req devices)∧
  ((∀id∈(selection candidates facts requirements).selectedIds,
    ((survived groups packs candidates facts recheck requirements).get id).isSome=true)→
   result.map (fun devices=>devices.map fun d=>d.id) =
    (spareFree candidates facts requirements).map fun devices=>devices.map fun d=>d.id):=by
 have hnodup:=nodup_result h
 obtain ⟨hloaded,rfl⟩:=batchSelectDevices_eq_ok h
 have hallot:=allotment_selection candidates facts requirements
 have hready:ById (survived groups packs candidates facts recheck requirements):=byId_lockedReady
 refine ⟨?_,hnodup,?_,?_⟩
 · rw[length_zipWith,hallot.length_lists,min_self]
 · intro i req devices hreq hdevices
   rw[getElem?_zipWith,hreq] at hdevices
   cases hown:(selection candidates facts requirements).perRequirementCandidates[i]? with
   | none=>rw[hown] at hdevices;cases hdevices
   | some=>
    rw[hown] at hdevices
    cases hdevices
    exact served_of_own hreq hown hloaded
 · intro hall
   refine ext_getElem? fun i=>?_
   rw[getElem?_map,getElem?_map,getElem?_zipWith]
   cases hreq:requirements[i]? with
   | none=>
    have hnone:(spareFree candidates facts requirements)[i]?=none:=by
     rw[List.getElem?_eq_none_iff] at hreq ⊢
     rwa [spareFree,length_greedySelection]
    simp[hnone]
   | some=>
    obtain ⟨own,primaries,hown,hprimaries⟩:=hallot.exists_own hreq
    have hids:=ids_of_all_survive hready hreq hown hprimaries fun d hd=>
     hall d.id (hallot.indexed i own hown d hd).1
    rw[hown,spareFree,hprimaries]
    exact congrArg some hids

def phone (id:DeviceId)(createdAt:Instant):FleetDevice:=
 {handset with id:=id,createdAt:=createdAt}
def onePack:Catalog:=
 Dict.ofList [("appium-uiautomator2",
  ⟨some "1",[⟨"1",[⟨"android_mobile",⟨[],.empty⟩⟩]⟩]⟩)]
def noGroups:GroupTables where
 groups:=Dict.empty
 memberOf:=[]
 memberships:=[]
 key_unique:=by intro i j g h hget;cases hget
 memberOf_typed:=by intro e he;cases he
def twoPhones:Candidates where
 devices:=[phone 1 10,phone 2 20]
 unique:=by decide
 ordered:=by decide
def secondLockable:Recheck where
 lockable:=[⟨phone 2 20,none⟩]
 unique:=by decide
 staticGroupKeys:=fun _=>[]
def onePhone:DeviceRequirement:=
 ⟨"appium-uiautomator2", "android_mobile",none,.fixed 1 (by decide),[]⟩

theorem run_devices_selected_spare:
 batchSelectDevices noGroups onePack twoPhones ⟨Dict.ofList [(1,true),(2,true)],none⟩
   secondLockable [onePhone]=.ok [[phone 2 20]]∧
  Served noGroups onePack twoPhones ⟨Dict.ofList [(1,true),(2,true)],none⟩ secondLockable
   [onePhone] 0 onePhone [phone 2 20]:=by
 have hresult:batchSelectDevices noGroups onePack twoPhones
   ⟨Dict.ofList [(1,true),(2,true)],none⟩ secondLockable [onePhone]=.ok [[phone 2 20]]:=rfl
 exact ⟨hresult,(run_devices_selected hresult).2.2.1 0 onePhone [phone 2 20] rfl rfl⟩
end
end GridFleet.RunAllocation
