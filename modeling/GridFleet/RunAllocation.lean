import GridFleet.GreedySelection
import GridFleet.GroupMembership
/-! Requirements take devices from one list of candidates in request order, then reserve spares among what
nobody took. The rows are locked and checked again, and each requirement keeps its first survivors. -/
namespace GridFleet.RunAllocation
open FleetTables GroupMembership Readiness List GreedySelection

inductive Allocation where
 | fixed (count:ℕ)(positive:0<count)
 | allAvailable (minCount:ℕ)(positive:0 < minCount)

structure DeviceRequirement where
 packId:String
 platformId:String
 osVersion:Option String
 allocation:Allocation
 groups:List String

def minimumRequiredCount (req:DeviceRequirement):ℕ:=
 match req.allocation with
 | .fixed count _=>count
 | .allAvailable minCount _=>minCount
def DeviceRequirement.limit (req:DeviceRequirement):Option ℕ:=
 match req.allocation with
 | .fixed count _=>some count
 | .allAvailable _ _=>none
def staticAttributesMatch (device:FleetDevice)(req:DeviceRequirement):Bool:=
 decide (device.packId=req.packId∧device.platformId=req.platformId)&&
  (!textTruthy req.osVersion||some device.osVersion=req.osVersion)

/-- What the selection knows of the candidates: who is ready, and the groups if any are asked for. -/
structure MatchFacts where
 readinessLookup:Dict DeviceId Bool
 groupIndex:Option GroupMembershipIndex

def deviceMatchesRequirementStatic (facts:MatchFacts)(req:DeviceRequirement)
 (device:FleetDevice):Bool:=
 staticAttributesMatch device req&&
  (req.groups.isEmpty||facts.groupIndex.all (·.matchesAll device.id req.groups))&&
  (facts.readinessLookup.get device.id).getD false

structure Candidates where
 devices:List FleetDevice
 unique:(devices.map fun d=>d.id).Nodup
 ordered:devices.Pairwise fun a b=>a.createdAt≤b.createdAt

structure Selection where
 selectedIds:List DeviceId
 perRequirementCandidates:List (List FleetDevice)
 deviceToRequirementIdx:Dict DeviceId ℕ

def Selection.start:Selection:=⟨[],[],.empty⟩
def maxSpareCandidatesPerRequirement:ℕ:=8

section
variable (fits:DeviceRequirement→FleetDevice→Bool)(candidates:List FleetDevice)

def pickPrimaries (req:DeviceRequirement)(selectedIds:List DeviceId):
 List FleetDevice→List FleetDevice→List FleetDevice
 | picked,[]=>picked
 | picked,device::rest=>
  if device.id∈selectedIds then pickPrimaries req selectedIds picked rest
  else if fits req device then
   match req.allocation with
   | .allAvailable _ _=>pickPrimaries req selectedIds (picked++[device]) rest
   | .fixed count _=>
    if count≤(picked++[device]).length then picked++[device]
    else pickPrimaries req selectedIds (picked++[device]) rest
  else pickPrimaries req selectedIds picked rest

def assignPrimaries (s:Selection)(e:DeviceRequirement×ℕ):Selection:=
 let picked:=pickPrimaries fits e.1 s.selectedIds [] candidates
 { selectedIds:=s.selectedIds++picked.map fun d=>d.id
   perRequirementCandidates:=s.perRequirementCandidates++[picked]
   deviceToRequirementIdx:=picked.foldl (fun idx d=>idx.set d.id e.2) s.deviceToRequirementIdx }
def Selection.append (s:Selection)(reqIdx:ℕ)(device:FleetDevice):Selection where
 selectedIds:=s.selectedIds++[device.id]
 perRequirementCandidates:=s.perRequirementCandidates.modify reqIdx (· ++ [device])
 deviceToRequirementIdx:=s.deviceToRequirementIdx.set device.id reqIdx

def addSpares (req:DeviceRequirement)(reqIdx spareBudget:ℕ):
 Selection→ℕ→List FleetDevice→Selection
 | s,_,[]=>s
 | s,spares,device::rest=>
  if spareBudget ≤ spares then s
  else if device.id∈s.selectedIds then addSpares req reqIdx spareBudget s spares rest
  else if fits req device then
   addSpares req reqIdx spareBudget (s.append reqIdx device) (spares+1) rest
  else addSpares req reqIdx spareBudget s spares rest

def assignSpares (s:Selection)(e:DeviceRequirement×ℕ):Selection:=
 match e.1.allocation with
 | .allAvailable _ _=>s
 | .fixed count _=>
  addSpares fits e.1 e.2 (min count maxSpareCandidatesPerRequirement) s 0 candidates
def selectCandidates (requirements:List DeviceRequirement):Selection:=
 requirements.zipIdx.foldl (assignSpares fits candidates)
  (requirements.zipIdx.foldl (assignPrimaries fits candidates) Selection.start)
end

structure LockedRow where
 device:FleetDevice
 node:Option AppiumNode

/-- What the recheck meets: the rows it can lock whose availability, node and reservation gates hold,
and the static groups as reloaded under the locks. -/
structure Recheck where
 lockable:List LockedRow
 unique:(lockable.map fun row=>row.device.id).Nodup
 staticGroupKeys:DeviceId→List String

section
variable (packs:Catalog)(definitions:GroupDefinitionBatch)(recheck:Recheck)
 (requirements:List DeviceRequirement)

def lockedRows (ids:List DeviceId):List LockedRow:=
 recheck.lockable.filter fun row=>row.device.id∈ids
def readinessOf (device:FleetDevice):ReadinessState:=
 (assessDeviceWithPack device.toDevice (packs.get device.packId)).readinessState
def lockedGroupIndex (rows:List LockedRow):Option GroupMembershipIndex:=
 if definitions.groups.isEmpty then none
 else some (evaluateGroupMemberships definitions (rows.map LockedRow.device) fun device=>
  buildDeviceGroupFacts .available false (readinessOf packs device)
   (recheck.staticGroupKeys device.id))
def groupsHold (rows:List LockedRow)(req:DeviceRequirement)(device:DeviceId):Bool:=
 req.groups.isEmpty||
  (lockedGroupIndex packs definitions recheck rows).all (·.matchesAll device req.groups)
def rowPasses (rows:List LockedRow)(s:Selection)(row:LockedRow):Bool:=
 decide (readinessOf packs row.device=.verified)&&
  (StateProjection.mergedLiveness row.device.toDevice row.node != some false)&&
  ((s.deviceToRequirementIdx.get row.device.id).bind (requirements[·]?)).all fun req=>
   groupsHold packs definitions recheck rows req row.device.id
def lockedReady (s:Selection):Dict DeviceId FleetDevice:=
 let rows:=lockedRows recheck s.selectedIds
 Dict.ofList ((rows.filter (rowPasses packs definitions recheck requirements rows s)).map fun row=>
  (row.device.id,row.device))
def reconcile (s:Selection):List (List FleetDevice):=
 List.zipWith (fun req picked=>atMost req.limit
   (picked.filterMap fun d=>(lockedReady packs definitions recheck requirements s).get d.id))
  requirements s.perRequirementCandidates
end

inductive SelectionError where
 | unknownGroupKeys (missing:List String)

def requestedGroupKeys (requirements:List DeviceRequirement):List String:=
 requirements.flatMap DeviceRequirement.groups

/-- The devices of each requirement; `groups` are the tables the definitions are loaded from. -/
def batchSelectDevices (groups:GroupTables)(packs:Catalog)(candidates:Candidates)
 (facts:MatchFacts)(recheck:Recheck)(requirements:List DeviceRequirement):
 Except SelectionError (List (List FleetDevice)):=
 let definitions:=loadGroupDefinitionBatch groups (requestedGroupKeys requirements)
 let missing:=Portability.sortedKeys
  ((requestedGroupKeys requirements).filter (· ∉ definitions.loadedKeys))
 if missing≠[] then .error (.unknownGroupKeys missing)
 else
  let s:=selectCandidates (deviceMatchesRequirementStatic facts) candidates.devices requirements
  if s.selectedIds=[] then .ok s.perRequirementCandidates
  else .ok (reconcile packs definitions recheck requirements s)

section
variable {fits:DeviceRequirement→FleetDevice→Bool}

lemma pickPrimaries_allAvailable {req:DeviceRequirement}{minCount:ℕ}{hpos:0 < minCount}
 (hreq:req.allocation=.allAvailable minCount hpos)(selectedIds:List DeviceId)
 (picked candidates:List FleetDevice):pickPrimaries fits req selectedIds picked candidates =
  picked++candidates.filter fun d=>!decide (d.id∈selectedIds)&&fits req d:=by
 induction candidates generalizing picked with
 | nil=>simp[pickPrimaries]
 | cons device _ ih=>
  rw[pickPrimaries,hreq]
  by_cases hselected:device.id∈selectedIds
  · simp[hselected,ih]
  · by_cases hfits:fits req device <;> simp[hselected,hfits,ih]

lemma pickPrimaries_fixed {req:DeviceRequirement}{count:ℕ}{hpos:0<count}
 (hreq:req.allocation=.fixed count hpos)(selectedIds:List DeviceId)
 (picked candidates:List FleetDevice)(hpicked:picked.length<count):
 pickPrimaries fits req selectedIds picked candidates =
  picked++(candidates.filter fun d=>!decide (d.id∈selectedIds)&&fits req d).take
   (count-picked.length):=by
 induction candidates generalizing picked with
 | nil=>simp[pickPrimaries]
 | cons device rest ih=>
  rw[pickPrimaries,hreq]
  by_cases hselected:device.id∈selectedIds
  · simp[hselected,ih picked hpicked]
  · by_cases hfits:fits req device
    · have hfilter:(device::rest).filter (fun d=>!decide (d.id∈selectedIds)&&fits req d) =
        device::rest.filter (fun d=>!decide (d.id∈selectedIds)&&fits req d):=by
       simp[hselected,hfits]
      obtain ⟨left,hleft⟩:∃left,count-picked.length=left+1:=
       ⟨count-picked.length-1,by omega⟩
      rw[hfilter,hleft,take_succ_cons]
      simp only[hselected,if_false,hfits,if_true,length_append,length_singleton]
      split
      · have hzero:left=0:=by omega
        simp[hzero]
      · rw[ih (picked++[device]) (by simp;omega),append_assoc]
        have hrest:count-(picked++[device]).length=left:=by simp;omega
        rw[hrest]
        rfl
    · simp[hselected,hfits,ih picked hpicked]

lemma pickPrimaries_eq (req:DeviceRequirement)(selectedIds:List DeviceId)
 (candidates:List FleetDevice):pickPrimaries fits req selectedIds [] candidates =
  pick (fun d=>d.id) (fits req) req.limit selectedIds candidates:=by
 unfold pick DeviceRequirement.limit
 cases hreq:req.allocation with
 | fixed _ hpos=>simp[pickPrimaries_fixed hreq selectedIds [] candidates hpos,
   atMost]
 | allAvailable=>simp[pickPrimaries_allAvailable hreq,atMost]

def Selection.extend (s:Selection)(reqIdx:ℕ)(picks:List FleetDevice):Selection where
 selectedIds:=s.selectedIds++picks.map fun d=>d.id
 perRequirementCandidates:=s.perRequirementCandidates.modify reqIdx (· ++ picks)
 deviceToRequirementIdx:=
  picks.foldl (fun idx d=>idx.set d.id reqIdx) s.deviceToRequirementIdx

lemma Selection.extend_nil (s:Selection)(reqIdx:ℕ):s.extend reqIdx []=s:=by
 have hmodify:s.perRequirementCandidates.modify reqIdx (· ++ [])=s.perRequirementCandidates:=by
  rw[show (fun l:List FleetDevice=>l++[])=id from funext append_nil,modify_id]
 unfold extend
 rw[hmodify,map_nil,append_nil,foldl_nil]
lemma Selection.extend_cons (s:Selection)(reqIdx:ℕ)(device:FleetDevice)(picks:List FleetDevice):
 s.extend reqIdx (device::picks)=(s.append reqIdx device).extend reqIdx picks:=by
 simp[extend,append,modify_modify_eq,Function.comp_def]

/-- The second pass picks greedily too: a device it adds does not come up again. -/
lemma addSpares_eq {candidates:List FleetDevice}
 (hunique:(candidates.map fun d=>d.id).Nodup)(req:DeviceRequirement)
 (reqIdx budget spares:ℕ)(s:Selection):addSpares fits req reqIdx budget s spares candidates =
  s.extend reqIdx (pick (fun d=>d.id) (fits req) (some (budget-spares))
   s.selectedIds candidates):=by
 induction candidates generalizing s spares with
 | nil=>simp[addSpares,pick,atMost,Selection.extend_nil]
 | cons device rest ih=>
  rw[map_cons,nodup_cons] at hunique
  obtain ⟨hfresh,hrest⟩:=hunique
  rw[addSpares]
  by_cases hbudget:budget ≤ spares
  · have hzero:budget-spares=0:=by omega
    simp[hbudget,hzero,pick,atMost,Selection.extend_nil]
  · by_cases hselected:device.id∈s.selectedIds
    · rw[pick_cons_skip]
      · simp[hbudget,hselected,ih hrest]
      · exact .inl hselected
    · by_cases hfits:fits req device
      · obtain ⟨left,hleft⟩:∃left,budget-spares=left+1:=
         ⟨budget-spares-1,by omega⟩
        have hnext:budget-(spares+1)=left:=by omega
        simp only[hbudget,hselected,hfits,if_false,if_true]
        rw[ih hrest,hnext,hleft,pick_cons_free hfresh hselected hfits,
         Selection.extend_cons]
        rfl
      · rw[Bool.not_eq_true] at hfits
        rw[pick_cons_skip (.inr hfits)]
        simp[hbudget,hselected,hfits,ih hrest]
end

section
variable (fits:DeviceRequirement→FleetDevice→Bool)(candidates:List FleetDevice)

def greedySelection (requirements:List DeviceRequirement):List (List FleetDevice):=
 GreedySelection.pass (fun d=>d.id) fits DeviceRequirement.limit candidates [] requirements
def DeviceRequirement.spareLimit (req:DeviceRequirement):Option ℕ:=
 match req.allocation with
 | .fixed count _=>some (min count maxSpareCandidatesPerRequirement)
 | .allAvailable _ _=>some 0
def spareSelection (requirements:List DeviceRequirement):List (List FleetDevice):=
 GreedySelection.pass (fun d=>d.id) fits DeviceRequirement.spareLimit candidates
  ((greedySelection fits candidates requirements).flatten.map fun d=>d.id) requirements

variable {fits candidates}

def Selection.Indexed (s:Selection):Prop:=
 ∀i picked,s.perRequirementCandidates[i]?=some picked→∀d∈picked,
  d.id∈s.selectedIds∧s.deviceToRequirementIdx.get d.id=some i

variable {i:ℕ}{picks:List FleetDevice}

lemma get_foldl_set_of_notMem {idx:Dict DeviceId ℕ}{id:DeviceId}(h:id ∉ picks.map fun d=>d.id):
 (picks.foldl (fun idx d=>idx.set d.id i) idx).get id=idx.get id:=by
 induction picks generalizing idx with
 | nil=>rfl
 | cons _ _ ih=>
  rw[map_cons,mem_cons,not_or] at h
  rw[foldl_cons,ih h.2,Dict.get_set_of_ne _ _ h.1]
lemma get_foldl_set_of_mem {idx:Dict DeviceId ℕ}{id:DeviceId}(h:id∈picks.map fun d=>d.id):
 (picks.foldl (fun idx d=>idx.set d.id i) idx).get id=some i:=by
 induction picks generalizing idx with
 | nil=>cases h
 | cons _ picks ih=>
  rw[foldl_cons]
  by_cases hlater:id∈picks.map fun d=>d.id
  · exact ih hlater
  · rw[get_foldl_set_of_notMem hlater]
    rw[map_cons,mem_cons,or_iff_left hlater] at h
    rw[h,Dict.get_set_self]

variable {s:Selection}

lemma Selection.Indexed.extended (h:s.Indexed)
 (hfresh:∀d∈picks,d.id ∉ s.selectedIds):(s.extend i picks).Indexed:=by
 intro j picked hget d hd
 have hsplit:(∃old,s.perRequirementCandidates[j]?=some old∧d∈old)∨i=j∧d∈picks:=by
  simp only[Selection.extend,getElem?_modify] at hget
  obtain ⟨old,hold,heq⟩:=Option.map_eq_some_iff.mp hget
  split at heq
  · rename_i hij
    rw[←heq,mem_append] at hd
    exact hd.imp (fun hmem=>⟨old,hold,hmem⟩) fun hmem=>⟨hij,hmem⟩
  · exact .inl ⟨old,hold,heq ▸ hd⟩
 rcases hsplit with ⟨old,hold,hmem⟩|⟨rfl,hmem⟩
 · obtain ⟨hselected,hidx⟩:=h j old hold d hmem
   refine ⟨mem_append_left _ hselected,?_⟩
   have hother:d.id ∉ picks.map fun d=>d.id:=by
    intro hpick
    obtain ⟨d',hd',heq⟩:=mem_map.mp hpick
    exact hfresh d' hd' (heq ▸ hselected)
   exact (get_foldl_set_of_notMem hother).trans hidx
 · have hid:d.id∈picks.map fun d=>d.id:=mem_map_of_mem hmem
   exact ⟨mem_append_right _ hid,get_foldl_set_of_mem hid⟩
lemma modify_append_cons {α:Type*}(before after:List α)(x:α)(f:α→α):
 (before++x::after).modify before.length f=before++f x::after:=by
 induction before with
 | nil=>rfl
 | cons _ _ ih=>simp[ih]

def Selection.open (s:Selection):Selection:=
 {s with perRequirementCandidates:=s.perRequirementCandidates++[[]]}

lemma Selection.Indexed.opened (h:s.Indexed):s.open.Indexed:=by
 intro i picked hget d hd
 simp only[Selection.open,getElem?_append] at hget
 split at hget
 · exact h i picked hget d hd
 · rw[getElem?_singleton] at hget
   split at hget
   · cases hget
     cases hd
   · cases hget
lemma assignPrimaries_eq (s:Selection)(req:DeviceRequirement):
 assignPrimaries fits candidates s (req,s.perRequirementCandidates.length) =
  s.open.extend s.perRequirementCandidates.length
   (pick (fun d=>d.id) (fits req) req.limit s.selectedIds candidates):=by
 unfold assignPrimaries Selection.extend Selection.open
 rw[pickPrimaries_eq]
 simp[modify_append_cons]

variable (fits candidates) in
lemma foldl_assignPrimaries (requirements:List DeviceRequirement)
 (hindexed:s.Indexed){k:ℕ}(hk:s.perRequirementCandidates.length=k):
 ((requirements.zipIdx k).foldl (assignPrimaries fits candidates) s).Indexed∧
  ((requirements.zipIdx k).foldl (assignPrimaries fits candidates) s).perRequirementCandidates =
   s.perRequirementCandidates++GreedySelection.pass (fun d=>d.id) fits
    DeviceRequirement.limit candidates s.selectedIds requirements∧
  ((requirements.zipIdx k).foldl (assignPrimaries fits candidates) s).selectedIds =
   s.selectedIds++(GreedySelection.pass (fun d=>d.id) fits
    DeviceRequirement.limit candidates s.selectedIds requirements).flatten.map fun d=>d.id:=by
 induction requirements generalizing s k with
 | nil=>simp[GreedySelection.pass,hindexed]
 | cons req _ ih=>
  subst hk
  rw[zipIdx_cons,foldl_cons,assignPrimaries_eq,GreedySelection.pass]
  generalize hpicks:pick (fun d=>d.id) (fits req) req.limit s.selectedIds
   candidates=picks
  have hfresh:∀d∈picks,d.id ∉ s.open.selectedIds:=by
   intro d hd
   rw[←hpicks] at hd
   exact (mem_pick hd).2.1
  have hper:(s.open.extend s.perRequirementCandidates.length picks).perRequirementCandidates =
    s.perRequirementCandidates++[picks]:=by
   simp[Selection.extend,Selection.open,modify_append_cons]
  obtain ⟨hindexed',hper',hselected'⟩:=ih (hindexed.opened.extended hfresh)
   (by rw[hper,length_append,length_singleton])
  refine ⟨hindexed',?_,?_⟩
  · rw[hper',hper,append_assoc]
    rfl
  · rw[hselected']
    simp[Selection.extend,Selection.open]

lemma assignSpares_eq (hunique:(candidates.map fun d=>d.id).Nodup)(s:Selection)
 (req:DeviceRequirement)(k:ℕ):assignSpares fits candidates s (req,k) =
  s.extend k (pick (fun d=>d.id) (fits req) req.spareLimit s.selectedIds candidates):=by
 unfold assignSpares DeviceRequirement.spareLimit
 cases hreq:req.allocation with
 | fixed=>simpa using addSpares_eq hunique req k _ 0 s
 | allAvailable=>
  simp[pick,atMost,Selection.extend_nil]

variable (fits) in
lemma foldl_assignSpares (hunique:(candidates.map fun d=>d.id).Nodup)
 (requirements:List DeviceRequirement)(hindexed:s.Indexed)
 {before lists:List (List FleetDevice)}(hper:s.perRequirementCandidates=before++lists)
 (hlength:lists.length=requirements.length):
 ((requirements.zipIdx before.length).foldl (assignSpares fits candidates) s).Indexed∧
  ((requirements.zipIdx before.length).foldl (assignSpares fits candidates)
   s).perRequirementCandidates =
    before++List.zipWith (· ++ ·) lists (GreedySelection.pass (fun d=>d.id) fits
     DeviceRequirement.spareLimit candidates s.selectedIds requirements)∧
  ((requirements.zipIdx before.length).foldl (assignSpares fits candidates) s).selectedIds =
   s.selectedIds++(GreedySelection.pass (fun d=>d.id) fits
    DeviceRequirement.spareLimit candidates s.selectedIds requirements).flatten.map fun d=>d.id:=by
 induction requirements generalizing s before lists with
 | nil=>
  rw[length_nil,length_eq_zero_iff] at hlength
  simp[GreedySelection.pass,hindexed,hper,hlength]
 | cons req rest ih=>
  obtain ⟨list,lists,rfl⟩:=exists_cons_of_length_eq_add_one hlength
  rw[zipIdx_cons,foldl_cons,assignSpares_eq hunique,GreedySelection.pass]
  generalize hpicks:pick (fun d=>d.id) (fits req) req.spareLimit s.selectedIds
   candidates=picks
  have hfresh:∀d∈picks,d.id ∉ s.selectedIds:=by
   intro d hd
   rw[←hpicks] at hd
   exact (mem_pick hd).2.1
  have hper':(s.extend before.length picks).perRequirementCandidates =
    (before++[list++picks])++lists:=by
   simp[Selection.extend,hper,modify_append_cons]
  have hnext:=ih (hindexed.extended hfresh) hper' (by simpa using hlength)
  rw[length_append,length_singleton] at hnext
  obtain ⟨hindexed',hlists',hselected'⟩:=hnext
  refine ⟨hindexed',?_,?_⟩
  · rw[hlists',append_assoc]
    rfl
  · rw[hselected']
    simp[Selection.extend]

lemma indexed_start:Selection.start.Indexed:=by
 intro i picked hget
 simp[Selection.start] at hget

structure Allotment (fits:DeviceRequirement→FleetDevice→Bool)(candidates:List FleetDevice)
  (requirements:List DeviceRequirement)(s:Selection):Prop where
 indexed:s.Indexed
 lists:s.perRequirementCandidates=List.zipWith (· ++ ·)
  (greedySelection fits candidates requirements) (spareSelection fits candidates requirements)
 selected:s.selectedIds=((greedySelection fits candidates requirements).flatten ++
  (spareSelection fits candidates requirements).flatten).map fun d=>d.id

lemma allotment_selectCandidates (hunique:(candidates.map fun d=>d.id).Nodup)
 (requirements:List DeviceRequirement):
 Allotment fits candidates requirements (selectCandidates fits candidates requirements):=by
 unfold selectCandidates
 obtain ⟨hindexed,hlists,hselected⟩:=
  foldl_assignPrimaries fits candidates requirements indexed_start rfl
 have hstart:Selection.start.perRequirementCandidates.length=0:=rfl
 rw[hstart] at hindexed hlists hselected
 generalize requirements.zipIdx.foldl (assignPrimaries fits candidates) Selection.start=s at *
 obtain ⟨hindexed',hlists',hselected'⟩:=
  foldl_assignSpares fits hunique requirements hindexed hlists (length_pass _ _)
 have hspares:GreedySelection.pass (fun d=>d.id) fits DeviceRequirement.spareLimit candidates
   s.selectedIds requirements=spareSelection fits candidates requirements:=by
  rw[hselected]
  rfl
 refine ⟨hindexed',?_,?_⟩
 · exact hlists'.trans (by rw[hspares];rfl)
 · refine hselected'.trans ?_
   rw[hspares,hselected,map_append]
   rfl

section
lemma flatten_append_perm {α:Type*}{a b:List (List α)}(hlength:a.length=b.length):
 (List.zipWith (· ++ ·) a b).flatten.Perm (a.flatten++b.flatten):=by
 induction a generalizing b with
 | nil=>
  rw[length_nil,eq_comm,length_eq_zero_iff] at hlength
  simp[hlength]
 | cons x _ ih=>
  obtain ⟨y,b,rfl⟩:=exists_cons_of_length_eq_add_one hlength.symm
  have hrest:=ih (Nat.succ.inj hlength)
  simp only[zipWith_cons_cons,flatten_cons,append_assoc]
  refine List.Perm.append_left x ((hrest.append_left y).trans ?_)
  rw[←append_assoc,←append_assoc]
  exact List.perm_append_comm.append_right _

variable {requirements:List DeviceRequirement}{s:Selection}
 (hallot:Allotment fits candidates requirements s)

lemma length_greedySelection (requirements:List DeviceRequirement):
 (greedySelection fits candidates requirements).length=requirements.length:=
 length_pass _ _
lemma length_spareSelection (requirements:List DeviceRequirement):
 (spareSelection fits candidates requirements).length=requirements.length:=
 length_pass _ _

include hallot

lemma Allotment.length_lists:s.perRequirementCandidates.length=requirements.length:=by
 rw[hallot.lists,length_zipWith,length_greedySelection,length_spareSelection,min_self]
lemma Allotment.own {i:ℕ}{own:List FleetDevice}(hown:s.perRequirementCandidates[i]?=some own):
 ∃primaries spares,(greedySelection fits candidates requirements)[i]?=some primaries∧
  (spareSelection fits candidates requirements)[i]?=some spares∧own=primaries++spares:=by
 rw[hallot.lists,getElem?_zipWith] at hown
 split at hown
 · rename_i primaries spares hprimaries hspares
   exact ⟨primaries,spares,hprimaries,hspares,(Option.some.inj hown).symm⟩
 · cases hown
lemma Allotment.nodup (hunique:(candidates.map fun d=>d.id).Nodup):s.selectedIds.Nodup:=by
 rw[hallot.selected,map_append,nodup_append]
 refine ⟨nodup_pass hunique _ _,nodup_pass hunique _ _,?_⟩
 intro id hprimary id' hspare heq
 obtain ⟨d,hd,rfl⟩:=mem_map.mp hspare
 exact notMem_taken_of_mem_pass hd (heq ▸ hprimary)
lemma Allotment.nodup_lists (hunique:(candidates.map fun d=>d.id).Nodup):
 (s.perRequirementCandidates.flatten.map fun d=>d.id).Nodup:=by
 have hlength:(greedySelection fits candidates requirements).length =
   (spareSelection fits candidates requirements).length:=by
  rw[length_greedySelection,length_spareSelection]
 rw[hallot.lists,((flatten_append_perm hlength).map _).nodup_iff,←hallot.selected]
 exact hallot.nodup hunique
lemma Allotment.exists_own {i:ℕ}{req:DeviceRequirement}(hreq:requirements[i]?=some req):
 ∃own primaries,s.perRequirementCandidates[i]?=some own∧
  (greedySelection fits candidates requirements)[i]?=some primaries:=by
 obtain ⟨hlt,-⟩:=List.getElem?_eq_some_iff.mp hreq
 have hown:i<s.perRequirementCandidates.length:=by rwa [hallot.length_lists]
 have hprimaries:i<(greedySelection fits candidates requirements).length:=by
  rwa [length_greedySelection]
 exact ⟨_,_,getElem?_eq_getElem hown,getElem?_eq_getElem hprimaries⟩
end
end
end GridFleet.RunAllocation
