import GridFleet.ReservationGate
/-! The reservation gate in SQL and in Python: the allocator folds it into its SELECT; the group filters
and the device badge load the runs of the devices and decide it row by row. -/
namespace GridFleet.ReservationTwins
open List Option ReservationGate

/-- The constraints of the two tables: primary and foreign keys, and the partial unique index. -/
structure ReservationRows extends Tables where
 runs_unique:(runs.map TestRun.id).Nodup
 run_exists:∀res∈reservations,∃run∈runs,run.id=res.runId
 active_unique:((reservations.filter fun res=>res.releasedAt.isNone).map DeviceReservation.deviceId).Nodup

def terminalStates:List RunState:=[.completed,.failed,.expired,.cancelled]

section
variable (t:Tables)(device:DeviceId)(now:Instant)

def joined:List (DeviceReservation×TestRun):=
 t.reservations.flatMap fun res=>(t.runs.filter fun run=>run.id=res.runId).map fun run=>(res,run)
def notExcludedSql (res:DeviceReservation):Sql.Truth:=
 Sql.or (Sql.isFalse (some res.excluded))
  (Sql.and (Sql.isTrue (some res.excluded))
   (Sql.and (Sql.isNotNull res.excludedUntil) (Sql.le res.excludedUntil (some now))))
def gatingSql (row:DeviceReservation×TestRun):Sql.Truth:=
 Sql.and (Sql.eq (some row.1.deviceId) (some device))
  (Sql.and (Sql.isNull row.1.releasedAt)
   (Sql.and (Sql.not (Sql.isIn (some row.2.state) terminalStates)) (notExcludedSql now row.1)))
def reservationGatingOwnerSql:Option RunId:=
 ((Sql.select (joined t) (gatingSql device now)).insertionSort
  fun a b=>b.1.createdAt≤a.1.createdAt).head?.map fun row=>row.1.runId
end

section
variable (t:Tables)(now:Instant)

def deviceReservations (run:TestRun):List DeviceReservation:=
 (t.reservations.filter fun res=>res.runId=run.id).insertionSort fun a b=>a.createdAt≤b.createdAt
def reservationEntryForDevice (run:TestRun)(device:DeviceId)(activeOnly:Bool):
 Option DeviceReservation:=
 let entries:=(deviceReservations t run).filter fun entry=>entry.deviceId=device
 (if activeOnly then entries.filter fun entry=>entry.releasedAt.isNone else entries).getLast?
def reservationEntryIsExcluded (entry:DeviceReservation):Bool:=
 if !entry.excluded then false
 else match entry.excludedUntil with
  | none=>true
  | some until_=>now<until_
def getDeviceReservationMap (deviceIds:List DeviceId):Dict DeviceId TestRun:=
 Dict.ofList ((t.reservations.filter fun res=>res.deviceId∈deviceIds&&res.releasedAt.isNone).filterMap
  fun res=>(t.runs.find? fun run=>run.id=res.runId).map fun run=>(res.deviceId,run))

def reservationGatingRunId (reservationRun:Option TestRun)(device:DeviceId):Option RunId:=
 match reservationRun with
 | none=>none
 | some run=>
  if isTerminal run.state then none
  else if (reservationEntryForDevice t run device true).any (reservationEntryIsExcluded now) then none
  else some run.id
end

section
variable (t:Tables)(now:Instant)(deviceIds:List DeviceId)(device:DeviceId)

def allocatorReserved:Bool:=(reservationGatingOwnerSql t device now).isSome

/-- The reserved axis that `load_group_membership_index` evaluates dynamic groups with. -/
def groupReserved:Bool:=
 ((getDeviceReservationMap t deviceIds).get device).any fun run=>
  (reservationGatingRunId t now (some run) device).isSome

/-- `blocks_allocation` of the frozen reservation facts; a device without a run has none. -/
def badgeReserved:Bool:=
 match (getDeviceReservationMap t deviceIds).get device with
 | none=>false
 | some run=>(reservationGatingRunId t now (some run) device).isSome
end

lemma notExcludedSql_eq (now:Instant)(res:DeviceReservation):
 notExcludedSql now res=some !reservationEntryIsExcluded now res:=by
 obtain ⟨id,runId,deviceId,excluded,kind,reason,until_,released,created⟩:=res
 cases excluded with
 | false=>cases until_ <;> rfl
 | true=>
  cases until_ with
  | none=>rfl
  | some u=>
   have hle:decide (u≤now) = !decide (now<u):=by
    rw[Bool.eq_iff_iff]
    simp
   simp[notExcludedSql,reservationEntryIsExcluded,Sql.isFalse,Sql.isTrue,Sql.isNotNull,Sql.le,hle]

lemma gate_eq_not_excluded (now:Instant)(res:DeviceReservation):
 (!res.excluded||res.excludedUntil.any (· ≤ now)) = !reservationEntryIsExcluded now res:=by
 obtain ⟨id,runId,deviceId,excluded,kind,reason,until_,released,created⟩:=res
 cases excluded with
 | false=>rfl
 | true=>
  cases until_ with
  | none=>rfl
  | some=>
   rw[Bool.eq_iff_iff]
   simp[reservationEntryIsExcluded]
lemma gatingSql_eq_true_iff {device:DeviceId}{now:Instant}{row:DeviceReservation×TestRun}:
 gatingSql device now row=some true↔row.1.deviceId=device∧row.1.releasedAt=none∧
  isTerminal row.2.state=false∧reservationEntryIsExcluded now row.1=false:=by
 have hterminal:Sql.not (Sql.isIn (some row.2.state) terminalStates)=some !isTerminal row.2.state:=by
  cases row.2.state <;> rfl
 rw[gatingSql,hterminal,notExcludedSql_eq,Sql.and_eq_true_iff,Sql.and_eq_true_iff,Sql.and_eq_true_iff,
  Sql.eq_eq_true_iff]
 simp[Sql.isNull]
lemma mem_joined {t:Tables}{row:DeviceReservation×TestRun}:
 row∈joined t↔row.1∈t.reservations∧row.2∈t.runs∧row.2.id=row.1.runId:=by
 obtain ⟨res,run⟩:=row
 simp only[joined,mem_flatMap,List.mem_map,mem_filter,decide_eq_true_eq,Prod.mk.injEq]
 constructor
 · rintro ⟨res',hres,run',⟨hrun,hid⟩,rfl,rfl⟩
   exact ⟨hres,hrun,hid⟩
 · rintro ⟨hres,hrun,hid⟩
   exact ⟨res,hres,run,⟨hrun,hid⟩,rfl,rfl⟩

lemma head_insertionSort_of_mem_iff {α:Type}{r:α→α→Prop} [DecidableRel r]{l:List α}{a:α}
 {closed:Bool}(hmem:∀x,x∈l↔x=a∧closed=false):
 (l.insertionSort r).head?=if closed then none else some a:=by
 cases hhead:(l.insertionSort r).head? with
 | none=>
  have hnot:a ∉ l:=by
   rw[←mem_insertionSort r,head?_eq_none_iff.mp hhead]
   exact not_mem_nil
  rw[hmem] at hnot
  rw[if_pos (by simpa using hnot)]
 | some x=>
  have hx:x∈l:=(mem_insertionSort r).mp (mem_of_mem_head? hhead)
  obtain ⟨rfl,hopen⟩:=(hmem x).mp hx
  simp[hopen]

namespace ReservationRows

variable (t:ReservationRows){device:DeviceId}{res:DeviceReservation}{run:TestRun}

lemma active_eq {res':DeviceReservation}(hres:res∈t.reservations)(hres':res'∈t.reservations)
 (hactive:res.releasedAt=none)(hactive':res'.releasedAt=none)(hdevice:res.deviceId=res'.deviceId):
 res=res':=
 inj_on_of_nodup_map t.active_unique (mem_filter.mpr ⟨hres,by simp[hactive]⟩)
  (mem_filter.mpr ⟨hres',by simp[hactive']⟩) hdevice

structure Holds (device:DeviceId)(res:DeviceReservation)(run:TestRun):Prop where
 reservation:res∈t.reservations
 device_eq:res.deviceId=device
 active:res.releasedAt=none
 run_mem:run∈t.runs
 run_eq:run.id=res.runId

lemma exists_holds (hres:res∈t.reservations)(hactive:res.releasedAt=none):
 ∃run,t.Holds res.deviceId res run:=by
 obtain ⟨run,hrun,hid⟩:=t.run_exists res hres
 exact ⟨run,hres,rfl,hactive,hrun,hid⟩

variable {t}

section
variable (h:t.Holds device res run)
include h

lemma Holds.eq_of_active {res':DeviceReservation}
 (hres':res'∈t.reservations)(hdevice:res'.deviceId=device)(hactive:res'.releasedAt=none):res'=res:=
 t.active_eq hres' h.reservation hactive h.active (hdevice.trans h.device_eq.symm)
lemma Holds.eq_of_run {run':TestRun}(hrun:run'∈t.runs)(hid:run'.id=res.runId):run'=run:=
 inj_on_of_nodup_map t.runs_unique hrun h.run_mem (hid.trans h.run_eq.symm)
lemma Holds.get_map {deviceIds:List DeviceId}(hmem:device∈deviceIds):
 (getDeviceReservationMap t.toTables deviceIds).get device=some run:=by
 refine Dict.get_ofList_of_forall (mem_filterMap.mpr ⟨res,?_,?_⟩) fun run' hrun'=>?_
 · simp[h.reservation,h.device_eq,h.active,hmem]
 · rw[(Sql.find_eq_some_iff t.runs_unique).mpr ⟨h.run_mem,h.run_eq⟩,map_some,h.device_eq]
 · obtain ⟨res',hres',hfound⟩:=mem_filterMap.mp hrun'
   obtain ⟨found,hfind,hpair⟩:=map_eq_some_iff.mp hfound
   obtain ⟨hdevice,rfl⟩:=Prod.mk.inj hpair
   simp only[mem_filter,Bool.and_eq_true,isNone_iff_eq_none] at hres'
   obtain ⟨hrow,-,hactive⟩:=hres'
   cases h.eq_of_active hrow hdevice hactive
   obtain ⟨hin,hid⟩:=(Sql.find_eq_some_iff t.runs_unique).mp hfind
   exact h.eq_of_run hin hid
end

lemma get_map_eq_none (hfree:∀res∈t.reservations,res.deviceId=device→ res.releasedAt≠none)
 (deviceIds:List DeviceId):(getDeviceReservationMap t.toTables deviceIds).get device=none:=by
 cases hget:(getDeviceReservationMap t.toTables deviceIds).get device with
 | none=>rfl
 | some=>
  obtain ⟨res,hres,hfound⟩:=mem_filterMap.mp (Dict.mem_of_get_ofList hget)
  obtain ⟨found,-,hpair⟩:=map_eq_some_iff.mp hfound
  simp only[mem_filter,Bool.and_eq_true,isNone_iff_eq_none] at hres
  exact absurd hres.2.2 (hfree res hres.1 (Prod.mk.inj hpair).1)

section
variable (h:t.Holds device res run)
include h

/-- The other rows of the device in the run are released. -/
lemma Holds.entry:reservationEntryForDevice t.toTables run device true=some res:=by
 have hmem:∀res',res'∈((deviceReservations t.toTables run).filter fun entry=>entry.deviceId=device).filter
   (fun entry=>entry.releasedAt.isNone)↔res'=res:=by
  intro res'
  simp only[deviceReservations,mem_filter,mem_insertionSort,decide_eq_true_eq,
   isNone_iff_eq_none]
  constructor
  · rintro ⟨⟨⟨hres',-⟩,hdevice⟩,hactive⟩
    exact h.eq_of_active hres' hdevice hactive
  · rintro rfl
    exact ⟨⟨⟨h.reservation,h.run_eq.symm⟩,h.device_eq⟩,h.active⟩
 unfold reservationEntryForDevice
 simp only[if_true]
 cases hlast:List.getLast? _ with
 | none=>
  rw[getLast?_eq_none_iff] at hlast
  exact absurd ((hmem res).mpr rfl) (hlast ▸ not_mem_nil)
 | some res'=>rw[(hmem res').mp (mem_of_getLast? hlast)]

lemma Holds.sql (now:Instant):reservationGatingOwnerSql t.toTables device now =
 if isTerminal run.state||reservationEntryIsExcluded now res then none else some run.id:=by
 have hmem:∀row,row∈Sql.select (joined t.toTables) (gatingSql device now)↔
   row=(res,run)∧(isTerminal run.state||reservationEntryIsExcluded now res)=false:=by
  rintro ⟨res',run'⟩
  rw[Sql.mem_select,mem_joined,gatingSql_eq_true_iff,Bool.or_eq_false_iff]
  constructor
  · rintro ⟨⟨hres',hrun',hid⟩,hdevice,hactive,hopen⟩
    cases h.eq_of_active hres' hdevice hactive
    cases h.eq_of_run hrun' hid
    exact ⟨rfl,hopen⟩
  · rintro ⟨hrow,hopen⟩
    cases hrow
    exact ⟨⟨h.reservation,h.run_mem,h.run_eq⟩,h.device_eq,h.active,hopen⟩
 rw[reservationGatingOwnerSql,head_insertionSort_of_mem_iff hmem,h.run_eq]
 cases isTerminal run.state||reservationEntryIsExcluded now res <;> rfl
lemma Holds.owner (now:Instant):reservationGatingOwner t.toTables device now =
  if isTerminal run.state||reservationEntryIsExcluded now res then none else some run.id:=by
 have hlive:runIsLive t.toTables res.runId = !isTerminal run.state:=by
  rw[Bool.eq_iff_iff,runIsLive,List.any_eq_true]
  constructor
  · rintro ⟨run',hrun',hopen⟩
    rw[Bool.and_eq_true,decide_eq_true_eq] at hopen
    cases h.eq_of_run hrun' hopen.1
    exact hopen.2
  · intro hopen
    exact ⟨run,h.run_mem,by simp[h.run_eq,hopen]⟩
 have hmem:∀row,row∈gatingReservations t.toTables device now↔
   row=res∧(isTerminal run.state||reservationEntryIsExcluded now res)=false:=by
  intro res'
  simp only[gatingReservations,reservationActive,mem_filter,
   Bool.and_eq_true,decide_eq_true_eq,isNone_iff_eq_none,gate_eq_not_excluded,Bool.or_eq_false_iff]
  constructor
  · rintro ⟨hres',⟨⟨hdevice,hactive⟩,hopen⟩,hincluded⟩
    cases h.eq_of_active hres' hdevice hactive
    rw[hlive] at hopen
    exact ⟨rfl,by simpa using hopen,by simpa using hincluded⟩
  · rintro ⟨rfl,hopen,hincluded⟩
    exact ⟨h.reservation,⟨⟨h.device_eq,h.active⟩,by simp[hlive,hopen]⟩,by simp[hincluded]⟩
 rw[reservationGatingOwner,head_insertionSort_of_mem_iff hmem,h.run_eq]
 cases isTerminal run.state||reservationEntryIsExcluded now res <;> rfl
end

lemma sql_eq_none (hfree:∀res∈t.reservations,res.deviceId=device→ res.releasedAt≠none)
 (now:Instant):reservationGatingOwnerSql t.toTables device now=none:=by
 have hnil:Sql.select (joined t.toTables) (gatingSql device now)=[]:=by
  rw[eq_nil_iff_forall_not_mem]
  intro row hrow
  rw[Sql.mem_select,mem_joined,gatingSql_eq_true_iff] at hrow
  exact hfree row.1 hrow.1.1 hrow.2.1 hrow.2.2.1
 rw[reservationGatingOwnerSql,hnil]
 rfl
lemma owner_eq_none (hfree:∀res∈t.reservations,res.deviceId=device→ res.releasedAt≠none)
 (now:Instant):reservationGatingOwner t.toTables device now=none:=by
 have hnil:gatingReservations t.toTables device now=[]:=by
  refine filter_eq_nil_iff.mpr fun res hres=>?_
  have:=hfree res hres
  simp only[reservationActive,Bool.and_eq_true,decide_eq_true_eq,isNone_iff_eq_none]
  tauto
 rw[reservationGatingOwner,hnil]
 rfl
end ReservationRows

lemma reservationGatingOwnerSql_eq_owner (t:ReservationRows)(device:DeviceId)(now:Instant):
 reservationGatingOwnerSql t.toTables device now=reservationGatingOwner t.toTables device now:=by
 by_cases hheld:∃res∈t.reservations,res.deviceId=device∧res.releasedAt=none
 · obtain ⟨res,hres,rfl,hactive⟩:=hheld
   obtain ⟨run,hholds⟩:=t.exists_holds hres hactive
   rw[hholds.sql,hholds.owner]
 · push Not at hheld
   rw[t.sql_eq_none hheld,t.owner_eq_none hheld]
lemma reservationGatingRunId_eq (t:ReservationRows)(now:Instant){deviceIds:List DeviceId}{device:DeviceId}
 (hmem:device∈deviceIds):
 reservationGatingRunId t.toTables now ((getDeviceReservationMap t.toTables deviceIds).get device) device =
  reservationGatingOwnerSql t.toTables device now:=by
 by_cases hheld:∃res∈t.reservations,res.deviceId=device∧res.releasedAt=none
 · obtain ⟨res,hres,rfl,hactive⟩:=hheld
   obtain ⟨run,hholds⟩:=t.exists_holds hres hactive
   rw[hholds.sql,hholds.get_map hmem,reservationGatingRunId,hholds.entry]
   cases isTerminal run.state <;> simp
 · push Not at hheld
   rw[t.sql_eq_none hheld,t.get_map_eq_none hheld]
   rfl
lemma groupReserved_eq (t:ReservationRows)(now:Instant){deviceIds:List DeviceId}{device:DeviceId}
 (hmem:device∈deviceIds):
 groupReserved t.toTables now deviceIds device=allocatorReserved t.toTables now device:=by
 rw[allocatorReserved,←reservationGatingRunId_eq t now hmem,groupReserved]
 cases (getDeviceReservationMap t.toTables deviceIds).get device <;> rfl

theorem reservation_gate_twins_agree (t:ReservationRows) (now:Instant) (deviceIds:List DeviceId)
 (device:DeviceId) (hmem:device∈deviceIds):
 reservationGatingOwnerSql t.toTables device now =
   reservationGatingRunId t.toTables now ((getDeviceReservationMap t.toTables deviceIds).get device) device∧
  groupReserved t.toTables now deviceIds device=allocatorReserved t.toTables now device∧
  badgeReserved t.toTables now deviceIds device=allocatorReserved t.toTables now device:=by
 refine ⟨(reservationGatingRunId_eq t now hmem).symm,groupReserved_eq t now hmem,?_⟩
 rw[allocatorReserved,←reservationGatingRunId_eq t now hmem,badgeReserved]
 cases (getDeviceReservationMap t.toTables deviceIds).get device <;> rfl

def cooledDown:ReservationRows where
 devices:=.empty
 sessions:=[]
 reservations:=
  [⟨1,1,0,true,some "exclusion",some "boot",none,some 3,0⟩,
   ⟨2,2,0,true,some "cooldown",some "flaky",some 20,none,5⟩]
 runs:=[⟨1, "nightly",.failed⟩,⟨2, "smoke",.active⟩]
 runs_unique:=by decide
 run_exists:=by decide
 active_unique:=by decide

theorem cooledDown_twins_agree:
 (reservationGatingOwnerSql cooledDown.toTables 0 20=reservationGatingRunId cooledDown.toTables 20
   ((getDeviceReservationMap cooledDown.toTables [0]).get 0) 0∧
  groupReserved cooledDown.toTables 20 [0] 0=allocatorReserved cooledDown.toTables 20 0∧
  badgeReserved cooledDown.toTables 20 [0] 0=allocatorReserved cooledDown.toTables 20 0)∧
 reservationGatingOwnerSql cooledDown.toTables 0 20=some 2:=
 ⟨reservation_gate_twins_agree cooledDown 20 [0] 0 (by decide),by decide⟩
end GridFleet.ReservationTwins
