import GridFleet.RemediationLadder
import GridFleet.ReservationRelease
/-! A preparation failure, or a cooldown that reaches its threshold, releases the device from its run and,
if the operator asks for it, records the failure and enters maintenance, under one device lock. -/
namespace GridFleet.RunEscalation
open List
open RecoveryJobs (terminalStates)
open RemediationLog
open ReservationRelease (lockActiveReservation releaseLocked cooledEntry cooldownEscalationReason)
open StateProjection (inMaintenance Json.field)

structure Database where
 runs:Dict RunId RunState
 devices:Dict DeviceId Device
 entries:Dict RowId ReservationRelease.Entry
 log:List Entry

structure Settings extends ReservationRelease.Settings where
 runFailureEscalatesToMaintenance:Bool

inductive RunFailureError where
 | valueError (message:String)

def isSpace (c:Char):Bool:=
 let n:=c.toNat
 (9≤n&&n≤13)||(28≤n&&n≤32)||(0x2000≤n&&n≤0x200a)||
  [0x85,0xa0,0x1680,0x2028,0x2029,0x202f,0x205f,0x3000].contains n
def strip (text:String):String:=
 String.ofList ((text.toList.dropWhile isSpace).reverse.dropWhile isSpace).reverse

def runStateValue:RunState→String
 | .pending=> "pending"
 | .preparing=> "preparing"
 | .active=> "active"
 | .completed=> "completed"
 | .failed=> "failed"
 | .expired=> "expired"
 | .cancelled=> "cancelled"

structure Stamps where
 reset:RowId×Instant
 failure:RowId×Instant
 entered:RowId×Instant

def stampOf (device:DeviceId)(drawn:RowId×Instant):Stamp:=⟨drawn.1,device,drawn.2⟩

section
variable (stamps:Stamps)(device:DeviceId)

def recordRunEscalationFailure (reason source action:String)(log:List Entry):List Entry:=
 log++[appendReset (stampOf device stamps.reset) source action none,
  appendFailure (stampOf device stamps.failure) source reason]
def setMaintenanceReason (row:Device)(reason:String):Device:=
 { row with
   lifecyclePolicyState:=some (.obj [("maintenance_reason",.str reason),
    ("recovery_generation",
     ((row.lifecyclePolicyState.bind fun state=>Json.field state "recovery_generation").getD .null))]) }

/-- `enter_maintenance_locked` with `allow_reserved`; its reconcile writes no log row. -/
def enterMaintenanceLocked (row:Device)(maintenanceReason:String)(db:Database):Database:=
 { db with
   devices:=db.devices.set device (setMaintenanceReason row maintenanceReason)
   log:=
    if inMaintenance row then db.log
    else db.log++[appendReset (stampOf device stamps.entered) "maintenance" "maintenance_entered"
     (some maintenanceReason)] }

def releaseAndMaybeMaintain (settings:Settings)(now:Instant)(row:Device)
 (reason source escalationAction maintenanceReason:String)(db:Database):Database×Bool:=
 let released:={db with entries:=releaseLocked db.entries now device reason}
 if settings.runFailureEscalatesToMaintenance then
  let recorded:={ released with
   log:=recordRunEscalationFailure stamps device reason source escalationAction released.log }
  (enterMaintenanceLocked stamps device row maintenanceReason recorded,true)
 else (released,false)
end

inductive Reported where
 | alreadyCommitted
 | released (db:Database)(enteredMaintenance:Bool)

inductive Cooled where
 | excluded (db:Database)
 | escalated (db:Database)(cooldownCount:ℕ)(enteredMaintenance:Bool)

section
variable (settings:Settings)(stamps:Stamps)(now:Instant)(db:Database)(run:RunId)(device:DeviceId)

def lockRunAndDevice (verb:String):Except RunFailureError Device:=
 match db.runs.get run with
 | none=>.error (.valueError "Run not found")
 | some state=>
  if state∈terminalStates then
   .error (.valueError ("Cannot " ++ verb ++ " terminal run '" ++ runStateValue state ++ "'"))
  else match db.devices.get device with
   | none=>.error (.valueError "Device not found")
   | some row=>.ok row

/-- `newest` is the youngest reservation row of the run and the device. -/
def reportPreparationFailure (newest:Option ReservationRelease.Entry)(message source:String):
 Except RunFailureError Reported:=do
 let reason:=strip message
 if reason = "" then throw (.valueError "Preparation failure message is required")
 let row ←lockRunAndDevice db run device "report preparation failure for"
 match lockActiveReservation db.entries device (some run) with
 | none=>
  if newest.any fun entry=>entry.releasedAt.isSome&&decide (entry.exclusionReason=some reason) then
   return .alreadyCommitted
  else throw (.valueError "Device is not actively reserved by this run")
 | some _=>
  let (db',entered):=releaseAndMaybeMaintain stamps device settings now row reason source
   "ci_preparation_failed" "CI preparation failure" db
  return .released db' entered

def cooldownDevice (reason:String)(ttlSeconds:ℕ):Except RunFailureError Cooled:=do
 if settings.cooldownMaxSec<ttlSeconds then
  throw (.valueError ("ttl_seconds must be <= " ++ toString settings.cooldownMaxSec))
 let cleanReason:=strip reason
 if cleanReason = "" then throw (.valueError "Cooldown reason is required")
 let row ←lockRunAndDevice db run device "cooldown device in"
 match lockActiveReservation db.entries device (some run) with
 | none=>throw (.valueError ("Device " ++ toString device ++ " is not actively reserved by this run"))
 | some (id,entry)=>
  let counted:={entry with cooldownCount:=entry.cooldownCount+1}
  let threshold:=settings.cooldownEscalationThreshold
  if 0<threshold∧threshold≤counted.cooldownCount then
   let (db',entered):=releaseAndMaybeMaintain stamps device settings now row
    (cooldownEscalationReason counted.cooldownCount threshold cleanReason) "testkit" "cooldown_escalated"
    "Cooldown escalation" {db with entries:=db.entries.set id counted}
   return .escalated db' counted.cooldownCount entered
  else
   return .excluded {db with entries:=db.entries.set id (cooledEntry counted now cleanReason ttlSeconds)}
end

section
variable {stamps:Stamps}{device:DeviceId}{log:List Entry}

structure Stamps.Newer (stamps:Stamps)(device:DeviceId)(log:List Entry):Prop where
 reset:∀x∈log,x.deviceId=device→
  x.at_<stamps.reset.2∨(x.at_=stamps.reset.2∧x.id<stamps.reset.1)
 failure:stamps.reset.2<stamps.failure.2∨(stamps.reset.2=stamps.failure.2∧stamps.reset.1<stamps.failure.1)
 entered:stamps.failure.2<stamps.entered.2∨
  (stamps.failure.2=stamps.entered.2∧stamps.failure.1<stamps.entered.1)

def ShowsFailure (log:List Entry)(device:DeviceId)(source reason:String):Prop:=
 (loadLadder log device).lastFailureSource=some source∧(loadLadder log device).lastFailureReason=some reason

lemma loadLadder_append (device:DeviceId){entry:Entry}(hwritten:Written entry)(hdevice:entry.deviceId=device)
 (hnewer:∀x∈log,x.deviceId=device→x.Lt entry):
 loadLadder (log++[entry]) device=advanceLadder (loadLadder log device) entry:=by
 unfold loadLadder
 rw[filter_append,filter_singleton,decide_eq_true hdevice]
 exact deriveLadder_concat hwritten fun x hx=>
  hnewer x (mem_filter.mp hx).1 (of_decide_eq_true (mem_filter.mp hx).2)
lemma loadLadder_recorded (hnewer:stamps.Newer device log)(reason source action:String):
 loadLadder (recordRunEscalationFailure stamps device reason source action log) device =
  advanceLadder (advanceLadder (loadLadder log device)
   (appendReset (stampOf device stamps.reset) source action none))
   (appendFailure (stampOf device stamps.failure) source reason):=by
 unfold recordRunEscalationFailure
 rw[append_cons,loadLadder_append device (.failure _ _ _) rfl,loadLadder_append device (.reset _ _ _ _) rfl hnewer.reset]
 intro x hx hdevice
 rcases mem_append.mp hx with hold|hreset
 · have hbefore:x.Lt (appendReset (stampOf device stamps.reset) source action none):=hnewer.reset x hold hdevice
   exact hbefore.trans hnewer.failure
 · rw[mem_singleton.mp hreset]
   exact hnewer.failure
lemma lt_entered (hnewer:stamps.Newer device log)(reason source action maintenanceReason:String){x:Entry}
 (hx:x∈recordRunEscalationFailure stamps device reason source action log)(hdevice:x.deviceId=device):
 x.Lt (appendReset (stampOf device stamps.entered) "maintenance" "maintenance_entered"
  (some maintenanceReason)):=by
 have hfailure:(appendFailure (stampOf device stamps.failure) source reason).Lt
   (appendReset (stampOf device stamps.entered) "maintenance" "maintenance_entered" (some maintenanceReason)):=
  hnewer.entered
 have hreset:(appendReset (stampOf device stamps.reset) source action none).Lt
   (appendFailure (stampOf device stamps.failure) source reason):=hnewer.failure
 rcases mem_append.mp hx with hold|hrecorded
 · have hbefore:x.Lt (appendReset (stampOf device stamps.reset) source action none):=hnewer.reset x hold hdevice
   exact (hbefore.trans hreset).trans hfailure
 · rcases mem_pair.mp hrecorded with rfl|rfl
   · exact hreset.trans hfailure
   · exact hfailure
lemma showsFailure_releaseAndMaybeMaintain {settings:Settings}{now:Instant}{row:Device}{db:Database}
 (hon:settings.runFailureEscalatesToMaintenance)(hnewer:stamps.Newer device db.log)
 (reason source escalationAction maintenanceReason:String):
 ShowsFailure (releaseAndMaybeMaintain stamps device settings now row reason source escalationAction
  maintenanceReason db).1.log device source reason↔inMaintenance row:=by
 have hlog:(releaseAndMaybeMaintain stamps device settings now row reason source escalationAction
   maintenanceReason db).1.log =
   if inMaintenance row then recordRunEscalationFailure stamps device reason source escalationAction db.log
   else recordRunEscalationFailure stamps device reason source escalationAction db.log ++
    [appendReset (stampOf device stamps.entered) "maintenance" "maintenance_entered"
     (some maintenanceReason)]:=by
  simp[releaseAndMaybeMaintain,hon,enterMaintenanceLocked]
 rw[hlog,ShowsFailure]
 cases hmaintenance:inMaintenance row with
 | true=>
  rw[if_pos rfl,loadLadder_recorded hnewer]
  exact iff_of_true ⟨rfl,rfl⟩ rfl
 | false=>
  rw[if_neg Bool.false_ne_true,loadLadder_append device (.reset _ _ _ _) rfl]
  · refine iff_of_false ?_ Bool.false_ne_true
    rintro ⟨hsource,-⟩
    cases hsource
  · intro x hx hdevice
    exact lt_entered hnewer reason source escalationAction maintenanceReason hx hdevice
end

section
variable {settings:Settings}{stamps:Stamps}{now:Instant}{db db':Database}{run:RunId}
 {device:DeviceId}{entered:Bool}

lemma lockRunAndDevice_eq_ok {verb:String}{row:Device}(h:lockRunAndDevice db run device verb=.ok row):
 db.devices.get device=some row:=by
 unfold lockRunAndDevice at h
 split at h
 · cases h
 · split at h
   · cases h
   · split at h
     · cases h
     · cases h
       assumption
lemma reportPreparationFailure_eq_released {newest:Option ReservationRelease.Entry}{message source:String}
 (h:reportPreparationFailure settings stamps now db run device newest message source =
  .ok (.released db' entered)):
 ∃row,db.devices.get device=some row∧(lockActiveReservation db.entries device (some run)).isSome∧
  (db',entered)=releaseAndMaybeMaintain stamps device settings now row (strip message) source
   "ci_preparation_failed" "CI preparation failure" db:=by
 unfold reportPreparationFailure at h
 by_cases hreason:strip message = ""
 · rw[if_pos hreason] at h
   cases h
 · rw[if_neg hreason] at h
   obtain ⟨row,hrow,h⟩:=bind_eq_ok.mp h
   refine ⟨row,lockRunAndDevice_eq_ok hrow,?_⟩
   cases hactive:lockActiveReservation db.entries device (some run) with
   | none=>
    simp only[hactive] at h
    split at h <;> cases h
   | some=>
    simp only[hactive] at h
    cases h
    exact ⟨rfl,rfl⟩

lemma cooldownDevice_eq_escalated {reason:String}{ttlSeconds count:ℕ}
 (h:cooldownDevice settings stamps now db run device reason ttlSeconds=.ok (.escalated db' count entered)):
 ∃row counted,db.devices.get device=some row∧
  (db',entered)=releaseAndMaybeMaintain stamps device settings now row
   (cooldownEscalationReason count settings.cooldownEscalationThreshold (strip reason)) "testkit"
   "cooldown_escalated" "Cooldown escalation" {db with entries:=counted}∧
  ReservationRelease.cooldownDevice db.entries now settings.toSettings run device (strip reason) ttlSeconds =
   releaseLocked counted now device
    (cooldownEscalationReason count settings.cooldownEscalationThreshold (strip reason)):=by
 unfold cooldownDevice at h
 by_cases httl:settings.cooldownMaxSec<ttlSeconds
 · rw[if_pos httl] at h
   cases h
 · rw[if_neg httl] at h
   by_cases hreason:strip reason = ""
   · simp only[hreason,if_true] at h
     cases h
   · simp only[hreason,if_false] at h
     obtain ⟨row,hrow,h⟩:=bind_eq_ok.mp h
     cases hactive:lockActiveReservation db.entries device (some run) with
     | none=>
      simp only[hactive] at h
      cases h
     | some found=>
      simp only[hactive] at h
      by_cases hthreshold:0<settings.cooldownEscalationThreshold∧
        settings.cooldownEscalationThreshold≤found.2.cooldownCount+1
      · simp only[hthreshold,and_self,if_true] at h
        cases h
        refine ⟨row,_,lockRunAndDevice_eq_ok hrow,rfl,?_⟩
        simp[ReservationRelease.cooldownDevice,hactive,hthreshold]
      · simp only[hthreshold,if_false] at h
        cases h

lemma releaseAndMaybeMaintain_entries (row:Device)(reason source escalationAction maintenanceReason:String)
 (db:Database):(releaseAndMaybeMaintain stamps device settings now row reason source escalationAction
  maintenanceReason db).1.entries=releaseLocked db.entries now device reason:=by
 unfold releaseAndMaybeMaintain
 dsimp only
 split <;> rfl
lemma escalation_releases_reservation:
 (∀newest message source,reportPreparationFailure settings stamps now db run device newest message source =
   .ok (.released db' entered)→
  db'.entries=ReservationRelease.reportPreparationFailure db.entries now run device (strip message))∧
 ∀reason ttlSeconds count,cooldownDevice settings stamps now db run device reason ttlSeconds =
   .ok (.escalated db' count entered)→
  db'.entries=ReservationRelease.cooldownDevice db.entries now settings.toSettings run device (strip reason)
   ttlSeconds:=by
 constructor
 · intro newest message source hreported
   obtain ⟨row,-,hactive,heq⟩:=reportPreparationFailure_eq_released hreported
   obtain ⟨found,hfound⟩:=Option.isSome_iff_exists.mp hactive
   rw[show db'=_ from congrArg Prod.fst heq,releaseAndMaybeMaintain_entries,
    ReservationRelease.reportPreparationFailure,hfound]
 · intro reason ttlSeconds count hcooled
   obtain ⟨row,counted,-,heq,hbase⟩:=cooldownDevice_eq_escalated hcooled
   rw[show db'=_ from congrArg Prod.fst heq,releaseAndMaybeMaintain_entries,hbase]
end

/-- The maintenance entry erases the failure unless the device was parked already. -/
theorem escalation_keeps_failure_iff (settings:Settings) (hon:settings.runFailureEscalatesToMaintenance=true)
 (stamps:Stamps) (now:Instant) (db:Database) (run:RunId) (device:DeviceId) (row:Device)
 (hrow:db.devices.get device=some row) (hnewer:stamps.Newer device db.log):
 (∀newest message source db' entered,
  reportPreparationFailure settings stamps now db run device newest message source =
   .ok (.released db' entered)→
  (ShowsFailure db'.log device source (strip message)↔inMaintenance row=true))∧
 ∀reason ttlSeconds db' count entered,
  cooldownDevice settings stamps now db run device reason ttlSeconds=.ok (.escalated db' count entered)→
  (ShowsFailure db'.log device "testkit"
    (cooldownEscalationReason count settings.cooldownEscalationThreshold (strip reason))↔
   inMaintenance row=true):=by
 constructor
 · intro newest message source db' entered hreported
   obtain ⟨row',hrow',-,heq⟩:=reportPreparationFailure_eq_released hreported
   cases hrow.symm.trans hrow'
   have hlog:db'=_:=congrArg Prod.fst heq
   rw[hlog]
   exact showsFailure_releaseAndMaybeMaintain hon hnewer _ _ _ _
 · intro reason ttlSeconds db' count entered hcooled
   obtain ⟨row',counted,hrow',heq,-⟩:=cooldownDevice_eq_escalated hcooled
   cases hrow.symm.trans hrow'
   have hlog:db'=_:=congrArg Prod.fst heq
   have hcounted:stamps.Newer device ({db with entries:=counted}:Database).log:=hnewer
   rw[hlog]
   exact showsFailure_releaseAndMaybeMaintain hon hcounted _ _ _ _

def phone:Device:={emulator with id:=7}
def reserved (row:Device):Database where
 runs:=.ofList [(1,.preparing)]
 devices:=.ofList [(7,row)]
 entries:=.ofList [(3,⟨1,7,false,none,none,none,none,0,none⟩)]
 log:=[]
def escalating:Settings:=⟨⟨600,3⟩,true⟩
def threeStamps:Stamps:=⟨(1,100),(2,101),(3,102)⟩

theorem reported_phone_shows_no_failure:∃db',reportPreparationFailure escalating threeStamps 90 (reserved phone)
  1 7 none "boot failed" "ci_preparation" = .ok (.released db' true)∧
 (loadLadder db'.log 7).lastFailureSource=none∧(loadLadder db'.log 7).lastFailureReason=none:=
 ⟨_,rfl,rfl,rfl⟩

theorem parked_phone_keeps_failure:
 (∀newest message source db' entered,reportPreparationFailure escalating threeStamps 90
   (reserved (setMaintenanceReason phone "battery")) 1 7 newest message source=.ok (.released db' entered)→
  (ShowsFailure db'.log 7 source (strip message)↔inMaintenance (setMaintenanceReason phone "battery")=true))∧
 (∀reason ttlSeconds db' count entered,cooldownDevice escalating threeStamps 90
   (reserved (setMaintenanceReason phone "battery")) 1 7 reason ttlSeconds=.ok (.escalated db' count entered)→
  (ShowsFailure db'.log 7 "testkit" (cooldownEscalationReason count 3 (strip reason))↔
   inMaintenance (setMaintenanceReason phone "battery")=true)):=
 escalation_keeps_failure_iff escalating rfl threeStamps 90 (reserved (setMaintenanceReason phone "battery")) 1 7
  (setMaintenanceReason phone "battery") rfl
  ⟨fun _ hx=>absurd hx not_mem_nil,by decide,by decide⟩
end GridFleet.RunEscalation
