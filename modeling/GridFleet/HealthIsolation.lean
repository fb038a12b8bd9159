import GridFleet.HealthDebounce
import GridFleet.Portability
/-! The debounce stamps and the previously-offline marker are addressed by the identity value of the
device, which is unique only within a scope, a scheme and, for one scope, a host. -/
namespace GridFleet.HealthIsolation
open Dict IntentReconciler
open Decision (DatetimeText)
open HealthDebounce
open Portability (DeviceRow sameIdentity)
open Readiness (truthy)
open StateProjection (Json.field)

structure FoldFacts where
 inMaintenance:Bool
 landed:Bool
 operationalState:OperationalState
 isReadyForUse:Bool
 autoRecoveryPrepared:Bool

structure DeviceHealthItem where
 probeError:Bool
 health:Option Json

structure Visit where
 facts:FoldFacts
 item:DeviceHealthItem
 windows:DebounceWindows
 observedAt:Instant

structure Report where
 healthy:Bool
 summary:String
 recoveryReason:Option String

/-- A check id that is no text has no `replace`. -/
def checkLabel (entry:Json):Option String:=
 match Json.field entry "check_id" with
 | none=>some "unknown"
 | some (.str id)=>some (id.map fun ch=>if ch = '_' then ' ' else ch)
 | some _=>none

def summarizeUnhealthyResult (result:Json):Option String:=
 match Json.field result "detail" with
 | some (.str detail)=>if detail ≠ "" then some detail else summarizeChecks
 | _=>summarizeChecks
where
 summarizeChecks:Option String:=
  match Json.field result "checks" with
  | some (.arr checks)=>
   ((checks.filter fun c=>isDict c&&!flag c "ok").mapM checkLabel).map fun failures=>
    if failures.isEmpty then "Device health checks failed"
    else "Failed checks: " ++ ", ".intercalate failures
  | _=>some "Device health checks failed"

def failureElapsed (since:Option Instant)(observedAt:Instant):ℕ:=
 match since with
 | none=>0
 | some failingSince=>observedAt-failingSince

section
variable (text:DatetimeText)(fixed0:ℕ→String)(identity:String)

/-- `fixed0` renders microseconds as whole seconds. -/
def healthySummary (evaluated:Evaluated)(windows:DebounceWindows)(observedAt:Instant):String:=
 let counter:=if evaluated.ipPingEntry.isSome then evaluated.store.get (.ipPing,identity) else none
 let elapsed:=failureElapsed (parseIso text counter) observedAt
 if 0<elapsed then
  "Healthy (ip_ping failing for " ++ fixed0 elapsed ++ "s/" ++ toString windows.ipPing ++ "s)"
 else "Healthy"

def maybeAutoRecover (facts:FoldFacts)(store:Store):Option String×Store:=
 if facts.operationalState ≠ .offline then (none,store.pop (.connectivity,identity))
 else if !facts.isReadyForUse then (none,store.pop (.connectivity,identity))
 else
  let previouslyOffline:=(store.get (.connectivity,identity)).any truthy
  let reason:=
   if previouslyOffline then "Device reconnected and passed health checks"
   else "Startup recovery after healthy reconnect"
  (some reason,
   if facts.autoRecoveryPrepared then store.pop (.connectivity,identity)
   else store.set (.connectivity,identity) (.bool true))

def handleHealthyDevice (visit:Visit)(evaluated:Evaluated):Report×Store:=
 let summary:=healthySummary text fixed0 identity evaluated visit.windows visit.observedAt
 if !visit.facts.landed then (⟨true,summary,none⟩,evaluated.store)
 else
  let recovered:=maybeAutoRecover identity visit.facts evaluated.store
  (⟨true,summary,recovered.1⟩,recovered.2)
def escalateHealthFailure (visit:Visit)(summary:String)(evaluated:Evaluated):Report×Store:=
 (⟨false,summary,none⟩,
  if visit.facts.landed then evaluated.store.set (.connectivity,identity) (.bool true) else evaluated.store)

/-- A fold that raises is rolled back. -/
def applyDeviceHealth (visit:Visit)(store:Store):Option Report×Store:=
 if visit.facts.inMaintenance||visit.item.probeError then (none,store)
 else match visit.item.health with
  | none=>(none,store)
  | some result=>
   let evaluated:=evaluateHealthResult text identity visit.windows false result visit.observedAt store
   if evaluated.healthy then
    let handled:=handleHealthyDevice text fixed0 identity visit evaluated
    (some handled.1,handled.2)
   else match summarizeUnhealthyResult result with
    | none=>(none,store)
    | some summary=>
     let escalated:=escalateHealthFailure identity visit summary evaluated
     (some escalated.1,escalated.2)
end

section
variable (text:DatetimeText)(fixed0:ℕ→String)

def outcomesOf (device:DeviceRow):List (DeviceRow×Visit)→Store→List (Option Report×Option Json)
 | [],_=>[]
 | (folded,visit)::visits,store=>
  let applied:=applyDeviceHealth text fixed0 folded.identityValue visit store
  let rest:=outcomesOf device visits applied.2
  if folded=device then (applied.1,applied.2.get (.connectivity,device.identityValue))::rest else rest
end

section
variable {text:DatetimeText}{fixed0:ℕ→String}{identity:String}{store store':Store}

def WritesOnly (identity:String)(store store':Store):Prop:=
 ∀name key,key≠identity→store'.get (name,key)=store.get (name,key)

lemma WritesOnly.refl (identity:String)(store:Store):WritesOnly identity store store:=fun _ _ _=>rfl
lemma WritesOnly.trans {third:Store}(h:WritesOnly identity store store')
 (h':WritesOnly identity store' third):WritesOnly identity store third:=
 fun name key hkey=>(h' name key hkey).trans (h name key hkey)
lemma writesOnly_pop (store:Store)(name:Namespace):WritesOnly identity store (store.pop (name,identity)):=
 fun _ _ hkey=>get_pop_of_ne _ fun h=>hkey (Prod.mk.inj h).2
lemma writesOnly_set (store:Store)(name:Namespace)(value:Json):
 WritesOnly identity store (store.set (name,identity) value):=
 fun _ _ hkey=>get_set_of_ne _ _ fun h=>hkey (Prod.mk.inj h).2
lemma writesOnly_applyFailureDebounce (name:Namespace)(ok:Bool)(windowSec:ℕ)(observedAt:Instant)
 (store:Store):
 WritesOnly identity store (applyFailureDebounce text identity name ok windowSec observedAt store).2:=by
 unfold applyFailureDebounce
 split
 · exact writesOnly_pop store name
 · split
   · exact .refl identity store
   · exact writesOnly_set store name _
lemma writesOnly_evaluateHealthResult (text:DatetimeText)(identity:String)(windows:DebounceWindows)(inMaintenance:Bool)(result:Json)
 (observedAt:Instant)(store:Store):WritesOnly identity store
  (evaluateHealthResult text identity windows inMaintenance result observedAt store).store:=by
 have hping:WritesOnly identity store
   (gateIpPing text identity windows inMaintenance result observedAt store).2:=by
  unfold gateIpPing
  split
  · split
    · exact writesOnly_applyFailureDebounce _ _ _ _ store
    · exact .refl identity store
  · exact .refl identity store
 refine hping.trans ?_
 change WritesOnly identity _ (gateOthers text identity windows inMaintenance result observedAt _).2
 unfold gateOthers
 split
 · exact .refl identity _
 · split
   · exact writesOnly_applyFailureDebounce _ _ _ _ _
   · split
     · exact writesOnly_applyFailureDebounce _ _ _ _ _
     · exact .refl identity _
lemma writesOnly_maybeAutoRecover (facts:FoldFacts)(store:Store):
 WritesOnly identity store (maybeAutoRecover identity facts store).2:=by
 unfold maybeAutoRecover
 split
 · exact writesOnly_pop store _
 · split
   · exact writesOnly_pop store _
   · dsimp only
     split
     · exact writesOnly_pop store _
     · exact writesOnly_set store _ _
lemma writesOnly_handleHealthyDevice (visit:Visit)(evaluated:Evaluated):
 WritesOnly identity evaluated.store (handleHealthyDevice text fixed0 identity visit evaluated).2:=by
 unfold handleHealthyDevice
 dsimp only
 split
 · exact .refl identity _
 · exact writesOnly_maybeAutoRecover _ _
lemma writesOnly_escalateHealthFailure (visit:Visit)(summary:String)(evaluated:Evaluated):
 WritesOnly identity evaluated.store (escalateHealthFailure identity visit summary evaluated).2:=by
 unfold escalateHealthFailure
 dsimp only
 split
 · exact writesOnly_set _ _ _
 · exact .refl identity _
lemma writesOnly_applyDeviceHealth (visit:Visit)(store:Store):
 WritesOnly identity store (applyDeviceHealth text fixed0 identity visit store).2:=by
 unfold applyDeviceHealth
 split
 · exact .refl identity store
 · split
   · exact .refl identity store
   · rename_i result _
     have hevaluated:=writesOnly_evaluateHealthResult text identity visit.windows false result visit.observedAt
      store
     dsimp only
     split
     · exact hevaluated.trans (writesOnly_handleHealthyDevice visit _)
     · split
       · exact .refl identity store
       · rename_i summary _
         exact hevaluated.trans (writesOnly_escalateHealthFailure visit summary _)
end

section
variable (text:DatetimeText)(fixed0:ℕ→String){identity:String}{store store':Store}

def Agree (identity:String)(store store':Store):Prop:=
 ∀name,store.get (name,identity)=store'.get (name,identity)

lemma Agree.pop (h:Agree identity store store')(name:Namespace):
 Agree identity (store.pop (name,identity)) (store'.pop (name,identity)):=by
 intro other
 rw[get_pop,get_pop,h other]
lemma Agree.set (h:Agree identity store store')(name:Namespace)(value:Json):
 Agree identity (store.set (name,identity) value) (store'.set (name,identity) value):=by
 intro other
 rw[get_set,get_set,h other]

def SameAnswer {α:Type}(identity:String)(answer answer':α×Store):Prop:=
 answer.1=answer'.1∧Agree identity answer.2 answer'.2

section
variable (h:Agree identity store store')
include h

lemma Agree.applyFailureDebounce (name:Namespace)(ok:Bool)(windowSec:ℕ)(observedAt:Instant):
 SameAnswer identity (applyFailureDebounce text identity name ok windowSec observedAt store)
  (HealthDebounce.applyFailureDebounce text identity name ok windowSec observedAt store'):=by
 unfold HealthDebounce.applyFailureDebounce
 rw[h name]
 split
 · exact ⟨rfl,h.pop name⟩
 · split
   · exact ⟨rfl,h⟩
   · exact ⟨rfl,h.set name _⟩
lemma Agree.gateIpPing (windows:DebounceWindows)(inMaintenance:Bool)
 (result:Json)(observedAt:Instant):
 SameAnswer identity (gateIpPing text identity windows inMaintenance result observedAt store)
  (HealthDebounce.gateIpPing text identity windows inMaintenance result observedAt store'):=by
 unfold HealthDebounce.gateIpPing
 split
 · split
   · exact h.applyFailureDebounce text _ _ _ _
   · exact ⟨rfl,h⟩
 · exact ⟨rfl,h⟩
lemma Agree.gateOthers (windows:DebounceWindows)(inMaintenance:Bool)
 (result:Json)(observedAt:Instant):
 SameAnswer identity (gateOthers text identity windows inMaintenance result observedAt store)
  (HealthDebounce.gateOthers text identity windows inMaintenance result observedAt store'):=by
 unfold HealthDebounce.gateOthers
 split
 · exact ⟨rfl,h⟩
 · split
   · exact ⟨rfl,(h.applyFailureDebounce text _ _ _ _).2⟩
   · split
     · exact h.applyFailureDebounce text _ _ _ _
     · exact ⟨rfl,h⟩
lemma Agree.evaluateHealthResult (windows:DebounceWindows)
 (inMaintenance:Bool)(result:Json)(observedAt:Instant):∃healthy entry after after',
  evaluateHealthResult text identity windows inMaintenance result observedAt store=⟨healthy,entry,after⟩∧
  HealthDebounce.evaluateHealthResult text identity windows inMaintenance result observedAt store' =
   ⟨healthy,entry,after'⟩∧Agree identity after after':=by
 have hping:=h.gateIpPing text windows inMaintenance result observedAt
 have hothers:=hping.2.gateOthers text windows inMaintenance result observedAt
 refine ⟨_,_,_,_,rfl,?_,hothers.2⟩
 unfold HealthDebounce.evaluateHealthResult
 dsimp only
 rw[hping.1,hothers.1]

lemma Agree.maybeAutoRecover (facts:FoldFacts):
 SameAnswer identity (maybeAutoRecover identity facts store)
  (HealthIsolation.maybeAutoRecover identity facts store'):=by
 unfold HealthIsolation.maybeAutoRecover
 rw[h .connectivity]
 split
 · exact ⟨rfl,h.pop _⟩
 · split
   · exact ⟨rfl,h.pop _⟩
   · refine ⟨rfl,?_⟩
     dsimp only
     split
     · exact h.pop _
     · exact h.set _ _
lemma Agree.handleHealthyDevice (visit:Visit)(healthy:Bool)(entry:Option Json):
 SameAnswer identity (handleHealthyDevice text fixed0 identity visit ⟨healthy,entry,store⟩)
  (HealthIsolation.handleHealthyDevice text fixed0 identity visit ⟨healthy,entry,store'⟩):=by
 have hsummary:healthySummary text fixed0 identity ⟨healthy,entry,store⟩ visit.windows visit.observedAt =
   healthySummary text fixed0 identity ⟨healthy,entry,store'⟩ visit.windows visit.observedAt:=by
  unfold healthySummary
  dsimp only
  rw[h .ipPing]
 have hrecovered:=h.maybeAutoRecover visit.facts
 unfold HealthIsolation.handleHealthyDevice
 dsimp only
 rw[hsummary]
 split
 · exact ⟨rfl,h⟩
 · exact ⟨by rw[hrecovered.1],hrecovered.2⟩
lemma Agree.applyDeviceHealth (visit:Visit):
 SameAnswer identity (applyDeviceHealth text fixed0 identity visit store)
  (HealthIsolation.applyDeviceHealth text fixed0 identity visit store'):=by
 unfold HealthIsolation.applyDeviceHealth
 split
 · exact ⟨rfl,h⟩
 · split
   · exact ⟨rfl,h⟩
   · rename_i result _
     obtain ⟨healthy,entry,after,after',heval,heval',hafter⟩:=
      h.evaluateHealthResult text visit.windows false result visit.observedAt
     rw[heval,heval']
     dsimp only
     split
     · have hhandled:=hafter.handleHealthyDevice text fixed0 visit healthy entry
       exact ⟨by rw[hhandled.1],hhandled.2⟩
     · split
       · exact ⟨rfl,h⟩
       · refine ⟨rfl,?_⟩
         unfold escalateHealthFailure
         dsimp only
         split
         · exact hafter.set _ _
         · exact hafter
end
end

section
variable {text:DatetimeText}{fixed0:ℕ→String}{a b:DeviceRow}

def AgreeExcept (identity:String)(store store':Store):Prop:=
 ∀other,other≠identity→Agree other store store'

lemma AgreeExcept.of_writesOnly {identity:String}{store store' after:Store}
 (h:AgreeExcept identity store store')(hwrites:WritesOnly identity store after):
 AgreeExcept identity after store':=by
 intro other hother name
 rw[hwrites name other hother,h other hother name]
lemma AgreeExcept.applyDeviceHealth {identity:String}{store store':Store}
 (h:AgreeExcept identity store store')(key:String)(visit:Visit):
 AgreeExcept identity (HealthIsolation.applyDeviceHealth text fixed0 key visit store).2
  (HealthIsolation.applyDeviceHealth text fixed0 key visit store').2:=by
 intro other hother
 by_cases hkey:other=key
 · subst hkey
   exact ((h other hother).applyDeviceHealth text fixed0 visit).2
 · intro name
   rw[writesOnly_applyDeviceHealth visit store name other hkey,
    writesOnly_applyDeviceHealth visit store' name other hkey,h other hother name]
lemma outcomesOf_without (hidentity:a.identityValue≠b.identityValue)(visits:List (DeviceRow×Visit))
 {store store':Store}(h:AgreeExcept a.identityValue store store'):
 outcomesOf text fixed0 b visits store =
  outcomesOf text fixed0 b (visits.filter fun visit=>visit.1≠a) store':=by
 induction visits generalizing store store' with
 | nil=>rfl
 | cons first visits ih=>
  obtain ⟨folded,visit⟩:=first
  by_cases hfolded:folded=a
  · subst hfolded
    have hskip:folded≠b:=fun hb=>hidentity (congrArg DeviceRow.identityValue hb)
    rw[outcomesOf,if_neg hskip,List.filter_cons_of_neg (by simp)]
    exact ih (h.of_writesOnly (writesOnly_applyDeviceHealth visit store))
  · rw[List.filter_cons_of_pos (by simpa using hfolded),outcomesOf,outcomesOf]
    rw[ih (h.applyDeviceHealth folded.identityValue visit)]
    split
    · rename_i hb
      subst hb
      have hsame:=(h folded.identityValue hidentity.symm).applyDeviceHealth text fixed0 visit
      rw[hsame.1,hsame.2 .connectivity]
    · rfl

def flaggedUnhealthy:Visit where
 facts:=⟨false,true,.available,true,true⟩
 item:=⟨false,some (.obj [("healthy",.bool false)])⟩
 windows:=⟨60,120⟩
 observedAt:=0
def consumed:Visit where
 facts:=⟨true,true,.maintenance,true,true⟩
 item:=⟨false,none⟩
 windows:=⟨60,120⟩
 observedAt:=0

lemma outcomesOf_flaggedUnhealthy (hne:a≠b)(hidentity:a.identityValue=b.identityValue):
 outcomesOf text fixed0 b [(a,flaggedUnhealthy),(b,consumed)] .empty=[(none,some (.bool true))]:=by
 have hfold:(applyDeviceHealth text fixed0 b.identityValue flaggedUnhealthy .empty).2 =
   Dict.set .empty (.connectivity,b.identityValue) (.bool true):=rfl
 have hconsumed:∀store,applyDeviceHealth text fixed0 b.identityValue consumed store=(none,store):=
  fun _=>rfl
 simp[outcomesOf,hfold,hconsumed,hne,hidentity]

/-- Two devices that the schema admits are isolated exactly if their identity values differ. -/
theorem isolated_iff_identity_ne (text:DatetimeText) (fixed0:ℕ→ String) (a b:DeviceRow)
 (hschema:sameIdentity a b=false):
 (∀visits store,outcomesOf text fixed0 b visits store =
  outcomesOf text fixed0 b (visits.filter fun visit=>visit.1≠a) store)↔
 a.identityValue≠b.identityValue:=by
 constructor
 · intro hisolated hidentity
   have hne:a≠b:=by
    rintro rfl
    simp[sameIdentity] at hschema
   have hleak:=hisolated [(a,flaggedUnhealthy),(b,consumed)] .empty
   rw[outcomesOf_flaggedUnhealthy hne hidentity] at hleak
   have halone:outcomesOf text fixed0 b ([(a,flaggedUnhealthy),(b,consumed)].filter fun visit=>
     visit.1≠a) .empty=[(none,none)]:=by
    have hmarker:(applyDeviceHealth text fixed0 b.identityValue consumed .empty).2.get
      (.connectivity,b.identityValue)=none:=rfl
    have hreport:(applyDeviceHealth text fixed0 b.identityValue consumed .empty).1=none:=rfl
    simp[outcomesOf,hmarker,hreport,hne.symm]
   rw[halone] at hleak
   cases hleak
 · intro hidentity visits store
   exact outcomesOf_without hidentity visits fun _ _ _=>rfl
end

def emulatorOn (hostId:ℕ):DeviceRow where
 packId:= "appium-uiautomator2"
 platformId:= "android"
 identityScheme:= "adb"
 identityScope:=.host
 identityValue:= "emulator-5554"
 name:= "Pixel"
 deviceType:=.emulator
 connectionType:=.virtual
 connectionTarget:=none
 hostId:=hostId
 deviceConfig:=none
 testData:=.empty
 createdAt:=0

def pingFails (observedAt:Instant):Visit where
 facts:=⟨false,true,.available,true,true⟩
 item:=⟨false,some (.obj [("checks",.arr [check "ip_ping" false false])])⟩
 windows:=⟨60,120⟩
 observedAt:=observedAt

/-- The first blip of the emulator on host 2 is unhealthy because the one on host 1 failed a minute ago. -/
theorem emulator_blip_inherits_stamp:
 sameIdentity (emulatorOn 1) (emulatorOn 2)=false∧
 (outcomesOf tallyText toString (emulatorOn 2)
   [(emulatorOn 1,pingFails 1),(emulatorOn 2,pingFails 60000001)] .empty).map
   (fun outcome=>outcome.1.map Report.healthy)=[some false]∧
  (outcomesOf tallyText toString (emulatorOn 2) [(emulatorOn 2,pingFails 60000001)] .empty).map
   (fun outcome=>outcome.1.map Report.healthy)=[some true]:=by
 refine ⟨by decide,by decide,by decide⟩

/-- The emulator at the next port of the same host has its own window. -/
theorem emulators_of_one_host_isolated:
 (∀visits store,outcomesOf tallyText toString (emulatorOn 1) visits store =
  outcomesOf tallyText toString (emulatorOn 1)
   (visits.filter fun visit=>visit.1≠{ emulatorOn 1 with identityValue:= "emulator-5556" }) store)↔
 { emulatorOn 1 with identityValue:= "emulator-5556" }.identityValue≠(emulatorOn 1).identityValue:=
 isolated_iff_identity_ne tallyText toString _ (emulatorOn 1) (by decide)
end GridFleet.HealthIsolation
