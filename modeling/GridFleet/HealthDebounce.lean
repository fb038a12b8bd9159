import GridFleet.IntentReconciler
import GridFleet.Interleaving
/-! Failing ip_ping and failing checks with a debounce mark make a device unhealthy only after a window.
When the failure began is stored under a namespace and the identity value of the device. -/
namespace GridFleet.HealthDebounce
open List
open Decision (DatetimeText)
open Readiness (truthy)
open StateProjection (Json.field)

inductive Namespace where
 | connectivity | ipPing | probeFailed
 deriving DecidableEq

abbrev Store:=Dict (Namespace×String) Json

structure DebounceWindows where
 ipPing:ℕ
 probeFailed:ℕ

/-- A value that is no text, such as the integer of an old counter, is no timestamp. -/
def parseIso (text:DatetimeText):Option Json→Option Instant
 | some (.str raw)=>text.fromisoformat raw
 | _=>none

def flag (entry:Json)(key:String):Bool:=(Json.field entry key).any truthy
def isDict:Json→Bool
 | .obj _=>true
 | _=>false
def ipPingCheckId:String:= "ip_ping"
def rawChecks (result:Json):List Json:=
 match Json.field result "checks" with
 | some (.arr items)=>items
 | _=>[]

/-- The last ip_ping entry counts; none of them stays among the others. -/
def splitIpPing (checks:List Json):Option Json×List Json:=
 checks.foldl
  (fun split entry=>
   if isDict entry&&decide (Json.field entry "check_id" = some (.str ipPingCheckId)) then (some entry,split.2)
   else (split.1,split.2++[entry]))
  (none,[])

section
variable (result:Json)

def ipPingEntry:Option Json:=(splitIpPing (rawChecks result)).1
def otherChecks:List Json:=(splitIpPing (rawChecks result)).2
def othersOk:Bool:=
 if (rawChecks result).isEmpty then (Json.field result "healthy").all truthy
 else ((otherChecks result).filter isDict).all (flag · "ok")
def failingOthers:List Json:=(otherChecks result).filter fun c=>isDict c&&!flag c "ok"
def allDebounced:Bool:=!(failingOthers result).isEmpty&&(failingOthers result).all (flag · "debounce")
end

section
variable (text:DatetimeText)(identity:String)

/-- Whether the failure is still suppressed, with the store after it. -/
def applyFailureDebounce (name:Namespace)(ok:Bool)(windowSec:ℕ)(observedAt:Instant)(store:Store):
 Bool×Store:=
 if ok then (true,store.pop (name,identity))
 else match parseIso text (store.get (name,identity)) with
  | some failingSince=>(decide (observedAt<failingSince+windowSec*1000000),store)
  | none=>(decide (observedAt<observedAt+windowSec*1000000),
    store.set (name,identity) (.str (text.isoformat observedAt)))

structure Evaluated where
 healthy:Bool
 ipPingEntry:Option Json
 store:Store

variable (windows:DebounceWindows)(inMaintenance:Bool)(result:Json)(observedAt:Instant)

/-- Only a result whose other checks pass touches the ip_ping stamp. -/
def gateIpPing (store:Store):Bool×Store:=
 match ipPingEntry result with
 | some entry=>
  if othersOk result&&!inMaintenance then
   applyFailureDebounce text identity .ipPing (flag entry "ok") windows.ipPing observedAt store
  else (true,store)
 | none=>(true,store)

/-- Only a result that lists checks touches the stamp of the other checks. -/
def gateOthers (store:Store):Bool×Store:=
 if (rawChecks result).isEmpty||inMaintenance then (othersOk result,store)
 else if othersOk result then
  (true,(applyFailureDebounce text identity .probeFailed true windows.probeFailed observedAt store).2)
 else if allDebounced result then
  applyFailureDebounce text identity .probeFailed false windows.probeFailed observedAt store
 else (false,store)

def evaluateHealthResult (store:Store):Evaluated:=
 let ping:=gateIpPing text identity windows inMaintenance result observedAt store
 let others:=gateOthers text identity windows inMaintenance result observedAt ping.2
 ⟨others.1&&ping.1,ipPingEntry result,others.2⟩
end

structure Fold where
 windows:DebounceWindows
 result:Json
 observedAt:Instant

section
variable (text:DatetimeText)(identity:String)

def evaluate (store:Store)(fold:Fold):Evaluated:=
 evaluateHealthResult text identity fold.windows false fold.result fold.observedAt store
def step (store:Store)(fold:Fold):Option Store:=some (evaluate text identity store fold).store
end

inductive CheckClass where
 | ipPing | debounced

namespace CheckClass

def name:CheckClass→Namespace
 | ipPing=>.ipPing
 | debounced=>.probeFailed
def windowSec (windows:DebounceWindows):CheckClass→ℕ
 | ipPing=>windows.ipPing
 | debounced=>windows.probeFailed
def fails (result:Json):CheckClass→Bool
 | ipPing=>(ipPingEntry result).any fun entry=>!flag entry "ok"
 | debounced=>allDebounced result

/-- The class is reported passing: its entries are listed and none fails, or nothing is listed and the
device is flagged healthy. -/
def passes (result:Json):CheckClass→Bool
 | ipPing=>(ipPingEntry result).any fun entry=>flag entry "ok"
 | debounced=>
  if (rawChecks result).isEmpty then othersOk result
  else ((otherChecks result).any fun c=>flag c "debounce")&&
   (otherChecks result).all fun c=>!flag c "debounce" || flag c "ok"

def onlyEvidence (result:Json):CheckClass→Bool
 | ipPing=>fails result ipPing&&othersOk result
 | debounced=>fails result debounced
def clears (result:Json):CheckClass→Bool
 | ipPing=>passes result ipPing&&othersOk result
 | debounced=>!(rawChecks result).isEmpty&&othersOk result
end CheckClass

def stamp (text:DatetimeText)(identity:String)(c:CheckClass)(store:Store):Option Instant:=
 parseIso text (store.get (c.name,identity))

/-- While the class is stamped, a result that reports it passing lists its checks, and no check other than
ip_ping fails in it. -/
def PassesAlone (text:DatetimeText)(identity:String)(c:CheckClass)(store:Store)(fold:Fold):Prop:=
 (stamp text identity c store).isSome→c.passes fold.result→
  (rawChecks fold.result).isEmpty=false∧othersOk fold.result

section
variable {text:DatetimeText}{identity:String}{c:CheckClass}{result:Json}

@[simp] lemma parseIso_none:parseIso text none=none:=rfl
@[simp] lemma parseIso_isoformat (t:Instant):parseIso text (some (.str (text.isoformat t)))=some t:=
 text.fromisoformat_isoformat t
lemma allDebounced_eq_true_iff:allDebounced result↔
 failingOthers result≠[]∧∀entry∈failingOthers result,flag entry "debounce" :=by
 simp[allDebounced]
lemma mem_failingOthers {entry:Json}:entry∈failingOthers result↔
 entry∈otherChecks result∧isDict entry∧flag entry "ok" = false:=by
 simp[failingOthers]
lemma allDebounced_not_ok (h:allDebounced result):
 (rawChecks result).isEmpty=false∧othersOk result=false:=by
 obtain ⟨hne,-⟩:=allDebounced_eq_true_iff.mp h
 obtain ⟨entry,hentry⟩:=exists_mem_of_ne_nil _ hne
 obtain ⟨hmem,hdict,hok⟩:=mem_failingOthers.mp hentry
 have hraw:(rawChecks result).isEmpty=false:=by
  cases hraw:rawChecks result with
  | nil=>
   rw[otherChecks,hraw] at hmem
   cases hmem
  | cons=>rfl
 refine ⟨hraw,?_⟩
 rw[othersOk,hraw,if_neg Bool.false_ne_true,all_eq_false]
 exact ⟨entry,mem_filter.mpr ⟨hmem,hdict⟩,by simp[hok]⟩
lemma passes_eq_false_of_fails (h:c.fails result):c.passes result=false:=by
 cases c with
 | ipPing=>
  unfold CheckClass.fails at h
  unfold CheckClass.passes
  cases hentry:ipPingEntry result with
  | none=>rfl
  | some=>simpa[hentry] using h
 | debounced=>
  obtain ⟨hne,hall⟩:=allDebounced_eq_true_iff.mp h
  obtain ⟨entry,hentry⟩:=exists_mem_of_ne_nil _ hne
  obtain ⟨hmem,-,hok⟩:=mem_failingOthers.mp hentry
  have hraw:=(allDebounced_not_ok h).1
  have hfailing:((otherChecks result).all fun c=>!flag c "debounce" || flag c "ok")=false:=
   all_eq_false.mpr ⟨entry,hmem,by simp[hall entry hentry,hok]⟩
  simp[CheckClass.passes,hraw,hfailing]
lemma CheckClass.fails_of_onlyEvidence (h:c.onlyEvidence result):c.fails result:=by
 cases c with
 | ipPing=>exact (Bool.and_eq_true_iff.mp h).1
 | debounced=>exact h

variable {name:Namespace}

lemma applyFailureDebounce_get_of_ne {other:Namespace}(hne:other≠name)(key:String)(ok:Bool)
 (windowSec:ℕ)(observedAt:Instant)(store:Store):
 (applyFailureDebounce text identity name ok windowSec observedAt store).2.get (other,key) =
  store.get (other,key):=by
 have hkey:(other,key)≠(name,identity):=fun h=>hne (Prod.mk.inj h).1
 unfold applyFailureDebounce
 cases ok with
 | true=>exact Dict.get_pop_of_ne _ hkey
 | false=>
  rw[if_neg Bool.false_ne_true]
  split
  · rfl
  · exact Dict.get_set_of_ne _ _ hkey
lemma applyFailureDebounce_fail (windowSec:ℕ){observedAt:Instant}{store:Store}{since:Instant}
 (hsince:(parseIso text (store.get (name,identity))).getD observedAt=since):
 (applyFailureDebounce text identity name false windowSec observedAt store).1 =
   decide (observedAt<since+windowSec*1000000)∧
  parseIso text ((applyFailureDebounce text identity name false windowSec observedAt store).2.get
   (name,identity))=some since:=by
 unfold applyFailureDebounce
 rw[if_neg Bool.false_ne_true]
 cases hstamp:parseIso text (store.get (name,identity)) with
 | none=>
  rw[hstamp] at hsince
  subst hsince
  exact ⟨rfl,by simp⟩
 | some=>
  rw[hstamp] at hsince
  subst hsince
  exact ⟨rfl,hstamp⟩
lemma applyFailureDebounce_ok {windowSec:ℕ}{observedAt:Instant}{store:Store}:
 (applyFailureDebounce text identity name true windowSec observedAt store).1∧
  (applyFailureDebounce text identity name true windowSec observedAt store).2.get (name,identity)=none:=
 ⟨rfl,Dict.get_pop_self _ _⟩
end

section
variable {text:DatetimeText}{identity:String}{c:CheckClass}{store:Store}{fold:Fold}

lemma gateOthers_get_ipPing (text:DatetimeText)(identity:String)(windows:DebounceWindows)(inMaintenance:Bool)(result:Json)
 (observedAt:Instant)(store:Store)(key:String):
 (gateOthers text identity windows inMaintenance result observedAt store).2.get (.ipPing,key) =
  store.get (.ipPing,key):=by
 unfold gateOthers
 split
 · rfl
 · split
   · exact applyFailureDebounce_get_of_ne (by decide) _ _ _ _ _
   · split
     · exact applyFailureDebounce_get_of_ne (by decide) _ _ _ _ _
     · rfl
lemma gateIpPing_get_probeFailed (text:DatetimeText)(identity:String)(windows:DebounceWindows)(inMaintenance:Bool)(result:Json)
 (observedAt:Instant)(store:Store)(key:String):
 (gateIpPing text identity windows inMaintenance result observedAt store).2.get (.probeFailed,key) =
  store.get (.probeFailed,key):=by
 unfold gateIpPing
 split
 · split
   · exact applyFailureDebounce_get_of_ne (by decide) _ _ _ _ _
   · rfl
 · rfl

lemma stamp_evaluate:stamp text identity c (evaluate text identity store fold).store =
 if c.clears fold.result then none
 else if c.onlyEvidence fold.result then some ((stamp text identity c store).getD fold.observedAt)
 else stamp text identity c store:=by
 cases c with
 | ipPing=>
  have hgate:stamp text identity .ipPing (evaluate text identity store fold).store =
    stamp text identity .ipPing
     (gateIpPing text identity fold.windows false fold.result fold.observedAt store).2:=
   congrArg (parseIso text) (gateOthers_get_ipPing _ _ _ _ _ _ _ _)
  rw[hgate]
  unfold gateIpPing CheckClass.clears CheckClass.onlyEvidence CheckClass.fails CheckClass.passes
  cases hentry:ipPingEntry fold.result with
  | none=>simp
  | some entry=>
   cases hothers:othersOk fold.result with
   | false=>simp
   | true=>
    cases hok:flag entry "ok" with
    | true=>simp[stamp,CheckClass.name,applyFailureDebounce_ok,hok]
    | false=>
     have hkept:=(applyFailureDebounce_fail fold.windows.ipPing
      (rfl:(parseIso text (store.get (.ipPing,identity))).getD fold.observedAt=_)).2
     simpa[stamp,CheckClass.name,hok] using hkept
 | debounced=>
  have hping:=congrArg (parseIso text) (gateIpPing_get_probeFailed text identity
   fold.windows false fold.result fold.observedAt store identity)
  unfold evaluate evaluateHealthResult
  dsimp only
  unfold gateOthers CheckClass.clears CheckClass.onlyEvidence CheckClass.fails
  cases hraw:(rawChecks fold.result).isEmpty with
  | true=>
   have hnot:allDebounced fold.result=false:=by
    by_contra h
    rw[(allDebounced_not_ok (by simpa using h)).1] at hraw
    cases hraw
   simpa[hnot,stamp,CheckClass.name] using hping
  | false=>
   cases hothers:othersOk fold.result with
   | true=>simp[stamp,CheckClass.name,applyFailureDebounce_ok]
   | false=>
    cases hall:allDebounced fold.result with
    | false=>simpa[stamp,CheckClass.name] using hping
    | true=>
     have hkept:=(applyFailureDebounce_fail fold.windows.probeFailed
      (congrArg (fun t=>t.getD fold.observedAt) hping)).2
     simpa[stamp,CheckClass.name] using hkept

lemma window_of_unhealthy (hverdict:(evaluate text identity store fold).healthy=false)
 (honly:c.onlyEvidence fold.result):
 (stamp text identity c store).getD fold.observedAt+c.windowSec fold.windows*1000000≤fold.observedAt:=by
 unfold evaluate evaluateHealthResult at hverdict
 dsimp only at hverdict
 cases c with
 | ipPing=>
  obtain ⟨hfails,hothers⟩:=Bool.and_eq_true_iff.mp honly
  have hgate:(gateOthers text identity fold.windows false fold.result fold.observedAt
    (gateIpPing text identity fold.windows false fold.result fold.observedAt store).2).1:=by
   unfold gateOthers
   rw[hothers]
   split <;> rfl
  rw[hgate,Bool.true_and] at hverdict
  unfold gateIpPing at hverdict
  cases hentry:ipPingEntry fold.result with
  | none=>simp[CheckClass.fails,hentry] at hfails
  | some entry=>
   have hok:flag entry "ok" = false:=by simpa[CheckClass.fails,hentry] using hfails
   have hpaced:=(applyFailureDebounce_fail fold.windows.ipPing
    (rfl:(parseIso text (store.get (.ipPing,identity))).getD fold.observedAt=_)).1
   simp only[hentry,hothers,hok,Bool.not_false,Bool.and_self,if_true] at hverdict
   rw[hpaced,decide_eq_false_iff_not,not_lt] at hverdict
   exact hverdict
 | debounced=>
  obtain ⟨hraw,hothers⟩:=allDebounced_not_ok honly
  have hall:allDebounced fold.result:=honly
  have hping:gateIpPing text identity fold.windows false fold.result fold.observedAt store=(true,store):=by
   unfold gateIpPing
   cases ipPingEntry fold.result <;> simp[hothers]
  have hpaced:=(applyFailureDebounce_fail fold.windows.probeFailed
   (rfl:(parseIso text (store.get (.probeFailed,identity))).getD fold.observedAt=_)).1
  rw[hping] at hverdict
  simp only[gateOthers,hraw,hothers,hall,Bool.or_self,Bool.false_eq_true,if_false,if_true,
   Bool.and_true] at hverdict
  rw[hpaced,decide_eq_false_iff_not,not_lt] at hverdict
  exact hverdict
end

section
variable {text:DatetimeText}{identity:String}{c:CheckClass}{store store':Store}

/-- The failing observation at `since`, with no observation after it that reports the class passing. -/
def FailingSince (c:CheckClass)(since:Instant)(folds:List Fold):Prop:=
 ∃earlier first later,folds=earlier++first::later∧first.observedAt=since∧
  c.fails first.result∧∀fold∈later,c.passes fold.result=false

variable {folds:List Fold}

variable {fold:Fold}

lemma failingSince_append {since:Instant}(h:FailingSince c since folds)
 (hfold:c.passes fold.result=false):FailingSince c since (folds++[fold]):=by
 obtain ⟨earlier,first,later,rfl,hat,hfails,hlater⟩:=h
 refine ⟨earlier,first,later++[fold],by simp,hat,hfails,?_⟩
 intro other hother
 rcases mem_append.mp hother with hmem|hlast
 · exact hlater other hmem
 · rw[mem_singleton.mp hlast]
   exact hfold
lemma failingSince_last (folds:List Fold)(hfails:c.fails fold.result):
 FailingSince c fold.observedAt (folds++[fold]):=
 ⟨folds,fold,[],rfl,rfl,hfails,fun _ h=>absurd h not_mem_nil⟩
lemma failingSince_getD
 (hstamp:∀since,stamp text identity c store=some since→FailingSince c since folds)
 (hfails:c.fails fold.result):
 FailingSince c ((stamp text identity c store).getD fold.observedAt) (folds++[fold]):=by
 cases hcurrent:stamp text identity c store with
 | none=>exact failingSince_last folds hfails
 | some since=>exact failingSince_append (hstamp since hcurrent) (passes_eq_false_of_fails hfails)
lemma clears_of_passes (hpasses:c.passes fold.result)
 (halone:(rawChecks fold.result).isEmpty=false∧othersOk fold.result):c.clears fold.result:=by
 cases c with
 | ipPing=>exact Bool.and_eq_true_iff.mpr ⟨hpasses,halone.2⟩
 | debounced=>simp[CheckClass.clears,halone.1,halone.2]
lemma stamped_step (hguard:PassesAlone text identity c store fold)
 (hstamp:∀since,stamp text identity c store=some since→FailingSince c since folds)
 (since:Instant)(hafter:stamp text identity c (evaluate text identity store fold).store=some since):
 FailingSince c since (folds++[fold]):=by
 rw[stamp_evaluate] at hafter
 split at hafter
 · cases hafter
 · rename_i hkept
   split at hafter
   · rename_i honly
     rw[←Option.some.inj hafter]
     exact failingSince_getD hstamp (CheckClass.fails_of_onlyEvidence honly)
   · refine failingSince_append (hstamp since hafter) ?_
     -- a passing result would have cleared the stamp
     by_contra hpasses
     rw[Bool.not_eq_false] at hpasses
     exact hkept (clears_of_passes hpasses (hguard (by simp[hafter]) hpasses))

/-- A debounced verdict comes after a full failing window. -/
theorem unhealthy_after_failing_window (text:DatetimeText) (identity:String) (c:CheckClass) (store:Store)
 (hfresh:stamp text identity c store=none) (folds:List Fold) (last:Fold)
 (hguard:Interleaving.Guarded (PassesAlone text identity c) (step text identity) store folds)
 (hrun:Interleaving.run (step text identity) store folds=some store')
 (hverdict:(evaluate text identity store' last).healthy=false)
 (honly:c.onlyEvidence last.result=true):
 ∃earlier first later,folds++[last]=earlier++first::later∧c.fails first.result=true∧
  first.observedAt+c.windowSec last.windows*1000000≤last.observedAt∧
  ∀fold∈later,c.passes fold.result=false:=by
 have hstamped:∀since,stamp text identity c store'=some since→FailingSince c since folds:=by
  refine Interleaving.run_invariant_history
   (fun seen s=>∀since,stamp text identity c s=some since→FailingSince c since seen)
   ?_ ?_ hguard hrun
  · intro seen s fold u hseen hfold hstep
    cases hstep
    exact stamped_step hfold hseen
  · intro since hsince
    rw[hfresh] at hsince
    cases hsince
 have hwindow:=window_of_unhealthy hverdict honly
 obtain ⟨earlier,first,later,hsplit,hat,hfails,hlater⟩:=
  failingSince_getD hstamped (CheckClass.fails_of_onlyEvidence honly)
 exact ⟨earlier,first,later,hsplit,hfails,hat ▸ hwindow,hlater⟩
end

def check (id:String)(ok debounce:Bool):Json:=
 .obj [("check_id",.str id),("ok",.bool ok),("debounce",.bool debounce)]
def checksAt (observedAt:Instant)(checks:List Json):Fold:=
 ⟨⟨60,120⟩,.obj [("checks",.arr checks)],observedAt⟩

/-- Ten seconds after the first blip the ping answers, while another check fails. -/
def pingBlips:List Fold:=
 [checksAt 1 [check "ip_ping" false false,check "adb" true false],
  checksAt 10000000 [check "ip_ping" true false,check "adb" false false]]

def secondBlip:Fold:=checksAt 70000000 [check "ip_ping" false false,check "adb" true false]

theorem second_ping_blip_unhealthy:∃store,Interleaving.run
  (step IntentReconciler.tallyText "10.0.0.5:5555") .empty pingBlips=some store∧
 (evaluate IntentReconciler.tallyText "10.0.0.5:5555" store secondBlip).healthy=false∧
 CheckClass.ipPing.onlyEvidence secondBlip.result=true∧
 ¬∃earlier first later,pingBlips++[secondBlip]=earlier++first::later∧
  CheckClass.ipPing.fails first.result=true∧
  first.observedAt+CheckClass.ipPing.windowSec secondBlip.windows*1000000 ≤ secondBlip.observedAt∧
  ∀fold∈later,CheckClass.ipPing.passes fold.result=false:=by
 refine ⟨_,rfl,by decide,by decide,?_⟩
 rintro ⟨earlier,first,later,hsplit,hfails,hwindow,hlater⟩
 rcases earlier with _|⟨_,_|⟨_,_|⟨_,rest⟩⟩⟩
 · cases hsplit
   exact absurd (hlater _ mem_cons_self) (by decide)
 · cases hsplit
   exact absurd hfails (by decide)
 · cases hsplit
   exact absurd hwindow (by decide)
 · have hlength:=congrArg List.length hsplit
   simp[pingBlips] at hlength

theorem steady_ping_failure_unhealthy:∃earlier first later,
 [checksAt 1 [check "ip_ping" false false]]++[checksAt 60000001 [check "ip_ping" false false]] =
   earlier++first::later∧
  CheckClass.ipPing.fails first.result=true∧first.observedAt+60*1000000≤60000001∧
  ∀fold∈later,CheckClass.ipPing.passes fold.result=false:=
 unhealthy_after_failing_window IntentReconciler.tallyText "10.0.0.5:5555" .ipPing .empty rfl
  [checksAt 1 [check "ip_ping" false false]] (checksAt 60000001 [check "ip_ping" false false])
  ⟨fun h=>absurd h (by decide),fun _ _=>trivial⟩ rfl (by decide) (by decide)
end GridFleet.HealthDebounce
