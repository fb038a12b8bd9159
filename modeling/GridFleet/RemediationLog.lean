import GridFleet.FleetRows
import Mathlib.Data.List.Sort
namespace GridFleet.RemediationLog

inductive EntryKind where
 | attempt | failure | reset | action
 deriving DecidableEq

structure Entry where
 id:RowId
 deviceId:DeviceId
 kind:EntryKind
 source:String
 action:String
 reason:Option String
 backoffUntil:Option Instant
 at_:Instant

inductive DirectiveKind where
 | stop | start
 deriving DecidableEq

def actionAutoStopCommissioned:String:= "auto_stop_commissioned"
def actionRestartCommissioned:String:= "restart_commissioned"
def actionRecoveryStarted:String:= "recovery_started"
def actionAutoStopDeferred:String:= "auto_stop_deferred"
def actionAutoStopped:String:= "auto_stopped"
def actionAutoStopCleared:String:= "auto_stop_cleared"
def directiveByAction (action:String):Option DirectiveKind:=
 if action=actionAutoStopCommissioned then some .stop
 else if action=actionRestartCommissioned∨action=actionRecoveryStarted then some .start
 else none
def deferredLifecycleActions:List String:=
 [actionAutoStopDeferred,actionAutoStopped,actionAutoStopCleared]

structure NodeDirective where
 kind:DirectiveKind
 reason:Option String
 restartWatermark:Option Instant

structure LadderState where
 attempts:ℕ
 backoffUntil:Option Instant
 lastFailureSource:Option String
 lastFailureReason:Option String
 lastAction:Option String
 lastActionAt:Option Instant
 nodeDirective:Option NodeDirective
 deferredStopPending:Bool
 deferredStopReason:Option String
 deferredStopSince:Option Instant
 lastRestartAt:Option Instant

def emptyLadder:LadderState:=
 ⟨0,none,none,none,none,none,none,false,none,none,none⟩

/-- Log order: by time, ties by id. -/
def Entry.Le (a b:Entry):Prop:=a.at_<b.at_∨(a.at_=b.at_∧a.id≤b.id)

instance:DecidableRel Entry.Le:=fun a b=>
 inferInstanceAs (Decidable (a.at_<b.at_∨(a.at_=b.at_∧a.id≤b.id)))

/-- The entries since the last reset, oldest first. -/
def window (ordered:List Entry):List Entry:=
 ordered.foldl (fun acc entry=>if entry.kind=.reset then [] else acc++[entry]) []

def nodeDirectiveOf (directiveRows:List Entry)(lastRestartAt:Option Instant):
 Option NodeDirective:=do
 let newest ←directiveRows.getLast?
 let kind ←directiveByAction newest.action
 return ⟨kind,newest.reason,if kind=.start then lastRestartAt else none⟩

def deriveLadder (entries:List Entry):LadderState:=
 let ordered:=entries.insertionSort Entry.Le
 match ordered.getLast? with
 | none=>emptyLadder
 | some last=>
  let window:=window ordered
  let attempts:=window.filter fun e=>e.kind=.attempt
  let failures:=window.filter fun e=>e.kind=.attempt∨e.kind=.failure
  let directiveRows:=window.filter fun e=>(directiveByAction e.action).isSome
  let restarts:=directiveRows.filter fun e=>e.action=actionRestartCommissioned
  let lastRestartAt:=restarts.getLast?.map Entry.at_
  let deferredRows:=window.filter fun e=>e.action∈deferredLifecycleActions
  let deferredRow:=deferredRows.getLast?.filter fun e=>e.action=actionAutoStopDeferred
  { attempts:=attempts.length
    backoffUntil:=attempts.getLast?.bind Entry.backoffUntil
    lastFailureSource:=failures.getLast?.map Entry.source
    lastFailureReason:=failures.getLast?.bind Entry.reason
    lastAction:=some last.action
    lastActionAt:=some last.at_
    nodeDirective:=nodeDirectiveOf directiveRows lastRestartAt
    deferredStopPending:=deferredRow.isSome
    deferredStopReason:=deferredRow.bind Entry.reason
    deferredStopSince:=deferredRow.map Entry.at_
    lastRestartAt:=lastRestartAt }

def ladderEntries (log:List Entry)(deviceId:DeviceId):List Entry:=
 let own:=(log.filter fun e=>e.deviceId=deviceId).insertionSort Entry.Le
 match (own.filter fun e=>e.kind=.reset).getLast? with
 | none=>own
 | some reset=>own.filter fun e=>Entry.Le reset e
end GridFleet.RemediationLog
