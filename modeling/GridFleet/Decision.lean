import GridFleet.RemediationLog
namespace GridFleet.Decision
open RemediationLog

/-- How instants are written into JSON payloads. A text without an offset, a time that Python refuses to
compare with an aware one, is not told apart. -/
structure DatetimeText where
 isoformat:Instant→String
 fromisoformat:String→Option Instant
 fromisoformat_isoformat:∀t,fromisoformat (isoformat t)=some t

structure Command where
 kind:CommandKind
 source:String
 runId:Option RunId
 restartRequestedAt:Option Instant
 reasonDetail:Option String

structure DecisionFacts where
 inMaintenance:Bool
 deviceChecksUnhealthy:Bool
 inService:Bool
 reservationRunId:Option RunId
 cooldownActive:Bool
 cooldownReason:Option String
 remediationDirective:Option NodeDirective

inductive NodeProcessState where
 | running | runningDraining | runningBlocked | stoppingGraceful | stopped
 deriving DecidableEq

inductive StopMode where
 | hard | graceful | defer
 deriving DecidableEq

structure NodeProcessDecision where
 desiredState:NodeProcessState
 stopMode:Option StopMode
 reason:String
 restartRequestedAt:Option Instant

structure GridRoutingDecision where
 runId:Option RunId
 acceptingNewSessions:Bool
 reason:String

/-- `payload.get(key)`, where JSON null reads as a missing key. -/
def payloadGet (payload:JsonObject)(key:String):Option Json:=
 (payload.get key).filter (· ≠ .null)

def textOf:Option Json→Option String
 | some (.str text)=>some text
 | _=>none

section
variable (text:DatetimeText)

def optionalDatetime (value:Option Json):Option Instant:=(textOf value).bind text.fromisoformat

/-- Expired rows, finalized leases and rows of an unknown kind are no commands. -/
def parseCommand (row:DeviceIntent)(now:Instant):Option Command:=
 if row.expiresAt.any (· ≤ now) then none
 else if (payloadGet row.payload verificationOutcomeKey).isSome then none
 else (CommandKind.ofValue row.kind).map fun kind=>
  { kind:=kind
    source:=row.source
    runId:=row.runId
    restartRequestedAt:=optionalDatetime text (payloadGet row.payload "restart_requested_at")
    reasonDetail:=textOf (payloadGet row.payload "reason") }
end

def exclusionKindCooldown:String:= "cooldown"
def exclusionKindExclusion:String:= "exclusion"

def reservationDecisionAxes (runId:Option RunId)(exclusionKind exclusionReason:Option String)
 (excludedUntil:Option Instant)(now:Instant):Option RunId×Bool×Option String:=
 if runId=none∨exclusionKind=some exclusionKindExclusion then (none,false,none)
 else
  let cooldownActive:=
   decide (exclusionKind=some exclusionKindCooldown)&&excludedUntil.any (now < ·)
  (runId,cooldownActive,if cooldownActive then exclusionReason else none)

def isStart (c:Command):Bool:=c.kind=.operatorStart||c.kind=.verificationStart

/-- Order of `(restart_requested_at is not None, restart_requested_at, source)`. -/
def startBefore (a b:Command):Bool:=
 match a.restartRequestedAt,b.restartRequestedAt with
 | none,some _=>true
 | some _,none=>false
 | none,none=>a.source<b.source
 | some s,some t=>s<t||(s=t&&a.source<b.source)

def newestStart:List Command→Option Command
 | []=>none
 | c::rest=>some (rest.foldl (fun best d=>if startBefore best d then d else best) c)
def orText (text:Option String)(otherwise:String):String:=
 match text with
 | none | some "" =>otherwise
 | some t=>t
def commandReason (commands:List Command)(kind:CommandKind):String:=
 (((commands.find? fun c=>c.kind=kind).map Command.source).getD "") ++ " command"
def remediationStart (facts:DecisionFacts):Bool:=
 facts.remediationDirective.any fun d=>d.kind=.start&&facts.inService

def startDecision (starts:List Command)(facts:DecisionFacts):NodeProcessDecision:=
 let watermarks:=starts.filterMap Command.restartRequestedAt ++
  if remediationStart facts then (facts.remediationDirective.bind (·.restartWatermark)).toList
  else []
 { desiredState:=.running
   stopMode:=none
   reason:=match newestStart starts with
    | some winner=>winner.source ++ " command"
    | none=> "remediation recovery start"
   restartRequestedAt:=watermarks.max? }

def decideNodeProcess (commands:List Command)(facts:DecisionFacts):NodeProcessDecision:=
 if commands.any fun c=>c.kind=.operatorStop then
  ⟨.stopped,some .hard,commandReason commands .operatorStop,none⟩
 else if commands.any fun c=>c.kind=.forcedRelease then
  ⟨.stopped,some .hard,commandReason commands .forcedRelease,none⟩
 else if facts.inMaintenance then ⟨.stoppingGraceful,some .graceful, "maintenance hold",none⟩
 else
  let starts:=commands.filter isStart
  let started:=!starts.isEmpty||remediationStart facts
  match facts.remediationDirective.filter fun d=>d.kind=.stop&&!started with
  | some directive=>
   ⟨.stoppingGraceful,some .graceful,orText directive.reason "remediation auto-stop",none⟩
  | none=>
   if facts.deviceChecksUnhealthy&&!started then
    ⟨.runningBlocked,some .defer, "connectivity park",none⟩
   else if started then startDecision starts facts
   else if facts.inService then
    match commands.find? fun c=>c.kind=.releaseRollout with
    | some rollout=>
     ⟨.runningDraining,none,rollout.source ++ " release rollout",rollout.restartRequestedAt⟩
    | none=>⟨.running,none, "baseline:idle standing start",none⟩
   else ⟨.stopped,none, "no active node_process command",none⟩

def decideGridRouting (facts:DecisionFacts):GridRoutingDecision:=
 match facts.reservationRunId with
 | none=>⟨none,true, "no reservation routing"⟩
 | some runId=>
  if facts.cooldownActive then ⟨some runId,false, "reservation cooldown"⟩
  else ⟨some runId,true, "run routing"⟩

/-- Desired state, whether the node takes new sessions, whether a stop is pending. -/
def mapNodeProcessDecision (decision:NodeProcessDecision):DesiredState×Bool×Bool:=
 match decision.desiredState with
 | .running=>(.running,true,false)
 | .runningDraining=>(.running,false,false)
 | .runningBlocked=>(.running,false,true)
 | .stoppingGraceful=>(.stopped,false,true)
 | .stopped=>(.stopped,false,false)

inductive Rung (commands:List Command)(facts:DecisionFacts):NodeProcessDecision→Prop
 | hardStop (c:Command)(hmem:c∈commands)
   (hkind:c.kind=.operatorStop∨c.kind=.forcedRelease)(reason:String):
   Rung commands facts ⟨.stopped,some .hard,reason,none⟩
 | gracefulStop (reason:String):
   Rung commands facts ⟨.stoppingGraceful,some .graceful,reason,none⟩
 | connectivityPark:Rung commands facts ⟨.runningBlocked,some .defer, "connectivity park",none⟩
 | start:Rung commands facts (startDecision (commands.filter isStart) facts)
 | rollout (c:Command)(hfind:(commands.find? fun c=>c.kind=.releaseRollout)=some c):
   Rung commands facts
    ⟨.runningDraining,none,c.source ++ " release rollout",c.restartRequestedAt⟩
 | baseline:Rung commands facts ⟨.running,none, "baseline:idle standing start",none⟩
 | withdrawn:Rung commands facts ⟨.stopped,none, "no active node_process command",none⟩

lemma rung_decideNodeProcess (commands:List Command)(facts:DecisionFacts):
 Rung commands facts (decideNodeProcess commands facts):=by
 unfold decideNodeProcess
 split
 · rename_i hstop
   obtain ⟨c,hmem,hkind⟩:=List.any_eq_true.mp hstop
   exact .hardStop c hmem (.inl (of_decide_eq_true hkind)) _
 split
 · rename_i hrelease
   obtain ⟨c,hmem,hkind⟩:=List.any_eq_true.mp hrelease
   exact .hardStop c hmem (.inr (of_decide_eq_true hkind)) _
 split
 · exact .gracefulStop _
 dsimp only
 split
 · exact .gracefulStop _
 split
 · exact .connectivityPark
 split
 · exact .start
 split
 · split
   · rename_i c hfind
     exact .rollout c hfind
   · exact .baseline
 · exact .withdrawn
end GridFleet.Decision
