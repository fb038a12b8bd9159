import GridFleet.DecisionSnapshot
namespace GridFleet.IntentReconciler
open Decision DecisionSnapshot StateProjection List Option

inductive NodeEvent where
 | desiredState (old new:DesiredState)(desiredPort:Option ℕ)
   (restartRequestedAt:Option Instant)(reason:String)
 | desiredGridRunId (old new:Option RunId)(reason:String)
 | field (name:String)(old new:Bool)(reason:String)

structure DesiredStateWrite where
 target:DesiredState
 desiredPort:Option ℕ
 restartRequestedAt:Option Instant
 reason:String

inductive WriteError where
 | valueError (message:String)

def writeDesiredState (node:AppiumNode)(write:DesiredStateWrite):
 Except WriteError (AppiumNode×List NodeEvent):=
 if write.target=.stopped∧write.desiredPort≠none then
  .error (.valueError "desired_port must be None when target=stopped")
 else
  let newPort:=if write.target=.stopped then none else write.desiredPort
  let newRestart:=if write.target=.stopped then none else write.restartRequestedAt
  if node.desiredState=write.target∧node.restartRequestedAt=newRestart∧
    node.desiredPort=newPort then
   .ok (node,[])
  else
   .ok ({ node with
       desiredState:=write.target
       desiredPort:=newPort
       restartRequestedAt:=newRestart },
    [.desiredState node.desiredState write.target newPort write.restartRequestedAt write.reason])

def writeDesiredGridRunId (node:AppiumNode)(runId:Option RunId)(reason:String):
 AppiumNode×List NodeEvent:=
 if node.desiredGridRunId=runId then (node,[])
 else ({node with desiredGridRunId:=runId},
  [.desiredGridRunId node.desiredGridRunId runId reason])

inductive Severity where
 | warning | success | info

def transitionSeverity (old new:OperationalState):Severity:=
 if new=.offline then .warning
 else if new=.available∧old ≠ .busy then .success
 else .info

structure OperationalTransition where
 old:OperationalState
 new:OperationalState
 severity:Severity

def applyOperationalStateTransition (lastEmitted derived:OperationalState):
 OperationalState×Option OperationalTransition:=
 if derived=lastEmitted then (lastEmitted,none)
 else (derived,some ⟨lastEmitted,derived,transitionSeverity lastEmitted derived⟩)

inductive IntentWrite where
 | delete (id:RowId)
 | setPayload (id:RowId)(payload:JsonObject)

structure Reconciled where
 node:Option AppiumNode
 intentWrites:List IntentWrite
 events:List NodeEvent
 lastEmitted:OperationalState
 transition:Option OperationalTransition
 changed:Bool

def rolloutRow (stored:List DeviceIntent)(deviceId:DeviceId):Option DeviceIntent:=
 stored.find? fun row=>row.source=releaseRolloutIntentSource deviceId
def targetReleaseKey:String:= "target_release"
def restartRequestedAtKey:String:= "restart_requested_at"
def rolloutTargetRelease (stored:List DeviceIntent)(deviceId:DeviceId):Option String:=
 textOf ((rolloutRow stored deviceId).bind fun row=>payloadGet row.payload targetReleaseKey)

section
variable (text:DatetimeText)

/-- The stamp may be minted: the row is a live command without one, the node still runs another
release, and neither a reservation nor a session holds the device. -/
def stampDue (row:DeviceIntent)(observedPackRelease:Option String)(facts:DecisionFacts)
 (hasLiveSession:Bool)(now:Instant):Bool:=
 (parseCommand text row now).any (fun command=>command.restartRequestedAt.isNone)&&
  (payloadGet row.payload targetReleaseKey).isSome&&observedPackRelease.isSome&&
  decide (observedPackRelease.map Json.str≠payloadGet row.payload targetReleaseKey)&&
  facts.reservationRunId.isNone&&!hasLiveSession

def applyRolloutStamp (deviceId:DeviceId)(observedPackRelease:Option String)
 (stored:List DeviceIntent)(facts:DecisionFacts)(hasLiveSession:Bool)(now:Instant):
 List DeviceIntent×List IntentWrite:=
 match rolloutRow stored deviceId with
 | none=>(stored,[])
 | some row=>
  let targetRelease:=payloadGet row.payload targetReleaseKey
  if targetRelease≠none∧observedPackRelease.map Json.str=targetRelease then
   (stored.filter fun r=>r.id≠row.id,[.delete row.id])
  else if stampDue text row observedPackRelease facts hasLiveSession now then
   let payload:=row.payload.set restartRequestedAtKey (.str (text.isoformat now))
   (stored.map fun r=>if r.id=row.id then {r with payload:=payload} else r,
    [.setPayload row.id payload])
  else (stored,[])

/-- A rollout watermark is checked again when it is written. -/
def validWatermark (decision:NodeProcessDecision)(facts:DecisionFacts)(hasLiveSession:Bool)
 (targetRelease observedPackRelease:Option String):Option Instant:=
 if decision.desiredState=.runningDraining∧
   (hasLiveSession∨facts.reservationRunId≠none∨targetRelease=none∨
    observedPackRelease=targetRelease) then none
 else decision.restartRequestedAt

/-- A stop that is not hard waits for a live session: the node keeps running and drains. -/
def deferStop (decision:NodeProcessDecision)(hasLiveSession:Bool):DesiredState×Bool×Bool:=
 let mapped:=mapNodeProcessDecision decision
 if mapped.1=.stopped∧(decision.stopMode=none∨decision.stopMode=some .graceful)∧
   hasLiveSession then (.running,false,true)
 else mapped

def recordFieldChange (name:String)(old new:Bool)(reason:String):List NodeEvent:=
 if old=new then [] else [.field name old new reason]

def applyReconcileDecisions (node:AppiumNode)(lastEmitted:OperationalState)
 (commands:List Command)(facts:DecisionFacts)(hasLiveSession:Bool)
 (targetRelease observedPackRelease:Option String)(observedPort:Option ℕ)
 (stateFacts:DeviceStateFacts):Except WriteError Reconciled:=do
 let nodeDecision:=decideNodeProcess commands facts
 let gridDecision:=decideGridRouting facts
 let mapped:=deferStop nodeDecision hasLiveSession
 let acceptingNewSessions:=mapped.2.1&&gridDecision.acceptingNewSessions
 let stopPending:=mapped.2.2
 let stated ←writeDesiredState node
  { target:=mapped.1
    desiredPort:=if mapped.1=.running then observedPort else none
    restartRequestedAt:=
     validWatermark nodeDecision facts hasLiveSession targetRelease observedPackRelease
    reason:=nodeDecision.reason }
 let routed:=writeDesiredGridRunId stated.1 gridDecision.runId gridDecision.reason
 let written:=
  {routed.1 with acceptingNewSessions:=acceptingNewSessions,stopPending:=stopPending}
 let emitted:=applyOperationalStateTransition lastEmitted
  (evaluateOperationalState {stateFacts with stopInFlight:=nodeStopRequested written})
 return {
  node:=some written
  intentWrites:=[]
  events:=stated.2++routed.2 ++
   recordFieldChange "accepting_new_sessions" node.acceptingNewSessions acceptingNewSessions
    gridDecision.reason ++
   recordFieldChange "stop_pending" node.stopPending stopPending nodeDecision.reason
  lastEmitted:=emitted.1
  transition:=emitted.2
  changed:=decide (written≠node) }

def settledIntents (deviceId:DeviceId)(snapshot:DeviceDecisionSnapshot)(now:Instant):
 List DeviceIntent×List IntentWrite:=
 applyRolloutStamp text deviceId snapshot.nodeObservedPackRelease snapshot.intents
  snapshot.decisionFacts snapshot.hasLiveSession now
def ladderDecision (deviceId:DeviceId)(snapshot:DeviceDecisionSnapshot)(now:Instant):
 NodeProcessDecision:=
 decideNodeProcess
  ((settledIntents text deviceId snapshot now).1.filterMap fun row=>parseCommand text row now)
  snapshot.decisionFacts

def reconcileLockedDevice (device:Device)(node:Option AppiumNode)
 (snapshot:DeviceDecisionSnapshot)(now:Instant):Except WriteError Reconciled:=
 match node with
 | none=>
  let emitted:=applyOperationalStateTransition device.operationalStateLastEmitted
   (evaluateOperationalState snapshot.stateFacts)
  .ok ⟨none,[],[],emitted.1,emitted.2,false⟩
 | some node=>do
  let settled:=settledIntents text device.id snapshot now
  let commands:=settled.1.filterMap fun row=>parseCommand text row now
  let reconciled ←applyReconcileDecisions node device.operationalStateLastEmitted commands
   snapshot.decisionFacts snapshot.hasLiveSession (rolloutTargetRelease settled.1 device.id)
   snapshot.nodeObservedPackRelease snapshot.nodePort snapshot.stateFacts
  return {reconciled with intentWrites:=settled.2}
end

lemma writeDesiredState_spec (node:AppiumNode)(write:DesiredStateWrite)
 (hport:write.target=.stopped→write.desiredPort=none):
 ∃written events,writeDesiredState node write=.ok (written,events)∧written={ node with
   desiredState:=write.target
   desiredPort:=write.desiredPort
   restartRequestedAt:=if write.target=.stopped then none else write.restartRequestedAt }∧
  (written=node→events=[]):=by
 have hnewPort:(if write.target=.stopped then none else write.desiredPort)=write.desiredPort:=by
  split
  · rename_i hstopped
    exact (hport hstopped).symm
  · rfl
 unfold writeDesiredState
 rw[if_neg fun h=>h.2 (hport h.1)]
 dsimp only
 rw[hnewPort]
 generalize (if write.target=.stopped then none else write.restartRequestedAt)=newRestart
 split
 · rename_i hsame
   obtain ⟨hstate,hrestart,hport⟩:=hsame
   refine ⟨_,_,rfl,?_,fun _=>rfl⟩
   rw[←hstate,←hport,←hrestart]
 · rename_i hdiffers
   refine ⟨_,_,rfl,rfl,fun hsame=>absurd ?_ hdiffers⟩
   rw[←hsame]
   exact ⟨rfl,rfl,rfl⟩

lemma writeDesiredGridRunId_node (node:AppiumNode)(runId:Option RunId)(reason:String):
 (writeDesiredGridRunId node runId reason).1={node with desiredGridRunId:=runId}:=by
 unfold writeDesiredGridRunId
 split
 · rename_i hsame
   rw[←hsame]
 · rfl

section
variable {text:DatetimeText}{deviceId:DeviceId}{observed:Option String}
 {stored:List DeviceIntent}{facts:DecisionFacts}{live:Bool}{now:Instant}

lemma payloadGet_set_of_ne (payload:JsonObject){key other:String}(value:Json)
 (h:key≠other):payloadGet (payload.set other value) key=payloadGet payload key:=by
 unfold payloadGet
 rw[Dict.get_set_of_ne _ _ h]

variable (text deviceId observed stored facts live now) in
inductive Settles:List DeviceIntent×List IntentWrite→Prop
 | absent (hrow:rolloutRow stored deviceId=none):Settles (stored,[])
 | converged (row:DeviceIntent)(hrow:rolloutRow stored deviceId=some row):
   Settles (stored.filter fun r=>r.id≠row.id,[.delete row.id])
 | stamped (row:DeviceIntent)(hrow:rolloutRow stored deviceId=some row)
   (hdue:stampDue text row observed facts live now)(payload:JsonObject)
   (hpayload:payload=row.payload.set restartRequestedAtKey (.str (text.isoformat now))):
   Settles
    (stored.map fun r=>if r.id=row.id then {r with payload:=payload} else r,
     [.setPayload row.id payload])
 | kept (row:DeviceIntent)(hrow:rolloutRow stored deviceId=some row):Settles (stored,[])

lemma settles_applyRolloutStamp:Settles text deviceId observed stored facts live now
  (applyRolloutStamp text deviceId observed stored facts live now):=by
 unfold applyRolloutStamp
 split
 · rename_i hrow
   exact .absent hrow
 · rename_i row hrow
   dsimp only
   split
   · exact .converged row hrow
   · split
     · rename_i hdue
       exact .stamped row hrow hdue _ rfl
     · exact .kept row hrow

/-- Settling the rollout row keeps every other row, and changes no more of the rollout row than its
stamp. -/
lemma mem_applyRolloutStamp (hunique:(stored.map DeviceIntent.id).Nodup){row:DeviceIntent}
 (hmem:row∈(applyRolloutStamp text deviceId observed stored facts live now).1):
 ∃before∈stored,row.source=before.source∧row.kind=before.kind∧row.expiresAt=before.expiresAt∧
  ∀key,key≠restartRequestedAtKey→payloadGet row.payload key=payloadGet before.payload key:=by
 have hsettles:Settles text deviceId observed stored facts live now _:=settles_applyRolloutStamp
 generalize applyRolloutStamp text deviceId observed stored facts live now=settled at hmem hsettles
 cases hsettles with
 | absent | kept=>exact ⟨row,hmem,rfl,rfl,rfl,fun _ _=>rfl⟩
 | converged=>
  exact ⟨row,(mem_filter.mp hmem).1,rfl,rfl,rfl,fun _ _=>rfl⟩
 | stamped rollout hrow _ _ hpayload=>
  obtain ⟨before,hbefore,rfl⟩:=List.mem_map.mp hmem
  refine ⟨before,hbefore,?_⟩
  by_cases hid:before.id=rollout.id
  · have heq:before=rollout:=
     inj_on_of_nodup_map hunique hbefore (mem_of_find?_eq_some hrow) hid
    subst heq
    rw[if_pos rfl,hpayload]
    exact ⟨rfl,rfl,rfl,fun key hkey=>payloadGet_set_of_ne _ _ hkey⟩
  · rw[if_neg hid]
    exact ⟨rfl,rfl,rfl,fun _ _=>rfl⟩
end

lemma parseCommand_eq_some {text:DatetimeText}{row:DeviceIntent}{now:Instant}
 {command:Command}(h:parseCommand text row now=some command):(∀expiry∈row.expiresAt,now<expiry)∧
  payloadGet row.payload verificationOutcomeKey=none∧
  row.kind=command.kind.value∧row.source=command.source∧command.restartRequestedAt =
   optionalDatetime text (payloadGet row.payload restartRequestedAtKey):=by
 unfold parseCommand at h
 split at h
 · cases h
 rename_i hexpiry
 split at h
 · cases h
 rename_i houtcome
 obtain ⟨kind,hkind,rfl⟩:=map_eq_some_iff.mp h
 have hvalue:kind.value=row.kind:=by simpa using find?_some hkind
 refine ⟨?_,by simpa using houtcome,hvalue.symm,rfl,rfl⟩
 intro expiry hmem
 rw[mem_def] at hmem
 simpa[hmem] using hexpiry
lemma restart_of_stampDue {text:DatetimeText}{row:DeviceIntent}{observed:Option String}
 {facts:DecisionFacts}{live:Bool}{now:Instant}(h:stampDue text row observed facts live now):
 optionalDatetime text (payloadGet row.payload restartRequestedAtKey)=none:=by
 unfold stampDue at h
 simp only[Bool.and_eq_true] at h
 have hcommand:=h.1.1.1.1.1
 cases hparse:parseCommand text row now with
 | none=>
  rw[hparse] at hcommand
  cases hcommand
 | some=>
  rw[hparse] at hcommand
  obtain ⟨-,-,-,-,hrestart⟩:=parseCommand_eq_some hparse
  rw[←hrestart]
  simpa using hcommand

def HardStopRow (now:Instant)(row:DeviceIntent):Prop:=
 (∀expiry∈row.expiresAt,now<expiry)∧
  payloadGet row.payload verificationOutcomeKey=none∧
  (row.kind=CommandKind.operatorStop.value∨row.kind=CommandKind.forcedRelease.value)

section
variable {text:DatetimeText}{deviceId:DeviceId}{snapshot:DeviceDecisionSnapshot}
 {now:Instant}

lemma hardStopRow_of_hard (h:(ladderDecision text deviceId snapshot now).stopMode=some .hard):
 ∃row∈snapshot.intents,HardStopRow now row:=by
 have hrung:Rung _ _ (ladderDecision text deviceId snapshot now):=rung_decideNodeProcess _ _
 generalize ladderDecision text deviceId snapshot now=decision at h hrung
 cases hrung with
 | hardStop _ hmem hkind=>
  obtain ⟨row,hrow,hparse⟩:=mem_filterMap.mp hmem
  obtain ⟨before,hbefore,-,hsameKind,hsameExpiry,hsamePayload⟩:=
   mem_applyRolloutStamp snapshot.intents_unique hrow
  obtain ⟨hexpiry,houtcome,hvalue,-⟩:=parseCommand_eq_some hparse
  refine ⟨before,hbefore,?_,?_,?_⟩
  · rw[←hsameExpiry]
    exact hexpiry
  · rw[←hsamePayload _ (by decide)]
    exact houtcome
  · rw[←hsameKind,hvalue]
    exact hkind.imp (congrArg _) (congrArg _)
 | gracefulStop | connectivityPark | start | rollout | baseline | withdrawn=>cases h
lemma row_of_draining (h:(ladderDecision text deviceId snapshot now).desiredState=.runningDraining):
 ∃row∈(settledIntents text deviceId snapshot now).1,row.kind=CommandKind.releaseRollout.value∧
  (ladderDecision text deviceId snapshot now).restartRequestedAt =
   optionalDatetime text (payloadGet row.payload restartRequestedAtKey):=by
 have hrung:Rung _ _ (ladderDecision text deviceId snapshot now):=rung_decideNodeProcess _ _
 generalize ladderDecision text deviceId snapshot now=decision at h hrung
 cases hrung with
 | hardStop | gracefulStop | connectivityPark | start=>cases h
 | rollout c hfind=>
  obtain ⟨row,hmem,hparse⟩:=mem_filterMap.mp (mem_of_find?_eq_some hfind)
  have hkind:c.kind=.releaseRollout:=by simpa using find?_some hfind
  obtain ⟨-,-,hvalue,-,hrestart⟩:=parseCommand_eq_some hparse
  refine ⟨row,hmem,?_,hrestart⟩
  rw[hvalue,hkind]
 | baseline | withdrawn=>cases h

variable {facts:DecisionFacts}

/-- With a live session, the written state is stopped only behind a hard stop. -/
lemma hard_of_deferStop_stopped {commands:List Command}
 (h:(deferStop (decideNodeProcess commands facts) true).1=.stopped):
 (decideNodeProcess commands facts).stopMode=some .hard:=by
 have hrung:=rung_decideNodeProcess commands facts
 generalize decideNodeProcess commands facts=decision at h hrung
 cases hrung with
 | hardStop=>rfl
 | gracefulStop | connectivityPark | start | rollout | baseline | withdrawn=>cases h

lemma deferStop_of_not_hard {commands:List Command}
 (hstop:(mapNodeProcessDecision (decideNodeProcess commands facts)).1=.stopped)
 (hsoft:(decideNodeProcess commands facts).stopMode≠some .hard):
 deferStop (decideNodeProcess commands facts) true=(.running,false,true):=by
 have hrung:=rung_decideNodeProcess commands facts
 generalize decideNodeProcess commands facts=decision at hstop hsoft hrung
 cases hrung with
 | hardStop=>exact absurd rfl hsoft
 | gracefulStop=>rfl
 | connectivityPark | start | rollout | baseline=>cases hstop
 | withdrawn=>rfl
lemma validWatermark_draining {decision:NodeProcessDecision}{live:Bool}
 {target observed:Option String}{t:Instant}(hdraining:decision.desiredState=.runningDraining)
 (h:validWatermark decision facts live target observed=some t):
 live=false∧facts.reservationRunId=none∧(∃release,target=some release)∧
  observed≠target∧decision.restartRequestedAt=some t:=by
 unfold validWatermark at h
 split at h
 · cases h
 rename_i hblocked
 have hgates:¬(live∨facts.reservationRunId≠none∨target=none∨observed=target):=
  fun hor=>hblocked ⟨hdraining,hor⟩
 rw[not_or,not_or,not_or,not_not] at hgates
 obtain ⟨hlive,hreservation,htarget,hobserved⟩:=hgates
 exact ⟨by simpa using hlive,hreservation,ne_none_iff_exists'.mp htarget,hobserved,h⟩

lemma rolloutTargetRelease_row {release:String}
 (h:rolloutTargetRelease (settledIntents text deviceId snapshot now).1 deviceId=some release):
 ∃row∈snapshot.intents,row.source=releaseRolloutIntentSource deviceId∧
  payloadGet row.payload targetReleaseKey=some (.str release):=by
 unfold rolloutTargetRelease at h
 cases hrow:rolloutRow (settledIntents text deviceId snapshot now).1 deviceId with
 | none=>
  rw[hrow] at h
  cases h
 | some row=>
  rw[hrow] at h
  have htarget:payloadGet row.payload targetReleaseKey=some (.str release):=by
   change textOf (payloadGet row.payload targetReleaseKey)=some release at h
   unfold textOf at h
   split at h
   · rename_i value hvalue
     cases h
     exact hvalue
   · cases h
  obtain ⟨before,hbefore,hsource,-,-,hpayload⟩:=
   mem_applyRolloutStamp snapshot.intents_unique (mem_of_find?_eq_some hrow)
  refine ⟨before,hbefore,?_,?_⟩
  · rw[←hsource]
    simpa using find?_some hrow
  · rw[←hpayload _ (by decide)]
    exact htarget
end

def writtenNode (node:AppiumNode)(decision:NodeProcessDecision)(facts:DecisionFacts)
 (hasLiveSession:Bool)(targetRelease observedPackRelease:Option String)
 (observedPort:Option ℕ):AppiumNode:=
 let mapped:=deferStop decision hasLiveSession
 { node with
   desiredState:=mapped.1
   desiredPort:=if mapped.1=.running then observedPort else none
   restartRequestedAt:=if mapped.1=.stopped then none
    else validWatermark decision facts hasLiveSession targetRelease observedPackRelease
   desiredGridRunId:=(decideGridRouting facts).runId
   acceptingNewSessions:=mapped.2.1&&(decideGridRouting facts).acceptingNewSessions
   stopPending:=mapped.2.2 }

lemma applyOperationalStateTransition_fst (lastEmitted derived:OperationalState):
 (applyOperationalStateTransition lastEmitted derived).1=derived:=by
 unfold applyOperationalStateTransition
 split
 · rename_i hsame
   exact hsame.symm
 · rfl

lemma applyReconcileDecisions_spec (node:AppiumNode)(lastEmitted:OperationalState)
 (commands:List Command)(facts:DecisionFacts)(live:Bool)(target observed:Option String)
 (observedPort:Option ℕ)(stateFacts:DeviceStateFacts):
 ∃result written,applyReconcileDecisions node lastEmitted commands facts live target observed
   observedPort stateFacts=.ok result∧
  written=writtenNode node (decideNodeProcess commands facts) facts live target observed
   observedPort∧result.node=some written∧result.lastEmitted =
   evaluateOperationalState {stateFacts with stopInFlight:=nodeStopRequested written}∧
  (result.lastEmitted=lastEmitted→ result.transition=none)∧
  (written=node→ result.events=[]∧result.changed=false):=by
 unfold applyReconcileDecisions
 dsimp only
 obtain ⟨stated,events,hwrite,hstated,hquiet⟩:=writeDesiredState_spec node
  { target:=(deferStop (decideNodeProcess commands facts) live).1
    desiredPort:=
     if (deferStop (decideNodeProcess commands facts) live).1=.running then observedPort else none
    restartRequestedAt:=validWatermark (decideNodeProcess commands facts) facts live target observed
    reason:=(decideNodeProcess commands facts).reason }
  (fun hstopped=>if_neg fun hrunning=>by cases hstopped.symm.trans hrunning)
 rw[hwrite]
 refine ⟨_,_,rfl,rfl,?_,?_,?_,?_⟩
 · rw[writeDesiredGridRunId_node,hstated]
   rfl
 · rw[applyOperationalStateTransition_fst,writeDesiredGridRunId_node,hstated]
   rfl
 · intro hsame
   dsimp only at hsame ⊢
   rw[applyOperationalStateTransition_fst] at hsame
   unfold applyOperationalStateTransition
   rw[if_pos hsame]
 · intro hsame
   have hkept:stated=node:=by
    rw[hstated,←hsame]
    rfl
   have hrun:=congrArg AppiumNode.desiredGridRunId hsame
   have haccepting:=congrArg AppiumNode.acceptingNewSessions hsame
   have hpending:=congrArg AppiumNode.stopPending hsame
   subst hkept
   dsimp only[writtenNode] at hrun haccepting hpending
   simp[hquiet rfl,writeDesiredGridRunId,hrun,recordFieldChange,haccepting,hpending]

lemma reconcileLockedDevice_spec (text:DatetimeText)(device:Device)(node:AppiumNode)
 (snapshot:DeviceDecisionSnapshot)(now:Instant):
 ∃result,reconcileLockedDevice text device (some node) snapshot now=.ok result∧
  result.intentWrites=(settledIntents text device.id snapshot now).2∧
  result.node=some (writtenNode node (ladderDecision text device.id snapshot now)
   snapshot.decisionFacts snapshot.hasLiveSession
   (rolloutTargetRelease (settledIntents text device.id snapshot now).1 device.id)
   snapshot.nodeObservedPackRelease snapshot.nodePort):=by
 obtain ⟨result,_,happly,rfl,hnode,-⟩:=applyReconcileDecisions_spec node
  device.operationalStateLastEmitted
  ((settledIntents text device.id snapshot now).1.filterMap fun row=>parseCommand text row now)
  snapshot.decisionFacts snapshot.hasLiveSession
  (rolloutTargetRelease (settledIntents text device.id snapshot now).1 device.id)
  snapshot.nodeObservedPackRelease snapshot.nodePort snapshot.stateFacts
 unfold reconcileLockedDevice
 dsimp only
 rw[happly]
 exact ⟨_,rfl,rfl,hnode⟩

theorem reconcile_spares_live_sessions (text:DatetimeText) (device:Device) (node:AppiumNode)
 (snapshot:DeviceDecisionSnapshot) (now:Instant):
 ∃result written,reconcileLockedDevice text device (some node) snapshot now=.ok result∧
  result.node=some written∧
  (snapshot.hasLiveSession=true→ written.desiredState=.stopped→
   ∃row∈snapshot.intents,HardStopRow now row)∧
  (snapshot.hasLiveSession=true→
   (mapNodeProcessDecision (ladderDecision text device.id snapshot now)).1=.stopped→
   (¬∃row∈snapshot.intents,HardStopRow now row)→
   written.desiredState=.running∧written.acceptingNewSessions=false∧
    written.stopPending=true)∧
  ((ladderDecision text device.id snapshot now).desiredState=.runningDraining→
   ∀watermark,written.restartRequestedAt=some watermark→
   snapshot.hasLiveSession=false∧snapshot.decisionFacts.reservationRunId=none∧
    ∃row∈snapshot.intents,row.source=releaseRolloutIntentSource device.id∧
     ∃release,payloadGet row.payload targetReleaseKey=some (.str release)∧
      snapshot.nodeObservedPackRelease≠some release):=by
 obtain ⟨result,hresult,-,hnode⟩:=reconcileLockedDevice_spec text device node snapshot now
 refine ⟨result,_,hresult,hnode,?_,?_,?_⟩
 · intro hlive hstopped
   unfold writtenNode at hstopped
   dsimp only at hstopped
   rw[hlive] at hstopped
   exact hardStopRow_of_hard (hard_of_deferStop_stopped hstopped)
 · intro hlive hstop hnone
   have hsoft:(ladderDecision text device.id snapshot now).stopMode≠some .hard:=
    fun hhard=>hnone (hardStopRow_of_hard hhard)
   have hdeferred:=deferStop_of_not_hard hstop hsoft
   change deferStop (ladderDecision text device.id snapshot now) true=_ at hdeferred
   unfold writtenNode
   rw[hlive,hdeferred]
   exact ⟨rfl,rfl,rfl⟩
 · intro hdraining watermark hwatermark
   unfold writtenNode at hwatermark
   dsimp only at hwatermark
   split at hwatermark
   · cases hwatermark
   obtain ⟨hlive,hreservation,⟨release,hrelease⟩,hobserved,-⟩:=
    validWatermark_draining hdraining hwatermark
   obtain ⟨row,hmem,hsource,htarget⟩:=rolloutTargetRelease_row hrelease
   rw[hrelease] at hobserved
   exact ⟨hlive,hreservation,row,hmem,hsource,release,htarget,hobserved⟩

/-- Has the law of the ISO texts, not their form. -/
def tallyText:DatetimeText where
 isoformat t:=String.ofList (List.replicate t '|')
 fromisoformat text:=some text.length
 fromisoformat_isoformat t:=by simp

def maintenanceSnapshot:DeviceDecisionSnapshot where
 intents:=[]
 intents_unique:=nodup_nil
 hasLiveSession:=true
 ladder:=RemediationLog.emptyLadder
 decisionFacts:=⟨true,false,false,none,false,none,none⟩
 stateFacts:=⟨true,false,true,false,false⟩
 nodeObservedPackRelease:=some "1.0"
 nodePort:=some 4723
 reservation:=none
 isReadyForUse:=true
 nodeObservedRunning:=true
 recoveryGeneration:=none

def idleSnapshot:DeviceDecisionSnapshot:=
 { maintenanceSnapshot with
   hasLiveSession:=false
   decisionFacts:=⟨false,false,true,none,false,none,none⟩
   stateFacts:=⟨false,false,false,false,true⟩ }

theorem reconcile_spares_live_sessions_maintenance:
 ∃result written,
  reconcileLockedDevice tallyText phone (some runningNode) maintenanceSnapshot 5=.ok result∧
   result.node=some written∧written.desiredState=.running∧
   written.acceptingNewSessions=false∧written.stopPending=true:=by
 obtain ⟨result,written,hresult,hnode,-,hdefer,-⟩:=
  reconcile_spares_live_sessions tallyText phone runningNode maintenanceSnapshot 5
 have hnone:¬∃row∈maintenanceSnapshot.intents,HardStopRow 5 row:=by
  rintro ⟨row,hmem,-⟩
  cases hmem
 exact ⟨result,written,hresult,hnode,hdefer rfl rfl hnone⟩
end GridFleet.IntentReconciler
