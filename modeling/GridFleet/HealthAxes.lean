import GridFleet.FleetRows
import GridFleet.RevisionRegister
/-! The health facts of a device and of its Appium node, written under the device's row lock. A writer
without a revision draws one; the folds of a pushed section pass the section's and settle it on the row. -/
namespace GridFleet.HealthAxes
open RevisionRegister Option

abbrev NodeId:=ℕ
abbrev BootId:=ℕ
abbrev EpisodeId:=ℕ

/-- What a transaction does beside the axis. `autoStop` stands for all that `complete_auto_stop_locked`
records, `autoRecovery` for `_maybe_auto_recover`. -/
inductive Effect where
 | reconcile | healthChanged
 | controlAction | autoStopCleared | nodeStateChanged | nodeRestart | lifecycleRecovered
 | healthCheckFail | escalation | restartCommissioned
 | repairAttemptsReset | autoRecovery
 | connectivityMarked | remediationEnqueued | failureRecorded | autoStopDeferred | autoStop

/-- The section generation that a fold settles; a section without a token has no revision. -/
structure Receipt where
 revision:Option ℕ
 bootId:Option BootId
 sectionSequence:Option ℕ

/-- `register` holds the verdict and the observation revision, `ledger` the fold receipt. What they took
is kept beside the columns. -/
structure Axis (V:Type) where
 register:Register V
 ledger:Ledger (List Effect)
 foldBootId:Option BootId
 foldSectionSequence:Option ℕ

def Axis.fresh {V:Type}(value:V):Axis V:=⟨⟨value,0,[]⟩,⟨0,[]⟩,none,none⟩

def Axis.markFoldApplied {V:Type}(axis:Axis V)(receipt:Receipt)(effects:List Effect):Axis V:=
 match receipt.revision with
 | none=>axis
 | some revision=>
  { axis with
    ledger:=axis.ledger.post revision effects
    foldBootId:=receipt.bootId
    foldSectionSequence:=receipt.sectionSequence }

/-- The writer's revision and the sequence after it: a writer that passes none draws the next. -/
def drawRevision (sequence:ℕ):Option ℕ→ℕ×ℕ
 | some revision=>(revision,sequence)
 | none=>(sequence+1,sequence+1)

def Axis.write {V:Type}(axis:Axis V)(sequence:ℕ)(revision:Option ℕ)(value:V):ℕ×Option (Axis V):=
 let drawn:=drawRevision sequence revision
 (drawn.2,(axis.register.write drawn.1 value).map fun register=>{axis with register:=register})

structure Txn (R:Type) where
 sequence:ℕ
 row:R
 effects:List Effect

inductive FoldOutcome where
 | applied | terminalNoop | skipped

structure Folded (R:Type) where
 outcome:FoldOutcome
 sequence:ℕ
 row:R

structure NodeVerdict where
 running:Option Bool
 state:Option String
 checkedAt:Option Instant

structure NodeUpdate where
 running:Option (Option Bool)
 state:Option (Option String)

def NodeUpdate.provided (update:NodeUpdate):Bool:=update.running.isSome||update.state.isSome
def NodeUpdate.apply (update:NodeUpdate)(previous:NodeVerdict)(observedAt:Instant):NodeVerdict:=
 ⟨update.running.getD previous.running,update.state.getD previous.state,some observedAt⟩

structure NodeRow where
 id:NodeId
 port:ℕ
 pid:Option ℕ
 activeConnectionTarget:Option String
 desiredState:DesiredState
 healthFailingSince:Option Instant
 health:Axis NodeVerdict

inductive ProbeStatus where
 | ack | refused | indeterminate
 deriving DecidableEq

structure NodeObservation where
 result:ProbeStatus
 port:Option ℕ
 pid:Option ℕ
 activeConnectionTarget:Option String
 observedAt:Instant
 receipt:Receipt

structure NodeFacts where
 failWindow:ℕ
 backoffActive:Bool
 deferredStopPending:Bool
 summaryChanged:Bool

def transitionEffects (previous:NodeVerdict)(update:NodeUpdate)(markOffline summaryChanged:Bool):
 List Effect:=
 let runningChanged:=update.running.any fun running=>decide (running≠previous.running)
 let stateChanged:=update.state.any fun state=>decide (state≠previous.state)
 let shouldAct:=markOffline||!update.provided||(runningChanged||stateChanged)||
  decide (update.running≠some (some true))
 let shouldReconcile:=markOffline||decide (update.running≠some (some false))
 (if shouldAct&&shouldReconcile then [.reconcile] else []) ++
  if summaryChanged then [.healthChanged] else []

def applyLockedNodeStateTransition (sequence:ℕ)(node:NodeRow)(update:NodeUpdate)
 (markOffline summaryChanged:Bool)(revision:Option ℕ)(observedAt:Instant):Txn NodeRow:=
 let previous:=node.health.register.value
 let effects:=transitionEffects previous update markOffline summaryChanged
 if update.provided then
  match node.health.write sequence revision (update.apply previous observedAt) with
  | (sequence',none)=>⟨sequence',node,[]⟩
  | (sequence',some health)=>⟨sequence',{node with health:=health},effects⟩
 else ⟨sequence,node,effects⟩

def recordHealthFailure (sequence:ℕ)(node:NodeRow)(facts:NodeFacts)(revision:Option ℕ)
 (observedAt:Instant):Txn NodeRow:=
 let onset:=node.healthFailingSince.isNone
 let since:=node.healthFailingSince.getD observedAt
 let verdict:=(onset&&decide (facts.failWindow≤0))||
  (!onset&&decide (since<observedAt)&&decide (facts.failWindow≤observedAt-since))
 let txn:=applyLockedNodeStateTransition sequence {node with healthFailingSince:=some since}
  ⟨some (some false),some (some "error")⟩ verdict facts.summaryChanged revision observedAt
 let effects:=txn.effects++if onset then [.healthCheckFail] else []
 if verdict then
  ⟨txn.sequence,{txn.row with healthFailingSince:=some observedAt},
   effects++[.healthCheckFail] ++
    if facts.backoffActive then [] else [.escalation,.restartCommissioned,.reconcile]⟩
 else ⟨txn.sequence,txn.row,effects⟩

def recordHealthAck (sequence:ℕ)(node:NodeRow)(facts:NodeFacts)(revision:Option ℕ)
 (observedAt:Instant):Txn NodeRow:=
 let recovered:List Effect:=
  if node.healthFailingSince.isSome then
   [.controlAction]++(if facts.deferredStopPending then [.autoStopCleared] else []) ++
    [.nodeStateChanged,.nodeRestart,.lifecycleRecovered]
  else []
 let txn:=applyLockedNodeStateTransition sequence {node with healthFailingSince:=none}
  ⟨some (some true),some none⟩ false facts.summaryChanged revision observedAt
 ⟨txn.sequence,txn.row,recovered++txn.effects⟩

def NodeRow.markFoldApplied (node:NodeRow)(receipt:Receipt)(effects:List Effect):NodeRow:=
 {node with health:=node.health.markFoldApplied receipt effects}

/-- The observation predates a change of the node, the node is down or being stopped, or the probe says
nothing. -/
def vetoed (node:NodeRow)(observation:NodeObservation):Bool:=
 (observation.port.isSome&&
   (decide (some node.port≠observation.port)||decide (node.pid≠observation.pid)||
    decide (node.activeConnectionTarget≠observation.activeConnectionTarget)))||
  (node.pid.isNone||node.activeConnectionTarget.isNone)||
  decide (node.desiredState=.stopped)||decide (observation.result=.indeterminate)

def processNodeHealth (sequence:ℕ)(node:NodeRow)(facts:NodeFacts)(observation:NodeObservation):
 Folded NodeRow:=
 let receipt:=observation.receipt
 if receipt.revision.any fun revision=>decide (revision≤node.health.ledger.mark) then
  ⟨.skipped,sequence,node⟩
 else if receipt.revision.any fun revision=>decide (revision≤node.health.register.revision) then
  ⟨.terminalNoop,sequence,node.markFoldApplied receipt []⟩
 else if vetoed node observation then
  ⟨.terminalNoop,sequence,node.markFoldApplied receipt []⟩
 else
  let txn:=if observation.result=.ack
   then recordHealthAck sequence node facts receipt.revision observation.observedAt
   else recordHealthFailure sequence node facts receipt.revision observation.observedAt
  ⟨.applied,txn.sequence,txn.row.markFoldApplied receipt txn.effects⟩

structure DeviceVerdict where
 healthy:Option Bool
 summary:Option String
 checkedAt:Option Instant

structure DeviceRow where
 hostId:HostId
 inMaintenance:Bool
 failureEpisodeId:Option EpisodeId
 checks:Axis DeviceVerdict
 node:Option NodeRow

structure DeviceHealthItem where
 deviceId:DeviceId
 probeError:Bool
 health:Option JsonObject
 deriving DecidableEq

/-- What a transaction on a device reads elsewhere. `healthy` and `summary` are what the pushed health
result comes to after its debounce windows. -/
structure DeviceFacts where
 now:Instant
 healthy:Bool
 summary:String
 wasOffline:Bool
 hasLiveSession:Bool
 remediable:Bool
 summaryChanged:Bool
 episode:EpisodeId

def updateLockedDeviceChecksRow (sequence:ℕ)(device:DeviceRow)(healthy:Bool)(summary:String)
 (revision:Option ℕ)(observedAt:Instant)(episode:EpisodeId):ℕ×Option DeviceRow:=
 let written:=device.checks.write sequence revision ⟨some healthy,some summary,some observedAt⟩
 let wasFailing:=decide (device.checks.register.value.healthy=some false)
 (written.1,written.2.map fun checks=>
  { device with
    checks:=checks
    failureEpisodeId:=
     if healthy then none else if wasFailing then device.failureEpisodeId else some episode })

/-- `none` when the write lost against a greater revision. -/
def updateDeviceChecksLocked (sequence:ℕ)(device:DeviceRow)(healthy:Bool)(summary:String)
 (summaryChanged:Bool)(revision:Option ℕ)(observedAt:Instant)(episode:EpisodeId):
 ℕ×Option (DeviceRow×List Effect):=
 let updated:=updateLockedDeviceChecksRow sequence device healthy summary revision observedAt episode
 (updated.1,updated.2.map fun row=>
  (row,(if healthy then [] else [.reconcile])++if summaryChanged then [.healthChanged] else []))

/-- Without a node to stop, the failure is written once more, under a revision of its own. -/
def completeAutoStopLocked (sequence:ℕ)(device:DeviceRow)(facts:DeviceFacts):Txn DeviceRow:=
 if device.node.isSome then ⟨sequence,device,[.autoStop,.reconcile]⟩
 else
  match updateDeviceChecksLocked sequence device false facts.summary facts.summaryChanged none facts.now
    facts.episode with
  | (sequence',none)=>⟨sequence',device,[.autoStop]⟩
  | (sequence',some (row,effects))=>⟨sequence',row,.autoStop::effects⟩

def handleHealthFailureLocked (sequence:ℕ)(device:DeviceRow)(facts:DeviceFacts):Txn DeviceRow:=
 if device.inMaintenance then ⟨sequence,device,[.failureRecorded]⟩
 else if facts.hasLiveSession then ⟨sequence,device,[.failureRecorded,.autoStopDeferred]⟩
 else
  let txn:=completeAutoStopLocked sequence device facts
  ⟨txn.sequence,txn.row,.failureRecorded::txn.effects⟩

def handleHealthyDevice (sequence:ℕ)(device:DeviceRow)(facts:DeviceFacts)(revision:Option ℕ)
 (observedAt:Instant):Txn DeviceRow:=
 match updateDeviceChecksLocked sequence device true facts.summary facts.summaryChanged revision
   observedAt facts.episode with
 | (sequence',none)=>⟨sequence',device,[]⟩
 | (sequence',some (row,effects))=>
  ⟨sequence',row,effects++[.repairAttemptsReset,.autoRecovery]⟩

def escalateHealthFailure (sequence:ℕ)(device:DeviceRow)(facts:DeviceFacts)(revision:Option ℕ)
 (observedAt:Instant):Txn DeviceRow:=
 match updateDeviceChecksLocked sequence device false facts.summary facts.summaryChanged revision
   observedAt facts.episode with
 | (sequence',none)=>⟨sequence',device,[]⟩
 | (sequence',some (row,effects))=>
  let marked:=effects++[.connectivityMarked] ++
   if facts.remediable&&row.failureEpisodeId.isSome then [.remediationEnqueued] else []
  if facts.wasOffline then ⟨sequence',row,marked⟩
  else
   let txn:=handleHealthFailureLocked sequence' row facts
   ⟨txn.sequence,txn.row,marked++txn.effects⟩

def DeviceRow.markApplied (device:DeviceRow)(receipt:Receipt)(effects:List Effect):DeviceRow:=
 {device with checks:=device.checks.markFoldApplied receipt effects}

def applyDeviceHealth (sequence:ℕ)(device:DeviceRow)(facts:DeviceFacts)(item:DeviceHealthItem)
 (receipt:Receipt)(observedAt:Instant):Folded DeviceRow:=
 if receipt.revision.any fun revision=>decide (revision≤device.checks.ledger.mark) then
  ⟨.skipped,sequence,device⟩
 else if device.inMaintenance||item.probeError||item.health.isNone then
  ⟨.terminalNoop,sequence,device.markApplied receipt []⟩
 else
  let txn:=if facts.healthy
   then handleHealthyDevice sequence device facts receipt.revision observedAt
   else escalateHealthFailure sequence device facts receipt.revision observedAt
  ⟨.applied,txn.sequence,txn.row.markApplied receipt txn.effects⟩

structure AxisOk {V:Type}(sequence:ℕ)(axis:Axis V):Prop where
 ordered:axis.register.Ordered
 once:axis.ledger.Once
 drawn:axis.register.revision ≤ sequence

def AxisLater {V:Type}(axis axis':Axis V):Prop:=
 axis.register.Later axis'.register∧axis.ledger.Later axis'.ledger

section
variable {V:Type}{sequence sequence' sequence'':ℕ}{axis axis' axis'':Axis V}

lemma axisOk_fresh (sequence:ℕ)(value:V):AxisOk sequence (Axis.fresh value):=
 ⟨Register.ordered_of_unwritten rfl,Ledger.once_of_empty rfl,Nat.zero_le _⟩

/-- Writes of the verdict, under drawn revisions, that leave the fold receipt alone. -/
structure Wrote (sequence sequence':ℕ)(axis axis':Axis V):Prop where
 le:sequence ≤ sequence'
 ordered:axis.register.Ordered→axis'.register.Ordered
 drawn:axis.register.revision ≤ sequence→axis'.register.revision ≤ sequence'
 later:axis.register.Later axis'.register
 ledger:axis'.ledger=axis.ledger

lemma wrote_of_le (hle:sequence ≤ sequence')(axis:Axis V):Wrote sequence sequence' axis axis:=
 ⟨hle,id,fun h=>h.trans hle,.refl _,rfl⟩
lemma Wrote.trans (h:Wrote sequence sequence' axis axis')
 (h':Wrote sequence' sequence'' axis' axis''):Wrote sequence sequence'' axis axis'':=
 ⟨h.le.trans h'.le,fun ho=>h'.ordered (h.ordered ho),fun hd=>h'.drawn (h.drawn hd),
  h.later.trans h'.later,h'.ledger.trans h.ledger⟩

/-- A transaction on the axis: writes, and perhaps a receipt. -/
structure Moves (sequence sequence':ℕ)(axis axis':Axis V):Prop where
 le:sequence ≤ sequence'
 ok:AxisOk sequence axis→AxisOk sequence' axis'
 later:AxisLater axis axis'

lemma Wrote.moves (h:Wrote sequence sequence' axis axis'):Moves sequence sequence' axis axis' where
 le:=h.le
 ok hok:=by
  refine ⟨h.ordered hok.ordered,?_,h.drawn hok.drawn⟩
  rw[h.ledger]
  exact hok.once
 later:=by
  refine ⟨h.later,?_⟩
  rw[h.ledger]
  exact .refl _
lemma le_drawRevision (sequence:ℕ)(revision:Option ℕ):
 sequence≤(drawRevision sequence revision).2:=by
 cases revision with
 | none=>exact Nat.le_succ sequence
 | some=>exact le_refl _

variable {revision:Option ℕ}

lemma drawRevision_le (hrev:∀r,revision=some r→ r ≤ sequence):
 (drawRevision sequence revision).1≤(drawRevision sequence revision).2:=by
 cases revision with
 | none=>exact le_refl _
 | some revision=>exact hrev revision rfl
lemma le_of_write {value:V}{result:Option (Axis V)}
 (h:axis.write sequence revision value=(sequence',result)):sequence ≤ sequence':=by
 cases h
 exact le_drawRevision sequence revision
lemma wrote_write (hrev:∀r,revision=some r→ r ≤ sequence){value:V}
 (h:axis.write sequence revision value=(sequence',some axis')):
 Wrote sequence sequence' axis axis':=by
 obtain ⟨hsequence,hwritten⟩:=Prod.mk.inj h
 obtain ⟨register,hwrite,rfl⟩:=map_eq_some_iff.mp hwritten
 refine ⟨le_of_write h,fun ho=>ho.write hwrite,fun _=>?_,Register.later_write hwrite,rfl⟩
 obtain ⟨-,rfl⟩:=Register.write_eq_some hwrite
 exact hsequence ▸ drawRevision_le hrev
lemma Wrote.settle (h:Wrote sequence sequence' axis axis'){receipt:Receipt}
 (hreceipt:∀r,receipt.revision=some r→axis.ledger.mark<r)(effects:List Effect):
 Moves sequence sequence' axis (axis'.markFoldApplied receipt effects):=by
 unfold Axis.markFoldApplied
 split
 · exact h.moves
 · rename_i revision hrevision
   have hlt:axis.ledger.mark<revision:=hreceipt revision hrevision
   rw[←h.ledger] at hlt
   refine ⟨h.le,fun hok=>?_,h.later,?_⟩
   · have hok':=h.moves.ok hok
     exact ⟨hok'.ordered,hok'.once.post hlt effects,hok'.drawn⟩
   · have hpost:=Ledger.later_post hlt effects
     rwa [h.ledger] at hpost ⊢
lemma mark_markFoldApplied (axis:Axis V){receipt:Receipt}{revision:ℕ}
 (h:receipt.revision=some revision)(effects:List Effect):
 (axis.markFoldApplied receipt effects).ledger.mark=revision:=by
 simp[Axis.markFoldApplied,h,Ledger.post]
end

section
variable {sequence:ℕ}{node:NodeRow}{revision:Option ℕ}

structure NodeWrote (sequence:ℕ)(node:NodeRow)(txn:Txn NodeRow):Prop where
 health:Wrote sequence txn.sequence node.health txn.row.health
 id:txn.row.id=node.id

section
variable (hrev:∀r,revision=some r→ r ≤ sequence)
include hrev

lemma nodeWrote_transition (update:NodeUpdate)(markOffline summaryChanged:Bool)(observedAt:Instant):
 NodeWrote sequence node
  (applyLockedNodeStateTransition sequence node update markOffline summaryChanged revision observedAt):=by
 unfold applyLockedNodeStateTransition
 split
 · simp only
   split
   · rename_i hlost
     exact ⟨wrote_of_le (le_of_write hlost) _,rfl⟩
   · rename_i hwrite
     exact ⟨wrote_write hrev hwrite,rfl⟩
 · exact ⟨wrote_of_le (le_refl _) _,rfl⟩
lemma nodeWrote_recordHealthFailure (facts:NodeFacts)(observedAt:Instant):
 NodeWrote sequence node (recordHealthFailure sequence node facts revision observedAt):=by
 have h (since:Instant)(verdict:Bool):
   NodeWrote sequence {node with healthFailingSince:=some since}
    (applyLockedNodeStateTransition sequence {node with healthFailingSince:=some since}
     ⟨some (some false),some (some "error")⟩ verdict facts.summaryChanged revision observedAt):=
  nodeWrote_transition hrev _ _ _ _
 unfold recordHealthFailure
 simp only
 split <;> exact ⟨(h _ _).health,(h _ _).id⟩
lemma nodeWrote_recordHealthAck (facts:NodeFacts)(observedAt:Instant):
 NodeWrote sequence node (recordHealthAck sequence node facts revision observedAt):=by
 have h:NodeWrote sequence {node with healthFailingSince:=none}
   (applyLockedNodeStateTransition sequence {node with healthFailingSince:=none}
    ⟨some (some true),some none⟩ false facts.summaryChanged revision observedAt):=
  nodeWrote_transition hrev _ _ _ _
 exact ⟨h.health,h.id⟩
end

/-- A fold of a node row: it settles the section's generation, if it did not find it settled. -/
structure NodeFolded (sequence:ℕ)(node:NodeRow)(receipt:Receipt)(folded:Folded NodeRow):
  Prop where
 health:Moves sequence folded.sequence node.health folded.row.health
 id:folded.row.id=node.id
 settled:∀r,receipt.revision=some r→ r≤folded.row.health.ledger.mark

lemma lt_mark_of_any {mark:ℕ}(h:¬(revision.any fun r=>decide (r ≤ mark))):
 ∀r,revision=some r→mark<r:=by
 intro r hr
 rw[hr] at h
 simpa using h
lemma NodeWrote.folded {txn:Txn NodeRow}(h:NodeWrote sequence node txn){receipt:Receipt}
 (hreceipt:∀r,receipt.revision=some r→node.health.ledger.mark<r)
 (outcome:FoldOutcome)(effects:List Effect):NodeFolded sequence node receipt
  ⟨outcome,txn.sequence,txn.row.markFoldApplied receipt effects⟩ where
 health:=h.health.settle hreceipt effects
 id:=h.id
 settled _ hr:=(mark_markFoldApplied txn.row.health hr effects).ge
lemma nodeFolded_processNodeHealth (node:NodeRow)(facts:NodeFacts)(observation:NodeObservation)
 (hrev:∀r,observation.receipt.revision=some r→ r ≤ sequence):
 NodeFolded sequence node observation.receipt (processNodeHealth sequence node facts observation):=by
 unfold processNodeHealth
 simp only
 split
 · rename_i hskipped
   refine ⟨(wrote_of_le (le_refl _) _).moves,rfl,fun r hr=>?_⟩
   rw[hr] at hskipped
   simpa using hskipped
 · rename_i hnew
   have hreceipt:=lt_mark_of_any hnew
   have hnoop:NodeWrote sequence node ⟨sequence,node,[]⟩:=⟨wrote_of_le (le_refl _) _,rfl⟩
   split
   · exact hnoop.folded hreceipt .terminalNoop []
   · split
     · exact hnoop.folded hreceipt .terminalNoop []
     · split
       · exact (nodeWrote_recordHealthAck hrev facts _).folded hreceipt .applied _
       · exact (nodeWrote_recordHealthFailure hrev facts _).folded hreceipt .applied _
end

section
variable {sequence:ℕ}{device:DeviceRow}{revision:Option ℕ}

structure DeviceWrote (sequence:ℕ)(device:DeviceRow)(txn:Txn DeviceRow):Prop where
 checks:Wrote sequence txn.sequence device.checks txn.row.checks
 node:txn.row.node=device.node

lemma DeviceWrote.andThen {txn txn':Txn DeviceRow}(h:DeviceWrote sequence device txn)
 (h':DeviceWrote txn.sequence txn.row txn')(effects:List Effect):
 DeviceWrote sequence device ⟨txn'.sequence,txn'.row,effects⟩:=
 ⟨h.checks.trans h'.checks,h'.node.trans h.node⟩
lemma deviceWrote_of_le (device:DeviceRow){sequence':ℕ}(hle:sequence ≤ sequence')
 (effects:List Effect):DeviceWrote sequence device ⟨sequence',device,effects⟩:=
 ⟨wrote_of_le hle _,rfl⟩

section
variable {healthy summaryChanged:Bool}{summary:String}{observedAt:Instant}{episode:EpisodeId}
 {sequence':ℕ}

lemma le_of_updateDeviceChecksLocked {result:Option (DeviceRow×List Effect)}
 (h:updateDeviceChecksLocked sequence device healthy summary summaryChanged revision observedAt
  episode=(sequence',result)):sequence ≤ sequence':=by
 cases h
 exact le_drawRevision sequence revision
lemma deviceWrote_updateDeviceChecksLocked (hrev:∀r,revision=some r→ r ≤ sequence)
 {row:DeviceRow}{effects:List Effect}
 (h:updateDeviceChecksLocked sequence device healthy summary summaryChanged revision observedAt
  episode=(sequence',some (row,effects)))(recorded:List Effect):
 DeviceWrote sequence device ⟨sequence',row,recorded⟩:=by
 obtain ⟨hsequence,hupdated⟩:=Prod.mk.inj h
 obtain ⟨updated,hrow,heq⟩:=map_eq_some_iff.mp hupdated
 obtain ⟨checks,hwrite,rfl⟩:=map_eq_some_iff.mp hrow
 cases heq
 exact ⟨wrote_write hrev (Prod.ext hsequence hwrite),rfl⟩
end

lemma deviceWrote_completeAutoStopLocked (device:DeviceRow)(facts:DeviceFacts):
 DeviceWrote sequence device (completeAutoStopLocked sequence device facts):=by
 unfold completeAutoStopLocked
 split
 · exact deviceWrote_of_le device (le_refl _) _
 · split
   · rename_i hlost
     exact deviceWrote_of_le device (le_of_updateDeviceChecksLocked hlost) _
   · rename_i hupdated
     exact deviceWrote_updateDeviceChecksLocked (fun r hr=>by cases hr) hupdated _
lemma deviceWrote_handleHealthFailureLocked (device:DeviceRow)(facts:DeviceFacts):
 DeviceWrote sequence device (handleHealthFailureLocked sequence device facts):=by
 unfold handleHealthFailureLocked
 split
 · exact deviceWrote_of_le device (le_refl _) _
 · split
   · exact deviceWrote_of_le device (le_refl _) _
   · have h:DeviceWrote sequence device (completeAutoStopLocked sequence device facts):=
      deviceWrote_completeAutoStopLocked device facts
     exact ⟨h.checks,h.node⟩
lemma deviceWrote_handleHealthyDevice (hrev:∀r,revision=some r→ r ≤ sequence)
 (facts:DeviceFacts)(observedAt:Instant):
 DeviceWrote sequence device (handleHealthyDevice sequence device facts revision observedAt):=by
 unfold handleHealthyDevice
 split
 · rename_i hlost
   exact deviceWrote_of_le device (le_of_updateDeviceChecksLocked hlost) _
 · rename_i hupdated
   exact deviceWrote_updateDeviceChecksLocked hrev hupdated _

lemma deviceWrote_escalateHealthFailure (hrev:∀r,revision=some r→ r ≤ sequence)
 (facts:DeviceFacts)(observedAt:Instant):
 DeviceWrote sequence device (escalateHealthFailure sequence device facts revision observedAt):=by
 unfold escalateHealthFailure
 split
 · rename_i hlost
   exact deviceWrote_of_le device (le_of_updateDeviceChecksLocked hlost) _
 · rename_i row effects hupdated
   have hwrote:=deviceWrote_updateDeviceChecksLocked hrev hupdated effects
   simp only
   split
   · exact ⟨hwrote.checks,hwrote.node⟩
   · exact hwrote.andThen (deviceWrote_handleHealthFailureLocked row facts) _

structure DeviceFolded (sequence:ℕ)(device:DeviceRow)(receipt:Receipt)
  (folded:Folded DeviceRow):Prop where
 checks:Moves sequence folded.sequence device.checks folded.row.checks
 node:folded.row.node=device.node
 settled:∀r,receipt.revision=some r→ r≤folded.row.checks.ledger.mark

lemma DeviceWrote.folded {txn:Txn DeviceRow}(h:DeviceWrote sequence device txn){receipt:Receipt}
 (hreceipt:∀r,receipt.revision=some r→device.checks.ledger.mark<r)
 (outcome:FoldOutcome)(effects:List Effect):DeviceFolded sequence device receipt
  ⟨outcome,txn.sequence,txn.row.markApplied receipt effects⟩ where
 checks:=h.checks.settle hreceipt effects
 node:=h.node
 settled _ hr:=(mark_markFoldApplied txn.row.checks hr effects).ge
lemma deviceFolded_applyDeviceHealth (device:DeviceRow)(facts:DeviceFacts)(item:DeviceHealthItem)
 {receipt:Receipt}(hrev:∀r,receipt.revision=some r→ r ≤ sequence)(observedAt:Instant):
 DeviceFolded sequence device receipt
  (applyDeviceHealth sequence device facts item receipt observedAt):=by
 unfold applyDeviceHealth
 split
 · rename_i hskipped
   refine ⟨(wrote_of_le (le_refl _) _).moves,rfl,fun r hr=>?_⟩
   rw[hr] at hskipped
   simpa using hskipped
 · rename_i hnew
   have hreceipt:=lt_mark_of_any hnew
   split
   · exact (deviceWrote_of_le device (le_refl sequence) []).folded hreceipt .terminalNoop []
   · simp only
     split
     · exact (deviceWrote_handleHealthyDevice hrev facts observedAt).folded hreceipt .applied _
     · exact (deviceWrote_escalateHealthFailure hrev facts observedAt).folded hreceipt .applied _
end
end GridFleet.HealthAxes
