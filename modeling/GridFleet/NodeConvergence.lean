import GridFleet.IntentReconciler
/-! A pass compares the Appium nodes an agent reports with the node rows of the host and settles each
device in a transaction of its own. Starting and stopping processes is the agent's business; only the
database actions are carried out here. -/
namespace GridFleet.NodeConvergence
open Decision DecisionSnapshot IntentReconciler RemediationLog Dict List Option

structure DesiredRow where
 deviceId:DeviceId
 connectionTarget:String
 desiredState:DesiredState
 desiredPort:Option ℕ
 port:Option ℕ
 pid:Option ℕ
 activeConnectionTarget:Option String
 stopPending:Bool
 startedAt:Option Instant
 observedPackRelease:Option String
 reconcilerFailurePresent:Bool
 deriving DecidableEq

structure ObservedEntry where
 port:ℕ
 pid:Option ℕ
 connectionTarget:String
 startedAt:Option Instant
 packRelease:Option String
 deriving DecidableEq

inductive ConvergenceAction where
 | start (port:Option ℕ)
 | stop (port:ℕ)(clearDesiredPort:Bool)
 | noOp
 | confirmRunning
 | dbMarkRunning (port:ℕ)(pid:Option ℕ)(startedAt:Option Instant)
   (packRelease:Option String)(activeConnectionTarget:String)
 | dbClearStaleRunning
 deriving DecidableEq

/-- The row holds what the entry reports; a spawn time or release it does not report is not
compared. -/
def records (row:DesiredRow)(observed:ObservedEntry):Bool:=
 decide (row.port=some observed.port)&&decide (row.pid=observed.pid)&&
  (observed.startedAt.isNone||decide (row.startedAt=observed.startedAt))&&
  (observed.packRelease.isNone||decide (row.observedPackRelease=observed.packRelease))&&
  decide (row.activeConnectionTarget=some observed.connectionTarget)

def onDesiredPort (row:DesiredRow)(observed:ObservedEntry):Bool:=
 row.desiredPort.all fun port=>observed.port=port

def decideRunningAction (row:DesiredRow):Option ObservedEntry→ ConvergenceAction
 | none=>.start row.desiredPort
 | some observed=>
  if onDesiredPort row observed then
   if records row observed then .confirmRunning
   else .dbMarkRunning observed.port observed.pid observed.startedAt observed.packRelease
    observed.connectionTarget
  else .stop observed.port true

def decideConvergenceAction (row:DesiredRow)(observed:Option ObservedEntry):ConvergenceAction:=
 match row.desiredState with
 | .running=>decideRunningAction row observed
 | .stopped=>
  match observed with
  | some entry=>if row.stopPending then .noOp else .stop entry.port false
  | none=>
   if row.pid.isSome||row.activeConnectionTarget.isSome then .dbClearStaleRunning else .noOp

def observedByTarget (observed:List ObservedEntry):Dict String ObservedEntry:=
 .ofList (observed.map fun entry=>(entry.connectionTarget,entry))
def observedByPort (observed:List ObservedEntry):Dict ℕ ObservedEntry:=
 .ofList (observed.map fun entry=>(entry.port,entry))

/-- The recorded live target first, then the registered one, then the port. -/
def matchObservedEntry (row:DesiredRow)(byTarget:Dict String ObservedEntry)
 (byPort:Dict ℕ ObservedEntry):Option ObservedEntry:=
 ((row.activeConnectionTarget.bind byTarget.get).or (byTarget.get row.connectionTarget)).or
  (row.port.bind byPort.get)

def observedFor (observed:List ObservedEntry)(row:DesiredRow):Option ObservedEntry:=
 matchObservedEntry row (observedByTarget observed) (observedByPort observed)
def rowsNeedingStaleClear (rows:List DesiredRow)(observed:List ObservedEntry):List DesiredRow:=
 rows.filter fun row=>
  decideConvergenceAction row (observedFor observed row)=.dbClearStaleRunning
def translateActionForPull:ConvergenceAction→Option ConvergenceAction
 | .start _ | .stop _ _=>none
 | action=>some action

structure NodeStartDetails where
 activeConnectionTarget:Option String
 startedAt:Option Instant
 packRelease:Option String
 deriving DecidableEq

inductive ObservedNodeMutation where
 | running (port pid:Option ℕ)(details:NodeStartDetails)
 | stopped
 deriving DecidableEq

inductive NodeCommand where
 | writeObserved (mutation:ObservedNodeMutation)
 | resetStartFailure
 deriving DecidableEq

def executeAction (row:DesiredRow):ConvergenceAction→Option NodeCommand
 | .confirmRunning=>if row.reconcilerFailurePresent then some .resetStartFailure else none
 | .dbClearStaleRunning=>some (.writeObserved .stopped)
 | .dbMarkRunning port pid startedAt packRelease target=>
  some (.writeObserved (.running (some port) pid ⟨some target,startedAt,packRelease⟩))
 | .noOp | .start _ | .stop _ _=>none

structure HostNode where
 device:Device
 node:AppiumNode
 startedAt:Option Instant
 ladder:LadderState

def reconcilerSource:String:= "appium_reconciler"

/-- `COALESCE(connection_target, identity_value)` -/
def registeredTarget (device:Device):String:=device.connectionTarget.getD device.identityValue

def desiredRow (id:DeviceId)(h:HostNode):DesiredRow where
 deviceId:=id
 connectionTarget:=registeredTarget h.device
 desiredState:=h.node.desiredState
 desiredPort:=h.node.desiredPort
 port:=some h.node.port
 pid:=h.node.pid
 activeConnectionTarget:=h.node.activeConnectionTarget
 stopPending:=h.node.stopPending
 startedAt:=h.startedAt
 observedPackRelease:=h.node.observedPackRelease
 reconcilerFailurePresent:=
  decide (h.ladder.lastFailureSource=some reconcilerSource)&&h.ladder.lastFailureReason.isSome

def appiumConnectionTarget (device:Device):Except WriteError String:=
 match device.connectionTarget.filter (· ≠ "") with
 | some target=>.ok target
 | none=>
  if device.identityValue ≠ "" then .ok device.identityValue
  else .error (.valueError "Device has no connection target or identity value")

/-- A successful start closes an episode that the reconciler itself opened. -/
def startFailureNeedsReset (ladder:LadderState):Bool:=
 (decide (0<ladder.attempts)||ladder.lastFailureReason.any (· ≠ ""))&&
  decide (ladder.lastFailureSource=some reconcilerSource)

def resetReconcilerStartFailureIfNeeded (ladder:LadderState)(now:Instant):LadderState:=
 if startFailureNeedsReset ladder then
  { emptyLadder with lastAction:=some "start_succeeded",lastActionAt:=some now }
 else ladder

inductive NodeWrite where
 | nodeStarted (deviceId:DeviceId)
 | nodeStopped (deviceId:DeviceId)
 | startFailureReset (deviceId:DeviceId)

section
abbrev LockedFacts:=DeviceId→DeviceDecisionSnapshot

variable (text:DatetimeText)(facts:LockedFacts)(now:Instant)

/-- The snapshot is loaded before the node row is written: its port is the one the row held. -/
def loadSnapshot (id:DeviceId)(h:HostNode):DeviceDecisionSnapshot:=
 { facts id with
   ladder:=h.ladder
   nodePort:=some h.node.port
   nodeObservedPackRelease:=h.node.observedPackRelease }

def observedSnapshot (snapshot:DeviceDecisionSnapshot)(node:AppiumNode):DeviceDecisionSnapshot:=
 {snapshot with nodeObservedRunning:=node.pid.isSome&&node.activeConnectionTarget.isSome}
def reconcileNode (id:DeviceId)(h:HostNode)(node:AppiumNode):Except WriteError AppiumNode:=do
 let reconciled ←reconcileLockedDevice text h.device (some node)
  (observedSnapshot (loadSnapshot facts id h) node) now
 return reconciled.node.getD node

def markNodeStarted (id:DeviceId)(h:HostNode)(port:ℕ)(pid:Option ℕ)
 (details:NodeStartDetails):Except WriteError HostNode:=do
 let target ←match details.activeConnectionTarget.filter (· ≠ "") with
  | some target=>pure target
  | none=>appiumConnectionTarget h.device
 let node ←reconcileNode text facts now id h
  { h.node with
    port:=port
    pid:=pid
    activeConnectionTarget:=some target
    observedPackRelease:=details.packRelease.or h.node.observedPackRelease }
 return { h with
  node:=node
  startedAt:=details.startedAt.or h.startedAt
  ladder:=resetReconcilerStartFailureIfNeeded h.ladder now }

def markNodeStopped (id:DeviceId)(h:HostNode):Except WriteError HostNode:=do
 let node ←reconcileNode text facts now id h
  {h.node with pid:=none,activeConnectionTarget:=none}
 return {h with node:=node}

/-- `mutation.port or row.port or 0`: a reported port zero is read as none. -/
def startedPort (row:DesiredRow)(port:Option ℕ):ℕ:=
 ((port.filter (· ≠ 0)).or row.port).getD 0

def applyCommand (row:DesiredRow)(h:HostNode):
 NodeCommand→Except WriteError (HostNode×List NodeWrite)
 | .writeObserved (.running port pid details)=>do
  let started ←markNodeStarted text facts now row.deviceId h (startedPort row port) pid details
  return (started,[.nodeStarted row.deviceId])
 | .writeObserved .stopped=>do
  let stopped ←markNodeStopped text facts now row.deviceId h
  return (stopped,[.nodeStopped row.deviceId])
 | .resetStartFailure=>
  .ok ({h with ladder:=resetReconcilerStartFailureIfNeeded h.ladder now},
   if startFailureNeedsReset h.ladder then [.startFailureReset row.deviceId] else [])
end

abbrev HostNodes:=Dict DeviceId HostNode
def fetchDesiredRows (host:HostNodes):List DesiredRow:=
 host.entries.map fun entry=>desiredRow entry.1 entry.2
def backingOff (backoffUntil:DeviceId→Option Instant)(now:Instant)(id:DeviceId):Bool:=
 (backoffUntil id).any (now < ·)
def byDeviceId (rows:List DesiredRow):List DesiredRow:=
 rows.insertionSort fun a b=>a.deviceId≤b.deviceId
def activeCommand (observed:List ObservedEntry)(row:DesiredRow):Option NodeCommand:=
 (translateActionForPull (decideConvergenceAction row (observedFor observed row))).bind
  (executeAction row)

/-- The transactions of a pass, in order: stale clears of the devices in recovery backoff, then the
active rows. -/
def hostCommands (rows:List DesiredRow)(backing:DeviceId→Bool)
 (observed:List ObservedEntry):List (DesiredRow×NodeCommand):=
 let stale:=rowsNeedingStaleClear (rows.filter fun row=>backing row.deviceId) observed
 let active:=rows.filter fun row=>!backing row.deviceId
 (byDeviceId stale).map (fun row=>(row,.writeObserved .stopped)) ++
  (byDeviceId active).filterMap fun row=>(activeCommand observed row).map fun c=>(row,c)

section
variable (text:DatetimeText)(facts:LockedFacts)(now:Instant)

def settle (state:HostNodes×List NodeWrite)(command:DesiredRow×NodeCommand):
 Except WriteError (HostNodes×List NodeWrite):=
 match state.1.get command.1.deviceId with
 | none=>.ok state
 | some h=>do
  let settled ←applyCommand text facts now command.1 h command.2
  return (state.1.set command.1.deviceId settled.1,state.2++settled.2)

/-- One pass on a payload without start failures, with the node and log rows it writes. A write that
raises fails the pass. -/
def reconcileHost (host:HostNodes)(backoffUntil:DeviceId→Option Instant)
 (observed:List ObservedEntry):Except WriteError (HostNodes×List NodeWrite):=
 (hostCommands (fetchDesiredRows host) (backingOff backoffUntil now) observed).foldlM
  (settle text facts now) (host,[])
end

section
variable {observed:List ObservedEntry}{row:DesiredRow}{e:ObservedEntry}

lemma observedByTarget_get (target:String):(observedByTarget observed).get target =
  observed.reverse.find? fun entry=>entry.connectionTarget=target:=
 get_ofList_map _ _ _
lemma observedByPort_get (port:ℕ):
 (observedByPort observed).get port=observed.reverse.find? fun entry=>entry.port=port:=
 get_ofList_map _ _ _

/-- Two entries of one target cannot both be the last on one port. -/
lemma find_target_eq_find_port {entries:List ObservedEntry}{e other:ObservedEntry}
 (hport:(entries.find? fun entry=>entry.port=e.port)=some e)
 (htarget:(entries.find? fun entry=>entry.connectionTarget=e.connectionTarget)=some other)
 (hsame:other.port=e.port):other=e:=by
 induction entries with
 | nil=>cases hport
 | cons entry _ ih=>
  by_cases hp:entry.port=e.port
  · have he:entry=e:=by simpa[hp] using hport
    rw[he] at htarget
    simpa using htarget.symm
  · by_cases ht:entry.connectionTarget=e.connectionTarget
    · have hother:entry=other:=by simpa[ht] using htarget
      rw[hother] at hp
      exact absurd hsame hp
    · exact ih (by simpa[hp] using hport) (by simpa[ht] using htarget)

lemma observedFor_eq_some (h:observedFor observed row=some e):
 (observedByTarget observed).get e.connectionTarget=some e∨
  (row.port=some e.port∧(observedByPort observed).get e.port=some e):=by
 have target_of_get:∀target,(observedByTarget observed).get target=some e→
   (observedByTarget observed).get e.connectionTarget=some e:=by
  intro target hget
  have hfound:=hget
  rw[observedByTarget_get] at hfound
  have htarget:=find?_some hfound
  rw[of_decide_eq_true htarget]
  exact hget
 unfold observedFor matchObservedEntry at h
 rcases or_eq_some_iff.mp h with hor|⟨-,hport⟩
 · rcases or_eq_some_iff.mp hor with hactive|⟨-,hregistered⟩
   · obtain ⟨target,-,hget⟩:=bind_eq_some_iff.mp hactive
     exact .inl (target_of_get target hget)
   · exact .inl (target_of_get _ hregistered)
 · obtain ⟨port,hrow,hget⟩:=bind_eq_some_iff.mp hport
   have hfound:=hget
   rw[observedByPort_get] at hfound
   have hfoundPort:=find?_some hfound
   rw[of_decide_eq_true hfoundPort]
   exact .inr ⟨hrow,hget⟩
lemma observedFor_none_of_cleared {cleared:DesiredRow}(h:observedFor observed row=none)
 (hactive:cleared.activeConnectionTarget=none)
 (htarget:cleared.connectionTarget=row.connectionTarget)(hport:cleared.port=row.port):
 observedFor observed cleared=none:=by
 unfold observedFor matchObservedEntry at h ⊢
 rw[or_eq_none_iff,or_eq_none_iff] at h
 rw[hactive,htarget,hport,h.1.2,h.2]
 rfl
lemma observedFor_of_active {target:String}(hactive:row.activeConnectionTarget=some target)
 {other:ObservedEntry}(hget:(observedByTarget observed).get target=some other):
 observedFor observed row=some other:=by
 unfold observedFor matchObservedEntry
 rw[hactive,bind_some,hget]
 rfl
end

section
variable {text:DatetimeText}{facts:LockedFacts}{now:Instant}{id:DeviceId}
 {h settled:HostNode}

lemma reconcileNode_spec (text:DatetimeText)(facts:LockedFacts)(now:Instant)(id:DeviceId)
 (h:HostNode)(node:AppiumNode):∃written,reconcileNode text facts now id h node=.ok written∧
  written.port=node.port∧written.pid=node.pid∧
  written.activeConnectionTarget=node.activeConnectionTarget∧
  written.observedPackRelease=node.observedPackRelease∧
  (written.desiredState=.running→written.desiredPort=some h.node.port):=by
 obtain ⟨result,hresult,-,hnode⟩:=reconcileLockedDevice_spec text h.device node
  (observedSnapshot (loadSnapshot facts id h) node) now
 unfold reconcileNode
 rw[hresult]
 refine ⟨_,rfl,?_⟩
 rw[hnode]
 refine ⟨rfl,rfl,rfl,rfl,?_⟩
 intro hrunning
 exact if_pos hrunning
lemma markNodeStopped_spec (h_ok:markNodeStopped text facts now id h=.ok settled):
 settled.device=h.device∧settled.node.port=h.node.port∧settled.node.pid=none∧
  settled.node.activeConnectionTarget=none:=by
 have hspec:=reconcileNode_spec text facts now id h
  {h.node with pid:=none,activeConnectionTarget:=none}
 obtain ⟨written,hwritten,hport,hpid,hactive,-⟩:=hspec
 unfold markNodeStopped at h_ok
 rw[hwritten] at h_ok
 cases h_ok
 exact ⟨rfl,hport,hpid,hactive⟩
lemma appiumConnectionTarget_ne_empty {device:Device}{target:String}
 (h_ok:appiumConnectionTarget device=.ok target):target ≠ "" :=by
 unfold appiumConnectionTarget at h_ok
 split at h_ok
 · rename_i found hfound
   cases h_ok
   simpa using (filter_eq_some_iff.mp hfound).2
 · split at h_ok
   · rename_i hidentity
     cases h_ok
     exact hidentity
   · cases h_ok

lemma markNodeStarted_spec {port:ℕ}{pid:Option ℕ}{target:String}
 {startedAt:Option Instant}{packRelease:Option String}
 (h_ok:markNodeStarted text facts now id h port pid ⟨some target,startedAt,packRelease⟩ =
  .ok settled):
 settled.node.port=port∧settled.node.pid=pid∧
  (settled.node.activeConnectionTarget=some target↔target ≠ "")∧
  settled.startedAt=startedAt.or h.startedAt∧
  settled.node.observedPackRelease=packRelease.or h.node.observedPackRelease∧
  settled.ladder=resetReconcilerStartFailureIfNeeded h.ladder now∧
  (settled.node.desiredState=.running→settled.node.desiredPort=some h.node.port):=by
 unfold markNodeStarted at h_ok
 by_cases hempty:target = ""
 · subst hempty
   obtain ⟨own,hown,hrest⟩:=bind_eq_ok.mp h_ok
   obtain ⟨node,hnode,⟨⟩⟩:=bind_eq_ok.mp hrest
   obtain ⟨written,hwritten,hport,hpid,hactive,hrelease,hpinned⟩:=
    reconcileNode_spec text facts now id h _
   cases hwritten.symm.trans hnode
   refine ⟨hport,hpid,?_,rfl,hrelease,rfl,hpinned⟩
   change node.activeConnectionTarget=some "" ↔ _
   rw[hactive]
   simp[appiumConnectionTarget_ne_empty hown]
 · have hfilter:Option.filter (fun t=>decide (t ≠ "")) (some target)=some target:=by
    simp[hempty]
   dsimp only at h_ok
   rw[hfilter] at h_ok
   obtain ⟨node,hnode,⟨⟩⟩:=bind_eq_ok.mp (show Except.bind (reconcileNode ..) _=_ from h_ok)
   obtain ⟨written,hwritten,hport,hpid,hactive,hrelease,hpinned⟩:=
    reconcileNode_spec text facts now id h _
   cases hwritten.symm.trans hnode
   exact ⟨hport,hpid,iff_of_true hactive hempty,rfl,hrelease,rfl,hpinned⟩

lemma startFailureNeedsReset_reset (ladder:LadderState)(now:Instant):
 startFailureNeedsReset (resetReconcilerStartFailureIfNeeded ladder now)=false:=by
 unfold resetReconcilerStartFailureIfNeeded
 split
 · rfl
 · rename_i hneeds
   simpa using hneeds
end

section
variable {text:DatetimeText}{facts:LockedFacts}{now:Instant}{host host':HostNodes}
 {log log':List NodeWrite}{commands:List (DesiredRow×NodeCommand)}

/-- A device no command is for keeps its row; a device with a command gets that command's result. -/
lemma foldlM_settle_get (hunique:(commands.map fun command=>command.1.deviceId).Nodup)
 (h_ok:commands.foldlM (settle text facts now) (host,log)=.ok (host',log'))(id:DeviceId):
 ((∀command∈commands,command.1.deviceId≠id)→host'.get id=host.get id)∧
  ∀command∈commands,command.1.deviceId=id→∀h,host.get id=some h→
   ∃settled writes,applyCommand text facts now command.1 h command.2=.ok (settled,writes)∧
    host'.get id=some settled:=by
 induction commands generalizing host log with
 | nil=>
  cases h_ok
  exact ⟨fun _=>rfl,fun command hmem=>absurd hmem not_mem_nil⟩
 | cons first rest ih=>
  rw[map_cons,nodup_cons] at hunique
  have hfresh:∀command∈rest,command.1.deviceId≠first.1.deviceId:=by
   intro command hmem heq
   exact hunique.1 (heq ▸ List.mem_map_of_mem hmem)
  rw[foldlM_cons] at h_ok
  unfold settle at h_ok
  dsimp only at h_ok
  cases hget:host.get first.1.deviceId with
  | none=>
   rw[hget] at h_ok
   have hrest:=ih hunique.2 h_ok
   constructor
   · intro hnone
     exact hrest.1 fun command hmem=>hnone command (mem_cons_of_mem _ hmem)
   · intro command hmem hid h hh
     rcases mem_cons.mp hmem with rfl|hmem
     · rw[hid,hh] at hget
       cases hget
     · exact hrest.2 command hmem hid h hh
  | some before=>
   rw[hget] at h_ok
   obtain ⟨next,hnext,h_ok⟩:=bind_eq_ok.mp h_ok
   obtain ⟨result,happly,⟨⟩⟩:=bind_eq_ok.mp hnext
   have hrest:=ih hunique.2 h_ok
   constructor
   · intro hnone
     have hne:id≠first.1.deviceId:=fun heq=>hnone first mem_cons_self heq.symm
     rw[hrest.1 fun command hmem=>hnone command (mem_cons_of_mem _ hmem),
      get_set_of_ne _ _ hne]
   · intro command hmem hid h hh
     rcases mem_cons.mp hmem with rfl|hmem
     · subst hid
       have hsame:before=h:=some.inj (hget.symm.trans hh)
       subst hsame
       refine ⟨result.1,result.2,happly,?_⟩
       rw[hrest.1 hfresh,get_set_self]
     · have hne:id≠first.1.deviceId:=fun heq=>hfresh command hmem (hid.trans heq)
       apply hrest.2 command hmem hid h
       rw[get_set_of_ne _ _ hne]
       exact hh

lemma foldlM_settle_quiet (hquiet:∀command∈commands,∀h,host.get command.1.deviceId=some h→
  applyCommand text facts now command.1 h command.2=.ok (h,[])):
 ∃host'',commands.foldlM (settle text facts now) (host,[])=.ok (host'',[]):=by
 induction commands generalizing host with
 | nil=>exact ⟨host,rfl⟩
 | cons first rest ih=>
  rw[foldlM_cons]
  unfold settle
  dsimp only
  cases hget:host.get first.1.deviceId with
  | none=>
   apply ih
   intro command hmem
   exact hquiet command (mem_cons_of_mem _ hmem)
  | some before=>
   have hfirst:=hquiet first mem_cons_self before hget
   dsimp only
   rw[hfirst]
   apply ih
   intro command hmem h hh
   have hsame:host.get command.1.deviceId=some h:=by
    rw[get_set] at hh
    split at hh
    · rename_i hid
      cases hh
      rw[hid]
      exact hget
    · exact hh
   exact hquiet command (mem_cons_of_mem _ hmem) h hsame
end

section
variable {backing:DeviceId→Bool}{observed:List ObservedEntry}{rows:List DesiredRow}
 {row:DesiredRow}

def rowCommand (backing:DeviceId→Bool)(observed:List ObservedEntry)(row:DesiredRow):
 Option NodeCommand:=
 if backing row.deviceId then
  if decideConvergenceAction row (observedFor observed row)=.dbClearStaleRunning then
   some (.writeObserved .stopped)
  else none
 else activeCommand observed row

lemma mem_byDeviceId:row∈byDeviceId rows↔row∈rows:=mem_insertionSort _
lemma mem_hostCommands {command:NodeCommand}:(row,command)∈hostCommands rows backing observed↔
  row∈rows∧rowCommand backing observed row=some command:=by
 unfold hostCommands rowCommand rowsNeedingStaleClear
 by_cases hbacking:backing row.deviceId
 · simp[mem_byDeviceId,hbacking,and_assoc]
 · simp[mem_byDeviceId,hbacking]
lemma map_deviceId_filterMap (rows:List DesiredRow)(f:DesiredRow→Option NodeCommand):
 ((rows.filterMap fun row=>(f row).map fun c=>(row,c)).map fun command=>
  command.1.deviceId)=(rows.filter fun row=>(f row).isSome).map DesiredRow.deviceId:=by
 induction rows with
 | nil=>rfl
 | cons row _ ih=>
  cases hf:f row with
  | none | some=>simpa[hf] using ih
lemma nodup_byDeviceId (h:(rows.map DesiredRow.deviceId).Nodup):
 ((byDeviceId rows).map DesiredRow.deviceId).Nodup:=
 (((perm_insertionSort _ rows).map DesiredRow.deviceId).nodup_iff).mpr h
lemma nodup_hostCommands (h:(rows.map DesiredRow.deviceId).Nodup):
 ((hostCommands rows backing observed).map fun command=>command.1.deviceId).Nodup:=by
 have hfilter:∀p:DesiredRow→Bool,((rows.filter p).map DesiredRow.deviceId).Nodup:=fun p=>
  h.sublist (filter_sublist.map _)
 unfold hostCommands rowsNeedingStaleClear
 dsimp only
 rw[map_append,map_deviceId_filterMap,List.map_map,nodup_append]
 refine ⟨?_,?_,?_⟩
 · rw[List.filter_filter]
   exact nodup_byDeviceId (hfilter _)
 · exact (nodup_byDeviceId (hfilter _)).sublist (filter_sublist.map _)
 · intro a ha b hb hab
   obtain ⟨first,hfirst,rfl⟩:=List.mem_map.mp ha
   obtain ⟨second,hsecond,rfl⟩:=List.mem_map.mp hb
   rw[mem_byDeviceId] at hfirst
   have hbackingFirst:backing first.deviceId:=by
    have:=(mem_filter.mp (mem_filter.mp hfirst).1).2
    simpa using this
   have hsecond':=mem_byDeviceId.mp (mem_filter.mp hsecond).1
   have hbackingSecond:backing second.deviceId=false:=by
    simpa using (mem_filter.mp hsecond').2
   change first.deviceId=second.deviceId at hab
   rw[hab,hbackingSecond] at hbackingFirst
   cases hbackingFirst

variable (backing observed row) in
inductive Commanded:NodeCommand→Prop
 | clear (hstate:row.desiredState=.stopped)(hmatch:observedFor observed row=none)
   (hstale:(row.pid.isSome||row.activeConnectionTarget.isSome)):
   Commanded (.writeObserved .stopped)
 | mark (e:ObservedEntry)(hactive:backing row.deviceId=false)
   (hstate:row.desiredState=.running)(hmatch:observedFor observed row=some e)
   (hport:onDesiredPort row e)(hdiffers:records row e=false):
   Commanded (.writeObserved
    (.running (some e.port) e.pid ⟨some e.connectionTarget,e.startedAt,e.packRelease⟩))
 | confirm (e:ObservedEntry)(hactive:backing row.deviceId=false)
   (hstate:row.desiredState=.running)(hmatch:observedFor observed row=some e)
   (hport:onDesiredPort row e)(hrecords:records row e):
   Commanded .resetStartFailure

lemma clear_of_decide
 (h:decideConvergenceAction row (observedFor observed row)=.dbClearStaleRunning):
 Commanded backing observed row (.writeObserved .stopped):=by
 unfold decideConvergenceAction at h
 split at h
 · unfold decideRunningAction at h
   split at h
   · cases h
   · split at h
     · split at h <;> cases h
     · cases h
 · rename_i hstate
   split at h
   · split at h <;> cases h
   · rename_i hmatch
     split at h
     · rename_i hstale
       exact .clear hstate hmatch hstale
     · cases h

lemma commanded_of_rowCommand {command:NodeCommand}(h:rowCommand backing observed row=some command):
 Commanded backing observed row command:=by
 unfold rowCommand at h
 split at h
 · split at h
   · rename_i hclear
     cases h
     exact clear_of_decide hclear
   · cases h
 · rename_i hactive
   rw[Bool.not_eq_true] at hactive
   unfold activeCommand at h
   cases hdecide:decideConvergenceAction row (observedFor observed row) with rw[hdecide] at h
   | start | stop | noOp=>cases h
   | dbClearStaleRunning=>
    cases h
    exact clear_of_decide hdecide
   | confirmRunning=>
    have hcommand:command=.resetStartFailure:=by
     change (if row.reconcilerFailurePresent then some NodeCommand.resetStartFailure else none)=_
      at h
     split at h
     · exact (some.inj h).symm
     · cases h
    subst hcommand
    unfold decideConvergenceAction decideRunningAction at hdecide
    grind[Commanded]
   | dbMarkRunning=>
    cases h
    unfold decideConvergenceAction decideRunningAction at hdecide
    grind[Commanded]

lemma rowCommand_unmatched_running (hstate:row.desiredState=.running)
 (hmatch:observedFor observed row=none):rowCommand backing observed row=none:=by
 unfold rowCommand activeCommand decideConvergenceAction
 rw[hstate,hmatch]
 simp[decideRunningAction,translateActionForPull]
lemma rowCommand_unmatched_stopped (hstate:row.desiredState=.stopped)
 (hmatch:observedFor observed row=none):rowCommand backing observed row =
  if row.pid.isSome||row.activeConnectionTarget.isSome then some (.writeObserved .stopped)
  else none:=by
 unfold rowCommand activeCommand decideConvergenceAction
 rw[hstate,hmatch]
 dsimp only
 split <;> split <;> rfl
lemma rowCommand_differs {e:ObservedEntry}(hactive:backing row.deviceId=false)
 (hstate:row.desiredState=.running)(hmatch:observedFor observed row=some e)
 (hport:onDesiredPort row e)(hdiffers:records row e=false):
 rowCommand backing observed row=some (.writeObserved
  (.running (some e.port) e.pid ⟨some e.connectionTarget,e.startedAt,e.packRelease⟩)):=by
 unfold rowCommand activeCommand decideConvergenceAction
 rw[hactive,hstate,hmatch]
 simp[decideRunningAction,hport,hdiffers,translateActionForPull,executeAction]
end

section
variable {text:DatetimeText}{facts:LockedFacts}{now:Instant}{host host':HostNodes}
 {backoffUntil:DeviceId→Option Instant}{observed:List ObservedEntry}{log:List NodeWrite}
 {id:DeviceId}{h h':HostNode}

lemma mem_fetchDesiredRows {row:DesiredRow}:
 row∈fetchDesiredRows host↔∃id h,host.get id=some h∧desiredRow id h=row:=by
 unfold fetchDesiredRows
 simp[get_eq_some_iff]
lemma nodup_fetchDesiredRows (host:HostNodes):
 ((fetchDesiredRows host).map DesiredRow.deviceId).Nodup:=by
 unfold fetchDesiredRows
 rw[List.map_map]
 exact host.nodup

section
variable (h_ok:reconcileHost text facts now host backoffUntil observed=.ok (host',log))
include h_ok

lemma reconcileHost_kept (hnone:∀h,host.get id=some h→
  rowCommand (backingOff backoffUntil now) observed (desiredRow id h)=none):
 host'.get id=host.get id:=by
 apply (foldlM_settle_get (nodup_hostCommands (nodup_fetchDesiredRows host)) h_ok id).1
 intro command hmem hid
 obtain ⟨row,c⟩:=command
 obtain ⟨hrow,hcommand⟩:=mem_hostCommands.mp hmem
 obtain ⟨other,h,hget,rfl⟩:=mem_fetchDesiredRows.mp hrow
 change other=id at hid
 subst hid
 cases (hnone h hget).symm.trans hcommand
lemma reconcileHost_get (hget:host.get id=some h):
 (rowCommand (backingOff backoffUntil now) observed (desiredRow id h)=none→host'.get id=some h)∧
 ∀command,rowCommand (backingOff backoffUntil now) observed (desiredRow id h)=some command→
  ∃settled writes,applyCommand text facts now (desiredRow id h) h command=.ok (settled,writes)∧
   host'.get id=some settled:=by
 constructor
 · intro hnone
   rw[←hget]
   apply reconcileHost_kept h_ok
   intro other hother
   cases hget.symm.trans hother
   exact hnone
 · intro command hcommand
   have hmem:=mem_hostCommands.mpr ⟨mem_fetchDesiredRows.mpr ⟨id,h,hget,rfl⟩,hcommand⟩
   exact (foldlM_settle_get (nodup_hostCommands (nodup_fetchDesiredRows host)) h_ok id).2 _ hmem rfl h hget
lemma reconcileHost_mem (hget':host'.get id=some h'):∃h,host.get id=some h:=by
 cases hget:host.get id with
 | some h=>exact ⟨h,rfl⟩
 | none=>
  have hkept:=reconcileHost_kept h_ok fun h hsome=>by cases hget.symm.trans hsome
  rw[hget',hget] at hkept
  cases hkept
end

/-- The node row holds the values of an entry; a spawn time or release the entry does not report is
left alone. -/
structure Recorded (h:HostNode)(e:ObservedEntry):Prop where
 port:h.node.port=e.port
 pid:h.node.pid=e.pid
 target:h.node.activeConnectionTarget=some e.connectionTarget
 startedAt:∀t,e.startedAt=some t→h.startedAt=some t
 packRelease:∀r,e.packRelease=some r→h.node.observedPackRelease=some r

lemma records_desiredRow (id:DeviceId)(h:HostNode)(e:ObservedEntry):
 records (desiredRow id h) e↔Recorded h e:=by
 have hoption:∀{α:Type} [DecidableEq α](reported held:Option α),
   (reported.isNone||decide (held=reported))↔
    ∀a,reported=some a→held=some a:=by
  intro α _ reported held
  cases reported with
  | none | some=>simp
 unfold records desiredRow
 simp only[Bool.and_eq_true,decide_eq_true_eq,hoption,some.injEq]
 constructor
 · rintro ⟨⟨⟨⟨hport,hpid⟩,hstarted⟩,hrelease⟩,htarget⟩
   exact ⟨hport,hpid,htarget,hstarted,hrelease⟩
 · intro hrecorded
   exact ⟨⟨⟨⟨hrecorded.port,hrecorded.pid⟩,hrecorded.startedAt⟩,hrecorded.packRelease⟩,
    hrecorded.target⟩

/-- A reported node that the start writes faithfully: zero and the empty text read as missing. -/
def Storable (h:HostNode)(e:ObservedEntry):Prop:=
 e.connectionTarget ≠ "" ∧ (e.port≠0∨h.node.port=0)

lemma startedPort_eq_iff (id:DeviceId)(h:HostNode)(port:ℕ):
 startedPort (desiredRow id h) (some port)=port↔port≠0∨h.node.port=0:=by
 unfold startedPort desiredRow
 by_cases hzero:port=0 <;> simp[hzero,filter_some]

lemma recorded_of_started {e:ObservedEntry}{settled:HostNode}{writes:List NodeWrite}
 (h_ok:applyCommand text facts now (desiredRow id h) h (.writeObserved
  (.running (some e.port) e.pid ⟨some e.connectionTarget,e.startedAt,e.packRelease⟩)) =
   .ok (settled,writes)):(Recorded settled e↔Storable h e)∧
  startFailureNeedsReset settled.ladder=false∧
  (settled.node.desiredState=.running→settled.node.desiredPort=some h.node.port):=by
 obtain ⟨_,hstart,⟨⟩⟩:=bind_eq_ok.mp h_ok
 obtain ⟨hport,hpid,htarget,hstarted,hrelease,hladder,hpinned⟩:=markNodeStarted_spec hstart
 refine ⟨?_,?_,hpinned⟩
 · constructor
   · intro hrecorded
     refine ⟨htarget.mp hrecorded.target,?_⟩
     rw[←startedPort_eq_iff id,←hport]
     exact hrecorded.port
   · intro hstorable
     refine ⟨?_,hpid,htarget.mpr hstorable.1,?_,?_⟩
     · rw[hport,startedPort_eq_iff]
       exact hstorable.2
     · intro t ht
       rw[hstarted,ht]
       rfl
     · intro r hr
       rw[hrelease,hr]
       rfl
 · rw[hladder]
   exact startFailureNeedsReset_reset _ _

lemma cleared_of_stopped {settled:HostNode}{writes:List NodeWrite}
 (h_ok:applyCommand text facts now (desiredRow id h) h (.writeObserved .stopped) =
  .ok (settled,writes)):settled.device=h.device∧settled.node.port=h.node.port∧settled.node.pid=none∧
  settled.node.activeConnectionTarget=none:=by
 obtain ⟨_,hstop,⟨⟩⟩:=bind_eq_ok.mp h_ok
 exact markNodeStopped_spec hstop

variable (observed) in
/-- A second look at the same observation leaves the row alone. -/
def Quiet (backing:DeviceId→Bool)(id:DeviceId)(h:HostNode):Prop:=
 ∀command,rowCommand backing observed (desiredRow id h)=some command→
  command=.resetStartFailure∧startFailureNeedsReset h.ladder=false

lemma quiet_of_cleared {backing:DeviceId→Bool}
 (hmatch:observedFor observed (desiredRow id h)=none)(hdevice:h'.device=h.device)
 (hport:h'.node.port=h.node.port)(hpid:h'.node.pid=none)
 (hactive:h'.node.activeConnectionTarget=none):Quiet observed backing id h':=by
 have hmatch':observedFor observed (desiredRow id h')=none:=by
  apply observedFor_none_of_cleared hmatch hactive
  · change registeredTarget h'.device=registeredTarget h.device
    rw[hdevice]
  · change some h'.node.port=some h.node.port
    rw[hport]
 intro command hcommand
 cases hstate:h'.node.desiredState with
 | running=>
  rw[rowCommand_unmatched_running hstate hmatch'] at hcommand
  cases hcommand
 | stopped=>
  have hnone:rowCommand backing observed (desiredRow id h')=none:=by
   rw[rowCommand_unmatched_stopped hstate hmatch']
   simp[desiredRow,hpid,hactive]
  rw[hnone] at hcommand
  cases hcommand

/-- The row of a started node is matched to the entry it records, or to one on another port. -/
lemma quiet_of_started {backing:DeviceId→Bool}{e:ObservedEntry}
 (hmatch:observedFor observed (desiredRow id h)=some e)(hrecorded:Recorded h' e)
 (hladder:startFailureNeedsReset h'.ladder=false)
 (hpinned:h'.node.desiredState=.running→h'.node.desiredPort=some h.node.port):
 Quiet observed backing id h':=by
 have htarget:∃other,(observedByTarget observed).get e.connectionTarget=some other∧
   (other.port=h.node.port→ other=e):=by
  rcases observedFor_eq_some hmatch with hby|⟨hrowPort,hby⟩
  · exact ⟨e,hby,fun _=>rfl⟩
  · have hport:h.node.port=e.port:=some.inj hrowPort
    rw[observedByPort_get] at hby
    have hmem:=mem_of_find?_eq_some hby
    have hsome:(observed.reverse.find? fun entry=>
      entry.connectionTarget=e.connectionTarget).isSome:=by
     rw[find?_isSome]
     exact ⟨e,hmem,by simp⟩
    obtain ⟨other,hother⟩:=isSome_iff_exists.mp hsome
    refine ⟨other,by rw[observedByTarget_get];exact hother,?_⟩
    intro hsame
    exact find_target_eq_find_port hby hother (hsame.trans hport)
 obtain ⟨other,hother,hunique⟩:=htarget
 have hmatch':observedFor observed (desiredRow id h')=some other:=
  observedFor_of_active hrecorded.target hother
 intro command hcommand
 cases commanded_of_rowCommand hcommand with
 | clear _ hnone=>
  rw[hmatch'] at hnone
  cases hnone
 | mark _ _ hstate hfound hport hdiffers=>
  rw[hmatch'] at hfound
  cases hfound
  have hsame:other.port=h.node.port:=by
   unfold onDesiredPort at hport
   change h'.node.desiredPort.all _=true at hport
   rw[hpinned hstate] at hport
   simpa using hport
  rw[hunique hsame,(records_desiredRow id h' e).mpr hrecorded] at hdiffers
  cases hdiffers
 | confirm=>exact ⟨rfl,hladder⟩

/-- What the observation says holds of the rows after a pass, and a second pass over it, with the same
devices in backoff, writes nothing. -/
structure ObservationSound (text:DatetimeText)(host host':HostNodes)(backing:DeviceId→Bool)
  (observed:List ObservedEntry):Prop where
 absent:∀id h,host.get id=some h→ observedFor observed (desiredRow id h)=none→
  ∃h',host'.get id=some h'∧h'.node.pid=none∧h'.node.activeConnectionTarget=none
 present:∀id h e,host.get id=some h→backing id=false→h.node.desiredState=.running→
  observedFor observed (desiredRow id h)=some e→ onDesiredPort (desiredRow id h) e→
  ∃h',host'.get id=some h'∧Recorded h' e
 settled:∀(facts:LockedFacts)(now:Instant)(backoffUntil:DeviceId→Option Instant),
  (∀id,backingOff backoffUntil now id=backing id)→
  ∃host'',reconcileHost text facts now host' backoffUntil observed=.ok (host'',[])

/-- No row desired running and unreported is recorded as running, and what an active row has yet to
record can be stored. -/
structure Convergent (host:HostNodes)(backing:DeviceId→Bool)(observed:List ObservedEntry):
  Prop where
 unreported:∀id h,host.get id=some h→ observedFor observed (desiredRow id h)=none→
  h.node.desiredState=.running→h.node.pid=none∧h.node.activeConnectionTarget=none
 storable:∀id h e,host.get id=some h→backing id=false→h.node.desiredState=.running→
  observedFor observed (desiredRow id h)=some e→ onDesiredPort (desiredRow id h) e→
  Recorded h e∨Storable h e

section
variable (h_ok:reconcileHost text facts now host backoffUntil observed=.ok (host',log))
include h_ok

lemma absent_iff (hget:host.get id=some h)(hmatch:observedFor observed (desiredRow id h)=none):
 (∃h',host'.get id=some h'∧h'.node.pid=none∧h'.node.activeConnectionTarget=none)↔
  (h.node.desiredState=.running→h.node.pid=none∧h.node.activeConnectionTarget=none):=by
 have hpass:=reconcileHost_get h_ok hget
 cases hstate:h.node.desiredState with
 | running=>
  have hkept:=hpass.1 (rowCommand_unmatched_running hstate hmatch)
  rw[hkept]
  simp
 | stopped=>
  have hcommand:rowCommand (backingOff backoffUntil now) observed (desiredRow id h)=_:=
   rowCommand_unmatched_stopped hstate hmatch
  refine iff_of_true ?_ (fun h=>by cases h)
  by_cases hstale:(h.node.pid.isSome||h.node.activeConnectionTarget.isSome)
  · obtain ⟨settled,writes,happly,hsettled⟩:=hpass.2 _ (hcommand.trans (if_pos hstale))
    have hcleared:=cleared_of_stopped happly
    exact ⟨settled,hsettled,hcleared.2.2⟩
  · have hkept:=hpass.1 (hcommand.trans (if_neg hstale))
    refine ⟨h,hkept,?_⟩
    simpa using hstale

lemma present_iff {e:ObservedEntry}(hget:host.get id=some h)
 (hactive:backingOff backoffUntil now id=false)(hstate:h.node.desiredState=.running)
 (hmatch:observedFor observed (desiredRow id h)=some e)(hport:onDesiredPort (desiredRow id h) e):
 (∃h',host'.get id=some h'∧Recorded h' e)↔Recorded h e∨Storable h e:=by
 have hpass:=reconcileHost_get h_ok hget
 by_cases hrecords:records (desiredRow id h) e
 · have hrecorded:=(records_desiredRow id h e).mp hrecords
   refine iff_of_true ?_ (.inl hrecorded)
   cases hcommand:rowCommand (backingOff backoffUntil now) observed (desiredRow id h) with
   | none=>exact ⟨h,hpass.1 hcommand,hrecorded⟩
   | some command=>
    obtain ⟨settled,writes,happly,hsettled⟩:=hpass.2 command hcommand
    cases commanded_of_rowCommand hcommand with
    | clear _ hnone=>
     rw[hmatch] at hnone
     cases hnone
    | mark _ _ _ hfound _ hdiffers=>
     rw[hmatch] at hfound
     cases hfound
     rw[hrecords] at hdiffers
     cases hdiffers
    | confirm=>
     cases happly
     exact ⟨_,hsettled,hrecorded.port,hrecorded.pid,hrecorded.target,hrecorded.startedAt,
      hrecorded.packRelease⟩
 · have hdiffers:records (desiredRow id h) e=false:=by simpa using hrecords
   obtain ⟨settled,writes,happly,hsettled⟩:=
    hpass.2 _ (rowCommand_differs hactive hstate hmatch hport hdiffers)
   have hstarted:=(recorded_of_started happly).1
   rw[hsettled,←hstarted]
   have hnot:¬Recorded h e:=fun hrecorded=>hrecords ((records_desiredRow id h e).mpr hrecorded)
   simp[hnot]

lemma quiet_of_convergent (hconvergent:Convergent host (backingOff backoffUntil now) observed)
 (hget':host'.get id=some h'):Quiet observed (backingOff backoffUntil now) id h':=by
 obtain ⟨h,hget⟩:=reconcileHost_mem h_ok hget'
 have hpass:=reconcileHost_get h_ok hget
 cases hcommand:rowCommand (backingOff backoffUntil now) observed (desiredRow id h) with
 | none=>
  rw[hpass.1 hcommand] at hget'
  cases hget'
  intro command hagain
  rw[hcommand] at hagain
  cases hagain
 | some command=>
  obtain ⟨settled,writes,happly,hsettled⟩:=hpass.2 command hcommand
  rw[hsettled] at hget'
  cases hget'
  cases commanded_of_rowCommand hcommand with
  | clear _ hmatch=>
   obtain ⟨hdevice,hport,hpid,hactive⟩:=cleared_of_stopped happly
   exact quiet_of_cleared hmatch hdevice hport hpid hactive
  | mark e hactive hstate hmatch hport hdiffers=>
   have hstarted:=recorded_of_started happly
   have hnot:¬Recorded h e:=by
    rw[←records_desiredRow id h e,hdiffers]
    simp
   have hstorable:=(hconvergent.storable id h e hget hactive hstate hmatch hport).resolve_left hnot
   exact quiet_of_started hmatch (hstarted.1.mpr hstorable) hstarted.2.1 hstarted.2.2
  | confirm _ _ _ hmatch _ hrecords=>
   cases happly
   have hladder:=startFailureNeedsReset_reset h.ladder now
   intro command hagain
   cases commanded_of_rowCommand hagain with
   | clear _ hnone=>
    cases hmatch.symm.trans hnone
   | mark _ _ _ hfound _ hdiffers=>
    cases hmatch.symm.trans hfound
    cases hrecords.symm.trans hdiffers
   | confirm=>exact ⟨rfl,hladder⟩
end

theorem reconcileHost_sound_iff (text:DatetimeText) (facts:LockedFacts) (now:Instant)
 (host host':HostNodes) (backoffUntil:DeviceId→Option Instant)
 (observed:List ObservedEntry) (log:List NodeWrite)
 (h_ok:reconcileHost text facts now host backoffUntil observed=.ok (host',log)):
 ObservationSound text host host' (backingOff backoffUntil now) observed↔
  Convergent host (backingOff backoffUntil now) observed:=by
 constructor
 · intro hsound
   constructor
   · intro id h hget hmatch
     exact (absent_iff h_ok hget hmatch).mp (hsound.absent id h hget hmatch)
   · intro id h e hget hactive hstate hmatch hport
     exact (present_iff h_ok hget hactive hstate hmatch hport).mp
      (hsound.present id h e hget hactive hstate hmatch hport)
 · intro hconvergent
   constructor
   · intro id h hget hmatch
     exact (absent_iff h_ok hget hmatch).mpr (hconvergent.unreported id h hget hmatch)
   · intro id h e hget hactive hstate hmatch hport
     exact (present_iff h_ok hget hactive hstate hmatch hport).mpr
      (hconvergent.storable id h e hget hactive hstate hmatch hport)
   · intro facts' now' backoffUntil' hsame
     have hbacking:backingOff backoffUntil' now'=backingOff backoffUntil now:=funext hsame
     unfold reconcileHost
     rw[hbacking]
     apply foldlM_settle_quiet
     intro command hmem h' hget'
     obtain ⟨row,c⟩:=command
     have hcommand:=mem_hostCommands.mp hmem
     obtain ⟨id,h,hget,rfl⟩:=mem_fetchDesiredRows.mp hcommand.1
     cases hget.symm.trans hget'
     have hquiet:=quiet_of_convergent h_ok hconvergent hget c hcommand.2
     rw[hquiet.1]
     simp[applyCommand,resetReconcilerStartFailureIfNeeded,hquiet.2]
end

def phoneNode:HostNode:=⟨phone,runningNode,some 2,emptyLadder⟩
def phoneHost:HostNodes:=Dict.empty.set 7 phoneNode

/-- The phone's process is gone from the report; the pass leaves its row recorded as running. -/
theorem reconcileHost_keeps_crashed_node:
 reconcileHost tallyText (fun _=>idleSnapshot) 5 phoneHost (fun _=>none) [] =
   .ok (phoneHost,[])∧
  observedFor [] (desiredRow 7 phoneNode)=none∧
  phoneHost.get 7=some phoneNode∧phoneNode.node.pid=some 31∧
  ¬ObservationSound tallyText phoneHost phoneHost (backingOff (fun _=>none) 5) []:=by
 refine ⟨rfl,rfl,rfl,rfl,?_⟩
 intro hsound
 obtain ⟨h',hget,hpid,-⟩:=hsound.absent 7 phoneNode rfl rfl
 cases hget
 cases hpid

def respawnedHost:HostNodes:=
 phoneHost.set 7 ⟨phone,{runningNode with pid:=some 40},some 4,emptyLadder⟩

theorem reconcileHost_sound_iff_respawned:
 reconcileHost tallyText (fun _=>idleSnapshot) 5 phoneHost (fun _=>none)
   [⟨4723,some 40, "00008110",some 4,none⟩]=.ok (respawnedHost,[.nodeStarted 7])∧
  ObservationSound tallyText phoneHost respawnedHost (backingOff (fun _=>none) 5)
   [⟨4723,some 40, "00008110",some 4,none⟩]:=by
 have h_ok:reconcileHost tallyText (fun _=>idleSnapshot) 5 phoneHost (fun _=>none)
   [⟨4723,some 40, "00008110",some 4,none⟩]=.ok (respawnedHost,[.nodeStarted 7]):=rfl
 refine ⟨h_ok,(reconcileHost_sound_iff _ _ _ _ _ _ _ _ h_ok).mpr ?_⟩
 have hphone:∀id h,phoneHost.get id=some h→ id=7∧h=phoneNode:=by
  intro id h hget
  rcases get_set_eq_some hget with hnew|hold
  · exact hnew
  · cases hold.2
 constructor
 · intro id h hget hmatch
   obtain ⟨rfl,rfl⟩:=hphone id h hget
   cases hmatch
 · intro id h e hget hactive hstate hmatch hport
   obtain ⟨rfl,rfl⟩:=hphone id h hget
   cases hmatch
   exact .inr ⟨by decide,.inl (by decide)⟩
end GridFleet.NodeConvergence
