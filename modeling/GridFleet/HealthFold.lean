import GridFleet.HealthAxes
import GridFleet.Interleaving
import Mathlib.Data.List.Sort
/-! The status fold loop applies each pushed section, stamped with a revision at ingest, to the host's
devices or nodes, one transaction a row. Folds run against writers that draw their own revisions,
against changes of the rows they inventoried, and against each other. -/
namespace GridFleet.HealthFold
open HealthAxes RevisionRegister Interleaving Dict List

abbrev FoldId:=ℕ

inductive SectionName where
 | nodeHealth | deviceHealth
 deriving DecidableEq

structure NodeEntry where
 port:ℕ
 running:Bool
 pid:Option ℕ
 connectionTarget:Option String
 deriving DecidableEq

inductive Items where
 | nodes (entries:List NodeEntry)
 | devices (items:List DeviceHealthItem)
 deriving DecidableEq

def Items.name:Items→SectionName
 | .nodes _=>.nodeHealth
 | .devices _=>.deviceHealth

structure Published where
 hostId:HostId
 items:Items
 reportedAt:Instant
 bootId:Option BootId
 sectionSequence:Option ℕ
 deriving DecidableEq

def Published.key (published:Published):HostId×SectionName:=
 (published.hostId,published.items.name)
def Published.receipt (published:Published)(revision:ℕ):Receipt:=
 ⟨some revision,published.bootId,published.sectionSequence⟩

inductive Member where
 | node (deviceId:DeviceId)(nodeId:NodeId)
 | device (deviceId:DeviceId)

inductive Work where
 | node (deviceId:DeviceId)(nodeId:NodeId)(observation:NodeObservation)
 | device (item:DeviceHealthItem)

def Work.member:Work→Member
 | .node deviceId nodeId _=>.node deviceId nodeId
 | .device item=>.device item.deviceId

/-- A fold after its inventory. `members` are all the rows found, `work` those still to do. -/
structure Progress where
 members:List Member
 work:List Work
 attempted:ℕ
 retryable:ℕ

structure Fold where
 revision:ℕ
 source:Published
 progress:Option Progress

structure State where
 sequence:ℕ
 devices:Dict DeviceId DeviceRow
 published:Dict ℕ Published
 applied:Dict (HostId×SectionName) ℕ
 folds:Dict FoldId Fold
 nextDevice:DeviceId
 nextNode:NodeId

/-- An entry for the same port replaces an earlier one. -/
def byPort (entries:List NodeEntry)(port:ℕ):Option NodeEntry:=
 entries.reverse.find? fun entry=>decide (entry.port=port)

def byDeviceId (items:List DeviceHealthItem)(deviceId:DeviceId):Option DeviceHealthItem:=
 items.reverse.find? fun item=>decide (item.deviceId=deviceId)

def observe (fold:Fold)(node:NodeRow)(entry:NodeEntry):NodeObservation where
 result:=if entry.running then .ack else .refused
 port:=some node.port
 pid:=entry.pid
 activeConnectionTarget:=entry.connectionTarget
 observedAt:=fold.source.reportedAt
 receipt:=fold.source.receipt fold.revision

/-- Nodes observed running that should run; those being stopped on purpose are not judged. -/
def inventoried (node:NodeRow):Bool:=
 node.pid.isSome&&node.activeConnectionTarget.isSome&&decide (node.desiredState=.running)

def nodeWork (fold:Fold)(entries:List NodeEntry)(deviceId:DeviceId)(device:DeviceRow):Option Work:=
 device.node.bind fun node=>
  if inventoried node then
   (byPort entries node.port).map fun entry=>.node deviceId node.id (observe fold node entry)
  else none
def workOf (fold:Fold)(deviceId:DeviceId)(device:DeviceRow):Option Work:=
 if device.hostId=fold.source.hostId then
  match fold.source.items with
  | .nodes entries=>nodeWork fold entries deviceId device
  | .devices items=>(byDeviceId items deviceId).map .device
 else none
def byId (devices:Dict DeviceId DeviceRow):List (DeviceId×DeviceRow):=
 devices.entries.insertionSort fun a b=>a.1≤b.1
def inventory (devices:Dict DeviceId DeviceRow)(fold:Fold):List Work:=
 (byId devices).filterMap fun p=>workOf fold p.1 p.2

/-- The lock-free filter: the row already has the generation's receipt. -/
def hasReceipt (devices:Dict DeviceId DeviceRow)(revision:ℕ):Work→Bool
 | .node deviceId _ _=>((devices.get deviceId).bind (·.node)).any fun node=>
   decide (revision≤node.health.ledger.mark)
 | .device item=>(devices.get item.deviceId).any fun device=>
   decide (revision≤device.checks.ledger.mark)

def startProgress (devices:Dict DeviceId DeviceRow)(fold:Fold):Progress where
 members:=(inventory devices fold).map Work.member
 work:=(inventory devices fold).filter fun work=>!hasReceipt devices fold.revision work
 attempted:=0
 retryable:=0

inductive Label where
 | draw
 | publish (revision:ℕ)(published:Published)
 | createDevice (hostId:HostId)
 | setDevice (deviceId:DeviceId)(hostId:HostId)(inMaintenance:Bool)
 | deleteDevice (deviceId:DeviceId)
 | createNode (deviceId:DeviceId)(port:ℕ)
 | setNode (deviceId:DeviceId)(port:ℕ)(pid:Option ℕ)(activeConnectionTarget:Option String)
   (desiredState:DesiredState)(healthFailingSince:Option Instant)
 | deleteNode (deviceId:DeviceId)
 | updateDeviceChecks (deviceId:DeviceId)(healthy:Bool)(summary:String)(summaryChanged:Bool)
   (observedAt:Instant)(episode:EpisodeId)
 | nodeStateTransition (deviceId:DeviceId)(update:NodeUpdate)(markOffline summaryChanged:Bool)
   (observedAt:Instant)
 | load (k:FoldId)(revision:ℕ)
 | inventory (k:FoldId)
 | foldItem (k:FoldId)(nodeFacts:NodeFacts)(deviceFacts:DeviceFacts)
 | rollback (k:FoldId)
 | cut (k:FoldId)
 | advance (k:FoldId)
 | stop (k:FoldId)

section
variable (s:State)

def setRow (sequence:ℕ)(deviceId:DeviceId)(device:DeviceRow):State:=
 {s with sequence:=sequence,devices:=s.devices.set deviceId device}
def setNodeRow (sequence:ℕ)(deviceId:DeviceId)(device:DeviceRow)(node:Option NodeRow):State:=
 setRow s sequence deviceId {device with node:=node}
def onNode (deviceId:DeviceId)(f:DeviceRow→NodeRow→State):Option State:=
 (s.devices.get deviceId).bind fun device=>device.node.map fun node=>f device node
def setFold (k:FoldId)(fold:Fold)(progress:Progress):State:=
 { s with folds:=s.folds.set k {fold with progress:=some progress} }
def onProgress (k:FoldId)(f:Fold→Progress→Option State):Option State:=
 (s.folds.get k).bind fun fold=>fold.progress.bind fun progress=>f fold progress

/-- One committed transaction of a fold. A row that is gone leaves nothing to do. -/
def processWork (nodeFacts:NodeFacts)(deviceFacts:DeviceFacts)(fold:Fold):Work→State
 | .node deviceId _ observation=>
  (onNode s deviceId fun device node=>
   let folded:=processNodeHealth s.sequence node nodeFacts observation
   setNodeRow s folded.sequence deviceId device (some folded.row)).getD s
 | .device item=>
  ((s.devices.get item.deviceId).map fun device=>
   let folded:=applyDeviceHealth s.sequence device deviceFacts item
    (fold.source.receipt fold.revision) fold.source.reportedAt
   setRow s folded.sequence item.deviceId folded.row).getD s

def advanceApplied (key:HostId×SectionName)(revision:ℕ):State:=
 if (s.applied.get key).any fun current=>decide (revision≤current) then s
 else {s with applied:=s.applied.set key revision}

def step:Label→Option State
 | .draw=>some {s with sequence:=s.sequence+1}
 | .publish revision published=>
  if revision ≤ s.sequence∧s.published.get revision=none then
   some {s with published:=s.published.set revision published}
  else none
 | .createDevice hostId=>
  some { setRow s s.sequence s.nextDevice ⟨hostId,false,none,.fresh ⟨none,none,none⟩,none⟩ with
   nextDevice:=s.nextDevice+1 }
 | .setDevice deviceId hostId inMaintenance=>(s.devices.get deviceId).map fun device=>
   setRow s s.sequence deviceId {device with hostId:=hostId,inMaintenance:=inMaintenance}
 | .deleteDevice deviceId=>some {s with devices:=s.devices.pop deviceId}
 | .createNode deviceId port=>(s.devices.get deviceId).bind fun device=>
   if device.node.isSome then none
   else some { setNodeRow s s.sequence deviceId device
     (some ⟨s.nextNode,port,none,none,.stopped,none,.fresh ⟨none,none,none⟩⟩) with
    nextNode:=s.nextNode+1 }
 | .setNode deviceId port pid activeConnectionTarget desiredState healthFailingSince=>
  onNode s deviceId fun device node=>
   setNodeRow s s.sequence deviceId device (some ⟨node.id,port,pid,activeConnectionTarget,
    desiredState,healthFailingSince,node.health⟩)
 | .deleteNode deviceId=>(s.devices.get deviceId).map fun device=>
   setNodeRow s s.sequence deviceId device none
 | .updateDeviceChecks deviceId healthy summary summaryChanged observedAt episode=>
  (s.devices.get deviceId).map fun device=>
   match updateDeviceChecksLocked s.sequence device healthy summary summaryChanged none observedAt
     episode with
   | (sequence,none)=>{s with sequence:=sequence}
   | (sequence,some (row,_))=>setRow s sequence deviceId row
 | .nodeStateTransition deviceId update markOffline summaryChanged observedAt=>
  onNode s deviceId fun device node=>
   let txn:=applyLockedNodeStateTransition s.sequence node update markOffline summaryChanged none
    observedAt
   setNodeRow s txn.sequence deviceId device (some txn.row)
 | .load k revision=>(s.published.get revision).bind fun source=>
   if (s.folds.get k).isSome∨(s.applied.get source.key).any fun prior=>decide (revision≤prior)
   then none
   else some {s with folds:=s.folds.set k ⟨revision,source,none⟩}
 | .inventory k=>(s.folds.get k).bind fun fold=>
   if fold.progress.isSome then none
   else some (setFold s k fold (startProgress s.devices fold))
 | .foldItem k nodeFacts deviceFacts=>onProgress s k fun fold progress=>
   match progress.work with
   | []=>none
   | work::rest=>some (setFold (processWork s nodeFacts deviceFacts fold work) k fold
     {progress with work:=rest,attempted:=progress.attempted+1})
 | .rollback k=>onProgress s k fun fold progress=>
   match progress.work with
   | []=>none
   | _::rest=>some (setFold s k fold
     ⟨progress.members,rest,progress.attempted+1,progress.retryable+1⟩)
 | .cut k=>onProgress s k fun fold progress=>
   if progress.attempted=0∨progress.work=[] then none
   else some (setFold s k fold ⟨progress.members,[],progress.attempted,progress.retryable+1⟩)
 | .advance k=>onProgress s k fun fold progress=>
   if progress.work=[]∧progress.retryable=0 then
    some {advanceApplied s fold.source.key fold.revision with folds:=s.folds.pop k}
   else none
 | .stop k=>some {s with folds:=s.folds.pop k}
end

/-- The node after a step is the node before it, after a transaction on its axis, or a new row. -/
def NodeFrom (s s':State) (node?:Option NodeRow)(node':NodeRow):Prop:=
 (∃node,node?=some node∧node'.id=node.id∧
   Moves s.sequence s'.sequence node.health node'.health)∨
  (s.nextNode≤node'.id∧node'.id<s'.nextNode∧∃verdict,node'.health=.fresh verdict)

def DeviceFrom (s s':State)(deviceId:DeviceId)(device':DeviceRow):Prop:=
 (∃device,s.devices.get deviceId=some device∧
   Moves s.sequence s'.sequence device.checks device'.checks∧
   ∀node',device'.node=some node'→NodeFrom s s' device.node node')∨
  (s.nextDevice≤deviceId∧deviceId<s'.nextDevice∧(∃verdict,device'.checks=.fresh verdict)∧
   device'.node=none)

structure TableStep (s s':State):Prop where
 sequence:s.sequence ≤ s'.sequence
 nextDevice:s.nextDevice ≤ s'.nextDevice
 nextNode:s.nextNode ≤ s'.nextNode
 rows:∀deviceId device',s'.devices.get deviceId=some device'→DeviceFrom s s' deviceId device'

section
variable {s s':State}

lemma nodeFrom_of_le (hle:s.sequence ≤ s'.sequence)(node':NodeRow):
 NodeFrom s s' (some node') node':=
 .inl ⟨node',rfl,rfl,(wrote_of_le hle _).moves⟩

variable {device:DeviceRow}{deviceId:DeviceId}

lemma deviceFrom_of_le (hle:s.sequence ≤ s'.sequence)(hget:s.devices.get deviceId=some device):
 DeviceFrom s s' deviceId device:=by
 refine .inl ⟨device,hget,(wrote_of_le hle _).moves,?_⟩
 intro node' hnode
 rw[hnode]
 exact nodeFrom_of_le hle node'
lemma tableStep_of_subset (hdevices:∀deviceId device,s'.devices.get deviceId=some device→
  s.devices.get deviceId=some device)(hle:s.sequence ≤ s'.sequence)
 (hnextDevice:s'.nextDevice=s.nextDevice)(hnextNode:s'.nextNode=s.nextNode):TableStep s s':=by
 refine ⟨hle,hnextDevice.ge,hnextNode.ge,?_⟩
 intro deviceId device hget
 exact deviceFrom_of_le hle (hdevices deviceId device hget)
lemma tableStep_of_devices (hdevices:s'.devices=s.devices)(hle:s.sequence ≤ s'.sequence)
 (hnextDevice:s'.nextDevice=s.nextDevice)(hnextNode:s'.nextNode=s.nextNode):TableStep s s':=
 tableStep_of_subset (fun _ _ hget=>hdevices ▸ hget) hle hnextDevice hnextNode
lemma tableStep_set {device':DeviceRow}(hdevices:s'.devices=s.devices.set deviceId device')
 (hle:s.sequence ≤ s'.sequence)(hnextDevice:s.nextDevice ≤ s'.nextDevice)
 (hnextNode:s.nextNode ≤ s'.nextNode)(hfrom:DeviceFrom s s' deviceId device'):TableStep s s':=by
 refine ⟨hle,hnextDevice,hnextNode,?_⟩
 rw[hdevices]
 exact forall_get_set hfrom fun _ _ hold=>deviceFrom_of_le hle hold
lemma tableStep_setRow {sequence:ℕ}{device':DeviceRow}(hget:s.devices.get deviceId=some device)
 (hchecks:Moves s.sequence sequence device.checks device'.checks)(hnode:device'.node=device.node):
 TableStep s (setRow s sequence deviceId device'):=by
 refine tableStep_set rfl hchecks.le (le_refl _) (le_refl _) (.inl ⟨device,hget,hchecks,?_⟩)
 intro node' hnode'
 rw[←hnode,hnode']
 exact nodeFrom_of_le hchecks.le node'
lemma tableStep_setNodeRow {sequence:ℕ}{node node':NodeRow}
 (hget:s.devices.get deviceId=some device)(hnode:device.node=some node)
 (hhealth:Moves s.sequence sequence node.health node'.health)(hid:node'.id=node.id):
 TableStep s (setNodeRow s sequence deviceId device (some node')):=by
 refine tableStep_set rfl hhealth.le (le_refl _) (le_refl _)
  (.inl ⟨device,hget,(wrote_of_le hhealth.le _).moves,?_⟩)
 intro other hother
 cases hother
 exact .inl ⟨node,hnode,hid,hhealth⟩
lemma onNode_eq_some {f:DeviceRow→NodeRow→State}(h:onNode s deviceId f=some s'):
 ∃device node,s.devices.get deviceId=some device∧device.node=some node∧s'=f device node:=by
 obtain ⟨device,hget,hrest⟩:=Option.bind_eq_some_iff.mp h
 obtain ⟨node,hnode,rfl⟩:=Option.map_eq_some_iff.mp hrest
 exact ⟨device,node,hget,hnode,rfl⟩
lemma onProgress_eq_some {k:FoldId}{f:Fold→Progress→Option State}(h:onProgress s k f=some s'):
 ∃fold progress,s.folds.get k=some fold∧fold.progress=some progress∧f fold progress=some s':=by
 obtain ⟨fold,hfold,hrest⟩:=Option.bind_eq_some_iff.mp h
 obtain ⟨progress,hprogress,hstep⟩:=Option.bind_eq_some_iff.mp hrest
 exact ⟨fold,progress,hfold,hprogress,hstep⟩
end

def Settled (s:State)(revision:ℕ):Member→Prop
 | .node deviceId nodeId=>∀device node,s.devices.get deviceId=some device→
   device.node=some node→node.id=nodeId→ revision≤node.health.ledger.mark
 | .device deviceId=>∀device,s.devices.get deviceId=some device→
   revision≤device.checks.ledger.mark
def Member.Known (s:State):Member→Prop
 | .node _ nodeId=>nodeId<s.nextNode
 | .device deviceId=>deviceId<s.nextDevice

structure ProgressOk (s:State)(fold:Fold)(progress:Progress):Prop where
 receipts:∀deviceId nodeId observation,.node deviceId nodeId observation∈progress.work→
  observation.receipt=fold.source.receipt fold.revision
 known:∀member∈progress.members,member.Known s
 settled:progress.retryable=0→∀member∈progress.members,
  (∃work∈progress.work,work.member=member)∨Settled s fold.revision member

structure FoldOk (s:State)(fold:Fold):Prop where
 drawn:fold.revision ≤ s.sequence
 progress:∀progress,fold.progress=some progress→ProgressOk s fold progress

structure DeviceOk (s:State)(deviceId:DeviceId)(device:DeviceRow):Prop where
 known:deviceId<s.nextDevice
 checks:AxisOk s.sequence device.checks
 node:∀node,device.node=some node→node.id<s.nextNode∧AxisOk s.sequence node.health

structure Inv (s:State):Prop where
 published:∀revision published,s.published.get revision=some published→ revision ≤ s.sequence
 devices:∀deviceId device,s.devices.get deviceId=some device→DeviceOk s deviceId device
 folds:∀k fold,s.folds.get k=some fold→FoldOk s fold

section
variable {s s':State}

lemma Member.Known.step {member:Member}(h:member.Known s)(ht:TableStep s s'):member.Known s':=by
 cases member with
 | node=>exact h.trans_le ht.nextNode
 | device=>exact h.trans_le ht.nextDevice

/-- A receipt is kept, and a row that takes the place of a deleted one is another row. -/
lemma Settled.step {revision:ℕ}{member:Member}(h:Settled s revision member)
 (hknown:member.Known s)(ht:TableStep s s'):Settled s' revision member:=by
 cases member with
 | node deviceId=>
  intro device' node' hget' hnode' hid
  rcases ht.rows deviceId device' hget' with ⟨device,hget,-,hfrom⟩|⟨-,-,-,hnone⟩
  · rcases hfrom node' hnode' with ⟨node,hnode,hsame,hmoves⟩|⟨hnew,-⟩
    · exact (h device node hget hnode (hsame.symm.trans hid)).trans hmoves.later.2.1
    · rw[hid] at hnew
      exact absurd hknown (not_lt.mpr hnew)
  · rw[hnone] at hnode'
    cases hnode'
 | device deviceId=>
  intro device' hget'
  rcases ht.rows deviceId device' hget' with ⟨device,hget,hmoves,-⟩|⟨hnew,-⟩
  · exact (h device hget).trans hmoves.later.2.1
  · exact absurd hknown (not_lt.mpr hnew)

variable {fold:Fold}{progress:Progress}{work:Work}

lemma ProgressOk.step (h:ProgressOk s fold progress)(ht:TableStep s s'):
 ProgressOk s' fold progress where
 receipts:=h.receipts
 known member hmem:=(h.known member hmem).step ht
 settled hretryable member hmem:=by
  rcases h.settled hretryable member hmem with hwork|hsettled
  · exact .inl hwork
  · exact .inr (hsettled.step (h.known member hmem) ht)
lemma FoldOk.step (h:FoldOk s fold)(ht:TableStep s s'):FoldOk s' fold:=
 ⟨h.drawn.trans ht.sequence,fun progress hprogress=>(h.progress progress hprogress).step ht⟩
lemma nodeOk_of_from {node?:Option NodeRow}{node':NodeRow}
 (hold:∀node,node?=some node→node.id<s.nextNode∧AxisOk s.sequence node.health)
 (hfrom:NodeFrom s s' node? node')(ht:TableStep s s'):
 node'.id<s'.nextNode∧AxisOk s'.sequence node'.health:=by
 rcases hfrom with ⟨node,hnode,hid,hmoves⟩|⟨-,hlt,verdict,hfresh⟩
 · obtain ⟨hknown,hok⟩:=hold node hnode
   exact ⟨hid ▸ hknown.trans_le ht.nextNode,hmoves.ok hok⟩
 · rw[hfresh]
   exact ⟨hlt,axisOk_fresh _ _⟩
lemma Inv.deviceOk (h:Inv s)(ht:TableStep s s'){deviceId:DeviceId}{device':DeviceRow}
 (hget':s'.devices.get deviceId=some device'):DeviceOk s' deviceId device':=by
 rcases ht.rows deviceId device' hget' with
  ⟨device,hget,hmoves,hfrom⟩ | ⟨-,hlt,⟨verdict,hfresh⟩,hnone⟩
 · have hok:=h.devices deviceId device hget
   refine ⟨hok.known.trans_le ht.nextDevice,hmoves.ok hok.checks,?_⟩
   intro node' hnode'
   exact nodeOk_of_from hok.node (hfrom node' hnode') ht
 · refine ⟨hlt,?_,?_⟩
   · rw[hfresh]
     exact axisOk_fresh _ _
   · intro node' hnode'
     rw[hnone] at hnode'
     cases hnode'

lemma Inv.table (h:Inv s)(ht:TableStep s s')(hpublished:s'.published=s.published)
 (hfolds:s'.folds=s.folds):Inv s' where
 published revision published hget:=by
  rw[hpublished] at hget
  exact (h.published revision published hget).trans ht.sequence
 devices _ _ hget:=h.deviceOk ht hget
 folds k fold hget:=by
  rw[hfolds] at hget
  exact (h.folds k fold hget).step ht
lemma Inv.withFolds (h:Inv s){folds:Dict FoldId Fold}
 (hfolds:∀k fold,folds.get k=some fold→FoldOk s fold):Inv {s with folds:=folds}:=by
 have ht:TableStep s {s with folds:=folds}:=tableStep_of_devices rfl (le_refl _) rfl rfl
 refine ⟨h.published,fun _ _ hget=>h.deviceOk ht hget,?_⟩
 intro k fold hget
 exact (hfolds k fold hget).step ht
lemma Inv.setFold (h:Inv s){k:FoldId}(hdrawn:fold.revision ≤ s.sequence)
 (hok:ProgressOk s fold progress):Inv (setFold s k fold progress):=by
 apply h.withFolds
 intro j other hget
 rcases get_set_eq_some hget with ⟨-,rfl⟩|⟨-,hold⟩
 · refine ⟨hdrawn,fun other hother=>?_⟩
   cases hother
   exact ⟨hok.receipts,hok.known,hok.settled⟩
 · exact h.folds j other hold
lemma Inv.popFold (h:Inv s)(k:FoldId):Inv {s with folds:=s.folds.pop k}:=by
 apply h.withFolds
 intro j fold hget
 exact h.folds j fold (get_pop_eq_some hget).2

lemma workOf_eq_some {deviceId:DeviceId}{device:DeviceRow}(h:workOf fold deviceId device=some work):
 (∃node entry,device.node=some node∧work=.node deviceId node.id (observe fold node entry))∨
  ∃item,item.deviceId=deviceId∧work=.device item:=by
 unfold workOf at h
 split at h
 · split at h
   · obtain ⟨node,hnode,hrest⟩:=Option.bind_eq_some_iff.mp h
     split at hrest
     · obtain ⟨entry,-,rfl⟩:=Option.map_eq_some_iff.mp hrest
       exact .inl ⟨node,entry,hnode,rfl⟩
     · cases hrest
   · obtain ⟨item,hitem,rfl⟩:=Option.map_eq_some_iff.mp h
     exact .inr ⟨item,by simpa using find?_some hitem,rfl⟩
 · cases h
lemma mem_inventory {devices:Dict DeviceId DeviceRow}(h:work∈inventory devices fold):
 ∃deviceId device,devices.get deviceId=some device∧workOf fold deviceId device=some work:=by
 obtain ⟨⟨deviceId,device⟩,hmem,hwork⟩:=mem_filterMap.mp h
 exact ⟨deviceId,device,get_eq_some_iff.mpr ((mem_insertionSort _).mp hmem),hwork⟩
lemma settled_of_hasReceipt {revision:ℕ}(h:hasReceipt s.devices revision work):
 Settled s revision work.member:=by
 cases work with
 | node=>
  intro device node hget hnode _
  simpa[hasReceipt,hget,hnode] using h
 | device=>
  intro device hget
  simpa[hasReceipt,hget] using h
lemma Inv.progressOk_start (h:Inv s)(fold:Fold):
 ProgressOk s fold (startProgress s.devices fold) where
 receipts deviceId nodeId observation hmem:=by
  obtain ⟨d,device,-,hwork⟩:=mem_inventory (mem_filter.mp hmem).1
  rcases workOf_eq_some hwork with ⟨node,entry,-,heq⟩|⟨item,-,heq⟩
  · cases heq
    rfl
  · cases heq
 known member hmem:=by
  obtain ⟨work,hwork,rfl⟩:=mem_map.mp hmem
  obtain ⟨deviceId,device,hget,hof⟩:=mem_inventory hwork
  have hok:=h.devices deviceId device hget
  rcases workOf_eq_some hof with ⟨node,entry,hnode,rfl⟩|⟨item,rfl,rfl⟩
  · exact (hok.node node hnode).1
  · exact hok.known
 settled _ member hmem:=by
  obtain ⟨work,hwork,rfl⟩:=mem_map.mp hmem
  by_cases hreceipt:hasReceipt s.devices fold.revision work
  · exact .inr (settled_of_hasReceipt hreceipt)
  · exact .inl ⟨work,mem_filter.mpr ⟨hwork,by simpa using hreceipt⟩,rfl⟩
lemma Inv.receipt (h:Inv s){k:FoldId}{rest:List Work}(hfold:s.folds.get k=some fold)
 (hprogress:fold.progress=some progress)(hwork:progress.work=work::rest)(deviceId:DeviceId)
 (nodeId:NodeId)(observation:NodeObservation)(heq:work=.node deviceId nodeId observation):
 observation.receipt=fold.source.receipt fold.revision:=by
 apply ((h.folds k fold hfold).progress progress hprogress).receipts deviceId nodeId observation
 rw[hwork,heq]
 exact mem_cons_self
lemma receipt_drawn (hdrawn:fold.revision ≤ s.sequence):
 ∀r,(fold.source.receipt fold.revision).revision=some r→ r ≤ s.sequence:=by
 intro r hr
 cases hr
 exact hdrawn

lemma tableStep_processWork (hdrawn:fold.revision ≤ s.sequence)(nodeFacts:NodeFacts)
 (deviceFacts:DeviceFacts)
 (hreceipt:∀deviceId nodeId observation,work=.node deviceId nodeId observation→
  observation.receipt=fold.source.receipt fold.revision):
 TableStep s (processWork s nodeFacts deviceFacts fold work)∧
  Settled (processWork s nodeFacts deviceFacts fold work) fold.revision work.member:=by
 have hrefl:TableStep s s:=tableStep_of_devices rfl (le_refl _) rfl rfl
 cases work with
 | node deviceId nodeId observation=>
  have hown:=hreceipt deviceId nodeId observation rfl
  simp only[processWork]
  cases hnext:onNode s deviceId fun device node=>
    setNodeRow s (processNodeHealth s.sequence node nodeFacts observation).sequence deviceId device
     (some (processNodeHealth s.sequence node nodeFacts observation).row) with
  | none=>
   refine ⟨hrefl,fun device node hget hnode _=>?_⟩
   have hdevice:s.devices.get deviceId=some device:=hget
   simp[onNode,hdevice,hnode] at hnext
  | some=>
   obtain ⟨device,node,hget,hnode,rfl⟩:=onNode_eq_some hnext
   have hfolded:=nodeFolded_processNodeHealth node nodeFacts observation
    (hown ▸ receipt_drawn hdrawn)
   refine ⟨tableStep_setNodeRow hget hnode hfolded.health hfolded.id,?_⟩
   intro device' node' hget' hnode' _
   cases (get_set_self _ _ _).symm.trans hget'
   cases hnode'
   exact hfolded.settled fold.revision (by rw[hown];rfl)
 | device item=>
  simp only[processWork]
  cases hget:s.devices.get item.deviceId with
  | none=>
   refine ⟨hrefl,fun device hdevice=>?_⟩
   cases hget.symm.trans hdevice
  | some device=>
   have hfolded:=deviceFolded_applyDeviceHealth device deviceFacts item (receipt_drawn hdrawn)
    fold.source.reportedAt
   refine ⟨tableStep_setRow hget hfolded.checks hfolded.node,?_⟩
   intro device' hget'
   cases (get_set_self _ _ _).symm.trans hget'
   exact hfolded.settled fold.revision rfl
end

section
variable {s s':State}{label:Label}

inductive Transition (s:State):State→Prop where
 | rows {s':State}(table:TableStep s s')(published:s'.published=s.published)
   (folds:s'.folds=s.folds)(applied:s'.applied=s.applied):Transition s s'
 | publish {revision:ℕ}(published:Published)(drawn:revision ≤ s.sequence):
   Transition s {s with published:=s.published.set revision published}
 | load (k:FoldId){revision:ℕ}{source:Published}(found:s.published.get revision=some source):
   Transition s {s with folds:=s.folds.set k ⟨revision,source,none⟩}
 | inventory {k:FoldId}{fold:Fold}(found:s.folds.get k=some fold):
   Transition s (setFold s k fold (startProgress s.devices fold))
 | foldItem {k:FoldId}{fold:Fold}{progress:Progress}{work:Work}{rest:List Work}
   (nodeFacts:NodeFacts)(deviceFacts:DeviceFacts)(found:s.folds.get k=some fold)
   (started:fold.progress=some progress)(next:progress.work=work::rest):
   Transition s (setFold (processWork s nodeFacts deviceFacts fold work) k fold
    {progress with work:=rest,attempted:=progress.attempted+1})
 | retry {k:FoldId}{fold:Fold}{progress:Progress}{rest:List Work}(attempted:ℕ)
   (found:s.folds.get k=some fold)(started:fold.progress=some progress)
   (left:∀work∈rest,work∈progress.work):
   Transition s (setFold s k fold ⟨progress.members,rest,attempted,progress.retryable+1⟩)
 | advance {k:FoldId}{fold:Fold}{progress:Progress}(found:s.folds.get k=some fold)
   (started:fold.progress=some progress)(done:progress.work=[])
   (clean:progress.retryable=0):
   Transition s {advanceApplied s fold.source.key fold.revision with folds:=s.folds.pop k}
 | stop (k:FoldId):Transition s {s with folds:=s.folds.pop k}

lemma transition_of_step (hstep:step s label=some s'):Transition s s':=by
 cases label with
 | draw=>
  cases hstep
  exact .rows (tableStep_of_devices rfl (Nat.le_succ _) rfl rfl) rfl rfl rfl
 | publish revision published=>
  simp only[step] at hstep
  split at hstep
  · rename_i hdrawn
    cases hstep
    exact .publish published hdrawn.1
  · cases hstep
 | createDevice=>
  cases hstep
  refine .rows (tableStep_set rfl (le_refl _) (Nat.le_succ _) (le_refl _) (.inr ?_)) rfl rfl rfl
  exact ⟨le_refl _,Nat.lt_succ_self _,⟨_,rfl⟩,rfl⟩
 | setDevice=>
  obtain ⟨device,hget,rfl⟩:=Option.map_eq_some_iff.mp hstep
  exact .rows (tableStep_setRow hget (wrote_of_le (le_refl _) _).moves rfl) rfl rfl rfl
 | deleteDevice=>
  cases hstep
  refine .rows (tableStep_of_subset ?_ (le_refl _) rfl rfl) rfl rfl rfl
  intro other device hget
  exact (get_pop_eq_some hget).2
 | createNode=>
  obtain ⟨device,hget,hrest⟩:=Option.bind_eq_some_iff.mp hstep
  split at hrest
  · cases hrest
  cases hrest
  refine .rows (tableStep_set rfl (le_refl _) (le_refl _) (Nat.le_succ _)
   (.inl ⟨device,hget,(wrote_of_le (le_refl _) _).moves,?_⟩)) rfl rfl rfl
  intro node' hnode'
  cases hnode'
  exact .inr ⟨le_refl _,Nat.lt_succ_self _,_,rfl⟩
 | setNode=>
  obtain ⟨device,node,hget,hnode,rfl⟩:=onNode_eq_some hstep
  exact .rows (tableStep_setNodeRow hget hnode (wrote_of_le (le_refl _) _).moves rfl) rfl rfl rfl
 | deleteNode=>
  obtain ⟨device,hget,rfl⟩:=Option.map_eq_some_iff.mp hstep
  refine .rows (tableStep_set rfl (le_refl _) (le_refl _) (le_refl _)
   (.inl ⟨device,hget,(wrote_of_le (le_refl _) _).moves,?_⟩)) rfl rfl rfl
  intro node' hnode'
  cases hnode'
 | updateDeviceChecks deviceId healthy summary summaryChanged observedAt episode=>
  obtain ⟨device,hget,rfl⟩:=Option.map_eq_some_iff.mp hstep
  split
  · rename_i hlost
    exact .rows (tableStep_of_devices rfl (le_of_updateDeviceChecksLocked hlost) rfl rfl) rfl rfl rfl
  · rename_i hupdated
    have hwrote:=deviceWrote_updateDeviceChecksLocked (fun r hr=>by cases hr) hupdated []
    exact .rows (tableStep_setRow hget hwrote.checks.moves hwrote.node) rfl rfl rfl
 | nodeStateTransition _ update markOffline summaryChanged observedAt=>
  obtain ⟨device,node,hget,hnode,rfl⟩:=onNode_eq_some hstep
  have hwrote:NodeWrote s.sequence node (applyLockedNodeStateTransition s.sequence node update
    markOffline summaryChanged none observedAt):=
   nodeWrote_transition (fun r hr=>by cases hr) _ _ _ _
  exact .rows (tableStep_setNodeRow hget hnode hwrote.health.moves hwrote.id) rfl rfl rfl
 | load k=>
  obtain ⟨source,hsource,hrest⟩:=Option.bind_eq_some_iff.mp hstep
  split at hrest
  · cases hrest
  cases hrest
  exact .load k hsource
 | inventory=>
  obtain ⟨fold,hfold,hrest⟩:=Option.bind_eq_some_iff.mp hstep
  split at hrest
  · cases hrest
  cases hrest
  exact .inventory hfold
 | foldItem k nodeFacts deviceFacts=>
  obtain ⟨fold,progress,hfold,hprogress,hrest⟩:=onProgress_eq_some hstep
  split at hrest
  · cases hrest
  rename_i work rest hwork
  cases hrest
  exact .foldItem nodeFacts deviceFacts hfold hprogress hwork
 | rollback k=>
  obtain ⟨fold,progress,hfold,hprogress,hrest⟩:=onProgress_eq_some hstep
  split at hrest
  · cases hrest
  rename_i work rest hwork
  cases hrest
  refine .retry _ hfold hprogress fun other hmem=>?_
  rw[hwork]
  exact mem_cons_of_mem _ hmem
 | cut=>
  obtain ⟨fold,progress,hfold,hprogress,hrest⟩:=onProgress_eq_some hstep
  split at hrest
  · cases hrest
  cases hrest
  exact .retry _ hfold hprogress fun other hmem=>by cases hmem
 | advance k=>
  obtain ⟨fold,progress,hfold,hprogress,hrest⟩:=onProgress_eq_some hstep
  split at hrest
  · rename_i hdone
    cases hrest
    exact .advance hfold hprogress hdone.1 hdone.2
  · cases hrest
 | stop k=>
  cases hstep
  exact .stop k

lemma tableStep_advanceApplied (s:State)(key:HostId×SectionName)(revision:ℕ)
 (folds:Dict FoldId Fold):TableStep s {advanceApplied s key revision with folds:=folds}:=by
 unfold advanceApplied
 split <;> exact tableStep_of_devices rfl (le_refl _) rfl rfl
lemma Inv.tableStep (h:Inv s)(hstep:Transition s s'):TableStep s s':=by
 cases hstep with
 | rows table=>exact table
 | publish | load | inventory | retry | stop=>exact tableStep_of_devices rfl (le_refl _) rfl rfl
 | @foldItem k fold progress work rest nodeFacts deviceFacts found started next=>
  obtain ⟨ht,-⟩:=tableStep_processWork (h.folds k fold found).drawn nodeFacts deviceFacts
   (h.receipt found started next)
  exact {ht with}
 | advance=>exact tableStep_advanceApplied s _ _ _
lemma processWork_frame (s:State)(nodeFacts:NodeFacts)(deviceFacts:DeviceFacts)(fold:Fold)
 (work:Work):(processWork s nodeFacts deviceFacts fold work).published=s.published∧
  (processWork s nodeFacts deviceFacts fold work).folds=s.folds∧
  (processWork s nodeFacts deviceFacts fold work).applied=s.applied:=by
 cases work with
 | node deviceId nodeId observation=>
  simp only[processWork]
  cases hnext:onNode s deviceId fun device node=>
    setNodeRow s (processNodeHealth s.sequence node nodeFacts observation).sequence deviceId device
     (some (processNodeHealth s.sequence node nodeFacts observation).row) with
  | none=>exact ⟨rfl,rfl,rfl⟩
  | some=>
   obtain ⟨device,node,-,-,rfl⟩:=onNode_eq_some hnext
   exact ⟨rfl,rfl,rfl⟩
 | device item=>
  simp only[processWork]
  cases s.devices.get item.deviceId with
  | none | some=>exact ⟨rfl,rfl,rfl⟩
lemma Inv.foldItem (h:Inv s){k:FoldId}{fold:Fold}{progress:Progress}{work:Work}
 {rest:List Work}(hfold:s.folds.get k=some fold)(hprogress:fold.progress=some progress)
 (hwork:progress.work=work::rest)(nodeFacts:NodeFacts)(deviceFacts:DeviceFacts):
 Inv (HealthFold.setFold (processWork s nodeFacts deviceFacts fold work) k fold
  {progress with work:=rest,attempted:=progress.attempted+1}):=by
 have hok:=h.folds k fold hfold
 have hprogressOk:=hok.progress progress hprogress
 obtain ⟨ht,hsettled⟩:=
  tableStep_processWork hok.drawn nodeFacts deviceFacts (h.receipt hfold hprogress hwork)
 obtain ⟨hpublished,hfolds,-⟩:=processWork_frame s nodeFacts deviceFacts fold work
 have hprogressOk':=hprogressOk.step ht
 refine (h.table ht hpublished hfolds).setFold (hok.drawn.trans ht.sequence) ⟨?_,hprogressOk'.known,?_⟩
 · intro deviceId nodeId observation hmem
   apply hprogressOk.receipts deviceId nodeId observation
   rw[hwork]
   exact mem_cons_of_mem _ hmem
 · intro hretryable member hmem
   rcases hprogressOk'.settled hretryable member hmem with ⟨other,hother,rfl⟩|hdone
   · rw[hwork] at hother
     rcases mem_cons.mp hother with rfl|hrest
     · exact .inr hsettled
     · exact .inl ⟨other,hrest,rfl⟩
   · exact .inr hdone

/-- A transaction rolled back or the deadline cut the rest: the fold no longer claims to have settled. -/
lemma Inv.retry (h:Inv s){k:FoldId}{fold:Fold}{progress:Progress}
 (hfold:s.folds.get k=some fold)(hprogress:fold.progress=some progress){rest:List Work}
 (hrest:∀work∈rest,work∈progress.work)(attempted:ℕ):
 Inv (HealthFold.setFold s k fold ⟨progress.members,rest,attempted,progress.retryable+1⟩):=by
 have hok:=h.folds k fold hfold
 have hprogressOk:=hok.progress progress hprogress
 refine h.setFold hok.drawn ⟨?_,hprogressOk.known,?_⟩
 · intro deviceId nodeId observation hmem
   exact hprogressOk.receipts deviceId nodeId observation (hrest _ hmem)
 · intro hretryable
   exact absurd hretryable (Nat.succ_ne_zero _)

lemma inv_transition (h:Inv s)(hstep:Transition s s'):Inv s':=by
 have ht:=h.tableStep hstep
 cases hstep with
 | rows table published folds=>exact h.table ht published folds
 | @publish revision published drawn=>
  exact ⟨forall_get_set drawn h.published,fun _ _ hget=>h.deviceOk ht hget,
   fun k fold hget=>(h.folds k fold hget).step ht⟩
 | @load k revision source found=>
  refine h.withFolds (forall_get_set ?_ h.folds)
  exact ⟨h.published revision source found,fun progress hprogress=>by cases hprogress⟩
 | @inventory k fold found=>exact h.setFold (h.folds k fold found).drawn (h.progressOk_start fold)
 | foldItem nodeFacts deviceFacts found started next=>
  exact h.foldItem found started next nodeFacts deviceFacts
 | retry attempted found started left=>exact h.retry found started left attempted
 | @advance k fold progress=>
  have hinv:Inv (advanceApplied s fold.source.key fold.revision):=by
   unfold advanceApplied
   split
   · exact h
   · exact h.table (tableStep_of_devices rfl (le_refl _) rfl rfl) rfl rfl
  have hfolds:(advanceApplied s fold.source.key fold.revision).folds=s.folds:=by
   unfold advanceApplied
   split <;> rfl
  rw[←hfolds]
  exact hinv.popFold k
 | stop k=>exact h.popFold k

lemma inv_step (h:Inv s)(hstep:step s label=some s'):Inv s':=
 inv_transition h (transition_of_step hstep)
end

/-- On one axis: each applied write had a greater revision than all before it, the stored verdict is the
one of the greatest, and no generation was settled twice. -/
def AxisOrdered {V:Type}(axis:Axis V):Prop:=axis.register.Ordered∧axis.ledger.Once

def FactsOrdered (s:State):Prop:=
 ∀deviceId device,s.devices.get deviceId=some device→AxisOrdered device.checks∧
  ∀node,device.node=some node→AxisOrdered node.health

lemma Inv.factsOrdered {s:State}(h:Inv s):FactsOrdered s:=by
 intro deviceId device hget
 have hok:=h.devices deviceId device hget
 refine ⟨⟨hok.checks.ordered,hok.checks.once⟩,fun node hnode=>?_⟩
 obtain ⟨-,hhealth⟩:=hok.node node hnode
 exact ⟨hhealth.ordered,hhealth.once⟩

/-- The fold has dealt with every row that its inventory read found for an item of the section: the row
has the generation's receipt, or it is gone. -/
def FoldSettled (s:State)(fold:Fold):Prop:=
 ∃progress,fold.progress=some progress∧∀member∈progress.members,Settled s fold.revision member

/-- One step: observation revisions and receipts never decrease, a changed register has a greater
revision, and the watermark changes to the generation of a fold that has settled. -/
structure Advances (s s':State):Prop where
 checks:∀deviceId device device',s.devices.get deviceId=some device→
  s'.devices.get deviceId=some device'→AxisLater device.checks device'.checks
 nodes:∀deviceId device device' node node',s.devices.get deviceId=some device→
  s'.devices.get deviceId=some device'→device.node=some node→device'.node=some node'→
  node'.id=node.id→AxisLater node.health node'.health
 watermark:∀key revision,s'.applied.get key=some revision→s.applied.get key=some revision∨
  ∃k fold,s.folds.get k=some fold∧fold.source.key=key∧fold.revision=revision∧
   FoldSettled s' fold

section
variable {s s':State}{label:Label}

variable {deviceId:DeviceId}

lemma Inv.checks_later (h:Inv s)(ht:TableStep s s'){device device':DeviceRow}
 (hget:s.devices.get deviceId=some device)(hget':s'.devices.get deviceId=some device'):
 AxisLater device.checks device'.checks:=by
 rcases ht.rows deviceId device' hget' with ⟨old,hold,hmoves,-⟩|⟨hnew,-⟩
 · cases hget.symm.trans hold
   exact hmoves.later
 · exact absurd (h.devices deviceId device hget).known (not_lt.mpr hnew)
lemma Inv.health_later (h:Inv s)(ht:TableStep s s'){device device':DeviceRow}{node node':NodeRow}
 (hget:s.devices.get deviceId=some device)(hget':s'.devices.get deviceId=some device')
 (hnode:device.node=some node)(hnode':device'.node=some node')(hid:node'.id=node.id):
 AxisLater node.health node'.health:=by
 rcases ht.rows deviceId device' hget' with ⟨old,hold,-,hfrom⟩|⟨-,-,-,hnone⟩
 · cases hget.symm.trans hold
   rcases hfrom node' hnode' with ⟨other,hother,-,hmoves⟩|⟨hnew,-⟩
   · cases hnode.symm.trans hother
     exact hmoves.later
   · rw[hid] at hnew
     exact absurd ((h.devices deviceId device hget).node node hnode).1 (not_lt.mpr hnew)
 · rw[hnone] at hnode'
   cases hnode'
lemma applied_advanceApplied {key key':HostId×SectionName}{revision revision':ℕ}
 (h:(advanceApplied s key revision).applied.get key'=some revision'):
 s.applied.get key'=some revision'∨key'=key∧revision'=revision:=by
 unfold advanceApplied at h
 split at h
 · exact .inl h
 · rcases get_set_eq_some h with ⟨hkey,hrevision⟩|⟨-,hold⟩
   · exact .inr ⟨hkey,hrevision⟩
   · exact .inl hold

/-- Only the end of a fold without a retryable row writes the watermark. -/
lemma Inv.watermark (h:Inv s)(hstep:Transition s s'){key:HostId×SectionName}{revision:ℕ}
 (hget:s'.applied.get key=some revision):s.applied.get key=some revision∨
  ∃k fold,s.folds.get k=some fold∧fold.source.key=key∧fold.revision=revision∧FoldSettled s' fold:=by
 have ht:=h.tableStep hstep
 cases hstep with
 | rows _ _ _ applied=>exact .inl (applied ▸ hget)
 | publish | load | inventory | retry | stop=>exact .inl hget
 | @foldItem k fold progress work rest nodeFacts deviceFacts=>
  obtain ⟨-,-,happlied⟩:=processWork_frame s nodeFacts deviceFacts fold work
  exact .inl (happlied ▸ hget)
 | @advance k fold progress found started done clean=>
  rcases applied_advanceApplied hget with hold|⟨rfl,rfl⟩
  · exact .inl hold
  · right
    refine ⟨k,fold,found,rfl,rfl,progress,started,?_⟩
    intro member hmem
    have hok:=(h.folds k fold found).progress progress started
    rcases hok.settled clean member hmem with ⟨work,hleft,-⟩|hsettled
    · rw[done] at hleft
      cases hleft
    · exact hsettled.step (hok.known member hmem) ht

lemma Inv.advances (h:Inv s)(hstep:step s label=some s'):Advances s s':=by
 have htransition:=transition_of_step hstep
 have ht:=h.tableStep htransition
 refine ⟨?_,?_,fun _ _ hget=>h.watermark htransition hget⟩
 · intro deviceId device device' hget hget'
   exact h.checks_later ht hget hget'
 · intro deviceId device device' node node' hget hget' hnode hnode' hid
   exact h.health_later ht hget hget' hnode hnode' hid
end

/-- The history of an axis starts here. -/
structure Unwritten {V:Type}(sequence:ℕ)(axis:Axis V):Prop where
 writes:axis.register.writes=[]
 entries:axis.ledger.entries=[]
 drawn:axis.register.revision ≤ sequence

lemma Unwritten.ok {V:Type}{sequence:ℕ}{axis:Axis V}(h:Unwritten sequence axis):
 AxisOk sequence axis:=
 ⟨Register.ordered_of_unwritten h.writes,Ledger.once_of_empty h.entries,h.drawn⟩
lemma unwritten_fresh {V:Type}(sequence:ℕ)(value:V):Unwritten sequence (Axis.fresh value):=
 ⟨rfl,rfl,Nat.zero_le _⟩

/-- No fold is under way, and the stored revisions were drawn from the sequence. -/
structure Opening (s:State):Prop where
 published:∀revision published,s.published.get revision=some published→ revision ≤ s.sequence
 devices:∀deviceId device,s.devices.get deviceId=some device→
  deviceId<s.nextDevice∧Unwritten s.sequence device.checks∧
   ∀node,device.node=some node→node.id<s.nextNode∧Unwritten s.sequence node.health
 folds:s.folds=Dict.empty

lemma Opening.inv {s:State}(h:Opening s):Inv s where
 published:=h.published
 devices deviceId device hget:=by
  obtain ⟨hknown,hchecks,hnode⟩:=h.devices deviceId device hget
  refine ⟨hknown,hchecks.ok,fun node hsome=>?_⟩
  obtain ⟨hid,hhealth⟩:=hnode node hsome
  exact ⟨hid,hhealth.ok⟩
 folds k fold hget:=by
  rw[h.folds] at hget
  cases hget

theorem health_facts_ordered {initial s:State} {labels:List Label} (hopening:Opening initial)
 (hrun:run step initial labels=some s):
 FactsOrdered s∧∀label s',step s label=some s'→ Advances s s':=by
 have hinv:Inv s:=run_invariant Inv (fun _ _ _ hu hnext=>inv_step hu hnext) hopening.inv hrun
 exact ⟨hinv.factsOrdered,fun label s' hstep=>hinv.advances hstep⟩

def oneNode (desiredState:DesiredState):State where
 sequence:=0
 devices:=Dict.empty.set 0 ⟨7,false,none,.fresh ⟨none,none,none⟩,
  some ⟨0,4723,some 5,some "emulator-5554",desiredState,none,.fresh ⟨none,none,none⟩⟩⟩
 published:=Dict.empty
 applied:=Dict.empty
 folds:=Dict.empty
 nextDevice:=1
 nextNode:=1

lemma oneNode_opening (desiredState:DesiredState):Opening (oneNode desiredState):=by
 refine ⟨?_,?_,rfl⟩
 · intro revision published hget
   cases hget
 · intro deviceId device hget
   rcases get_set_eq_some hget with ⟨rfl,rfl⟩|⟨-,hold⟩
   · refine ⟨Nat.zero_lt_one,unwritten_fresh _ _,fun node hnode=>?_⟩
     cases hnode
     exact ⟨Nat.zero_lt_one,unwritten_fresh _ _⟩
   · cases hold

def refusedSection:Published where
 hostId:=7
 items:=.nodes [⟨4723,false,some 5,some "emulator-5554"⟩]
 reportedAt:=100
 bootId:=some 1
 sectionSequence:=some 1
def calmNode:NodeFacts:=⟨60,false,false,false⟩
def calmDevice:DeviceFacts:=⟨100,true, "Healthy",false,false,false,false,0⟩

/-- A restart event overtakes the verdict of the first section; the second is folded after a rollback. -/
def restartThenRetry:List Label:=
 [.draw,.publish 1 refusedSection,.load 0 1,.inventory 0,
  .nodeStateTransition 0 ⟨some none,some none⟩ false false 101,.foldItem 0 calmNode calmDevice,
  .advance 0,.draw,.publish 3 refusedSection,.load 0 3,.inventory 0,.rollback 0,.stop 0,.load 0 3,
  .inventory 0,.foldItem 0 calmNode calmDevice]

def retried:State:=(run step (oneNode .running) restartThenRetry).getD (oneNode .running)

theorem health_facts_ordered_retried:
 ((retried.devices.get 0).bind (·.node)).map (fun node=>
  (node.health.register.writes.map Prod.fst,node.health.ledger.entries.map Prod.fst)) =
   some ([3,2],[3,1])∧
  FactsOrdered retried∧∀label s',step retried label=some s'→ Advances retried s':=by
 have hrun:run step (oneNode .running) restartThenRetry=some retried:=rfl
 exact ⟨by decide,health_facts_ordered (oneNode_opening .running) hrun⟩

/-- The watermark reaches a generation that lists a node which has neither its receipt nor a later
observation: the node is being stopped, and the inventory leaves it out. -/
theorem watermark_passes_stopping_node:Opening (oneNode .stopped)∧∃s,run step (oneNode .stopped)
  [.draw,.publish 1 refusedSection,.load 0 1,.inventory 0,.advance 0]=some s∧
 s.published.get 1=some refusedSection∧s.applied.get (7,.nodeHealth)=some 1∧
 ∃device node,s.devices.get 0=some device∧device.hostId=7∧device.node=some node∧
  node.port=4723∧node.pid=some 5∧node.health.ledger.mark<1∧
  node.health.register.revision<1:=by
 refine ⟨oneNode_opening .stopped,_,rfl,by decide,by decide,?_⟩
 exact ⟨_,_,rfl,rfl,rfl,rfl,rfl,by decide,by decide⟩
end GridFleet.HealthFold
