import GridFleet.VerificationStops
/-! The lease keeps grid claims off the device and names the operation that may write. Claims are kept off
only from its write to its expiry, and only the transactions that lock it are held to the name. -/
namespace GridFleet.Verification
open Decision DecisionSnapshot IntentReconciler IntentStore ReleaseRollout Interleaving Dict List Option

section
variable {deviceId:DeviceId}{t u:Tables}{now:Instant}{op:OpId}{o o':Operation}
 {action:Action}

lemma holdsLease_eq_false:holdsLease deviceId t op=false↔
  ∀row∈t.intents.rows,row.source=verificationIntentSource deviceId→
   payloadGet row.payload operationIdKey≠some (.str op):=by
 rw[holdsLease,List.any_eq_false]
 refine forall₂_congr fun row _=>?_
 simp

section
variable (h:Acted deviceId t now op o action u o')
include h

lemma Acted.leaseRows:NoNewRows (verificationIntentSource deviceId) t.intents u.intents∨
  (o.phase=.checked∧∀row∈u.intents.rows,row.source=verificationIntentSource deviceId→
   payloadGet row.payload operationIdKey=some (.str op)):=by
 cases h with
 | quiet | stopped | probed=>exact .inl noNewRows_refl
 | leased _ _ _ _ _ hphase _ _ hlease=>
  exact .inr ⟨hphase,hlease⟩
 | started _ _ _ _ htouches=>
  refine .inl (htouches.rows _ (notRollout_verification deviceId) ?_).noNewRows
  rw[mem_append,mem_singleton,not_or]
  exact ⟨verification_notMem_operatorStopSources deviceId,verification_ne_operatorStart deviceId⟩
 | succeeded _ _ _ _ _ hgone=>exact .inl hgone.noNewRows
 | failed _ _ _ _ _ _ _ _ hgone=>
  exact .inl hgone.noNewRows
 | deleted=>exact .inl noNewRows_delete
lemma Acted.prepareDone (hdone:o.phase.prepareDone):o'.phase.prepareDone:=by
 cases h with
 | quiet _ _ hmoves=>exact hmoves.prepared hdone
 | leased | stopped | started=>rfl
 | probed _ _ _ _ _ hnext=>exact hnext
 | succeeded | failed | deleted=>rfl
lemma Acted.noClient (hfree:NoClient t.sessions):NoClient u.sessions:=by
 cases h with
 | quiet | stopped=>exact hfree
 | leased _ _ _ _ _ _ htouches=>
  exact htouches.sessions ▸ hfree
 | started _ _ _ _ htouches | succeeded _ _ _ htouches=>exact htouches.sessions ▸ hfree
 | probed _ _ _ _ _ _ hkeep=>exact hkeep hfree
 | failed _ _ _ _ _ _ hsessions=>
  exact hsessions ▸ hfree
 | deleted=>exact noClient_empty
lemma Acted.unleased (hgap:o'.phase.unleased):o.phase.unleased∨deviceHasLiveSession t=false:=by
 cases h with
 | quiet _ _ hmoves=>exact hmoves.sessionRead hgap
 | leased | stopped | started | succeeded | failed | deleted=>cases hgap
 | probed _ _ _ phase _ hnext=>
  change phase.unleased=true at hgap
  cases phase <;> cases hgap <;> cases hnext

/-- Past its lease write, an operation without the lease changes rows in unfenced transactions only. -/
lemma Acted.tables_eq (hdone:o.phase.prepareDone)(hlost:holdsLease deviceId t op=false)
 (hfenced:action.unfenced=false):u=t:=by
 cases h with
 | quiet=>rfl
 | leased _ _ _ _ _ hphase=>
  rw[hphase] at hdone
  cases hdone
 | stopped=>cases hfenced
 | started _ _ _ hlease | succeeded _ _ hlease | deleted _ _ hlease=>cases hlost.symm.trans hlease
 | probed _ hunfenced=>cases hfenced.symm.trans hunfenced
 | failed _ _ _ _ _ hlease=>
  cases hlost.symm.trans hlease
end
end

def Superseded (deviceId:DeviceId)(s:State)(op:OpId):Prop:=
 ∃o,s.ops.get op=some o∧o.phase.prepareDone∧holdsLease deviceId s.tables op=false

section
variable {text:DatetimeText}{deviceId:DeviceId}{s u:State}{op:OpId}

lemma holdsLease_of_noNewRows {t v:Tables}
 (h:NoNewRows (verificationIntentSource deviceId) t.intents v.intents)
 (hlost:holdsLease deviceId t op=false):holdsLease deviceId v op=false:=by
 rw[holdsLease_eq_false] at hlost ⊢
 intro row hmem hsource
 exact hlost row (h row hmem hsource) hsource
lemma holdsLease_of_other {t:Tables}{other:OpId}(hne:op≠other)
 (h:∀row∈t.intents.rows,row.source=verificationIntentSource deviceId→
  payloadGet row.payload operationIdKey=some (.str other)):holdsLease deviceId t op=false:=by
 rw[holdsLease_eq_false]
 intro row hmem hsource
 rw[h row hmem hsource]
 simpa using hne.symm

lemma superseded_step {label:Label}(h:Superseded deviceId s op)
 (hstep:step text deviceId s label=some u):Superseded deviceId u op:=by
 obtain ⟨o,hget,hdone,hlost⟩:=h
 cases transition_of_step hstep with
 | begun other _ _ hnew=>
  have hne:op≠other:=by
   rintro rfl
   cases hget.symm.trans hnew
  exact ⟨o,by rw[get_set_of_ne _ _ hne,hget],hdone,hlost⟩
 | created other _ _ _ _ _ _ _ hnew _ _ hlease=>
  have hne:op≠other:=by
   rintro rfl
   cases hget.symm.trans hnew
  exact ⟨o,by rw[get_set_of_ne _ _ hne,hget],hdone,holdsLease_of_other hne hlease⟩
 | acted other _ _ p' _ hother hacted=>
  by_cases hne:op=other
  · subst hne
    cases hget.symm.trans hother
    refine ⟨p',get_set_self _ _ _,hacted.prepareDone hdone,?_⟩
    rcases hacted.leaseRows with hrows|⟨hphase,-⟩
    · exact holdsLease_of_noNewRows hrows hlost
    · rw[hphase] at hdone
      cases hdone
  · refine ⟨o,by rw[get_set_of_ne _ _ hne,hget],hdone,?_⟩
    rcases hacted.leaseRows with hrows|⟨-,htoken⟩
    · exact holdsLease_of_noNewRows hrows hlost
    · exact holdsLease_of_other hne htoken
 | outside _ _ houtside=>
  exact ⟨o,houtside.ops ▸ hget,hdone,holdsLease_of_noNewRows houtside.lease hlost⟩
end

theorem superseded_verification_writes_nothing (text:DatetimeText) (deviceId:DeviceId) (s:State)
 (op:OpId) (hsuperseded:Superseded deviceId s op) (labels:List Label) (u:State)
 (hrun:run (step text deviceId) s labels=some u) (action:Action)
 (hfenced:action.unfenced=true→ holdsLease deviceId u.tables op=true) (v:State)
 (hstep:step text deviceId u (.verification op action)=some v):v.tables=u.tables:=by
 obtain ⟨o,hget,hdone,hlost⟩:Superseded deviceId u op:=
  run_invariant (Superseded deviceId · op) (fun _ _ _ h hs=>superseded_step h hs) hsuperseded hrun
 simp only[step,hget,bind_some] at hstep
 obtain ⟨next,hact,rfl⟩:=map_eq_some_iff.mp hstep
 refine (acted_of_act hact).tables_eq hdone hlost ?_
 rw[Bool.eq_false_iff]
 intro hunfenced
 cases hlost.symm.trans (hfenced hunfenced)

/-- A second verification takes the lease over while the first is asking for the device's health, and
starts its node. -/
def takenOver:List Label:=
 preconditionsRead "a" ++ leaseWritten "a" ++ preconditionsRead "b" ++ leaseWritten "b"

def nodeStarted (op:OpId):List Label:=
 oldNodeStopped op++[.verification op (.startNode startChoices),
  .observe phone (some {runningNode with pid:=some 77}),
  .verification op (.waitForNodeRunning false)]
def takenOverEnd:State:=(run (step tallyText 7) idlePhone takenOver).getD idlePhone

/-- The first fails its health check; its failure finds the lease gone. -/
def failedHealth (op:OpId):List Label:=[.verification op (.deviceHealth false)]

def failedHealthEnd:State:=
 (run (step tallyText 7) takenOverEnd (nodeStarted "b" ++ failedHealth "a")).getD takenOverEnd

theorem superseded_verification_writes_nothing_failure:∃v,
 run (step tallyText 7) idlePhone takenOver=some takenOverEnd∧Superseded 7 takenOverEnd "a" ∧
 run (step tallyText 7) takenOverEnd (nodeStarted "b" ++ failedHealth "a")=some failedHealthEnd∧
 step tallyText 7 failedHealthEnd (.verification "a" (.finalizeFailure inServiceFacts))=some v∧
 v.tables=failedHealthEnd.tables:=by
 have hsuperseded:Superseded 7 takenOverEnd "a" :=⟨_,rfl,rfl,by decide⟩
 have hrun:run (step tallyText 7) takenOverEnd (nodeStarted "b" ++ failedHealth "a") =
   some failedHealthEnd:=rfl
 have hstep:step tallyText 7 failedHealthEnd
   (.verification "a" (.finalizeFailure inServiceFacts))=some _:=rfl
 exact ⟨_,rfl,hsuperseded,hrun,hstep,
  superseded_verification_writes_nothing tallyText 7 takenOverEnd "a" hsuperseded _ failedHealthEnd
   hrun _ (fun h=>(by cases h)) _ hstep⟩

theorem superseded_verification_stops_node:∃s u,
 run (step tallyText 7) takenOverEnd
  (.verification "a" (.deviceHealth true)::nodeStarted "b")=some s∧
 run (step tallyText 7) idlePhone takenOver=some takenOverEnd∧Superseded 7 takenOverEnd "a" ∧
 holdsLease 7 s.tables "b" = true∧(s.ops.get "b").map Operation.phase=some .ready∧
 step tallyText 7 s (.verification "a" .stopExistingNode)=some u∧
 s.tables.node.bind AppiumNode.pid=some 77∧u.tables.node.bind AppiumNode.pid=none∧
 u.tables.node.map AppiumNode.desiredState=some .stopped:=
 ⟨_,_,rfl,rfl,⟨_,rfl,rfl,by decide⟩,by decide,rfl,rfl,rfl,rfl,rfl⟩

section
variable {text:DatetimeText}{deviceId:DeviceId}

variable (deviceId) in
/-- A verification lease keeps the device from being available. -/
def leaseInForce (t:Tables)(now:Instant):Bool:=
 t.intents.rows.any (isVerificationLeaseActive deviceId now)

variable (deviceId) in
def ownLeaseInForce (t:Tables)(now:Instant)(op:OpId):Bool:=
 t.intents.rows.any fun row=>isVerificationLeaseActive deviceId now row&&
  payloadGet row.payload operationIdKey=some (.str op)

variable (deviceId) in
def stopsNode (t:Tables)(op:OpId)(o:Operation):Action→Bool
 | .stopExistingNode=>observedRunning t.node
 | .finalizeFailure _=>holdsLease deviceId t op&&o.mode=.update&&o.phase=.failing true&&
   t.node.isSome
 | .readSessions | .readOperatorStop | .refuse | .writeLease _ _ _ _ | .deviceHealth _ | .startNode _
 | .waitForNodeRunning _ | .claimProbe _ _ | .confirmProbe _ | .finalizeProbe _ | .finalizeSuccess _
 | .crash=>false

variable (deviceId) in
/-- A claim is granted the device only while no verification is between its read of the live sessions and
its lease and no lease is in force; a verification stops a node only under its own lease. -/
def LeaseRespected (s:State):Label→Prop
 | .claim _ _ _ _ _ _ _=>leaseInForce deviceId s.tables s.now=false∧
   ∀e∈s.ops.entries,e.2.phase.unleased=false
 | .verification op action=>∀o∈(s.ops.get op).toList,
   stopsNode deviceId s.tables op o action→ ownLeaseInForce deviceId s.tables s.now op
 | .beginUpdate _ _ | .createDevice _ _ _ _ _ _ | .operatorStop _ | .operatorStart _ _
 | .operatorRestart _ _ | .lockQuery _ _ | .promote _ _ | .closeSession _ _ _ | .reconcileScan _
 | .observe _ _ | .tick _=>True

instance (s:State)(label:Label):Decidable (LeaseRespected deviceId s label):=
 match label with
 | .claim _ _ _ _ _ _ _=>inferInstanceAs (Decidable
   (leaseInForce deviceId s.tables s.now=false∧∀e∈s.ops.entries,e.2.phase.unleased=false))
 | .verification op action=>inferInstanceAs (Decidable (∀o∈(s.ops.get op).toList,
   stopsNode deviceId s.tables op o action→
    ownLeaseInForce deviceId s.tables s.now op))
 | .beginUpdate _ _ | .createDevice _ _ _ _ _ _ | .operatorStop _ | .operatorStart _ _
 | .operatorRestart _ _ | .lockQuery _ _ | .promote _ _ | .closeSession _ _ _ | .reconcileScan _
 | .observe _ _ | .tick _=>isTrue trivial

lemma leaseInForce_of_ownLease {t:Tables}{now:Instant}{op:OpId}
 (h:ownLeaseInForce deviceId t now op):leaseInForce deviceId t now:=by
 obtain ⟨row,hmem,hrow⟩:=List.any_eq_true.mp h
 exact List.any_eq_true.mpr ⟨row,hmem,(Bool.and_eq_true _ _ ▸ hrow).1⟩
lemma leaseInForce_earlier {t v:Tables}{now later:Instant}(hle:now≤later)
 (hrows:NoNewRows (verificationIntentSource deviceId) t.intents v.intents)
 (h:leaseInForce deviceId v later):leaseInForce deviceId t now:=by
 obtain ⟨row,hmem,hrow⟩:=List.any_eq_true.mp h
 simp only[isVerificationLeaseActive,Bool.and_eq_true,decide_eq_true_eq] at hrow
 obtain ⟨⟨hsource,houtcome⟩,hexpiry⟩:=hrow
 refine List.any_eq_true.mpr ⟨row,hrows row hmem hsource,?_⟩
 simp only[isVerificationLeaseActive,Bool.and_eq_true,decide_eq_true_eq]
 refine ⟨⟨hsource,houtcome⟩,?_⟩
 cases hdeadline:row.expiresAt with
 | none=>rfl
 | some=>
  rw[hdeadline] at hexpiry
  simp only[all_some,decide_eq_true_eq] at hexpiry ⊢
  exact lt_of_le_of_lt hle hexpiry

variable (deviceId) in
structure LeaseInv (s:State):Prop where
 unleased:∀op o,s.ops.get op=some o→ o.phase.unleased→NoClient s.tables.sessions
 lease:leaseInForce deviceId s.tables s.now→NoClient s.tables.sessions

lemma leaseInv_init (device:Option Device)(node:Option AppiumNode):
 LeaseInv deviceId (init device node):=
 ⟨fun op o hget=>(by cases hget),fun h=>(by cases h)⟩

lemma leaseInv_step {s u:State}{label:Label}(h:LeaseInv deviceId s)
 (hguard:LeaseRespected deviceId s label)(hstep:step text deviceId s label=some u):
 LeaseInv deviceId u:=by
 cases transition_of_step hstep with
 | begun _ _ _ _ hphase=>
  refine ⟨?_,h.lease⟩
  intro other p hget hgap
  rcases get_set_eq_some hget with ⟨-,rfl⟩|⟨-,hold⟩
  · rw[hphase] at hgap
    cases hgap
  · exact h.unleased other p hold hgap
 | created _ _ _ _ _ _ _ _ _ _ _ _ _ hfree=>
  exact ⟨fun _ _ _ _=>hfree,fun _=>hfree⟩
 | acted op _ o _ _ hget hacted=>
  refine ⟨?_,?_⟩
  · intro other p hother hgap
    apply hacted.noClient
    rcases get_set_eq_some hother with ⟨-,rfl⟩|⟨-,hold⟩
    · rcases hacted.unleased hgap with hbefore|hlive
      · exact h.unleased op o hget hbefore
      · exact noClient_of_not_live hlive
    · exact h.unleased other p hold hgap
  · intro hforce
    apply hacted.noClient
    rcases hacted.leaseRows with hrows|⟨hphase,-⟩
    · exact h.lease (leaseInForce_earlier le_rfl hrows hforce)
    · exact h.unleased op o hget (by rw[hphase];rfl)
 | outside label _ houtside=>
  by_cases hlabel:∃ticket confirmed id sessionId testName runId facts,
    label=.claim ticket confirmed id sessionId testName runId facts
  · -- a granted claim finds no lease in force and no verification before its lease
    obtain ⟨ticket,confirmed,id,sessionId,testName,runId,facts,rfl⟩:=hlabel
    refine ⟨?_,?_⟩
    · intro op o hget hgap
      rw[houtside.ops] at hget
      cases hgap.symm.trans (hguard.2 (op,o) (get_eq_some_iff.mp hget))
    · intro hforce
      cases hguard.1.symm.trans (leaseInForce_earlier houtside.now houtside.lease hforce)
  · have hkeep:=houtside.clients fun ticket confirmed id sessionId testName runId facts heq=>
     hlabel ⟨ticket,confirmed,id,sessionId,testName,runId,facts,heq⟩
    refine ⟨?_,?_⟩
    · intro op o hget hgap
      exact hkeep (h.unleased op o (houtside.ops ▸ hget) hgap)
    · intro hforce
      exact hkeep (h.lease (leaseInForce_earlier houtside.now houtside.lease hforce))

lemma Acted.keepsNode {t u:Tables}{now:Instant}{op:OpId}{o o':Operation}
 {action:Action}(h:Acted deviceId t now op o action u o')(hmode:o.mode=.update)
 (hstops:stopsNode deviceId t op o action=false):KeepsNode t u:=by
 cases h with
 | quiet | probed=>exact keepsNode_of_eq rfl
 | leased _ _ _ _ _ _ _ hkeeps | started _ _ _ _ _ hkeeps | succeeded _ _ _ _ hkeeps=>exact hkeeps
 | stopped _ hrunning=>cases hstops.symm.trans hrunning
 | failed _ nodeStarted _ hphase _ hlease _ hkeeps=>
  cases nodeStarted with
  | false=>exact hkeeps rfl
  | true=>
   intro node hnode
   simp[stopsNode,hlease,hmode,hphase,hnode] at hstops
 | deleted _ hcreate=>cases hmode.symm.trans hcreate
end

theorem verification_spares_client_sessions (text:DatetimeText) (deviceId:DeviceId)
 (device:Option Device) (node:Option AppiumNode) (labels:List Label) (s:State)
 (hrun:run (step text deviceId) (init device node) labels=some s)
 (hguard:Guarded (LeaseRespected deviceId) (step text deviceId) (init device node) labels)
 (id:RowId) (row:Session) (hrow:s.tables.sessions.get id=some row)
 (hclient:isClientSession row=true) (op:OpId) (o:Operation) (hget:s.ops.get op=some o)
 (hmode:o.mode=.update) (action:Action)
 (hlast:LeaseRespected deviceId s (.verification op action)) (u:State)
 (hstep:step text deviceId s (.verification op action)=some u):
 stopsNode deviceId s.tables op o action=false∧KeepsNode s.tables u.tables:=by
 have hinv:LeaseInv deviceId s:=run_invariant_guarded (LeaseInv deviceId)
  (fun _ _ _ h hg hs=>leaseInv_step h hg hs) (leaseInv_init device node) hguard hrun
 have hstops:stopsNode deviceId s.tables op o action=false:=by
  rw[Bool.eq_false_iff]
  intro hstops
  have hown:=hlast o (by rw[hget];exact mem_singleton_self o) hstops
  have hfree:=hinv.lease (leaseInForce_of_ownLease hown) id row hrow
  cases hfree.symm.trans hclient
 simp only[step,hget,bind_some] at hstep
 obtain ⟨next,hact,rfl⟩:=map_eq_some_iff.mp hstep
 exact ⟨hstops,(acted_of_act hact).keepsNode hmode hstops⟩

def clientClaim:List Label:=
 [.lockQuery 1 true,.claim 1 true 10 "alloc-10" none none inServiceFacts,
  .promote 10 "appium-session"]

/-- A client takes the phone after one verification has ended and while the next has read nothing
yet. -/
def claimedBetween:List Label:=
 preconditionsRead "a" ++ leaseWritten "a" ++ [.beginUpdate "b" .none]++failedHealth "a" ++
  [.verification "a" (.finalizeFailure inServiceFacts)]++clientClaim

def claimedBetweenEnd:State:=(run (step tallyText 7) idlePhone claimedBetween).getD idlePhone

theorem verification_spares_client_sessions_between:∃u,
 run (step tallyText 7) idlePhone claimedBetween=some claimedBetweenEnd∧
 (claimedBetweenEnd.tables.sessions.get 10).map isClientSession=some true∧
 step tallyText 7 claimedBetweenEnd (.verification "b" .readSessions)=some u∧
 (u.ops.get "b").map Operation.phase=some .finished∧
 KeepsNode claimedBetweenEnd.tables u.tables:=by
 have hrun:run (step tallyText 7) idlePhone claimedBetween=some claimedBetweenEnd:=rfl
 have hguard:Guarded (LeaseRespected 7) (step tallyText 7) idlePhone claimedBetween:=by decide
 have hlast:LeaseRespected 7 claimedBetweenEnd (.verification "b" .readSessions):=by decide
 have hstep:step tallyText 7 claimedBetweenEnd (.verification "b" .readSessions)=some _:=rfl
 exact ⟨_,hrun,rfl,hstep,rfl,
  (verification_spares_client_sessions tallyText 7 (some phone) (some runningNode) claimedBetween
   claimedBetweenEnd hrun hguard 10 _ rfl rfl "b" _ rfl rfl .readSessions hlast _ hstep).2⟩

/-- A client takes the phone between the read of the live sessions and the lease. -/
def claimedMeanwhile:List Label:=
 preconditionsRead "a" ++ clientClaim++leaseWritten "a" ++ [.verification "a" (.deviceHealth true)]

theorem verification_takes_node_from_client:∃s u o,
 run (step tallyText 7) idlePhone claimedMeanwhile=some s∧
 (s.tables.sessions.get 10).map isClientSession=some true∧s.ops.get "a" = some o∧
 o.mode=.update∧stopsNode 7 s.tables "a" o .stopExistingNode=true∧
 step tallyText 7 s (.verification "a" .stopExistingNode)=some u∧
 s.tables.node.bind AppiumNode.pid=some 31∧u.tables.node.bind AppiumNode.pid=none∧
 u.tables.node.bind AppiumNode.activeConnectionTarget=none∧
 u.tables.node.map AppiumNode.desiredState=some .stopped∧
 (u.tables.sessions.get 10).map isClientSession=some true:=
 ⟨_,_,_,rfl,rfl,rfl,rfl,rfl,rfl,rfl,rfl,rfl,rfl,rfl⟩
end GridFleet.Verification
