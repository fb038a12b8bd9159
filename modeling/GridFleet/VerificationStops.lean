import GridFleet.VerificationSteps
/-! An update verification reads once that no operator stop is in force and then, transactions later,
starts its node on the operator's path, which revokes the stop sources, as its failure does. -/
namespace GridFleet.Verification
open Decision DecisionSnapshot IntentReconciler IntentStore ReleaseRollout Interleaving List Option

section
variable {deviceId:DeviceId}{t u:Tables}{now:Instant}{op:OpId}{o o':Operation}
 {action:Action}

lemma Acted.mode (h:Acted deviceId t now op o action u o'):o'.mode=o.mode:=by
 cases h <;> rfl
lemma stop_notMem_verification:
 operatorStopNodeSource deviceId ∉ [verificationIntentSource deviceId]:=by
 rw[mem_singleton]
 exact operatorStopNode_ne_verification deviceId

section
variable (h:Acted deviceId t now op o action u o')
include h

lemma Acted.stopRows:NoNewRows (operatorStopNodeSource deviceId) t.intents u.intents:=by
 cases h with
 | quiet | stopped | probed=>exact noNewRows_refl
 | leased _ _ _ _ _ _ htouches | succeeded _ _ _ htouches=>
  exact htouches.stopRows stop_notMem_verification
 | started _ _ _ _ _ _ hgone=>exact hgone.noNewRows
 | failed _ _ _ _ _ _ _ _ _ hstop=>
  exact hstop.noNewRows
 | deleted=>exact noNewRows_delete
lemma Acted.pastStopRead (hpast:o'.phase.pastStopRead):
 o.phase.pastStopRead∨operatorStopActive deviceId t now=false:=by
 cases h with
 | quiet _ _ hmoves=>exact hmoves.stopRead hpast
 | leased _ _ _ _ _ hphase | stopped hphase | started _ _ hphase=>
  rw[hphase]
  exact .inl rfl
 | probed _ _ _ _ hdone=>exact .inl hdone
 | succeeded | failed | deleted=>cases hpast

/-- Only the node start and the failure of an update revoke the stop, and both come after the read. -/
lemma Acted.keepsStop (hmode:o.mode=.update)
 (hchecked:o.phase.pastStopRead→Gone (operatorStopNodeSource deviceId) t.intents)
 {row:DeviceIntent}(hmem:row∈t.intents.rows)
 (hsource:row.source=operatorStopNodeSource deviceId):row∈u.intents.rows:=by
 have hpast:o.phase.pastStopRead=false:=by
  rw[Bool.eq_false_iff]
  intro hpast
  exact hchecked hpast row hmem hsource
 cases h with
 | quiet | stopped | probed=>exact hmem
 | leased _ _ _ _ _ hphase | started _ _ hphase | failed _ _ _ hphase=>
  rw[hphase] at hpast
  cases hpast
 | succeeded _ _ _ htouches=>
  exact (htouches.rows _ (notRollout_operatorStopNode deviceId) stop_notMem_verification row
   hsource).mpr hmem
 | deleted _ hcreate=>cases hmode.symm.trans hcreate
end
end

section
variable {text:DatetimeText}{deviceId:DeviceId}

/-- An operator's stop commits only while no update verification of the device is past its read of
the operator stop and unfinished. -/
def StopsBetweenVerifications (s:State):Label→Prop
 | .operatorStop _=>∀e∈s.ops.entries,e.2.mode=.update→e.2.phase.pastStopRead=false
 | .beginUpdate _ _ | .createDevice _ _ _ _ _ _ | .verification _ _ | .operatorStart _ _
 | .operatorRestart _ _ | .lockQuery _ _ | .claim _ _ _ _ _ _ _ | .promote _ _ | .closeSession _ _ _
 | .reconcileScan _ | .observe _ _ | .tick _=>True

instance (s:State)(label:Label):Decidable (StopsBetweenVerifications s label):=
 match label with
 | .operatorStop _=>inferInstanceAs
   (Decidable (∀e∈s.ops.entries,e.2.mode=.update→e.2.phase.pastStopRead=false))
 | .beginUpdate _ _ | .createDevice _ _ _ _ _ _ | .verification _ _ | .operatorStart _ _
 | .operatorRestart _ _ | .lockQuery _ _ | .claim _ _ _ _ _ _ _ | .promote _ _ | .closeSession _ _ _
 | .reconcileScan _ | .observe _ _ | .tick _=>isTrue trivial

variable (deviceId) in
structure StopInv (s:State):Prop where
 sticky:∀row∈s.tables.intents.rows,row.source=operatorStopNodeSource deviceId→
  row.expiresAt=none
 checked:∀op o,s.ops.get op=some o→ o.mode=.update→ o.phase.pastStopRead→
  Gone (operatorStopNodeSource deviceId) s.tables.intents

lemma stopInv_init (device:Option Device)(node:Option AppiumNode):
 StopInv deviceId (init device node):=
 ⟨fun row hmem=>(by cases hmem),fun op o hget=>(by cases hget)⟩
lemma StopInv.gone_of_not_active {s:State}(h:StopInv deviceId s)
 (hactive:operatorStopActive deviceId s.tables s.now=false):
 Gone (operatorStopNodeSource deviceId) s.tables.intents:=by
 intro row hmem hsource
 have hrow:=List.any_eq_false.mp hactive row hmem
 rw[h.sticky row hmem hsource] at hrow
 simp[hsource] at hrow

lemma stopInv_step {s u:State}{label:Label}(h:StopInv deviceId s)
 (hguard:StopsBetweenVerifications s label)(hstep:step text deviceId s label=some u):
 StopInv deviceId u:=by
 cases transition_of_step hstep with
 | begun _ _ _ _ hphase=>
  refine ⟨h.sticky,?_⟩
  intro other p hget hmode hpast
  rcases Dict.get_set_eq_some hget with ⟨-,rfl⟩|⟨-,hold⟩
  · rw[hphase] at hpast
    cases hpast
  · exact h.checked other p hold hmode hpast
 | created _ _ _ _ _ _ _ _ _ _ _ _ hstop=>
  exact ⟨fun row hmem hsource=>absurd hsource (hstop row hmem),fun _ _ _ _ _=>hstop⟩
 | acted op _ o _ _ hget hacted=>
  refine ⟨fun row hmem hsource=>h.sticky row (hacted.stopRows row hmem hsource) hsource,?_⟩
  intro other p hother hmode hpast
  apply hacted.stopRows.gone
  rcases Dict.get_set_eq_some hother with ⟨-,rfl⟩|⟨-,hold⟩
  · rcases hacted.pastStopRead hpast with hbefore|hactive
    · exact h.checked op o hget (hacted.mode ▸ hmode) hbefore
    · exact h.gone_of_not_active hactive
  · exact h.checked other p hold hmode hpast
 | outside label _ houtside=>
  refine ⟨?_,?_⟩
  · intro row hmem hsource
    rcases houtside.sticky row hmem hsource with hold|hnone
    · exact h.sticky row hold hsource
    · exact hnone
  · intro op o hget hmode hpast
    rw[houtside.ops] at hget
    by_cases hlabel:∃facts,label=.operatorStop facts
    · obtain ⟨facts,rfl⟩:=hlabel
      have hread:=hguard (op,o) (Dict.get_eq_some_iff.mp hget) hmode
      rw[hpast] at hread
      cases hread
    · exact (houtside.stop fun facts heq=>hlabel ⟨facts,heq⟩).gone (h.checked op o hget hmode hpast)
end

theorem operator_stop_survives_verification (text:DatetimeText) (deviceId:DeviceId)
 (device:Option Device) (node:Option AppiumNode) (labels:List Label) (s:State)
 (hrun:run (step text deviceId) (init device node) labels=some s)
 (hguard:Guarded StopsBetweenVerifications (step text deviceId) (init device node) labels)
 (op:OpId) (o:Operation) (hget:s.ops.get op=some o) (hmode:o.mode=.update)
 (action:Action) (u:State) (hstep:step text deviceId s (.verification op action)=some u)
 (row:DeviceIntent) (hmem:row∈s.tables.intents.rows)
 (hsource:row.source=operatorStopNodeSource deviceId):row∈u.tables.intents.rows:=by
 have hinv:StopInv deviceId s:=run_invariant_guarded (StopInv deviceId)
  (fun _ _ _ h hg hs=>stopInv_step h hg hs) (stopInv_init device node) hguard hrun
 simp only[step,hget,bind_some] at hstep
 obtain ⟨next,hact,rfl⟩:=map_eq_some_iff.mp hstep
 exact (acted_of_act hact).keepsStop hmode (hinv.checked op o hget hmode) hmem hsource

def inServiceFacts:DeviceDecisionSnapshot:={idleSnapshot with hasLiveSession:=true}
def startChoices:StartChoices:=⟨true,4723,120,60,inServiceFacts,inServiceFacts⟩
def idlePhone:State:=init (some phone) (some runningNode)

/-- The preconditions of an update are read before its lease is written. -/
def preconditionsRead (op:OpId):List Label:=
 [.beginUpdate op .none,.verification op .readSessions,.verification op .readOperatorStop]

def leaseWritten (op:OpId):List Label:=[.verification op (.writeLease .none 120 60 inServiceFacts)]
def oldNodeStopped (op:OpId):List Label:=
 [.verification op (.deviceHealth true),.verification op .stopExistingNode]

/-- The operator stops the node between two verifications. -/
def stoppedBetween:List Label:=
 preconditionsRead "a" ++ leaseWritten "a" ++
  [.beginUpdate "b" .none,.verification "a" (.deviceHealth false),
   .verification "a" (.finalizeFailure inServiceFacts),.operatorStop inServiceFacts,
   .verification "b" .readSessions]

def stoppedBetweenEnd:State:=(run (step tallyText 7) idlePhone stoppedBetween).getD idlePhone

theorem operator_stop_survives_verification_between:∃row u,
 run (step tallyText 7) idlePhone stoppedBetween=some stoppedBetweenEnd∧
 row∈stoppedBetweenEnd.tables.intents.rows∧row.source=operatorStopNodeSource 7∧
 step tallyText 7 stoppedBetweenEnd (.verification "b" .readOperatorStop)=some u∧
 row∈u.tables.intents.rows:=by
 have hrun:run (step tallyText 7) idlePhone stoppedBetween=some stoppedBetweenEnd:=rfl
 have hguard:Guarded StopsBetweenVerifications (step tallyText 7) idlePhone stoppedBetween:=by
  decide
 have hstep:step tallyText 7 stoppedBetweenEnd (.verification "b" .readOperatorStop)=some _:=rfl
 have hmem:(stoppedBetweenEnd.tables.intents.rows.find? fun row=>
   row.source=operatorStopNodeSource 7).isSome=true:=by decide
 obtain ⟨row,hfind⟩:=isSome_iff_exists.mp hmem
 have hrow:=mem_of_find?_eq_some hfind
 have hsource:row.source=operatorStopNodeSource 7:=by simpa using find?_some hfind
 exact ⟨row,_,hrun,hrow,hsource,hstep,
  operator_stop_survives_verification tallyText 7 (some phone) (some runningNode) stoppedBetween
   stoppedBetweenEnd hrun hguard "b" _ rfl rfl .readOperatorStop _ hstep row hrow hsource⟩

/-- The operator stops the node between the read of the preconditions and the lease. -/
def stoppedMeanwhile:List Label:=
 preconditionsRead "a" ++ [.operatorStop inServiceFacts]++leaseWritten "a" ++ oldNodeStopped "a"

theorem operator_stop_revoked_by_verification:∃s u row,
 run (step tallyText 7) idlePhone stoppedMeanwhile=some s∧
 (s.ops.get "a").map Operation.mode=some .update∧
 row∈s.tables.intents.rows∧row.source=operatorStopNodeSource 7∧
 step tallyText 7 s (.verification "a" (.startNode startChoices))=some u∧
 Gone (operatorStopNodeSource 7) u.tables.intents:=by
 refine ⟨_,_,_,rfl,rfl,mem_cons_self,rfl,rfl,?_⟩
 unfold Gone
 decide
end GridFleet.Verification
