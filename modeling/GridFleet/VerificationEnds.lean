import GridFleet.VerificationStops
/-! Both finalisers do nothing once the lease is gone, and the failure finaliser writes back the fields
that the job read in its first, unlocked transaction. -/
namespace GridFleet.Verification
open Decision DecisionSnapshot IntentReconciler IntentStore ReleaseRollout Interleaving Option

section
variable {text:DatetimeText}{deviceId:DeviceId}{t u:Tables}{now:Instant}{op:OpId}
 {o o':Operation}{facts:DeviceDecisionSnapshot}

lemma reconcile_device (h:reconcile text deviceId t facts now=some u):
 ∃device state,t.device=some device∧
  u.device=some {device with operationalStateLastEmitted:=state}:=by
 unfold reconcile at h
 split at h
 · cases h
 · rename_i device hdevice
   split at h <;> cases h
   exact ⟨device,_,hdevice,rfl⟩
lemma not_holdsLease_of_gone (h:Gone (verificationIntentSource deviceId) t.intents):
 holdsLease deviceId t op=false:=by
 rw[holdsLease,List.any_eq_false]
 intro row hrow
 simp[h row hrow]
lemma gone_deleteDevice {source:String}:Gone source (deleteDevice t).intents:=by
 intro row hrow
 simp[deleteDevice,mem_delete] at hrow

/-- The finishing transaction finds what it ends: the lease of a creation, and no live session under an
update that has passed. -/
structure EndsCleanly (deviceId:DeviceId)(t:Tables)(op:OpId)(o:Operation):Prop where
 leased:o.mode=.create→holdsLease deviceId t op
 unused:o.mode=.update→ o.phase=.succeeding→deviceHasLiveSession t=false

def LeavesNothing (deviceId:DeviceId)(mode:Mode)(op:OpId)(now:Instant)(u:Tables):Prop:=
 holdsLease deviceId u op=false∧
  (mode=.create→∀device,u.device=some device→device.verifiedAt=some now)

lemma leavesNothing_of_superseded (hclean:EndsCleanly deviceId t op o)
 (hlost:holdsLease deviceId t op=false):LeavesNothing deviceId o.mode op now t:=by
 refine ⟨hlost,fun hmode=>?_⟩
 rw[hclean.leased hmode] at hlost
 cases hlost
lemma leavesNothing_of_finalizeSuccess {payload:DeviceFields}{mode:Mode}
 (h:finalizeSuccess text deviceId t payload facts now=some u):
 LeavesNothing deviceId mode op now u:=by
 refine ⟨not_holdsLease_of_gone (finalizeSuccess_spec h).2.2,fun _ device hdevice=>?_⟩
 obtain ⟨before,state,hbefore,hafter⟩:=reconcile_device h
 obtain ⟨stored,-,rfl⟩:=map_eq_some_iff.mp hbefore
 cases hafter.symm.trans hdevice
 rfl

theorem finished_verification_leaves_nothing (text:DatetimeText) (deviceId:DeviceId) {s u:State}
 {op:OpId} {o o':Operation} {action:Action} (hget:s.ops.get op=some o)
 (hprepared:o.phase.prepareDone=true)
 (hstep:step text deviceId s (.verification op action)=some u)
 (hget':u.ops.get op=some o') (hfinished:o'.phase=.finished)
 (hclean:EndsCleanly deviceId s.tables op o):
 LeavesNothing deviceId o.mode op s.now u.tables:=by
 simp only[step,hget,bind_some] at hstep
 obtain ⟨⟨t,next⟩,hact,rfl⟩:=map_eq_some_iff.mp hstep
 obtain rfl:next=o':=some.inj ((Dict.get_set_self ..).symm.trans hget')
 cases action with simp only[act] at hact
 | startNode=>
  obtain ⟨-,hact⟩:=ite_none_right_eq_some.mp hact
  rcases fenced_eq_some hact with ⟨-,hbody⟩|⟨hlost,rfl,-⟩
  · split at hbody <;> cases hbody <;> cases hfinished
  · exact leavesNothing_of_superseded hclean hlost
 | finalizeSuccess facts=>
  obtain ⟨hphase,hact⟩:=ite_none_right_eq_some.mp hact
  rcases fenced_eq_some hact with ⟨-,hbody⟩|⟨hlost,rfl,-⟩
  · split at hbody
    · rename_i hlive
      rw[hclean.unused hlive.1 hphase.1] at hlive
      cases hlive.2
    · obtain ⟨after,hfinal,heq⟩:=map_eq_some_iff.mp hbody
      cases heq
      exact leavesNothing_of_finalizeSuccess hfinal
  · exact leavesNothing_of_superseded hclean hlost
 | finalizeFailure facts=>
  split at hact
  · rcases fenced_eq_some hact with ⟨-,hbody⟩|⟨hlost,rfl,-⟩
    · split at hbody
      · cases hbody
        exact ⟨not_holdsLease_of_gone gone_deleteDevice,fun _ device hdevice=>by cases hdevice⟩
      · rename_i hmode
        obtain ⟨after,hfinal,heq⟩:=map_eq_some_iff.mp hbody
        cases heq
        refine ⟨not_holdsLease_of_gone (finalizeFailure_spec hfinal).2.2.1,fun hcreate=>?_⟩
        cases hmode.symm.trans hcreate
    · exact leavesNothing_of_superseded hclean hlost
  · cases hact
 | crash=>
  obtain ⟨phase,hcrash,heq⟩:=map_eq_some_iff.mp hact
  cases heq
  cases hphase:o.phase <;> rw[hphase] at hcrash <;> cases hcrash <;> cases hfinished
 | readSessions | readOperatorStop | refuse | writeLease | deviceHealth | stopExistingNode
 | waitForNodeRunning | claimProbe | confirmProbe | finalizeProbe=>
  grind[act,Operation.goto,Phase.prepareDone]

def noDevice:State:=init none none

/-- A phone is created and fails its health check. -/
def failedCreation:List Label:=
 [.createDevice "a" {phone with verifiedAt:=none} .none 120 60 inServiceFacts,
  .verification "a" (.deviceHealth false)]

def failedCreationEnd:State:=(run (step tallyText 7) noDevice failedCreation).getD noDevice

theorem failed_creation_leaves_nothing:∃u,
 run (step tallyText 7) noDevice failedCreation=some failedCreationEnd∧
 step tallyText 7 failedCreationEnd (.verification "a" (.finalizeFailure inServiceFacts))=some u∧
 LeavesNothing 7 .create "a" failedCreationEnd.now u.tables:=by
 have hclean:EndsCleanly 7 failedCreationEnd.tables "a"
   ⟨.create,.failing false,.none,.none⟩:=⟨fun _=>by decide,fun hmode=>by cases hmode⟩
 have hstep:step tallyText 7 failedCreationEnd
   (.verification "a" (.finalizeFailure inServiceFacts))=some _:=rfl
 exact ⟨_,rfl,hstep,
  finished_verification_leaves_nothing tallyText 7 rfl rfl hstep rfl rfl hclean⟩

/-- A client that the grid has matched before the lease claims the phone once the probe has ended. -/
def claimedAfterProbe:List Label:=
 .lockQuery 3 true::preconditionsRead "a" ++ leaseWritten "a" ++ oldNodeStopped "a" ++
  [.verification "a" (.startNode startChoices),.observe phone (some runningNode),
   .verification "a" (.waitForNodeRunning false),.verification "a" (.claimProbe 1 "probe"),
   .verification "a" (.finalizeProbe .ack),
   .claim 3 true 2 "client" none none inServiceFacts,
   .verification "a" (.finalizeSuccess inServiceFacts)]

/-- The lease of a failing creation expires before its finaliser runs; an update that has passed returns
for the client. -/
theorem finished_verification_leaves_state:
 (∃s u,run (step tallyText 7) noDevice
   (failedCreation++[.tick 240000000,.reconcileScan inServiceFacts])=some s∧
  step tallyText 7 s (.verification "a" (.finalizeFailure inServiceFacts))=some u∧
  (u.ops.get "a").map Operation.phase=some .finished∧
  u.tables.device.map Device.verifiedAt=some none)∧
 ∃u,run (step tallyText 7) idlePhone claimedAfterProbe=some u∧
  (u.ops.get "a").map Operation.phase=some .finished∧holdsLease 7 u.tables "a" = true:=
 ⟨⟨_,_,rfl,rfl,rfl,rfl⟩,_,rfl,rfl,by decide⟩

def DeviceFields.stored (fields:DeviceFields):DeviceFields:=
 { fields with
   deviceConfig:=fields.deviceConfig.map fun config=>
    config.map fun entries=>entries.pop sessionViabilityKey }

lemma original_restore (fields:DeviceFields)(device:Device)(status:String):
 fields.original (recordSessionViabilityResult status (fields.restore device))=fields.stored:=by
 have hcopy:∀{α:Type}(o:Option α)(held:α),o.map (fun _=>o.getD held)=o:=by
  intro α o held
  cases o <;> rfl
 obtain ⟨_,_,_,_,_,_,_,_,_,_,_,_,_,_,_,_,_,config⟩:=fields
 simp only[DeviceFields.original,DeviceFields.restore,recordSessionViabilityResult,
  DeviceFields.stored,hcopy]
 cases config <;> rfl
lemma original_finalizeFailure {fields:DeviceFields}{nodeStarted:Bool}{after:Device}
 (h:finalizeFailure text deviceId t fields nodeStarted facts now=some u)
 (hafter:u.device=some after):fields.original after=fields.stored:=by
 obtain ⟨written,state,hwritten,hdevice⟩:=reconcile_device h
 cases hdevice.symm.trans hafter
 unfold stopVerificationNodeIfRunning at hwritten
 obtain ⟨before,-,rfl⟩:∃before,t.device=some before∧
   recordSessionViabilityResult "failed" (fields.restore before)=written:=by
  split at hwritten <;> exact map_eq_some_iff.mp hwritten
 exact original_restore fields before "failed"

theorem failed_update_frame_iff (text:DatetimeText) (deviceId:DeviceId) {s u:State} {op:OpId}
 {o:Operation} {facts:DeviceDecisionSnapshot} {before after:Device}
 (hget:s.ops.get op=some o) (hmode:o.mode=.update)
 (hbefore:s.tables.device=some before) (hafter:u.tables.device=some after)
 (hstep:step text deviceId s (.verification op (.finalizeFailure facts))=some u):
 o.original.original after=o.original.original before↔
  (holdsLease deviceId s.tables op=true→ o.original.original before=o.original.stored):=by
 simp only[step,hget,bind_some] at hstep
 obtain ⟨⟨t,next⟩,hact,rfl⟩:=map_eq_some_iff.mp hstep
 simp only[act] at hact
 split at hact
 · rcases fenced_eq_some hact with ⟨hheld,hbody⟩|⟨hlost,rfl,-⟩
   · simp only[hmode] at hbody
     obtain ⟨final,hfinal,heq⟩:=map_eq_some_iff.mp hbody
     cases heq
     rw[original_finalizeFailure hfinal hafter]
     exact ⟨fun heq _=>heq.symm,fun heq=>(heq hheld).symm⟩
   · cases hbefore.symm.trans hafter
     simp[hlost]
 · cases hact
end

def upgraded:DeviceFields:={ DeviceFields.none with osVersion:=some "18.2" }
def failedUpgrade (meanwhile:List Label):List Label:=
 [.beginUpdate "a" upgraded,.verification "a" .readSessions,.verification "a" .readOperatorStop] ++
  leaseWritten "a" ++ meanwhile++[.verification "a" (.deviceHealth false)]
def failedUpgradeEnd:State:=(run (step tallyText 7) idlePhone (failedUpgrade [])).getD idlePhone

theorem undisturbed_upgrade_is_frame:∃u before after,
 run (step tallyText 7) idlePhone (failedUpgrade [])=some failedUpgradeEnd∧
 step tallyText 7 failedUpgradeEnd (.verification "a" (.finalizeFailure inServiceFacts))=some u∧
 failedUpgradeEnd.tables.device=some before∧u.tables.device=some after∧
 (upgraded.original phone).original after=(upgraded.original phone).original before:=by
 have hget:failedUpgradeEnd.ops.get "a" =
   some ⟨.update,.failing false,.none,upgraded.original phone⟩:=rfl
 have hstep:step tallyText 7 failedUpgradeEnd
   (.verification "a" (.finalizeFailure inServiceFacts))=some _:=rfl
 have hframe:=failed_update_frame_iff tallyText 7 hget rfl rfl rfl hstep
 exact ⟨_,_,_,rfl,hstep,rfl,rfl,hframe.mpr fun _=>rfl⟩

/-- The agent reports another version between the lease and the failure; the finaliser takes it back. -/
theorem reported_version_undone:∃s u,
 run (step tallyText 7) idlePhone
  (failedUpgrade [.observe { phone with osVersion:= "18.3" } (some runningNode)])=some s∧
 step tallyText 7 s (.verification "a" (.finalizeFailure inServiceFacts))=some u∧
 s.tables.device.map Device.osVersion=some "18.3" ∧
 u.tables.device.map Device.osVersion=some "18.1" :=
 ⟨_,_,rfl,rfl,rfl,rfl⟩
end GridFleet.Verification
