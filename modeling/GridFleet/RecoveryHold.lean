import GridFleet.RecoveryGeneration
/-! The self-heal of a healthy device looks at the operator's stop; the end of a recovery does not, and
relies on the recovery having been allowed when it was prepared. -/
namespace GridFleet.RecoveryHold
open Interleaving RecoveryJobs RecoveryGeneration Dict Option

/-- At the moment of the lift no unexpired operator stop holds the node, the device is not in
maintenance and no cooldown is running. -/
def Lift.Sound (lift:Lift):Prop:=
 stopIntentActive lift.before lift.at_ .node=false∧lift.before.inMaintenance=false∧
  cooldownActive lift.before lift.at_=false

instance (lift:Lift):Decidable (Lift.Sound lift):=
 inferInstanceAs (Decidable (_∧_∧_))

/-- No operator stop commits on a device that carries a recovery generation. -/
def StopsWait (s:State):Label→Prop
 | .operatorStop d=>∀device∈s.devices.entries,device.1=d→
   device.2.recoveryGeneration=none
 | _=>True

instance (s:State):(label:Label)→Decidable (StopsWait s label)
 | .operatorStop d=>inferInstanceAs (Decidable (∀device∈s.devices.entries,device.1=d→
   device.2.recoveryGeneration=none))
 | .tick _ | .requestStart _ | .enterMaintenance _ | .releaseAndMaintain _ | .exitMaintenance _
 | .scheduleDeviceRecovery _ _ | .writeReservation _ _ | .deleteDevice _ | .unhealthyFold _
 | .healthyFold _ _ _ | .claimJob _ _ | .ensurePrepared _ _ | .deviceLockFails _ | .failUnlocked _
 | .finalizeDevice _ _ | .finalizeJob _ | .crash _ | .clearGeneration _ | .failJob _ | .die _
 | .resetStaleJob _=>isTrue trivial

/-- A row as the services keep it: a carried generation means no operator stop, both sources of a
stop are registered together, and a device in maintenance is in no run. -/
structure Held (now:Instant)(row:DeviceRow):Prop where
 carried:row.recoveryGeneration≠none→stopIntentActive row now .node=false
 paired:∀expiry,row.stopIntents.get .node=some expiry→
  row.stopIntents.get .recovery=some expiry
 parked:row.inMaintenance→ row.reservation=none

section
variable {now later:Instant}{row:DeviceRow}

lemma stopIntentActive_of_le (hle:now≤later){source:StopSource}
 (h:stopIntentActive row now source=false):stopIntentActive row later source=false:=by
 unfold stopIntentActive at h ⊢
 cases hget:row.stopIntents.get source with
 | none=>rfl
 | some expiry=>
  rw[hget] at h
  cases expiry with
  | none=>exact h
  | some=>
   simp only[any_some,all_some,decide_eq_false_iff_not,not_lt] at h ⊢
   exact h.trans hle

section
variable (h:Held now row)
include h

lemma Held.mono (hle:now≤later):Held later row:=
 ⟨fun hcarried=>stopIntentActive_of_le hle (h.carried hcarried),h.paired,h.parked⟩
lemma Held.node_of_allowed {facts:Facts}(hallowed:recoveryBlock row facts now=none):stopIntentActive row now .node=false:=by
 have hrecovery:stopIntentActive row now .recovery=false:=by
  unfold recoveryBlock at hallowed
  split at hallowed
  · cases hallowed
  · rename_i hinactive
    simpa using hinactive
 cases hget:row.stopIntents.get .node with
 | none=>
  unfold stopIntentActive
  rw[hget]
  rfl
 | some expiry=>
  unfold stopIntentActive at hrecovery ⊢
  rw[hget]
  rw[h.paired expiry hget] at hrecovery
  exact hrecovery
lemma Held.prepared (facts:Facts)(generation:JobId):
 Held now (prepareAutoRecovery row facts now generation).1:=by
 rcases prepareAutoRecovery_cases row facts now generation with ⟨hsame,-⟩|⟨hset,-,hallowed⟩
 · rw[hsame]
   exact h
 · rw[hset]
   exact ⟨fun _=>h.node_of_allowed hallowed,h.paired,h.parked⟩
lemma Held.dropped:Held now {row with recoveryGeneration:=none}:=
 ⟨fun hcarried=>absurd rfl hcarried,h.paired,h.parked⟩
lemma Held.cleared (generation:JobId):Held now (clearRecoveryGeneration row generation):=by
 unfold clearRecoveryGeneration
 split
 · exact h.dropped
 · exact h
lemma Held.withReservation {reservation:Option Reservation}
 (hparked:row.inMaintenance→ reservation=none):Held now {row with reservation:=reservation}:=
 ⟨h.carried,h.paired,hparked⟩

/-- A row with an exclusion to lift is not in maintenance, and its restored row is as well kept. -/
lemma Held.restored {restored:DeviceRow}{state:OperationalState}{operatorStopped:Bool}
 (hrestore:restoreRunAfterSelfHeal row now state operatorStopped=some restored):
 Held now restored∧row.inMaintenance=false∧cooldownActive row now=false:=by
 obtain ⟨-,-,entry,hentry,-,huntil,rfl⟩:=restoreRunAfterSelfHeal_eq_some hrestore
 have hfree:row.inMaintenance=false:=by
  cases hmaintenance:row.inMaintenance with
  | false=>rfl
  | true=>
   have hnone:=h.parked hmaintenance
   rw[hentry] at hnone
   cases hnone
 refine ⟨h.withReservation ?_,hfree,?_⟩
 · intro hmaintenance
   rw[hfree] at hmaintenance
   cases hmaintenance
 · unfold cooldownActive
   rw[hentry]
   simp[huntil]

lemma Held.excluded:Held now (excludeForFailure row):=by
 apply h.withReservation
 intro hmaintenance
 rw[h.parked hmaintenance]
 rfl
lemma Held.finalized (generation:JobId)(result:ProbeResult):
 Held now (finalizeAutoRecovery row now generation result):=by
 unfold finalizeAutoRecovery
 split
 · exact h
 · cases result with
   | skipped=>exact h.cleared generation
   | failed=>exact h.excluded.cleared generation
   | passed=>
    cases hrestore:finalizeRestore row now with
    | none=>exact h.cleared generation
    | some restored=>exact (h.restored hrestore).1.cleared generation
end
end

structure Guarding (s:State):Prop where
 rows:∀d row,s.devices.get d=some row→Held s.now row
 lifts:∀lift∈s.lifts,Lift.Sound lift

section
variable {s t:State}{label:Label}{d:DeviceId}{row:DeviceRow}

section
variable (h:Guarding s)
include h

lemma Guarding.setDevice (hheld:Held s.now row):Guarding (s.setDevice d row):=by
 constructor
 · exact forall_get_set hheld h.rows
 · exact h.lifts
lemma Guarding.lift {before:DeviceRow}(hheld:Held s.now row)
 (hsound:Lift.Sound ⟨d,before,s.now⟩):Guarding (s.lift d before row):=by
 constructor
 · exact (h.setDevice hheld).rows
 · intro lift hmem
   rcases List.mem_append.mp hmem with hold|hnew
   · exact h.lifts lift hold
   · rw[List.mem_singleton.mp hnew]
     exact hsound
lemma guarding_healthyFold (hrow:s.devices.get d=some row)(facts:Facts)(generation:JobId):Guarding (healthyFold s d row facts generation):=by
 have hheld:=h.rows d row hrow
 unfold healthyFold
 split
 · exact h
 · split
   · dsimp only
     split
     · rename_i restored hrestored
       have hlifted:=hheld.dropped.restored hrestored
       have hoperator:=(restoreRunAfterSelfHeal_eq_some hrestored).1
       exact h.lift hlifted.1 ⟨hoperator,hlifted.2.1,hlifted.2.2⟩
     · exact h.setDevice hheld.dropped
   · split
     · exact h
     · dsimp only
       have hprepared:=hheld.prepared facts generation
       split
       · exact ⟨(h.setDevice hprepared).rows,h.lifts⟩
       · exact h.setDevice hprepared
lemma guarding_ensurePrepared (e:ExecId)(exec:Exec)(facts:Facts):
 Guarding (ensurePrepared s e exec facts):=by
 unfold ensurePrepared
 split
 · exact ⟨h.rows,h.lifts⟩
 · rename_i row hrow
   have hheld:=h.rows _ row hrow
   split
   · split
     · exact ⟨h.rows,h.lifts⟩
     · split
       · have hcleared:=h.setDevice (d:=exec.device) (hheld.cleared exec.job)
         exact ⟨hcleared.rows,hcleared.lifts⟩
       · exact ⟨h.rows,h.lifts⟩
   · dsimp only
     have hprepared:=h.setDevice (d:=exec.device) (hheld.prepared facts exec.job)
     split <;> exact ⟨hprepared.rows,hprepared.lifts⟩
lemma guarding_finalizeDevice (e:ExecId)(exec:Exec)(result:ProbeResult):
 Guarding (finalizeDevice s e exec result):=by
 unfold finalizeDevice
 split
 · exact ⟨h.rows,h.lifts⟩
 · rename_i row hrow
   have hheld:=h.rows _ row hrow
   have hfinalized:=hheld.finalized exec.job result
   dsimp only
   split
   · rename_i hlifted
     simp only[Bool.and_eq_true,decide_eq_true_eq,isSome_iff_exists] at hlifted
     obtain ⟨⟨hcarried,-⟩,restored,hrestored⟩:=hlifted
     have hrestore:=hheld.restored hrestored
     have hnode:=hheld.carried (by rw[hcarried];simp)
     have hlift:=h.lift (d:=exec.device) hfinalized ⟨hnode,hrestore.2.1,hrestore.2.2⟩
     exact ⟨hlift.rows,hlift.lifts⟩
   · have hset:=h.setDevice (d:=exec.device) hfinalized
     exact ⟨hset.rows,hset.lifts⟩
lemma guarding_clearGeneration (e:ExecId)(exec:Exec):Guarding (clearGeneration s e exec):=by
 unfold clearGeneration
 split
 · exact ⟨h.rows,h.lifts⟩
 · rename_i row hrow
   have hset:=h.setDevice (d:=exec.device) ((h.rows _ row hrow).cleared exec.job)
   exact ⟨hset.rows,hset.lifts⟩

lemma guarding_step (hguard:StopsWait s label)(hstep:step s label=some t):Guarding t:=by
 cases transition_of_step hstep with
 | tick=>exact ⟨fun d row hrow=>(h.rows d row hrow).mono (Nat.le_add_right _ _),h.lifts⟩
 | @operatorStop d row hrow=>
  have hidle:=hguard (d,row) (get_eq_some_iff.mp hrow) rfl
  apply h.setDevice
  refine ⟨fun hcarried=>absurd hidle hcarried,?_,(h.rows d row hrow).parked⟩
  intro expiry hget
  cases hget
  rfl
 | @requestStart d row hrow=>
  have hnone:(revokeOperatorStop row.stopIntents).get .node=none:=by
   simp[revokeOperatorStop,get_pop]
  apply h.setDevice
  refine ⟨fun _=>?_,?_,(h.rows d row hrow).parked⟩
  · simp[stopIntentActive,hnone]
  · intro expiry hget
    rw[hnone] at hget
    cases hget
 | enterMaintenance hrow hfree=>
  have hheld:=h.rows _ _ hrow
  exact h.setDevice ⟨hheld.carried,hheld.paired,fun _=>hfree⟩
 | releaseAndMaintain hrow=>
  have hheld:=h.rows _ _ hrow
  exact h.setDevice ⟨hheld.carried,hheld.paired,fun _=>rfl⟩
 | exitMaintenance hrow=>
  have hheld:=h.rows _ _ hrow
  exact h.setDevice ⟨hheld.carried,hheld.paired,fun hmaintenance=>by cases hmaintenance⟩
 | writeReservation hrow hfree=>exact h.setDevice ((h.rows _ _ hrow).withReservation hfree)
 | deleteDevice=>exact ⟨fun d' row hrow=>h.rows d' row (get_pop_eq_some hrow).2,h.lifts⟩
 | unhealthyFold hrow=>exact h.setDevice (h.rows _ _ hrow).dropped
 | healthyFold hrow=>exact guarding_healthyFold h hrow _ _
 | ensurePrepared=>exact guarding_ensurePrepared h _ _ _
 | finalizeDevice=>exact guarding_finalizeDevice h _ _ _
 | clearGeneration=>exact guarding_clearGeneration h _ _
 | scheduleDeviceRecovery | claimJob | crash | deviceLockFails | failUnlocked | finalizeJob | failJob
 | die | resetStaleJob=>exact ⟨h.rows,h.lifts⟩
end
end

/-- In every run in which operator stops wait for the generation to be gone, every lift is sound. -/
theorem lifts_sound_of_stops_wait (devices:Dict DeviceId DeviceRow)
 (hidle:∀d row,devices.get d=some row→ row.recoveryGeneration=none∧Held 0 row)
 (labels:List Label) (t:State) (hguard:Guarded StopsWait step (initial devices) labels)
 (hrun:run step (initial devices) labels=some t):∀lift∈t.lifts,Lift.Sound lift:=by
 have hinitial:Guarding (initial devices):=by
  constructor
  · intro d row hrow
    exact (hidle d row hrow).2
  · intro lift hmem
    cases hmem
 exact (run_invariant_guarded Guarding (fun _ _ _ hs hg hstep=>guarding_step hs hg hstep) hinitial
  hguard hrun).lifts

def excludedRow:DeviceRow:=
 {idleRow with reservation:=some ⟨.active,true,some .exclusion,none⟩}
def excludedPhone:Dict DeviceId DeviceRow:=Dict.empty.set 7 excludedRow

/-- The operator stops the phone while its recovery probe runs; the passed probe puts the phone back
into its run. -/
theorem recovery_lifts_past_operator_stop:
 ∃t,run step (initial excludedPhone)
   [.healthyFold 7 offlineFacts 1,.claimJob 1 0,.ensurePrepared 0 offlineFacts,.operatorStop 7,
    .finalizeDevice 0 .passed]=some t∧
  (∃row,t.devices.get 7=some row∧stopIntentActive row t.now .node=true∧
   row.reservation=some ⟨.active,false,none,none⟩)∧
  ¬∀lift∈t.lifts,Lift.Sound lift:=by
 refine ⟨_,rfl,⟨_,rfl,rfl,rfl⟩,?_⟩
 decide

theorem lifts_sound_of_stops_wait_recovered:
 ∃t,run step (initial excludedPhone)
   [.healthyFold 7 offlineFacts 1,.claimJob 1 0,.ensurePrepared 0 offlineFacts,
    .finalizeDevice 0 .passed,.finalizeJob 0,.operatorStop 7]=some t∧
  t.lifts.length=1∧∀lift∈t.lifts,Lift.Sound lift:=by
 have hidle:∀d row,excludedPhone.get d=some row→
   row.recoveryGeneration=none∧Held 0 row:=by
  intro d row hrow
  rcases get_set_eq_some hrow with ⟨-,rfl⟩|⟨-,hnone⟩
  · refine ⟨rfl,⟨fun _=>rfl,?_,fun hmaintenance=>by cases hmaintenance⟩⟩
    intro expiry hget
    cases hget
  · cases hnone
 refine ⟨_,rfl,rfl,lifts_sound_of_stops_wait excludedPhone hidle
  [.healthyFold 7 offlineFacts 1,.claimJob 1 0,.ensurePrepared 0 offlineFacts,
   .finalizeDevice 0 .passed,.finalizeJob 0,.operatorStop 7] _ ?_ rfl⟩
 decide
end GridFleet.RecoveryHold
