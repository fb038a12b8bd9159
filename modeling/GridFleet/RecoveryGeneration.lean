import GridFleet.RecoveryJobs
/-! The device that carries a generation is the device of the job with that id, and the job is not over.
Only an execution of the job, or the fold that creates it, can put the generation on a device. -/
namespace GridFleet.RecoveryGeneration
open Interleaving RecoveryJobs Dict

def NoOrphan (s:State):Prop:=
 ∀d row g,s.devices.get d=some row→ row.recoveryGeneration=some g→
  ∃job,s.jobs.get g=some job∧(job.status=.pending∨job.status=.running)

/-- The lock statement fails only for a device that does not carry the job's id, and a running job is
reset only when no execution of it is left. -/
def Recoverable (s:State):Label→Prop
 | .deviceLockFails e=>∀entry∈s.execs.entries,entry.1=e→
   ∀device∈s.devices.entries,device.1=entry.2.device→
    device.2.recoveryGeneration≠some entry.2.job
 | .resetStaleJob job=>∀entry∈s.execs.entries,entry.2.job≠job
 | _=>True

instance (s:State):(label:Label)→Decidable (Recoverable s label)
 | .deviceLockFails e=>inferInstanceAs (Decidable (∀entry∈s.execs.entries,entry.1=e→
   ∀device∈s.devices.entries,device.1=entry.2.device→
    device.2.recoveryGeneration≠some entry.2.job))
 | .resetStaleJob job=>inferInstanceAs (Decidable (∀entry∈s.execs.entries,entry.2.job≠job))
 | .tick _ | .operatorStop _ | .requestStart _ | .enterMaintenance _ | .releaseAndMaintain _
 | .exitMaintenance _ | .scheduleDeviceRecovery _ _ | .writeReservation _ _ | .deleteDevice _
 | .unhealthyFold _ | .healthyFold _ _ _ | .claimJob _ _ | .ensurePrepared _ _ | .failUnlocked _
 | .finalizeDevice _ _ | .finalizeJob _ | .crash _ | .clearGeneration _ | .failJob _ | .die _=>
  isTrue trivial

def Dropped (s:State)(g:JobId):Prop:=
 ∀d row,s.devices.get d=some row→ row.recoveryGeneration≠some g
def closing:Phase→Bool
 | .lockFailed | .finalized | .cleared=>true
 | .claimed | .prepared | .crashed=>false

structure Owned (s:State):Prop where
 carried:∀d row g,s.devices.get d=some row→ row.recoveryGeneration=some g→
  ∃status,s.jobs.get g=some ⟨d,status⟩∧(status=.pending∨status=.running)
 running:∀e exec,s.execs.get e=some exec→s.jobs.get exec.job=some ⟨exec.device,.running⟩
 unique:∀e f exec other,s.execs.get e=some exec→s.execs.get f=some other→
  exec.job=other.job→e=f
 dropped:∀e exec,s.execs.get e=some exec→closing exec.phase→Dropped s exec.job

section
variable {s:State}{e:ExecId}{exec:Exec}

lemma Owned.dropped_of_own (h:Owned s)(hexec:s.execs.get e=some exec)
 (hown:∀row,s.devices.get exec.device=some row→ row.recoveryGeneration≠some exec.job):
 Dropped s exec.job:=by
 intro d row hrow hgeneration
 obtain ⟨status,hjob,-⟩:=h.carried d row exec.job hrow hgeneration
 have hrunning:=h.running e exec hexec
 rw[hjob] at hrunning
 cases hrunning
 exact hown row hrow hgeneration
lemma Owned.of_devices {devices:Dict DeviceId DeviceRow}(h:Owned s)(now:Instant)(lifts:List Lift)
 (hkeep:∀d row,devices.get d=some row→ row.recoveryGeneration=none∨
  ∃before,s.devices.get d=some before∧row.recoveryGeneration=before.recoveryGeneration):
 Owned {s with now:=now,devices:=devices,lifts:=lifts}:=by
 constructor
 · intro d row g hrow hgeneration
   rcases hkeep d row hrow with hnone|⟨before,hbefore,hsame⟩
   · rw[hnone] at hgeneration
     cases hgeneration
   · exact h.carried d before g hbefore (hsame ▸ hgeneration)
 · exact h.running
 · exact h.unique
 · intro f other hother hclosing d row hrow hgeneration
   rcases hkeep d row hrow with hnone|⟨before,hbefore,hsame⟩
   · rw[hnone] at hgeneration
     cases hgeneration
   · exact h.dropped f other hother hclosing d before hbefore (hsame ▸ hgeneration)

variable {d:DeviceId}{row:DeviceRow}

section
variable (h:Owned s)
include h

lemma Owned.setDevice {before:DeviceRow}(hbefore:s.devices.get d=some before)
 (hkeep:row.recoveryGeneration=none∨row.recoveryGeneration=before.recoveryGeneration):
 Owned (s.setDevice d row):=by
 refine h.of_devices s.now s.lifts (forall_get_set ?_ fun _ found hother=>.inr ⟨found,hother,rfl⟩)
 exact hkeep.imp_right fun hsame=>⟨before,hbefore,hsame⟩
lemma Owned.lift {before:DeviceRow}(hbefore:s.devices.get d=some before)
 (hkeep:row.recoveryGeneration=none∨row.recoveryGeneration=before.recoveryGeneration):
 Owned (s.lift d before row):=
 (h.setDevice hbefore hkeep).of_devices s.now _ fun _ found hfound=>.inr ⟨found,hfound,rfl⟩
lemma Owned.newJob {g:JobId}(hfresh:s.jobs.get g=none)(job:Job):
 Owned {s with jobs:=s.jobs.set g job}:=by
 have hkept:∀{g' job'},s.jobs.get g'=some job'→(s.jobs.set g job).get g'=some job':=by
  intro g' job' hjob
  rw[get_set_of_ne _ _ fun heq=>by rw[heq,hfresh] at hjob;cases hjob]
  exact hjob
 constructor
 · intro d row g' hrow hgeneration
   obtain ⟨status,hjob,hlive⟩:=h.carried d row g' hrow hgeneration
   exact ⟨status,hkept hjob,hlive⟩
 · intro f other hother
   exact hkept (h.running f other hother)
 · exact h.unique
 · exact h.dropped
lemma Owned.setPhase (hexec:s.execs.get e=some exec)(phase:Phase)
 (hdropped:closing phase→Dropped s exec.job):Owned (s.setPhase e exec phase):=by
 have hfrom:∀f other,(s.execs.set e {exec with phase:=phase}).get f=some other→
   ∃before,s.execs.get f=some before∧other.job=before.job∧other.device=before.device∧
    (closing other.phase→Dropped s other.job):=
  forall_get_set ⟨exec,hexec,rfl,rfl,hdropped⟩ fun f other hbefore=>
   ⟨other,hbefore,rfl,rfl,h.dropped f other hbefore⟩
 constructor
 · exact h.carried
 · intro f other hother
   obtain ⟨before,hbefore,hjob,hdevice,-⟩:=hfrom f other hother
   rw[hjob,hdevice]
   exact h.running f before hbefore
 · intro f f' first second hfirst hsecond hsame
   obtain ⟨before,hbefore,hjob,-,-⟩:=hfrom f first hfirst
   obtain ⟨before',hbefore',hjob',-,-⟩:=hfrom f' second hsecond
   exact h.unique f f' before before' hbefore hbefore' (hjob ▸ hjob' ▸ hsame)
 · intro f other hother hclosing
   obtain ⟨-,-,-,-,hother'⟩:=hfrom f other hother
   exact hother' hclosing
lemma Owned.die (e:ExecId):Owned {s with execs:=s.execs.pop e}:=by
 constructor
 · exact h.carried
 · intro f other hother
   exact h.running f other (get_pop_eq_some hother).2
 · intro f f' first second hfirst hsecond
   exact h.unique f f' first second (get_pop_eq_some hfirst).2 (get_pop_eq_some hsecond).2
 · intro f other hother
   exact h.dropped f other (get_pop_eq_some hother).2

/-- The job of a dropped generation may end in any status. -/
lemma Owned.endJob (hexec:s.execs.get e=some exec)
 (hdropped:Dropped s exec.job)(status:JobStatus):Owned (s.endJob e exec status):=by
 have hdie:=h.die e
 constructor
 · intro d row g hrow hgeneration
   have hne:g≠exec.job:=fun heq=>hdropped d row hrow (heq ▸ hgeneration)
   obtain ⟨found,hjob,hlive⟩:=h.carried d row g hrow hgeneration
   exact ⟨found,(get_set_of_ne _ _ hne).trans hjob,hlive⟩
 · intro f other hother
   have hpop:=get_pop_eq_some hother
   have hne:other.job≠exec.job:=fun heq=>hpop.1 (h.unique f e other exec hpop.2 hexec heq)
   exact (get_set_of_ne _ _ hne).trans (h.running f other hpop.2)
 · exact hdie.unique
 · exact hdie.dropped

lemma Owned.claim {job:JobId}{device:DeviceId}
 (hjob:s.jobs.get job=some ⟨device,.pending⟩)(hfresh:s.execs.get e=none):Owned { s with
  jobs:=s.jobs.set job ⟨device,.running⟩
  execs:=s.execs.set e ⟨job,device,.claimed⟩ }:=by
 have hidle:∀f other,s.execs.get f=some other→ other.job≠job:=by
  intro f other hother heq
  have hrunning:=h.running f other hother
  rw[heq,hjob] at hrunning
  cases hrunning
 constructor
 · intro d row g hrow hgeneration
   obtain ⟨status,hfound,hlive⟩:=h.carried d row g hrow hgeneration
   by_cases heq:g=job
   · subst heq
     rw[hjob] at hfound
     cases hfound
     exact ⟨.running,get_set_self _ _ _,.inr rfl⟩
   · exact ⟨status,(get_set_of_ne _ _ heq).trans hfound,hlive⟩
 · exact forall_get_set (get_set_self _ _ _) fun f other hbefore=>
    (get_set_of_ne _ _ (hidle f other hbefore)).trans (h.running f other hbefore)
 · intro f f' first second hfirst hsecond hsame
   rcases get_set_eq_some hfirst with ⟨rfl,rfl⟩|⟨-,hbefore⟩
   · rcases get_set_eq_some hsecond with ⟨rfl,-⟩|⟨-,hbefore'⟩
     · rfl
     · exact absurd hsame.symm (hidle f' second hbefore')
   · rcases get_set_eq_some hsecond with ⟨rfl,rfl⟩|⟨-,hbefore'⟩
     · exact absurd hsame (hidle f first hbefore)
     · exact h.unique f f' first second hbefore hbefore' hsame
 · exact forall_get_set (fun hclosing=>by cases hclosing) h.dropped

lemma Owned.reset {job:JobId}{device:DeviceId}(hjob:s.jobs.get job=some ⟨device,.running⟩)
 (hidle:∀f other,s.execs.get f=some other→ other.job≠job):
 Owned {s with jobs:=s.jobs.set job ⟨device,.pending⟩}:=by
 constructor
 · intro d row g hrow hgeneration
   obtain ⟨status,hfound,hlive⟩:=h.carried d row g hrow hgeneration
   by_cases heq:g=job
   · subst heq
     rw[hjob] at hfound
     cases hfound
     exact ⟨.pending,get_set_self _ _ _,.inl rfl⟩
   · exact ⟨status,(get_set_of_ne _ _ heq).trans hfound,hlive⟩
 · intro f other hother
   exact (get_set_of_ne _ _ (hidle f other hother)).trans (h.running f other hother)
 · exact h.unique
 · exact h.dropped

/-- A fold that prepares a recovery creates the job of the fresh generation with it. -/
lemma Owned.enqueue {g:JobId}(hfresh:s.jobs.get g=none):Owned { s with
  devices:=s.devices.set d {row with recoveryGeneration:=some g}
  jobs:=s.jobs.set g ⟨d,.pending⟩ }:=by
 have hnew:=h.newJob hfresh ⟨d,.pending⟩
 constructor
 · intro d' found g' hfound hgeneration
   rcases get_set_eq_some hfound with ⟨rfl,rfl⟩|⟨-,hbefore⟩
   · cases hgeneration
     exact ⟨.pending,get_set_self _ _ _,.inl rfl⟩
   · exact hnew.carried d' found g' hbefore hgeneration
 · exact hnew.running
 · exact hnew.unique
 · intro f other hother hclosing d' found hfound hgeneration
   rcases get_set_eq_some hfound with ⟨rfl,rfl⟩|⟨-,hbefore⟩
   · have hrunning:=h.running f other hother
     cases hgeneration
     rw[hfresh] at hrunning
     cases hrunning
   · exact h.dropped f other hother hclosing d' found hbefore hgeneration

lemma Owned.prepare (hexec:s.execs.get e=some exec)(hphase:closing exec.phase=false):
 Owned (s.setDevice exec.device {row with recoveryGeneration:=some exec.job}):=by
 constructor
 · intro d found g hfound hgeneration
   rcases get_set_eq_some hfound with ⟨rfl,rfl⟩|⟨-,hbefore⟩
   · cases hgeneration
     exact ⟨.running,h.running e exec hexec,.inr rfl⟩
   · exact h.carried d found g hbefore hgeneration
 · exact h.running
 · exact h.unique
 · intro f other hother hclosing d found hfound hgeneration
   rcases get_set_eq_some hfound with ⟨rfl,rfl⟩|⟨-,hbefore⟩
   · have hjob:exec.job=other.job:=Option.some.inj hgeneration
     have hsame:=h.unique e f exec other hexec hother hjob
     subst hsame
     cases hexec.symm.trans hother
     cases hphase.symm.trans hclosing
   · exact h.dropped f other hother hclosing d found hbefore hgeneration
end
end

section
variable {s t:State}{e:ExecId}{exec:Exec}{label:Label}

section
variable (h:Owned s)
include h

lemma owned_healthyFold {d:DeviceId}{row:DeviceRow}
 (hrow:s.devices.get d=some row)(facts:Facts){g:JobId}(hfresh:s.jobs.get g=none):Owned (healthyFold s d row facts g):=by
 unfold healthyFold
 split
 · exact h
 · split
   · dsimp only
     split
     · rename_i restored hrestored
       obtain ⟨-,-,entry,-,-,-,rfl⟩:=restoreRunAfterSelfHeal_eq_some hrestored
       exact h.lift hrow (.inl rfl)
     · exact h.setDevice hrow (.inl rfl)
   · split
     · exact h
     · dsimp only
       rcases prepareAutoRecovery_cases row facts s.now g with ⟨hsame,hown⟩|⟨hprepared,-,-⟩
       · split
         · rename_i htrue
           obtain ⟨status,hjob,-⟩:=h.carried d row g hrow (hown htrue)
           rw[hfresh] at hjob
           cases hjob
         · rw[hsame]
           exact h.setDevice hrow (.inr rfl)
       · rw[hprepared]
         exact h.enqueue hfresh

section
variable (hexec:s.execs.get e=some exec)
include hexec

lemma owned_ensurePrepared (hphase:exec.phase=.claimed)(facts:Facts):Owned (ensurePrepared s e exec facts):=by
 have hopen:closing exec.phase=false:=by
  rw[hphase]
  rfl
 unfold ensurePrepared
 split
 · rename_i hmissing
   apply h.endJob hexec
   apply h.dropped_of_own hexec
   intro row hrow
   rw[hmissing] at hrow
   cases hrow
 · rename_i row hrow
   split
   · rename_i current hcurrent
     split
     · rename_i hstale
       apply h.endJob hexec
       apply h.dropped_of_own hexec
       intro found hfound hgeneration
       rw[hrow] at hfound
       cases hfound
       rw[hcurrent] at hgeneration
       exact hstale (Option.some.inj hgeneration)
     · split
       · have hcleared:=h.setDevice hrow (clearRecoveryGeneration_keep row exec.job)
         apply hcleared.endJob hexec
         apply hcleared.dropped_of_own hexec
         intro found hfound
         cases (get_set_self _ _ _).symm.trans hfound
         exact clearRecoveryGeneration_ne row exec.job
       · exact h.setPhase hexec .prepared (fun hclosing=>by cases hclosing)
   · rename_i hnone
     dsimp only
     rcases prepareAutoRecovery_cases row facts s.now exec.job with ⟨hsame,hown⟩|⟨hprepared,-,-⟩
     · rw[hsame]
       split
       · rename_i htrue
         cases hnone.symm.trans (hown htrue)
       · have hkept:=h.setDevice hrow (.inr rfl)
         apply hkept.endJob hexec
         apply hkept.dropped_of_own hexec
         intro found hfound hgeneration
         cases (get_set_self _ _ _).symm.trans hfound
         cases hnone.symm.trans hgeneration
     · rw[hprepared]
       exact (h.prepare hexec hopen).setPhase hexec .prepared (fun hclosing=>by cases hclosing)

lemma owned_finalizeDevice (result:ProbeResult):Owned (finalizeDevice s e exec result):=by
 unfold finalizeDevice
 split
 · exact h.setPhase hexec .crashed (fun hclosing=>by cases hclosing)
 · rename_i row hrow
   have hkeep:=finalizeAutoRecovery_keep row s.now exec.job result
   have hne:=finalizeAutoRecovery_ne row s.now exec.job result
   dsimp only
   split
   · have hlifted:=h.lift hrow hkeep
     apply hlifted.setPhase hexec
     intro _
     apply hlifted.dropped_of_own hexec
     intro found hfound
     cases (get_set_self _ _ _).symm.trans hfound
     exact hne
   · have hwritten:=h.setDevice hrow hkeep
     apply hwritten.setPhase hexec
     intro _
     apply hwritten.dropped_of_own hexec
     intro found hfound
     cases (get_set_self _ _ _).symm.trans hfound
     exact hne
lemma owned_clearGeneration:Owned (clearGeneration s e exec):=by
 unfold clearGeneration
 split
 · rename_i hmissing
   apply h.setPhase hexec
   intro _
   apply h.dropped_of_own hexec
   intro row hrow
   cases hmissing.symm.trans hrow
 · rename_i row hrow
   have hcleared:=h.setDevice hrow (clearRecoveryGeneration_keep row exec.job)
   apply hcleared.setPhase hexec
   intro _
   apply hcleared.dropped_of_own hexec
   intro found hfound
   cases (get_set_self _ _ _).symm.trans hfound
   exact clearRecoveryGeneration_ne row exec.job
end

lemma owned_step (hguard:Recoverable s label)(hstep:step s label=some t):Owned t:=by
 cases transition_of_step hstep with
 | tick=>exact h.of_devices _ _ fun d row hrow=>.inr ⟨row,hrow,rfl⟩
 | operatorStop hrow | requestStart hrow | enterMaintenance hrow | releaseAndMaintain hrow
 | exitMaintenance hrow | writeReservation hrow=>exact h.setDevice hrow (.inr rfl)
 | unhealthyFold hrow=>exact h.setDevice hrow (.inl rfl)
 | scheduleDeviceRecovery hfresh=>exact h.newJob hfresh _
 | deleteDevice=>
  exact h.of_devices s.now s.lifts fun d' row hrow=>
   .inr ⟨row,(get_pop_eq_some hrow).2,rfl⟩
 | healthyFold hrow hfresh=>exact owned_healthyFold h hrow _ hfresh
 | claimJob hjob hfresh=>exact h.claim hjob hfresh
 | ensurePrepared hexec hphase=>exact owned_ensurePrepared h hexec hphase _
 | @deviceLockFails e exec hexec=>
  apply h.setPhase hexec
  intro _
  apply h.dropped_of_own hexec
  intro row hrow
  exact hguard (e,exec) (get_eq_some_iff.mp hexec) rfl (exec.device,row)
   (get_eq_some_iff.mp hrow) rfl
 | failUnlocked hexec hphase | finalizeJob hexec hphase | failJob hexec hphase=>
  exact h.endJob hexec (h.dropped _ _ hexec (by rw[hphase];rfl)) _
 | finalizeDevice hexec=>exact owned_finalizeDevice h hexec _
 | crash hexec=>exact h.setPhase hexec .crashed (fun hclosing=>by cases hclosing)
 | clearGeneration hexec=>exact owned_clearGeneration h hexec
 | die e=>exact h.die e
 | resetStaleJob hjob=>
  apply h.reset hjob
  intro f other hother
  exact hguard (f,other) (get_eq_some_iff.mp hother)
end
end

lemma Owned.noOrphan {s:State}(h:Owned s):NoOrphan s:=by
 intro d row g hrow hgeneration
 obtain ⟨status,hjob,hlive⟩:=h.carried d row g hrow hgeneration
 exact ⟨⟨d,status⟩,hjob,hlive⟩

/-- In every run whose lock failures spare the carried generations and whose resets wait for the
executions, no generation is orphaned. -/
theorem no_orphaned_generation (devices:Dict DeviceId DeviceRow)
 (hidle:∀d row,devices.get d=some row→ row.recoveryGeneration=none)
 (labels:List Label) (t:State)
 (hguard:Guarded Recoverable step (initial devices) labels)
 (hrun:run step (initial devices) labels=some t):NoOrphan t:=by
 have hinitial:Owned (initial devices):=by
  constructor
  · intro d row g hrow hgeneration
    rw[hidle d row hrow] at hgeneration
    cases hgeneration
  · intro e exec hexec
    cases hexec
  · intro e f exec other hexec
    cases hexec
  · intro e exec hexec
    cases hexec
 exact (run_invariant_guarded Owned (fun _ _ _ hs hg hstep=>owned_step hs hg hstep) hinitial hguard
  hrun).noOrphan

def offlineFacts:Facts where
 hasRunningSession:=false
 hasVerificationLease:=false
 stopInFlight:=true
 ready:=true
 isReadyForUse:=true
 hasLiveSession:=false
 deferredStopPending:=false
 backoffActive:=false
 nodeObservedRunning:=false
 hasNode:=true
 freePort:=true

def idleRow:DeviceRow:=⟨none,false,.empty,none⟩
def onePhone:Dict DeviceId DeviceRow:=Dict.empty.set 7 idleRow

/-- The job of recovery 1 cannot lock the device, fails, and leaves the generation behind: no later
healthy fold prepares another recovery. -/
theorem lock_failure_orphans_generation:
 ∃t,run step (initial onePhone)
   [.healthyFold 7 offlineFacts 1,.claimJob 1 0,.deviceLockFails 0,.failUnlocked 0]=some t∧
  t.jobs.get 1=some ⟨7,.failed⟩∧
  t.devices.get 7=some {idleRow with recoveryGeneration:=some 1}∧
  step t (.healthyFold 7 offlineFacts 2)=some (t.setDevice 7
   {idleRow with recoveryGeneration:=some 1})∧
  ¬NoOrphan t:=by
 refine ⟨_,rfl,rfl,rfl,rfl,?_⟩
 intro hno
 obtain ⟨job,hjob,hlive⟩:=hno 7 _ 1 rfl rfl
 cases hjob
 rcases hlive with hlive|hlive <;> cases hlive

theorem no_orphaned_generation_crashed:
 ∃t,run step (initial onePhone)
   [.healthyFold 7 offlineFacts 1,.claimJob 1 0,.ensurePrepared 0 offlineFacts,.crash 0,
    .clearGeneration 0,.failJob 0,.healthyFold 7 offlineFacts 2]=some t∧
  t.jobs.get 1=some ⟨7,.failed⟩∧
  t.devices.get 7=some {idleRow with recoveryGeneration:=some 2}∧NoOrphan t:=by
 have hidle:∀d row,onePhone.get d=some row→ row.recoveryGeneration=none:=
  forall_get_set rfl fun _ _ hnone=>by cases hnone
 refine ⟨_,rfl,rfl,rfl,no_orphaned_generation onePhone hidle
  [.healthyFold 7 offlineFacts 1,.claimJob 1 0,.ensurePrepared 0 offlineFacts,.crash 0,
   .clearGeneration 0,.failJob 0,.healthyFold 7 offlineFacts 2] _ ?_ rfl⟩
 decide
end GridFleet.RecoveryGeneration
