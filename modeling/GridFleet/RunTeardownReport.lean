import GridFleet.RunTeardownOnce
namespace GridFleet.RunTeardown
open Dict Option
open RecoveryJobs (JobId ExecId JobStatus)
open Interleaving

def failsAlone (w:World)(operation:JobId):Bool:=
 (w.jobs.get operation).all (fun job=>decide (job.status ≠ .completed))&&
  w.execs.entries.all fun p=>
   p.2.worker||decide (p.2.phase.effect.map RunTeardownEffect.operationId≠some operation)

/-- The worker fails a job only when it fails it alone, and a reset writes only jobs that are still
running. -/
def Orderly (w:World):Label→Prop
 | .failJob x=>((w.execs.get x).all fun exec=>
   match exec.phase with
   | .failing operation=>failsAlone w operation
   | _=>true)
 | .resetStaleJobs=>(w.resetting.all fun j=>
   (w.jobs.get j).all fun job=>decide (job.status=.running))
 | _=>True

instance (w:World)(label:Label):Decidable (Orderly w label):=
 match label with
 | .failJob _=>inferInstanceAs (Decidable (_=true))
 | .resetStaleJobs=>inferInstanceAs (Decidable (_=true))
 | .advance _ | .lockClaim .. | .claim .. | .promote .. | .endSession .. | .releaseReservation _
 | .heartbeat | .signalReady | .signalActive | .completeRun | .cancelRun _ | .forceRelease _ | .discover _
 | .decideExpiry _ | .prepare .. | .perform .. | .finalize _ | .finish _ | .raise _ | .crash _
 | .claimJob .. | .readStaleJobs _=>isTrue trivial

/-- What an executor's phase says about the run: a command that has returned or is about to has ended
it; one that holds an effect still has an open job to finalise. -/
structure Reports (w:World)(exec:Exec):Prop where
 returned:exec.phase=.returned→w.run.isTerminal
 finalized:exec.worker=false→∀operation,exec.phase=.finalized operation→
  w.run.isTerminal
 held:exec.worker=false→∀effect,exec.phase.effect=some effect→
  w.run.isTerminal∨∃job,w.jobs.get effect.operationId=some job∧job.isOpen

def Reporting (w:World):Prop:=∀x exec,w.execs.get x=some exec→Reports w exec
def JobsOpen (w w':World):Prop:=
 ∀j job,w.jobs.get j=some job→job.isOpen→
  w'.run.isTerminal∨∃job',w'.jobs.get j=some job'∧job'.isOpen

section
variable {w w':World}

lemma jobsOpen_of_eq (hjobs:w'.jobs=w.jobs):JobsOpen w w':=by
 intro j job hjob hopen
 rw[hjobs]
 exact .inr ⟨job,hjob,hopen⟩
lemma jobsOpen_set {j:JobId}{job:Job}(hopen:job.isOpen)
 (hjobs:w'.jobs=w.jobs.set j job):JobsOpen w w':=by
 intro k old hold holdOpen
 rw[hjobs,get_set]
 by_cases hk:k=j
 · exact .inr ⟨job,if_pos hk,hopen⟩
 · exact .inr ⟨old,(if_neg hk).trans hold,holdOpen⟩
lemma jobsOpen_reset:JobsOpen w { w with
 jobs:=w.jobs.map fun j job=>if j∈w.resetting then {job with status:=.pending} else job
 resetting:=[] }:=by
 intro j job hjob hopen
 right
 refine ⟨_,(Dict.get_map ..).trans (by rw[hjob];rfl),?_⟩
 split
 · rfl
 · exact hopen

variable {exec:Exec}{x:ExecId}

lemma Reports.mono (h:Reports w exec)(hrun:w.run.isTerminal→w'.run.isTerminal)(hjobs:JobsOpen w w'):
 Reports w' exec:=by
 refine ⟨fun hphase=>hrun (h.returned hphase),fun hinline operation hphase=>
  hrun (h.finalized hinline operation hphase),?_⟩
 intro hinline effect heffect
 rcases h.held hinline effect heffect with hended|⟨job,hjob,hopen⟩
 · exact .inl (hrun hended)
 · exact hjobs _ job hjob hopen
lemma Reporting.update (h:Reporting w)(hrun:w.run.isTerminal→w'.run.isTerminal)
 (hjobs:JobsOpen w w')(hexecs:w'.execs=w.execs):Reporting w':=by
 intro x exec hexec
 rw[hexecs] at hexec
 exact (h x exec hexec).mono hrun hjobs
lemma Reporting.setExec (h:Reporting w)(hrun:w.run.isTerminal→w'.run.isTerminal)
 (hjobs:JobsOpen w w')(hexecs:w'.execs=w.execs.set x exec)(hexec:Reports w' exec):Reporting w':=by
 unfold Reporting
 rw[hexecs]
 exact forall_get_set hexec fun y other hold=>(h y other hold).mono hrun hjobs
lemma Reporting.popExec (h:Reporting w)(x:ExecId):Reporting {w with execs:=w.execs.pop x}:=by
 intro y other hother
 exact (h y other (get_pop_eq_some hother).2).mono (fun hended=>hended) (jobsOpen_of_eq rfl)

lemma reports_of_silent (hreturned:exec.phase ≠ .returned)
 (hfinalized:∀operation,exec.phase ≠ .finalized operation)(heffect:exec.phase.effect=none):
 Reports w exec:=by
 refine ⟨fun h=>absurd h hreturned,fun _ operation h=>absurd h (hfinalized operation),?_⟩
 intro _ effect h
 rw[heffect] at h
 cases h
lemma reports_of_ended (hended:w.run.isTerminal):Reports w exec:=
 ⟨fun _=>hended,fun _ _ _=>hended,fun _ _ _=>.inl hended⟩
lemma reports_of_open {effect:RunTeardownEffect}{job:Job}(hphase:exec.phase.effect=some effect)
 (hjob:w.jobs.get effect.operationId=some job)(hopen:job.isOpen):Reports w exec:=by
 refine ⟨fun h=>?_,fun _ operation h=>?_,fun _ held hheld=>?_⟩
 · rw[h] at hphase
   cases hphase
 · rw[h] at hphase
   cases hphase
 · cases hheld.symm.trans hphase
   exact .inr ⟨job,hjob,hopen⟩
lemma reports_of_worker (hworker:exec.worker)(hreturned:exec.phase ≠ .returned):Reports w exec:=by
 refine ⟨fun h=>absurd h hreturned,fun hinline=>?_,fun hinline=>?_⟩ <;>
  rw[hworker] at hinline <;> cases hinline
lemma finalizeTxn_ends (w:World)(effect:RunTeardownEffect)(result:RunTeardownResult):
 finalizeTxn w effect result=w∨(finalizeTxn w effect result).run.isTerminal:=by
 rcases finalizeTxn_cases w effect result with heq|⟨job,-,-,⟨hended,heq⟩|⟨-,heq⟩⟩
 · exact .inl heq
 · right
   rw[heq]
   exact hended
 · right
   rw[heq]
   exact isTerminal_applyRunTerminal w.run effect w.now

lemma Reporting.finalize (h:Reporting w)(hkeyed:Keyed w){effect:RunTeardownEffect}
 {result:RunTeardownResult}(hexec:w.execs.get x=some exec)
 (hphase:exec.phase=.performed effect result):
 Reporting (setPhase (finalizeTxn w effect result) x exec (.finalized effect.operationId)):=by
 rcases finalizeTxn_ends w effect result with heq|hended
 · -- the transaction found nothing to do, so a command's job was over and so was its run
   rw[heq]
   refine h.setExec (fun hended=>hended) (jobsOpen_of_eq rfl) rfl ?_
   refine ⟨?_,?_,?_⟩
   · intro hreturned
     cases hreturned
   rotate_left
   · intro _ held hheld
     cases hheld
   intro hinline operation _
   have hheld:=(h x exec hexec).held hinline effect (by rw[hphase];rfl)
   rcases hheld with hended|⟨job,hjob,hopen⟩
   · exact hended
   · have hopened:=finalizeTxn_of_open result hjob hopen (hkeyed.job _ job hjob)
     rw[heq] at hopened
     split at hopened
     · assumption
     · rw[hopened]
       exact isTerminal_applyRunTerminal w.run effect w.now
 · intro y other _
   exact reports_of_ended hended

lemma Reporting.failJob (h:Reporting w){operation:JobId}(halone:failsAlone w operation):
 Reporting {w with jobs:=failJob w operation,execs:=w.execs.pop x}:=by
 intro y other hother
 have hold:=(get_pop_eq_some hother).2
 have hreports:=h y other hold
 refine ⟨hreports.returned,hreports.finalized,?_⟩
 intro hinline effect heffect
 rcases hreports.held hinline effect heffect with hended|⟨job,hjob,hopen⟩
 · exact .inl hended
 · have hothers:=List.all_eq_true.mp (Bool.and_eq_true_iff.mp halone).2 (y,other)
    (get_eq_some_iff.mp hold)
   have hne:effect.operationId≠operation:=by
    intro heq
    simp[hinline,heffect,heq] at hothers
   right
   refine ⟨job,?_,hopen⟩
   unfold RunTeardown.failJob
   split
   · exact hjob
   · exact (get_set_of_ne _ _ hne).trans hjob

lemma reporting_step {label:Label}(h:Reporting w)(hkeyed:Keyed w)(horderly:Orderly w label)
 (hstep:step w label=some w'):Reporting w':=by
 cases transition_of_step hstep with
 | advance | lockClaim | claim | updateRows | releaseReservation | stay | heartbeat | readStaleJobs=>
  exact h.update (fun hended=>hended) (jobsOpen_of_eq rfl) rfl
 | signalReady hstate | signalActive hstate=>
  refine h.update (fun hended=>?_) (jobsOpen_of_eq rfl) rfl
  rw[isTerminal_of_preparing hstate] at hended
  cases hended
 | completeRun=>exact h.update (fun _=>rfl) (jobsOpen_of_eq rfl) rfl
 | start _ _ hphase=>
  refine h.setExec (fun hended=>hended) (jobsOpen_of_eq rfl) rfl ?_
  rcases hphase with rfl|⟨kind,rfl⟩ <;>
   exact reports_of_silent (fun h=>by cases h) (fun _ h=>by cases h) rfl
 | leave _ x=>exact h.popExec x
 | decided | workerRaises=>
  refine h.setExec (fun hended=>hended) (jobsOpen_of_eq rfl) rfl ?_
  exact reports_of_silent (fun h=>by cases h) (fun _ h=>by cases h) rfl
 | returnEarly _ hended=>
  exact h.setExec (fun hended=>hended) (jobsOpen_of_eq rfl) rfl (reports_of_ended hended)
 | adopt _ hjob hopen=>
  refine h.setExec (fun hended=>hended) (jobsOpen_of_eq rfl) rfl (reports_of_open rfl ?_ hopen)
  rw[hkeyed.job _ _ hjob]
  exact hjob
 | create _ _ _ _ heffect=>
  subst heffect
  refine h.setExec (fun hended=>hended) (jobsOpen_set rfl rfl) rfl ?_
  exact reports_of_open rfl (get_set_self ..) rfl
 | @perform x outcomes exec effect hexec hphase=>
  refine h.setExec (fun hended=>hended) (jobsOpen_of_eq rfl) rfl ?_
  have hreports:=h x exec hexec
  refine ⟨fun h=>(by cases h),fun _ _ h=>(by cases h),fun hinline held hheld=>?_⟩
  cases hheld
  exact hreports.held hinline effect (by rw[hphase];rfl)
 | finalize hexec hphase=>exact h.finalize hkeyed hexec hphase
 | @returnNormally x exec operation hexec hphase hinline=>
  have hended:=(h x exec hexec).finalized hinline operation hphase
  exact h.setExec (fun hended=>hended) (jobsOpen_of_eq rfl) rfl (reports_of_ended hended)
 | @failJob x exec operation hexec hphase=>
  have halone:failsAlone w operation:=by
   simpa only[Orderly,hexec,all_some,hphase] using horderly
  exact h.failJob halone
 | claimJob=>
  refine h.setExec (fun hended=>hended) (jobsOpen_set rfl rfl) rfl ?_
  exact reports_of_worker rfl (fun h=>by cases h)
 | resetStaleJobs=>exact h.update (fun hended=>hended) jobsOpen_reset rfl
end

def Completed (w:World)(j:JobId):Prop:=
 ∃job,w.jobs.get j=some job∧job.status=.completed

section
variable {w w':World}{j:JobId}

variable {job:Job}

lemma Completed.set (h:Completed w j){k:JobId}{job':Job}(hjob:w.jobs.get k=some job)
 (hstatus:job.status ≠ .completed)(hjobs:w'.jobs=w.jobs.set k job'):Completed w' j:=by
 obtain ⟨done,hdone,hcompleted⟩:=h
 have hne:j≠k:=by
  intro heq
  rw[heq,hjob] at hdone
  cases hdone
  exact hstatus hcompleted
 refine ⟨done,?_,hcompleted⟩
 rw[hjobs]
 exact (get_set_of_ne _ _ hne).trans hdone
lemma Completed.insert (h:Completed w j){k:JobId}(hfresh:w.jobs.get k=none)
 (hjobs:w'.jobs=w.jobs.set k job):Completed w' j:=by
 obtain ⟨done,hdone,hcompleted⟩:=h
 have hne:j≠k:=by
  intro heq
  rw[heq,hfresh] at hdone
  cases hdone
 refine ⟨done,?_,hcompleted⟩
 rw[hjobs]
 exact (get_set_of_ne _ _ hne).trans hdone
lemma status_ne_completed_of_isOpen (h:job.isOpen):job.status ≠ .completed:=by
 intro heq
 simp[Job.isOpen,heq] at h
lemma Completed.failJob (h:Completed w j){operation:JobId}
 (halone:failsAlone w operation)(execs:Dict ExecId Exec):
 Completed {w with jobs:=failJob w operation,execs:=execs} j:=by
 have hstatus:=(Bool.and_eq_true_iff.mp halone).1
 cases hjob:w.jobs.get operation with
 | none=>simpa[RunTeardown.failJob,hjob,Completed] using h
 | some job=>
  rw[hjob,all_some,decide_eq_true_eq] at hstatus
  have hjobs:RunTeardown.failJob w operation=w.jobs.set operation {job with status:=.failed}:=by
   simp[RunTeardown.failJob,hjob]
  exact h.set hjob hstatus hjobs
lemma Completed.finalizeTxn (h:Completed w j)(effect:RunTeardownEffect)
 (result:RunTeardownResult):Completed (finalizeTxn w effect result) j:=by
 rcases finalizeTxn_cases w effect result with heq|⟨job,hjob,hopen,⟨-,heq⟩|⟨-,heq⟩⟩
 · rw[heq]
   exact h
 · rw[heq]
   exact h.set hjob (status_ne_completed_of_isOpen hopen) rfl
 · rw[heq]
   exact h.set hjob (status_ne_completed_of_isOpen hopen) rfl

lemma completed_step {label:Label}(h:Completed w j)(horderly:Orderly w label)
 (hstep:step w label=some w'):Completed w' j:=by
 cases transition_of_step hstep with
 | advance | lockClaim | claim | updateRows | releaseReservation | stay | heartbeat | signalReady
 | signalActive | completeRun | start | leave | decided | returnEarly | adopt | perform | returnNormally
 | workerRaises | readStaleJobs=>exact h
 | create _ _ hfresh=>exact h.insert hfresh rfl
 | finalize=>exact h.finalizeTxn _ _
 | @failJob x exec operation hexec hphase=>
  have halone:failsAlone w operation:=by
   simpa only[Orderly,hexec,all_some,hphase] using horderly
  exact h.failJob halone _
 | claimJob hjob hpending=>exact h.set hjob (by simp[hpending]) rfl
 | resetStaleJobs=>
  obtain ⟨done,hdone,hcompleted⟩:=h
  have hnot:j ∉ w.resetting:=by
   intro hmem
   have hrunning:=List.all_eq_true.mp horderly j hmem
   simp[hdone,hcompleted] at hrunning
  refine ⟨done,?_,hcompleted⟩
  simp[hdone,hnot]
end

lemma Opening.reporting {w:World}(h:Opening w):Reporting w:=by
 intro x exec hexec
 rw[h.execs] at hexec
 cases hexec

theorem returned_run_is_over {initial w final:World} {before after:List Label}
 (hopening:Opening initial) (hbeforeOrderly:Guarded Orderly step initial before)
 (hbefore:run step initial before=some w) (hafterOrderly:Guarded Orderly step w after)
 (hafter:run step w after=some final):
 (∀x exec,final.execs.get x=some exec→ exec.phase=.returned→ final.run.isTerminal=true)∧
  ∀j,Completed w j→ Completed final j:=by
 have hpreserved:∀u label v,Keyed u∧Reporting u→Orderly u label→ step u label=some v→
   Keyed v∧Reporting v:=by
  intro u label v hu horderly hstep
  exact ⟨keyed_step hu.1 hstep,reporting_step hu.2 hu.1 horderly hstep⟩
 have hw:=run_invariant_guarded _ hpreserved ⟨hopening.keyed,hopening.reporting⟩ hbeforeOrderly
  hbefore
 have hfinal:=run_invariant_guarded _ hpreserved hw hafterOrderly hafter
 refine ⟨fun x exec hexec hreturned=>(hfinal.2 x exec hexec).returned hreturned,?_⟩
 intro j hdone
 refine run_invariant_guarded (Completed · j) ?_ hdone hafterOrderly hafter
 intro u label v hu horderly hstep
 exact completed_step hu horderly hstep

def bothFinish:List Label:=
 [.cancelRun 100,.prepare 100 9 [],.claimJob 200 9,.perform 100 [],.perform 200 []]
def bothPerformed:World:=(run step activeRun bothFinish).getD activeRun
def bothFinished:World:=
 (run step bothPerformed [.finalize 100,.finalize 200,.finish 200,.finish 100]).getD bothPerformed

theorem returned_run_is_over_cancelled:
 (bothFinished.execs.get 100).map Exec.phase=some .returned∧
  (∀x exec,bothFinished.execs.get x=some exec→ exec.phase=.returned→
   bothFinished.run.isTerminal=true)∧
  ∀j,Completed bothPerformed j→ Completed bothFinished j:=by
 have hbefore:run step activeRun bothFinish=some bothPerformed:=rfl
 have hafter:run step bothPerformed [.finalize 100,.finalize 200,.finish 200,.finish 100] =
   some bothFinished:=rfl
 refine ⟨by decide,returned_run_is_over activeRun_opening ?_ hbefore ?_ hafter⟩ <;> decide

/-- The worker's effect raises while the command is deleting sessions, and the command then reports a
cancelled run that is still active. -/
def workerFailsFirst:List Label:=
 [.cancelRun 100,.prepare 100 9 [],.claimJob 200 9,.raise 200,.failJob 200,.perform 100 [],
  .finalize 100,.finish 100]

/-- The worker's finalisation commits and a deferred stop after it raises. -/
def workerFailsLast:List Label:=
 [.cancelRun 100,.prepare 100 9 [],.claimJob 200 9,.perform 200 [],.finalize 200]

theorem worker_failure_breaks_report:
 (∃w,run step activeRun workerFailsFirst=some w∧
  (w.execs.get 100).map Exec.phase=some .returned∧w.run.isTerminal=false)∧
 ∃w final,run step activeRun workerFailsLast=some w∧
  run step w [.raise 200,.failJob 200]=some final∧
  (w.jobs.get 9).map Job.status=some .completed∧
  (final.jobs.get 9).map Job.status=some .failed:=by
 refine ⟨⟨_,rfl,?_,?_⟩,⟨_,_,rfl,rfl,?_,?_⟩⟩ <;> decide
end GridFleet.RunTeardown
