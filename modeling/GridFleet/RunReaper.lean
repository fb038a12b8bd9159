import GridFleet.RunTeardownOnce
/-! The reaper rechecks staleness under the run's row lock, but gives the lock back before the teardown
takes it again, so a heartbeat may commit in between. -/
namespace GridFleet.RunTeardown
open Dict List Option
open RecoveryJobs (JobId ExecId JobStatus)
open Interleaving

def Job.timesOut (job:Job):Bool:=
 decide (job.effect.kind=.expire)&&decide (job.effect.reason=some heartbeatTimeout)

/-- From the reaper's decision on: it is about to call `expire_run`, or the teardown job it led to is
open, or a stale-job reset is about to open it again. -/
def expiryUnderWay (w:World):Bool:=
 (w.execs.entries.any fun p=>decide (p.2.phase=.called .expire (some heartbeatTimeout)))||
  w.jobs.entries.any fun p=>p.2.timesOut&&(p.2.isOpen||decide (p.1∈w.resetting))

/-- No heartbeat or activation commits while a heartbeat expiry is under way. -/
def Undisturbed (w:World):Label→Prop
 | .heartbeat | .signalReady | .signalActive=>expiryUnderWay w=false
 | _=>True

instance (w:World)(label:Label):Decidable (Undisturbed w label):=
 match label with
 | .heartbeat | .signalReady | .signalActive=>inferInstanceAs (Decidable (_=false))
 | .advance _ | .lockClaim .. | .claim .. | .promote .. | .endSession .. | .releaseReservation _
 | .completeRun | .cancelRun _ | .forceRelease _ | .discover _ | .decideExpiry _ | .prepare .. | .perform ..
 | .finalize _ | .finish _ | .raise _ | .crash _ | .failJob _ | .claimJob .. | .readStaleJobs _
 | .resetStaleJobs=>isTrue trivial

lemma heartbeatStale_later {run run':Run}{now now':Instant}
 (hbeat:run'.lastHeartbeat=run.lastHeartbeat)
 (htimeout:run'.heartbeatTimeoutSec=run.heartbeatTimeoutSec)(hnow:now≤now')
 (h:heartbeatStale run now):heartbeatStale run' now':=by
 unfold heartbeatStale at h ⊢
 rw[hbeat,htimeout]
 cases hlast:run.lastHeartbeat with
 | none=>
  rw[hlast] at h
  cases h
 | some=>
  rw[hlast,any_some,decide_eq_true_eq] at h
  rw[any_some,decide_eq_true_eq]
  exact h.trans_le hnow
lemma heartbeatStale_of_decideExpiry {run:Run}{now:Instant}
 (h:decideExpiry run now=some heartbeatTimeout):heartbeatStale run now:=by
 unfold decideExpiry at h
 split at h
 · cases h
 · split at h
   · assumption
   · split at h
     · -- a TTL reason is a longer text
       have hlength:=congrArg String.length (some.inj h)
       rw[String.length_append,String.length_append] at hlength
       have hbefore : "TTL exceeded (".length=14:=by decide
       have hafter : " minutes)".length=9:=by decide
       have htimeout:heartbeatTimeout.length=17:=by decide
       omega
     · cases h

section
variable {w w':World}

variable {exec:Exec}{x:ExecId}{j:JobId}

lemma underWay_exec (hexec:w.execs.get x=some exec)
 (hphase:exec.phase=.called .expire (some heartbeatTimeout)):expiryUnderWay w:=by
 refine Bool.or_eq_true_iff.mpr (.inl (List.any_eq_true.mpr ⟨(x,exec),?_,?_⟩))
 · exact get_eq_some_iff.mp hexec
 · simpa using hphase
lemma underWay_job {job:Job}(hjob:w.jobs.get j=some job)(htimesOut:job.timesOut)
 (hopen:job.isOpen∨j∈w.resetting):expiryUnderWay w:=by
 refine Bool.or_eq_true_iff.mpr (.inr (List.any_eq_true.mpr ⟨(j,job),?_,?_⟩))
 · exact get_eq_some_iff.mp hjob
 · simpa[htimesOut] using hopen
lemma underWay_cases (h:expiryUnderWay w):
 (∃x exec,w.execs.get x=some exec∧exec.phase=.called .expire (some heartbeatTimeout))∨
  ∃j job,w.jobs.get j=some job∧job.timesOut∧(job.isOpen∨j∈w.resetting):=by
 rcases Bool.or_eq_true_iff.mp h with hexecs|hjobs
 · obtain ⟨⟨x,exec⟩,hmem,hphase⟩:=List.any_eq_true.mp hexecs
   exact .inl ⟨x,exec,get_eq_some_iff.mpr hmem,by simpa using hphase⟩
 · obtain ⟨⟨j,job⟩,hmem,hjob⟩:=List.any_eq_true.mp hjobs
   obtain ⟨htimesOut,hopen⟩:=Bool.and_eq_true_iff.mp hjob
   exact .inr ⟨j,job,get_eq_some_iff.mpr hmem,htimesOut,by simpa using hopen⟩

def ExecsFrom (w w':World):Prop:=
 ∀x exec,w'.execs.get x=some exec→exec.phase=.called .expire (some heartbeatTimeout)→
  expiryUnderWay w
def JobsFrom (w w':World):Prop:=
 ∀j job,w'.jobs.get j=some job→job.timesOut→job.isOpen∨j∈w'.resetting→
  expiryUnderWay w

lemma underWay_of_from (h:expiryUnderWay w')(hexecs:ExecsFrom w w')
 (hjobs:JobsFrom w w'):expiryUnderWay w:=by
 rcases underWay_cases h with ⟨x,exec,hexec,hphase⟩|⟨j,job,hjob,htimesOut,hopen⟩
 · exact hexecs x exec hexec hphase
 · exact hjobs j job hjob htimesOut hopen
lemma execsFrom_of_eq (hexecs:w'.execs=w.execs):ExecsFrom w w':=by
 intro x exec hexec hphase
 rw[hexecs] at hexec
 exact underWay_exec hexec hphase
lemma execsFrom_pop (hexecs:w'.execs=w.execs.pop x):ExecsFrom w w':=by
 intro y exec hexec hphase
 rw[hexecs] at hexec
 exact underWay_exec (get_pop_eq_some hexec).2 hphase
lemma execsFrom_set (hexecs:w'.execs=w.execs.set x exec)
 (hphase:exec.phase ≠ .called .expire (some heartbeatTimeout)):ExecsFrom w w':=by
 unfold ExecsFrom
 rw[hexecs]
 exact forall_get_set (fun hcalled=>absurd hcalled hphase) fun _ _ hold=>underWay_exec hold
lemma jobsFrom_of_eq (hjobs:w'.jobs=w.jobs)(hresetting:w'.resetting=w.resetting):JobsFrom w w':=by
 intro j job hjob htimesOut hopen
 rw[hjobs] at hjob
 rw[hresetting] at hopen
 exact underWay_job hjob htimesOut hopen
lemma jobsFrom_status {job:Job}{status:JobStatus}(hjob:w.jobs.get j=some job)
 (hjobs:w'.jobs=w.jobs.set j {job with status:=status})(hresetting:w'.resetting=w.resetting)
 (hstatus:job.isOpen∨({job with status:=status}:Job).isOpen=false):JobsFrom w w':=by
 intro k other hother htimesOut hopen
 rw[hjobs] at hother
 rw[hresetting] at hopen
 rcases get_set_eq_some hother with ⟨rfl,rfl⟩|⟨-,hold⟩
 · refine underWay_job hjob htimesOut ?_
   rcases hstatus with hwas|hcloses
   · exact .inl hwas
   · rw[hcloses] at hopen
     exact .inr (hopen.resolve_left (fun h=>by cases h))
 · exact underWay_job hold htimesOut hopen

lemma jobsFrom_failJob {operation:JobId}(hjobs:w'.jobs=failJob w operation)
 (hresetting:w'.resetting=w.resetting):JobsFrom w w':=by
 cases hjob:w.jobs.get operation with
 | none=>exact jobsFrom_of_eq (hjobs.trans (by simp[failJob,hjob])) hresetting
 | some job=>
  have hfailed:failJob w operation=w.jobs.set operation {job with status:=.failed}:=by
   simp[failJob,hjob]
  exact jobsFrom_status hjob (hjobs.trans hfailed) hresetting (.inr rfl)
lemma jobsFrom_finalizeTxn (w:World)(effect:RunTeardownEffect)(result:RunTeardownResult):
 JobsFrom w (finalizeTxn w effect result):=by
 rcases finalizeTxn_cases w effect result with heq|⟨job,hjob,hopen,⟨-,heq⟩|⟨-,heq⟩⟩
 · rw[heq]
   exact jobsFrom_of_eq rfl rfl
 · rw[heq]
   exact jobsFrom_status hjob rfl rfl (.inl hopen)
 · rw[heq]
   exact jobsFrom_status hjob rfl rfl (.inl hopen)
lemma jobsFrom_reset:JobsFrom w { w with
 jobs:=w.jobs.map fun j job=>if j∈w.resetting then {job with status:=.pending} else job
 resetting:=[] }:=by
 intro j job hjob htimesOut hopen
 obtain ⟨old,hold,rfl⟩:=get_map_eq_some hjob
 by_cases hmem:j∈w.resetting
 · rw[if_pos hmem] at htimesOut
   exact underWay_job hold htimesOut (.inr hmem)
 · rw[if_neg hmem] at htimesOut hopen
   exact underWay_job hold htimesOut (.inl (hopen.resolve_right not_mem_nil))

lemma jobsFrom_create {effect:RunTeardownEffect}{kind:RunTeardownKind}{reason:Option String}
 (hexec:w.execs.get x=some exec)(hphase:exec.phase=.called kind reason)
 (hkind:effect.kind=kind)(hreason:effect.reason=reason)
 (hjobs:w'.jobs=w.jobs.set j ⟨effect,.pending⟩)(hresetting:w'.resetting=w.resetting):
 JobsFrom w w':=by
 intro k other hother htimesOut hopen
 rw[hjobs] at hother
 rw[hresetting] at hopen
 rcases get_set_eq_some hother with ⟨-,rfl⟩|⟨-,hold⟩
 · -- the job carries the decision its command came with
   have hdecision:kind=.expire∧reason=some heartbeatTimeout:=by
    simpa[Job.timesOut,hkind,hreason] using htimesOut
   rw[hdecision.1,hdecision.2] at hphase
   exact underWay_exec hexec hphase
 · exact underWay_job hold htimesOut hopen
lemma finalizeTxn_clock (w:World)(effect:RunTeardownEffect)(result:RunTeardownResult):
 (finalizeTxn w effect result).run.lastHeartbeat=w.run.lastHeartbeat∧
  (finalizeTxn w effect result).run.heartbeatTimeoutSec=w.run.heartbeatTimeoutSec∧
  w.now≤(finalizeTxn w effect result).now:=by
 rcases finalizeTxn_cases w effect result with heq|⟨job,-,-,⟨-,heq⟩|⟨-,heq⟩⟩
 · rw[heq]
   exact ⟨rfl,rfl,le_rfl⟩
 · rw[heq]
   exact ⟨rfl,rfl,le_rfl⟩
 · rw[heq]
   simp only[applyTeardown,endRun,applyRunTerminal]
   cases effect.kind <;> exact ⟨rfl,rfl,le_rfl⟩

/-- What an expiry under way after a step says about the state before it: the run was stale then, or
the expiry was under way already and the run has only got older. -/
def ExpiryFrom (w w':World):Prop:=
 heartbeatStale w'.run w'.now∨
  expiryUnderWay w∧w'.run.lastHeartbeat=w.run.lastHeartbeat∧
   w'.run.heartbeatTimeoutSec=w.run.heartbeatTimeoutSec∧w.now≤w'.now

lemma expiryFrom_of_from (h:expiryUnderWay w')(hexecs:ExecsFrom w w')
 (hjobs:JobsFrom w w')(hrun:w'.run=w.run)(hnow:w'.now=w.now):ExpiryFrom w w':=by
 refine .inr ⟨underWay_of_from h hexecs hjobs,?_,?_,?_⟩
 · rw[hrun]
 · rw[hrun]
 · rw[hnow]

lemma expiryFrom_of_step {label:Label}(hundisturbed:Undisturbed w label)
 (hstep:step w label=some w')(h:expiryUnderWay w'):ExpiryFrom w w':=by
 cases transition_of_step hstep with
 | advance=>exact .inr ⟨h,rfl,rfl,Nat.le_add_right _ _⟩
 | lockClaim | claim | updateRows | releaseReservation | stay | completeRun=>
  exact .inr ⟨h,rfl,rfl,le_rfl⟩
 | heartbeat | signalReady | signalActive=>
  -- the same jobs and executors as before, of which none is such an expiry
  have hnone:expiryUnderWay w=false:=hundisturbed
  have hsome:expiryUnderWay w:=h
  rw[hnone] at hsome
  cases hsome
 | start _ _ hphase=>
  refine expiryFrom_of_from h (execsFrom_set rfl ?_) (jobsFrom_of_eq rfl rfl) rfl rfl
  intro heq
  rcases hphase with rfl|⟨kind,rfl⟩ <;> cases heq
 | leave=>exact expiryFrom_of_from h (execsFrom_pop rfl) (jobsFrom_of_eq rfl rfl) rfl rfl
 | @decided x exec reason hexec hreason=>
  by_cases htimeout:reason=heartbeatTimeout
  · subst htimeout
    exact .inl (heartbeatStale_of_decideExpiry hreason)
  · refine expiryFrom_of_from h (execsFrom_set rfl ?_) (jobsFrom_of_eq rfl rfl) rfl rfl
    intro heq
    cases heq
    exact htimeout rfl
 | returnEarly | adopt | perform | returnNormally | workerRaises=>
  refine expiryFrom_of_from h (execsFrom_set rfl ?_) (jobsFrom_of_eq rfl rfl) rfl rfl
  intro heq
  cases heq
 | create hexec hphase _ _ heffect=>
  refine expiryFrom_of_from h (execsFrom_set rfl ?_)
   (jobsFrom_create hexec hphase (by rw[heffect]) (by rw[heffect]) rfl rfl) rfl rfl
  intro heq
  cases heq
 | @finalize x exec effect result=>
  have hfrom:ExecsFrom w (setPhase (finalizeTxn w effect result) x exec
    (.finalized effect.operationId)):=by
   refine execsFrom_set (execs_finalized w x exec effect result) ?_
   intro heq
   cases heq
  exact .inr ⟨underWay_of_from h hfrom (jobsFrom_finalizeTxn w effect result),
   finalizeTxn_clock w effect result⟩
 | failJob=>exact expiryFrom_of_from h (execsFrom_pop rfl) (jobsFrom_failJob rfl rfl) rfl rfl
 | claimJob hjob hpending=>
  refine expiryFrom_of_from h (execsFrom_set rfl ?_)
   (jobsFrom_status hjob rfl rfl (.inl (by simp[Job.isOpen,hpending]))) rfl rfl
  intro heq
  cases heq
 | readStaleJobs _ hrunning=>
  refine expiryFrom_of_from h (execsFrom_of_eq rfl) ?_ rfl rfl
  intro j job hjob htimesOut hopen
  refine underWay_job hjob htimesOut (.inl ?_)
  rcases hopen with hopen|hmem
  · exact hopen
  · obtain ⟨job',hjob',hstatus⟩:=hrunning j hmem
    cases hjob.symm.trans hjob'
    simp[Job.isOpen,hstatus]
 | resetStaleJobs=>exact expiryFrom_of_from h (execsFrom_of_eq rfl) jobsFrom_reset rfl rfl
end

def ExpiriesStale (w:World):Prop:=
 expiryUnderWay w→heartbeatStale w.run w.now

lemma expiriesStale_step {w w':World}{label:Label}(h:ExpiriesStale w)
 (hundisturbed:Undisturbed w label)(hstep:step w label=some w'):ExpiriesStale w':=by
 intro hunderWay
 rcases expiryFrom_of_step hundisturbed hstep hunderWay with hstale|⟨hbefore,hbeat,htimeout,hnow⟩
 · exact hstale
 · exact heartbeatStale_later hbeat htimeout hnow (h hbefore)
lemma Opening.expiriesStale {w:World}(h:Opening w):ExpiriesStale w:=by
 intro hunderWay
 rcases underWay_cases hunderWay with ⟨x,exec,hexec,-⟩|⟨j,job,hjob,-⟩
 · rw[h.execs] at hexec
   cases hexec
 · rw[h.jobs] at hjob
   cases hjob
lemma isOpen_of_finalize_ends {w:World}(hkeyed:Keyed w){x:ExecId}{exec:Exec}
 {effect:RunTeardownEffect}{result:RunTeardownResult}(hexec:w.execs.get x=some exec)
 (hphase:exec.phase=.performed effect result)(hlive:w.run.isTerminal=false)
 (hended:(finalizeTxn w effect result).run.isTerminal):
 ∃job,w.jobs.get effect.operationId=some job∧job.isOpen∧job.effect=effect:=by
 obtain ⟨job,hjob,heffect⟩:=hkeyed.exec x exec effect hexec (by rw[hphase];rfl)
 rcases finalizeTxn_cases w effect result with heq|⟨filed,hfiled,hopen,-⟩
 · rw[heq,hlive] at hended
   cases hended
 · cases hjob.symm.trans hfiled
   exact ⟨job,hjob,hopen,heffect⟩

theorem heartbeat_expiry_is_stale {initial w w':World} {labels:List Label} {x:ExecId}
 {exec:Exec} {effect:RunTeardownEffect} {result:RunTeardownResult}
 (hopening:Opening initial) (hundisturbed:Guarded Undisturbed step initial labels)
 (hrun:run step initial labels=some w) (hexec:w.execs.get x=some exec)
 (hphase:exec.phase=.performed effect result) (hkind:effect.kind=.expire)
 (hreason:effect.reason=some heartbeatTimeout) (hlive:w.run.isTerminal=false)
 (hstep:step w (.finalize x)=some w') (hended:w'.run.isTerminal=true):
 heartbeatStale w'.run w'.now=true:=by
 have hinv:Keyed w∧ExpiriesStale w:=by
  refine run_invariant_guarded (fun u=>Keyed u∧ExpiriesStale u) ?_
   ⟨hopening.keyed,hopening.expiriesStale⟩ hundisturbed hrun
  intro u label v hu hguard hnext
  exact ⟨keyed_step hu.1 hnext,expiriesStale_step hu.2 hguard hnext⟩
 have hfinal:w'=setPhase (finalizeTxn w effect result) x exec (.finalized effect.operationId):=by
  simp only[step,hexec,bind_some,hphase,some.injEq] at hstep
  exact hstep.symm
 subst hfinal
 obtain ⟨job,hjob,hopen,heffect⟩:=isOpen_of_finalize_ends hinv.1 hexec hphase hlive hended
 have htimesOut:job.timesOut=true:=by simp[Job.timesOut,heffect,hkind,hreason]
 have hstale:=hinv.2 (underWay_job hjob htimesOut (.inl hopen))
 obtain ⟨hbeat,htimeout,hnow⟩:=finalizeTxn_clock w effect result
 exact heartbeatStale_later hbeat htimeout hnow hstale

def silentRun:List Label:=[.advance 121000000,.discover 100,.decideExpiry 100]
def reapedEffect:RunTeardownEffect:=⟨9,.expire,.active,some heartbeatTimeout,[]⟩
def reaped:World:=(run step activeRun (silentRun++[.prepare 100 9 [],.perform 100 []])).getD activeRun
def expired:World:=(step reaped (.finalize 100)).getD reaped

theorem heartbeat_expiry_is_stale_reaped:
 expired.run.state=.expired∧heartbeatStale expired.run expired.now=true:=by
 have hrun:run step activeRun (silentRun++[.prepare 100 9 [],.perform 100 []])=some reaped:=rfl
 have hexec:reaped.execs.get 100=some ⟨false,.performed reapedEffect ⟨[],[]⟩⟩:=rfl
 have hstep:step reaped (.finalize 100)=some expired:=rfl
 refine ⟨rfl,?_⟩
 exact heartbeat_expiry_is_stale activeRun_opening (by decide) hrun hexec rfl rfl rfl rfl hstep rfl

/-- A heartbeat between the reaper's decision and the teardown does not save the run. -/
theorem reaper_expires_fresh_run:
 ∃w,run step activeRun
   (silentRun++[.heartbeat,.prepare 100 9 [],.perform 100 [],.finalize 100])=some w∧
  w.run.state=.expired∧w.run.error=some heartbeatTimeout∧
  w.run.lastHeartbeat=some w.now∧heartbeatStale w.run w.now=false∧
  ttlStale w.run w.now=false:=by
 refine ⟨_,rfl,rfl,rfl,rfl,?_,?_⟩ <;> decide
end GridFleet.RunTeardown
