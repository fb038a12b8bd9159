import GridFleet.RunTeardown
/-! One transaction ends the run: it writes the terminal state, the terminal event and the release of the
reservations together, and nothing touches them afterwards. A finalisation closes a running session
only on the strength of a successful `DELETE` of its Appium session. -/
namespace GridFleet.RunTeardown
open Dict List Option
open SessionLifecycle (isLive isOpen ended terminalStatus TxId)
open SessionRows
open RecoveryJobs (JobId ExecId JobStatus terminalStates)
open Interleaving

def terminalEvents (w:World):List RunEvent:=w.events.filter RunEvent.isTerminal

/-- A live run has no terminal event; a run that is over has one and holds no reservation. Live sessions
and waiting claims are on devices that the run has reserved. -/
structure Settled (w:World):Prop where
 unended:w.run.isTerminal=false→terminalEvents w=[]
 endedOnce:w.run.isTerminal→(terminalEvents w).length=1
 released:w.run.isTerminal→∀r∈w.reservations,r.releasedAt.isSome
 covered:∀pk row,w.sessions.get pk=some row→isLive row→
  ∃device∈lockedDevices w,row.deviceId=some device
 claiming:∀tx device,w.claims.get tx=some device→device∈lockedDevices w

def NoPending (w:World):Prop:=
 w.run.isTerminal→∀pk row,w.sessions.get pk=some row→isLive row→ row.status=.running

/-- The run is not over when a claim for it inserts its session. -/
def claimsInTime (w:World):Label→Bool
 | .claim ..=> !w.run.isTerminal
 | _=>true

section
variable {w w':World}

lemma Settled.claim (h:Settled w){tx:TxId}{pk:RowId}{row:Session}{device:DeviceId}
 (hclaim:w.claims.get tx=some device)(hrow:row.deviceId=some device):
 Settled {w with sessions:=w.sessions.set pk row,claims:=w.claims.pop tx}:=by
 refine ⟨h.unended,h.endedOnce,h.released,?_,?_⟩
 · exact forall_get_set (fun _=>⟨device,h.claiming tx device hclaim,hrow⟩) h.covered
 · intro tx' device' hclaim'
   exact h.claiming tx' device' (get_pop_eq_some hclaim').2
lemma Settled.updateRows (h:Settled w){f:RowId→Session→Session}
 (hf:∀pk row,RowLater row (f pk row)):Settled {w with sessions:=w.sessions.map f}:=by
 refine ⟨h.unended,h.endedOnce,h.released,?_,h.claiming⟩
 intro pk row hget hlive
 obtain ⟨old,hold,rfl⟩:=get_map_eq_some hget
 obtain ⟨holdLive,hdevice,-⟩:=hf pk old hlive
 rw[hdevice]
 exact h.covered pk old hold holdLive
lemma NoPending.updateRows (h:NoPending w){f:RowId→Session→Session}
 (hf:∀pk row,RowLater row (f pk row)):NoPending {w with sessions:=w.sessions.map f}:=by
 intro hended pk row hget hlive
 obtain ⟨old,hold,rfl⟩:=get_map_eq_some hget
 obtain ⟨holdLive,-,hkeeps⟩:=hf pk old hlive
 exact (hkeeps (h hended pk old hold holdLive)).1
lemma lockedDevices_map (w:World){f:Reservation→Reservation}(hf:∀r,(f r).deviceId=r.deviceId):
 lockedDevices {w with reservations:=w.reservations.map f}=lockedDevices w:=by
 simp[lockedDevices,Function.comp_def,hf]
lemma Settled.releaseReservation (h:Settled w){f:Reservation→Reservation}
 (hlive:w.run.isTerminal=false)(hf:∀r,(f r).deviceId=r.deviceId):
 Settled {w with reservations:=w.reservations.map f}:=by
 have hdevices:=lockedDevices_map w hf
 refine ⟨h.unended,h.endedOnce,?_,?_,?_⟩
 · intro hended
   rw[hlive] at hended
   cases hended
 · rw[hdevices]
   exact h.covered
 · rw[hdevices]
   exact h.claiming
lemma Settled.liveRun (h:Settled w){run:Run}{events:List RunEvent}
 (hlive:w.run.isTerminal=false)(hrun:run.isTerminal=false)
 (hevents:events.filter RunEvent.isTerminal=[]):
 Settled {w with run:=run,events:=w.events++events}:=by
 have hnot:¬run.isTerminal:=by simp[hrun]
 refine ⟨?_,fun hended=>absurd hended hnot,fun hended=>absurd hended hnot,h.covered,h.claiming⟩
 intro _
 have hnone:=h.unended hlive
 simp only[terminalEvents] at hnone ⊢
 rw[filter_append,hnone,hevents]
 rfl
end

section
variable {w:World}{run:Run}{closeSessionIds:Option (List RowId)}{pk:RowId}{row:Session}

lemma closes_of_pending (h:Settled w)(hrow:w.sessions.get pk=some row)
 (hlive:isLive row)(hpending:row.status ≠ .running):closes w closeSessionIds pk row:=by
 obtain ⟨device,hdevice,hon⟩:=h.covered pk row hrow hlive
 cases closeSessionIds <;> simp[closes,hlive,hon,hdevice,hpending]
lemma mem_of_closes_running {ids:List RowId}(hcloses:closes w (some ids) pk row)
 (hrunning:row.status=.running):pk∈ids:=by
 by_contra hnot
 simp[closes,hrunning,hnot] at hcloses
lemma rowLater_closed (w:World)(run:Run)(closeSessionIds:Option (List RowId))(pk:RowId)
 (row:Session):RowLater row (if closes w closeSessionIds pk row then
  ended row (terminalStatus (some run.state)) w.now else row):=by
 split
 · exact rowLater_ended row _ _
 · exact rowLater_refl row
lemma of_live_closeRunSessions
 (hget:(closeRunSessions w run closeSessionIds).get pk=some row)(hlive:isLive row):
 w.sessions.get pk=some row∧closes w closeSessionIds pk row=false:=by
 obtain ⟨old,hold,heq⟩:=get_map_eq_some hget
 split at heq
 · rw[heq,isLive_ended] at hlive
   cases hlive
 · rename_i hopen
   subst heq
   exact ⟨hold,by simpa using hopen⟩
lemma isSome_releasedReservation (now:Instant)(r:Reservation):
 (releasedReservation now r).releasedAt.isSome:=by
 unfold releasedReservation
 split
 · rfl
 · rename_i hreleased
   simpa[isSome_iff_ne_none] using hreleased
lemma deviceId_releasedReservation (now:Instant)(r:Reservation):
 (releasedReservation now r).deviceId=r.deviceId:=by
 unfold releasedReservation
 split <;> rfl

lemma Settled.endRun (h:Settled w){events:List RunEvent}(hlive:w.run.isTerminal=false)
 (hrun:run.isTerminal)(hevents:(events.filter RunEvent.isTerminal).length=1):
 Settled (endRun w run closeSessionIds events):=by
 have hnot:¬run.isTerminal=false:=by simp[hrun]
 have hdevices:=lockedDevices_map w (deviceId_releasedReservation w.now)
 refine ⟨fun hlive'=>absurd hlive' hnot,fun _=>?_,fun _=>?_,?_,?_⟩
 · have hnone:=h.unended hlive
   simp only[terminalEvents,RunTeardown.endRun] at hnone ⊢
   rw[filter_append,hnone,nil_append,hevents]
 · intro r hr
   obtain ⟨old,-,rfl⟩:=List.mem_map.mp hr
   exact isSome_releasedReservation w.now old
 · intro pk row hget hlive'
   rw[show lockedDevices (RunTeardown.endRun w run closeSessionIds events)=_ from hdevices]
   exact h.covered pk row (of_live_closeRunSessions hget hlive').1 hlive'
 · rw[show lockedDevices (RunTeardown.endRun w run closeSessionIds events)=_ from hdevices]
   exact h.claiming
lemma Settled.noPending_endRun (h:Settled w)(events:List RunEvent):
 NoPending (RunTeardown.endRun w run closeSessionIds events):=by
 intro _ pk row hget hlive
 obtain ⟨hold,hopen⟩:=of_live_closeRunSessions hget hlive
 by_contra hpending
 rw[closes_of_pending h hold hlive hpending] at hopen
 cases hopen
end

lemma isTerminal_applyRunTerminal (run:Run)(effect:RunTeardownEffect)(now:Instant):
 (applyRunTerminal run effect now).isTerminal:=by
 unfold applyRunTerminal
 cases effect.kind <;> rfl
lemma queueRunEvents_once (effect:RunTeardownEffect):
 ((queueRunEvents effect).filter RunEvent.isTerminal).length=1:=by
 unfold queueRunEvents
 cases effect.kind with
 | cancel | forceRelease=>rfl
 | expire=>
  dsimp only
  split <;> rfl
lemma isTerminal_of_preparing {run:Run}(h:run.state=.preparing):run.isTerminal=false:=by
 simp[Run.isTerminal,h,terminalStates]

variable {w w':World}

lemma Settled.activate (h:Settled w)(hstate:w.run.state=.preparing):Settled (activate w):=
 h.liveRun (isTerminal_of_preparing hstate) rfl rfl
lemma Settled.finalizeTxn (h:Settled w)(effect:RunTeardownEffect)
 (result:RunTeardownResult):Settled (finalizeTxn w effect result):=by
 rcases finalizeTxn_cases w effect result with heq|⟨job,-,-,⟨-,heq⟩|⟨hlive,heq⟩⟩
 · rw[heq]
   exact h
 · rw[heq]
   exact ⟨h.unended,h.endedOnce,h.released,h.covered,h.claiming⟩
 · rw[heq]
   have hended:Settled (RunTeardown.endRun w (applyRunTerminal w.run effect w.now)
     (some result.terminatedSessionIds) (queueRunEvents effect)):=
    h.endRun hlive (isTerminal_applyRunTerminal w.run effect w.now) (queueRunEvents_once effect)
   exact ⟨hended.unended,hended.endedOnce,hended.released,hended.covered,hended.claiming⟩

variable {label:Label}

lemma settled_step (h:Settled w)(hstep:step w label=some w'):Settled w':=by
 cases transition_of_step hstep with
 | lockClaim hdevice=>
  exact ⟨h.unended,h.endedOnce,h.released,h.covered,forall_get_set hdevice h.claiming⟩
 | claim hclaim _ hrow=>exact h.claim hclaim hrow
 | updateRows _ hf=>exact h.updateRows hf
 | releaseReservation _ hlive hf=>exact h.releaseReservation hlive hf
 | signalReady hstate | signalActive hstate=>exact h.activate hstate
 | completeRun hlive _ hevent=>
  apply h.endRun hlive rfl
  rw[filter_cons_of_pos hevent]
  rfl
 | @finalize _ _ effect result=>
  have hdone:=h.finalizeTxn effect result
  exact ⟨hdone.unended,hdone.endedOnce,hdone.released,hdone.covered,hdone.claiming⟩
 | advance | stay | heartbeat | start | leave | decided | returnEarly | adopt | create | perform
 | returnNormally | workerRaises | failJob | claimJob | readStaleJobs | resetStaleJobs=>
  exact ⟨h.unended,h.endedOnce,h.released,h.covered,h.claiming⟩

lemma noPending_step (hnone:NoPending w)(h:Settled w)(hintime:claimsInTime w label)
 (hstep:step w label=some w'):NoPending w':=by
 cases transition_of_step hstep with
 | claim=>
  have hlive:w.run.isTerminal=false:=by simpa[claimsInTime] using hintime
  intro hended
  rw[hlive] at hended
  cases hended
 | updateRows _ hf=>exact hnone.updateRows hf
 | signalReady | signalActive=>
  have hlive:(activate w).run.isTerminal=false:=rfl
  intro hended
  rw[hlive] at hended
  cases hended
 | completeRun=>exact h.noPending_endRun _
 | @finalize x exec effect result=>
  rcases finalizeTxn_cases w effect result with heq|⟨job,-,-,⟨-,heq⟩|⟨-,heq⟩⟩
  · rw[heq]
    exact hnone
  · rw[heq]
    exact hnone
  · rw[heq]
    exact h.noPending_endRun (queueRunEvents effect)
 | advance | lockClaim | releaseReservation | stay | heartbeat | start | leave | decided | returnEarly
 | adopt | create | perform | returnNormally | workerRaises | failJob | claimJob | readStaleJobs
 | resetStaleJobs=>exact hnone

structure Frozen (w w':World):Prop where
 run:w'.run=w.run
 events:terminalEvents w'=terminalEvents w
 reservations:w'.reservations=w.reservations

lemma frozen_step (hended:w.run.isTerminal)(hstep:step w label=some w'):Frozen w w':=by
 have hnot:¬w.run.isTerminal=false:=by simp[hended]
 cases transition_of_step hstep with
 | releaseReservation _ hlive | heartbeat hlive | completeRun hlive=>exact absurd hlive hnot
 | signalReady hstate | signalActive hstate=>exact absurd (isTerminal_of_preparing hstate) hnot
 | @finalize x exec effect result=>
  rcases finalizeTxn_cases w effect result with heq|⟨job,-,-,⟨-,heq⟩|⟨hlive,-⟩⟩
  · rw[heq]
    exact ⟨rfl,rfl,rfl⟩
  · rw[heq]
    exact ⟨rfl,rfl,rfl⟩
  · exact absurd hlive hnot
 | advance | lockClaim | claim | updateRows | stay | start | leave | decided | returnEarly | adopt
 | create | perform | returnNormally | workerRaises | failJob | claimJob | readStaleJobs
 | resetStaleJobs=>exact ⟨rfl,rfl,rfl⟩
lemma frozen_run {labels:List Label}(hended:w.run.isTerminal)
 (hrun:run step w labels=some w'):Frozen w w':=by
 refine run_invariant (Frozen w) ?_ ⟨rfl,rfl,rfl⟩ hrun
 intro u label v hfrozen hstep
 have hended':u.run.isTerminal:=by rw[hfrozen.run,hended]
 have hnext:=frozen_step hended' hstep
 exact ⟨hnext.run.trans hfrozen.run,hnext.events.trans hfrozen.events,
  hnext.reservations.trans hfrozen.reservations⟩

/-- A target with an address names a session row that was running then, so while it is live it is
running and has the Appium session of the snapshot. -/
def EffectSound (sessions:Dict RowId Session)(effect:RunTeardownEffect):Prop:=
 ∀target∈effect.targets,target.target.isSome→
  ∃row,sessions.get target.sessionPk=some row∧
   (isLive row→ row.status=.running∧row.sessionId=target.appiumSessionId)

/-- Every session that a result counts as terminated was deleted at the address of its target. -/
def ResultSound (deleted:List (String×String))(effect:RunTeardownEffect)
 (result:RunTeardownResult):Prop:=
 ∀pk∈result.terminatedSessionIds,∃target∈effect.targets,target.sessionPk=pk∧
  ∃url,target.target=some url∧(url,target.appiumSessionId)∈deleted

structure Sound (w:World):Prop where
 effect:∀j job,w.jobs.get j=some job→EffectSound w.sessions job.effect
 result:∀x exec effect result,w.execs.get x=some exec→exec.phase=.performed effect result→
  ResultSound w.deleted effect result

section
variable {w w':World}

lemma rowsLater_finalizeTxn (w:World)(effect:RunTeardownEffect)(result:RunTeardownResult):
 RowsLater w.sessions (finalizeTxn w effect result).sessions:=by
 rcases finalizeTxn_cases w effect result with heq|⟨job,-,-,⟨-,heq⟩|⟨-,heq⟩⟩
 · rw[heq]
   exact rowsLater_refl _
 · rw[heq]
   exact rowsLater_refl _
 · rw[heq]
   exact rowsLater_map _ (rowLater_closed w _ _)

variable {effect:RunTeardownEffect}{exec:Exec}{x:ExecId}

lemma EffectSound.later {sessions sessions':Dict RowId Session}(h:EffectSound sessions effect)
 (hlater:RowsLater sessions sessions'):EffectSound sessions' effect:=by
 intro target hmem hsome
 obtain ⟨row,hrow,hrunning⟩:=h target hmem hsome
 obtain ⟨row',hrow',hlater'⟩:=hlater target.sessionPk row hrow
 refine ⟨row',hrow',?_⟩
 intro hlive
 obtain ⟨hold,-,hkeeps⟩:=hlater' hlive
 obtain ⟨hstatus,hid⟩:=hrunning hold
 obtain ⟨hstatus',hid'⟩:=hkeeps hstatus
 exact ⟨hstatus',hid'.trans hid⟩
lemma effectSound_snapshot (w:World)(resolve:List (RowId×String))
 (htargets:effect.targets=snapshotTargets w resolve):EffectSound w.sessions effect:=by
 intro target hmem hsome
 rw[htargets] at hmem
 obtain ⟨⟨pk,row⟩,hrow,htarget⟩:=mem_filterMap.mp hmem
 split at htarget
 · obtain ⟨device,-,rfl⟩:=map_eq_some_iff.mp htarget
   refine ⟨row,get_eq_some_iff.mpr hrow,fun _=>?_⟩
   by_cases hrunning:row.status=.running
   · exact ⟨hrunning,rfl⟩
   · simp[hrunning] at hsome
 · cases htarget
lemma resultSound_perform (effect:RunTeardownEffect)(outcomes:List Outcome)
 (deleted:List (String×String)):ResultSound (deleted++deletedSessions effect outcomes) effect
  (performRunTeardownEffect effect outcomes):=by
 intro pk hpk
 obtain ⟨p,hp,rfl⟩:=List.mem_map.mp hpk
 obtain ⟨hzip,hterminated⟩:=mem_filter.mp hp
 obtain ⟨hsome,hdeleted⟩:=Bool.and_eq_true_iff.mp hterminated
 obtain ⟨url,hurl⟩:=isSome_iff_exists.mp hsome
 refine ⟨p.1,(of_mem_zip hzip).1,rfl,url,hurl,mem_append_right _ ?_⟩
 apply mem_filterMap.mpr
 refine ⟨p,hzip,?_⟩
 rw[if_pos hdeleted,hurl]
 rfl
lemma ResultSound.mono {deleted:List (String×String)}{result:RunTeardownResult}
 (h:ResultSound deleted effect result)(more:List (String×String)):
 ResultSound (deleted++more) effect result:=by
 intro pk hpk
 obtain ⟨target,hmem,hpk',url,hurl,hdeleted⟩:=h pk hpk
 exact ⟨target,hmem,hpk',url,hurl,mem_append_left _ hdeleted⟩

section
variable (h:Sound w)
include h

lemma Sound.update (hjobs:SamePayload w.jobs w'.jobs)(hrows:RowsLater w.sessions w'.sessions)
 (hresult:∀x exec effect result,w'.execs.get x=some exec→
  exec.phase=.performed effect result→ResultSound w'.deleted effect result):Sound w':=by
 refine ⟨?_,hresult⟩
 intro j job hjob
 obtain ⟨old,hold,heffect⟩:=hjobs.symm.get_eq_some hjob
 rw[←heffect]
 exact (h.effect j old hold).later hrows
lemma Sound.setExec (hjobs:SamePayload w.jobs w'.jobs)
 (hrows:RowsLater w.sessions w'.sessions)(hdeleted:w'.deleted=w.deleted)
 (hexecs:w'.execs=w.execs.set x exec)(hphase:∀effect result,exec.phase ≠ .performed effect result):
 Sound w':=by
 apply h.update hjobs hrows
 intro y other effect result hother hperformed
 rw[hexecs] at hother
 rcases get_set_eq_some hother with ⟨rfl,rfl⟩|⟨-,hold⟩
 · exact absurd hperformed (hphase effect result)
 · rw[hdeleted]
   exact h.result y other effect result hold hperformed
lemma Sound.setPhase {phase:Phase}(hphase:∀effect result,phase ≠ .performed effect result):Sound (setPhase w x exec phase):=
 h.setExec (samePayload_refl _) (rowsLater_refl _) rfl rfl hphase
lemma Sound.popExec {jobs:Dict JobId Job}(hjobs:SamePayload w.jobs jobs)(x:ExecId):Sound {w with jobs:=jobs,execs:=w.execs.pop x}:=by
 refine h.update hjobs (rowsLater_refl _) ?_
 intro y other effect result hother hperformed
 exact h.result y other effect result (get_pop_eq_some hother).2 hperformed
lemma Sound.create (heffect:EffectSound w.sessions effect):
 Sound { RunTeardown.setPhase w x exec (.prepared effect) with
  jobs:=w.jobs.set effect.operationId ⟨effect,.pending⟩ }:=by
 have hphase:Sound (RunTeardown.setPhase w x exec (.prepared effect)):=
  h.setPhase (fun _ _ heq=>by cases heq)
 exact ⟨forall_get_set heffect h.effect,hphase.result⟩
lemma Sound.perform (effect:RunTeardownEffect)(outcomes:List Outcome):
 Sound { RunTeardown.setPhase w x exec
   (.performed effect (performRunTeardownEffect effect outcomes)) with
  deleted:=w.deleted++deletedSessions effect outcomes }:=by
 refine ⟨h.effect,?_⟩
 intro y other effect' result hother hperformed
 rcases get_set_eq_some hother with ⟨rfl,rfl⟩|⟨-,hold⟩
 · cases hperformed
   exact resultSound_perform effect outcomes w.deleted
 · exact (h.result y other effect' result hold hperformed).mono _
lemma Sound.finalize (effect:RunTeardownEffect)(result:RunTeardownResult):
 Sound (RunTeardown.setPhase (finalizeTxn w effect result) x exec
  (.finalized effect.operationId)):=by
 refine h.setExec (samePayload_finalizeTxn w effect result) (rowsLater_finalizeTxn w effect result)
  (finalizeTxn_frame w effect result).2 (execs_finalized w x exec effect result) ?_
 intro _ _ heq
 cases heq

lemma sound_step {label:Label}(hstep:step w label=some w'):Sound w':=by
 cases transition_of_step hstep with
 | advance | lockClaim | releaseReservation | stay | heartbeat | signalReady | signalActive
 | readStaleJobs=>exact ⟨h.effect,h.result⟩
 | claim _ hfresh=>exact h.update (samePayload_refl _) (rowsLater_insert _ hfresh) h.result
 | updateRows _ hf=>exact h.update (samePayload_refl _) (rowsLater_map _ hf) h.result
 | completeRun=>
  exact h.update (samePayload_refl _) (rowsLater_map _ (rowLater_closed w _ none)) h.result
 | start _ _ hphase=>
  refine h.setExec (samePayload_refl _) (rowsLater_refl _) rfl rfl ?_
  intro effect result heq
  rcases hphase with rfl|⟨kind,rfl⟩ <;> cases heq
 | leave _ x=>exact h.popExec (samePayload_refl _) x
 | decided | returnEarly | adopt | returnNormally | workerRaises=>
  apply h.setPhase
  intro _ _ heq
  cases heq
 | create _ _ _ _ heffect=>
  subst heffect
  exact h.create (effectSound_snapshot w _ rfl)
 | perform=>exact h.perform _ _
 | finalize=>exact h.finalize _ _
 | failJob=>exact h.popExec (samePayload_failJob w _) _
 | claimJob hjob=>
  refine h.setExec (samePayload_set .running hjob) (rowsLater_refl _) rfl rfl ?_
  intro _ _ heq
  cases heq
 | resetStaleJobs=>exact h.update (samePayload_reset _ _) (rowsLater_refl _) h.result
end
end

structure Opening (w:World):Prop where
 live:w.run.isTerminal=false
 events:terminalEvents w=[]
 covered:∀pk row,w.sessions.get pk=some row→isLive row→
  ∃device∈lockedDevices w,row.deviceId=some device
 claims:w.claims=Dict.empty
 jobs:w.jobs=Dict.empty
 execs:w.execs=Dict.empty

structure Inv (w:World):Prop where
 settled:Settled w
 keyed:Keyed w
 sound:Sound w

lemma Opening.keyed (h:Opening w):Keyed w:=by
 constructor
 · intro j job hjob
   rw[h.jobs] at hjob
   cases hjob
 · intro x exec effect hexec
   rw[h.execs] at hexec
   cases hexec
lemma Opening.inv (h:Opening w):Inv w:=by
 have hnot:¬w.run.isTerminal:=by simp[h.live]
 refine ⟨⟨fun _=>h.events,fun hended=>absurd hended hnot,fun hended=>absurd hended hnot,h.covered,
  ?_⟩,h.keyed,?_,?_⟩
 · intro tx device hclaim
   rw[h.claims] at hclaim
   cases hclaim
 · intro j job hjob
   rw[h.jobs] at hjob
   cases hjob
 · intro x exec effect result hexec
   rw[h.execs] at hexec
   cases hexec
lemma inv_run {labels:List Label}(h:Inv w)(hrun:run step w labels=some w'):Inv w':=by
 refine run_invariant Inv ?_ h hrun
 intro u label v hu hstep
 exact ⟨settled_step hu.settled hstep,keyed_step hu.keyed hstep,sound_step hu.sound hstep⟩

structure Unended (w w':World):Prop where
 terminal:w'.run.isTerminal=w.run.isTerminal
 error:w'.run.error=w.run.error
 events:terminalEvents w'=terminalEvents w
 reservations:w'.reservations=w.reservations

def Label.endsRun (label:Label):Prop:=label=.completeRun∨∃x,label=.finalize x

/-- A step releases one device of a live run, leaves the end of the run alone, or is the completion or
finalisation that ends it. -/
lemma unended_or_ends (hstep:step w label=some w'):
 (∃device,label=.releaseReservation device)∨Unended w w'∨
  (label.endsRun∧w.run.isTerminal=false∧w'.run.isTerminal):=by
 cases transition_of_step hstep with
 | releaseReservation=>exact .inl ⟨_,rfl⟩
 | completeRun hlive=>exact .inr (.inr ⟨.inl rfl,hlive,rfl⟩)
 | @finalize x exec effect result=>
  rcases finalizeTxn_cases w effect result with heq|⟨job,-,-,⟨-,heq⟩|⟨hlive,heq⟩⟩
  · rw[heq]
    exact .inr (.inl ⟨rfl,rfl,rfl,rfl⟩)
  · rw[heq]
    exact .inr (.inl ⟨rfl,rfl,rfl,rfl⟩)
  · rw[heq]
    exact .inr (.inr ⟨.inr ⟨x,rfl⟩,hlive,isTerminal_applyRunTerminal w.run effect w.now⟩)
 | signalReady hstate | signalActive hstate=>
  refine .inr (.inl ⟨(isTerminal_of_preparing hstate).symm,rfl,?_,rfl⟩)
  simp[terminalEvents,activate,RunEvent.isTerminal]
 | advance | lockClaim | claim | updateRows | stay | heartbeat | start | leave | decided
 | returnEarly | adopt | create | perform | returnNormally | workerRaises | failJob | claimJob
 | readStaleJobs | resetStaleJobs=>exact .inr (.inl ⟨rfl,rfl,rfl,rfl⟩)

/-- A run that is over stays as it ended; the later state has no terminal event for a live run and one,
with every reservation released, for a run that is over; and a step writes these together or not at all. -/
structure EndsOnce (w final:World):Prop where
 frozen:w.run.isTerminal→Frozen w final
 unended:final.run.isTerminal=false→terminalEvents final=[]
 ended:final.run.isTerminal→
  (terminalEvents final).length=1∧∀r∈final.reservations,r.releasedAt.isSome
 together:∀label w',step final label=some w'→
  (∃device,label=.releaseReservation device)∨Unended final w'∨
   (label.endsRun∧final.run.isTerminal=false∧w'.run.isTerminal)

/-- A finalisation that ends its job closes every pending row of the run, and a running one only after
a successful `DELETE` of that row's Appium session. -/
def ClosesConfirmed (w:World):Prop:=
 ∀x exec effect result job w',w.execs.get x=some exec→exec.phase=.performed effect result→
  w.jobs.get effect.operationId=some job→job.isOpen→step w (.finalize x)=some w'→
  ∀pk row,w.sessions.get pk=some row→isLive row→
   (row.status=.pending→∃row',w'.sessions.get pk=some row'∧isLive row'=false)∧
   (row.status=.running→w'.sessions.get pk=some row∨
    pk∈result.terminatedSessionIds∧∃target∈effect.targets,target.sessionPk=pk∧
     target.appiumSessionId=row.sessionId∧
     ∃url,target.target=some url∧(url,row.sessionId)∈w.deleted)

lemma sessions_finalize {x:ExecId}{exec:Exec}{effect:RunTeardownEffect}
 {result:RunTeardownResult}(hexec:w.execs.get x=some exec)
 (hphase:exec.phase=.performed effect result)(hstep:step w (.finalize x)=some w'):
 w'.sessions=(finalizeTxn w effect result).sessions:=by
 simp only[step,hexec,bind_some,hphase,some.injEq] at hstep
 rw[←hstep]
 rfl

lemma Inv.closesConfirmed (h:Inv w)(hnone:NoPending w):ClosesConfirmed w:=by
 intro x exec effect result job w' hexec hphase hjob hopen hstep pk row hrow hlive
 have hkey:job.effect.operationId=effect.operationId:=h.keyed.job _ job hjob
 rw[sessions_finalize hexec hphase hstep,finalizeTxn_of_open result hjob hopen hkey]
 cases hended:w.run.isTerminal with
 | true=>
  -- superseded: the transaction that ended the run has closed the pending rows
  have hrunning:=hnone hended pk row hrow hlive
  refine ⟨fun hpending=>?_,fun _=>.inl hrow⟩
  rw[hrunning] at hpending
  cases hpending
 | false=>
  have hget:(closeRunSessions w (applyRunTerminal w.run effect w.now)
    (some result.terminatedSessionIds)).get pk=some
     (if closes w (some result.terminatedSessionIds) pk row then
      ended row (terminalStatus (some (applyRunTerminal w.run effect w.now).state)) w.now
     else row):=by
   unfold closeRunSessions
   rw[Dict.get_map,hrow]
   rfl
  refine ⟨fun hpending=>?_,fun hrunning=>?_⟩
  · have hnot:row.status ≠ .running:=by simp[hpending]
    rw[closes_of_pending h.settled hrow hlive hnot,if_pos rfl] at hget
    exact ⟨_,hget,isLive_ended row _ _⟩
  · by_cases hcloses:closes w (some result.terminatedSessionIds) pk row
    · right
      have hterminated:=mem_of_closes_running hcloses hrunning
      obtain ⟨target,hmem,rfl,url,hurl,hdeleted⟩:=
       h.sound.result x exec effect result hexec hphase pk hterminated
      obtain ⟨filed,hfiled,heffect⟩:=h.keyed.exec x exec effect hexec (by rw[hphase];rfl)
      -- the row still has the Appium session of the snapshot
      have heffectSound:=h.sound.effect _ filed hfiled
      rw[heffect] at heffectSound
      obtain ⟨row',hrow',hsame⟩:=heffectSound target hmem (by simp[hurl])
      cases hrow.symm.trans hrow'
      have hid:=(hsame hlive).2
      refine ⟨hterminated,target,hmem,rfl,hid.symm,url,hurl,?_⟩
      rw[hid]
      exact hdeleted
    · left
      rw[if_neg hcloses] at hget
      exact hget

theorem ends_once_and_closes_confirmed {initial w final:World} {before after:List Label}
 (hopening:Opening initial) (hbefore:run step initial before=some w)
 (hafter:run step w after=some final):EndsOnce w final∧
  (Guarded (fun u label=>claimsInTime u label) step initial before→ ClosesConfirmed w):=by
 have hw:Inv w:=inv_run hopening.inv hbefore
 have hfinal:Inv final:=inv_run hw hafter
 refine ⟨⟨fun hended=>frozen_run hended hafter,hfinal.settled.unended,fun hended=>?_,
  fun label w' hstep=>unended_or_ends hstep⟩,fun hintime=>?_⟩
 · exact ⟨hfinal.settled.endedOnce hended,hfinal.settled.released hended⟩
 · have hnone:Settled w∧NoPending w:=by
    refine run_invariant_guarded (fun u=>Settled u∧NoPending u) ?_
     ⟨hopening.inv.settled,fun hended=>?_⟩ hintime hbefore
    · intro u label v hu hguard hstep
      exact ⟨settled_step hu.1 hstep,noPending_step hu.2 hu.1 hguard hstep⟩
    · rw[hopening.live] at hended
      cases hended
   exact hw.closesConfirmed hnone.2

def activeRun:World where
 now:=0
 run:=
  { id:=1,name:= "nightly",state:=.active,error:=none,ttlMinutes:=60,
    lastHeartbeat:=some 0,heartbeatTimeoutSec:=120,createdAt:=0,startedAt:=some 0,
    completedAt:=none }
 reservations:=[⟨5,none⟩,⟨6,none⟩]
 sessions:=Dict.empty
 claims:=Dict.empty
 jobs:=Dict.empty
 execs:=Dict.empty
 resetting:=[]
 events:=[]
 forcedStops:=[]
 deleted:=[]

lemma activeRun_opening:Opening activeRun:=by
 refine ⟨rfl,rfl,?_,rfl,rfl,rfl⟩
 intro pk row hrow
 cases hrow

/-- The worker takes up the job of a cancel, and of its two `DELETE`s only that of session 1 succeeds. -/
def cancelledHalfway:List Label:=
 [.lockClaim 1 5,.lockClaim 2 6,.claim 1 1 "alloc-1" 11 false,.promote 1 "A",
  .claim 2 2 "alloc-2" 12 true,.promote 2 "B",.cancelRun 100,
  .prepare 100 9 [(1, "http://h:1"),(2, "http://h:2")],.claimJob 200 9,
  .perform 100 [⟨false,none,none⟩,⟨true,none,none⟩]]

def halfway:World:=(run step activeRun cancelledHalfway).getD activeRun
def cancelled:World:=(run step halfway [.finalize 100,.finish 100]).getD halfway

theorem ends_once_and_closes_confirmed_cancelled:
 cancelled.run.state=.cancelled∧(cancelled.sessions.get 1).map isLive=some false∧
  (cancelled.sessions.get 2).map isLive=some true∧EndsOnce halfway cancelled∧
  ClosesConfirmed halfway:=by
 have hbefore:run step activeRun cancelledHalfway=some halfway:=rfl
 have hafter:run step halfway [.finalize 100,.finish 100]=some cancelled:=rfl
 refine ⟨rfl,by decide,by decide,?_⟩
 have hboth:=ends_once_and_closes_confirmed activeRun_opening hbefore hafter
 exact ⟨hboth.1,hboth.2 (by decide)⟩

/-- A claim waits for the row of device 5 while the run is completed, which does not modify the row. -/
def claimedTooLate:List Label:=
 [.cancelRun 100,.prepare 100 9 [],.perform 100 [],.lockClaim 1 5,.completeRun,
  .claim 1 1 "alloc-1" 11 false]

theorem late_claim_left_pending:
 ∃w,run step activeRun claimedTooLate=some w∧w.run.isTerminal=true∧¬ClosesConfirmed w:=by
 refine ⟨_,rfl,rfl,fun hcloses=>?_⟩
 obtain ⟨row,hrow,hclosed⟩:=
  (hcloses 100 _ _ _ _ _ rfl rfl rfl rfl rfl 1 _ rfl rfl).1 rfl
 cases hrow
 cases hclosed
end GridFleet.RunTeardown
