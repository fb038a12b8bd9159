import GridFleet.JobQueue
/-! `step_effect` says once what each step may change. From it come the moves of one row, `RowStep`, in
fenced steps: an unfenced write finds the row running under the writer's claim, and a reset finds each
row it selected still running since the same start. -/
namespace GridFleet.JobQueue
open Dict List Option
open RecoveryJobs (JobId JobStatus)

inductive Effect (s:State):Label→State→Prop where
 | tick {now:Instant}(h:s.now≤now):Effect s (.tick now) {s with now:=now}
 | setDevice {id:DeviceId}{health:Option DeviceHealth}(devices:Dict DeviceId DeviceHealth):
  Effect s (.setDevice id health) {s with devices:=devices}
 | enqueue {id:JobId}{kind:JobKind}{payload:Option RemediationPayload}{scheduledAt:Instant}
  (h:s.jobs.get id=none):
  Effect s (.enqueue id kind payload scheduledAt)
   (setJob s id ⟨kind,.pending,.pending,payload,0,scheduledAt,s.now,none⟩)
 | start {w:WorkerId}(h:s.workers.get w=none):
  Effect s (.start w) (setPhase s w (.starting s.now staleKinds none))
 | resetRead {w:WorkerId}{readAt since:Instant}{kind:JobKind}{kinds:List JobKind}
  (hw:s.workers.get w=some (.starting since (kind::kinds) none))(hsince:since≤readAt)
  (hread:readAt ≤ s.now):
  Effect s (.resetRead w readAt)
   (setPhase s w (.starting since (kind::kinds) (some (staleRows s kind readAt))))
 | resetWrite {w:WorkerId}{since:Instant}{kind:JobKind}{kinds:List JobKind}
  {selected:List (JobId×JobRow)}
  (hw:s.workers.get w=some (.starting since (kind::kinds) (some selected))):
  Effect s (.resetWrite w) { s with
   jobs:=resetRows s selected
   workers:=s.workers.set w (if kinds=[] then .polling else .starting since kinds none) }
 | idle {w:WorkerId}{skipped:List JobId}(hw:s.workers.get w=some .polling)
  (h:nextJob s skipped=none):Effect s (.poll w skipped) s
 | claim {w:WorkerId}{skipped:List JobId}{id:JobId}{row:JobRow}
  (hw:s.workers.get w=some .polling)(h:nextJob s skipped=some (id,row)):
  Effect s (.poll w skipped) { s with
   jobs:=s.jobs.set id (claimRow s.now row)
   workers:=s.workers.set w (.executing
    ⟨⟨id,row.kind,row.payload,row.attempts+1,s.now⟩,none,none,false⟩) }
 | runner {a:Label}{w:WorkerId}{e e':Execution}(hw:s.workers.get w=some (.executing e))
  (hclaim:e'.claim=e.claim)
  (hpublish:(e'.loaded.isSome→e'.remembered≠some .pending)∨
   e'.loaded=e.loaded∧e'.remembered=e.remembered):
  Effect s a (setPhase s w (.executing e'))
 | commit {w:WorkerId}{e:Execution}{row:JobRow}{loaded remembered:JobStatus}
  (hw:s.workers.get w=some (.executing e))(hrow:s.jobs.get e.claim.id=some row)
  (hremembered:e.remembered=some remembered)(hloaded:e.loaded=some loaded):
  Effect s (.commit w) (setPhase (setJob s e.claim.id (publishRow loaded remembered row)) w
   (.executing {e with loaded:=none}))
 | ended {a:Label}{w:WorkerId}{e:Execution}{row:JobRow}{status:JobStatus}
  (hw:s.workers.get w=some (.executing e))(hrow:s.jobs.get e.claim.id=some row)
  (hrunning:row.status=.running)(hstatus:isTerminal status):
  Effect s a (setPhase (setJob s e.claim.id (endRow status row)) w .polling)
 | closeLocked {id:JobId}{row:JobRow}(hrow:s.jobs.get id=some row)
  (hopen:isTerminal row.status=false):
  Effect s (.closeLocked id) (setJob s id (endRow .completed row))
 | done {a:Label}{w:WorkerId}{e:Execution}(hw:s.workers.get w=some (.executing e)):
  Effect s a (setPhase s w .polling)
 | crash {w:WorkerId}{phase:WorkerPhase}(hw:s.workers.get w=some phase):
  Effect s (.crash w) {s with workers:=s.workers.pop w}

section
variable {s u:State}{w:WorkerId}

lemma executionOf_eq_some {e:Execution}(h:executionOf s w=some e):
 s.workers.get w=some (.executing e):=by
 unfold executionOf at h
 split at h
 · cases h
   assumption
 · cases h
lemma lockClaimedJob_eq_some {claim:JobClaim}{row:JobRow}(h:lockClaimedJob s claim=some row):
 s.jobs.get claim.id=some row∧row.status=.running∧row.attempts=claim.attempts:=by
 rw[lockClaimedJob,filter_eq_some_iff] at h
 obtain ⟨hrow,hcurrent⟩:=h
 simp only[Bool.and_eq_true,decide_eq_true_eq] at hcurrent
 exact ⟨hrow,hcurrent.1.2,hcurrent.2⟩
lemma runPendingOnce_effect {skipped:List JobId}(h:runPendingOnce s w skipped=some u):
 Effect s (.poll w skipped) u:=by
 unfold runPendingOnce at h
 split at h
 · rename_i hw
   unfold claimNextJob at h
   cases hnext:nextJob s skipped with
   | none=>
    rw[hnext] at h
    cases h
    exact .idle hw hnext
   | some=>
    rw[hnext] at h
    cases h
    exact .claim hw hnext
 · cases h

lemma resetRead_effect {readAt:Instant}(h:resetRead s w readAt=some u):
 Effect s (.resetRead w readAt) u:=by
 unfold resetRead at h
 split at h
 · rename_i hw
   split at h
   · rename_i hread
     cases h
     exact .resetRead hw hread.1 hread.2
   · cases h
 · cases h
lemma resetWrite_effect (h:resetWrite s w=some u):Effect s (.resetWrite w) u:=by
 unfold resetWrite at h
 split at h
 · rename_i hw
   cases h
   exact .resetWrite hw
 · cases h
lemma load_effect (h:load s w=some u):Effect s (.load w) u:=by
 obtain ⟨e,he,h⟩:=bind_eq_some_iff.mp h
 obtain ⟨row,hrow,h⟩:=bind_eq_some_iff.mp h
 split at h
 · cases h
   exact .runner (executionOf_eq_some he) rfl (.inl (by intro h;cases h))
 · cases h
lemma stage_effect (h:stage s w=some u):Effect s (.stage w) u:=by
 obtain ⟨e,he,h⟩:=bind_eq_some_iff.mp h
 obtain ⟨row,hrow,h⟩:=bind_eq_some_iff.mp h
 obtain ⟨remembered,-,h⟩:=bind_eq_some_iff.mp h
 split at h
 · cases h
   refine .runner (executionOf_eq_some he) rfl (.inl fun _=>?_)
   dsimp only
   split
   · simp
   · simpa
 · cases h
lemma finish_effect {status:JobStatus}(h:finish s w status=some u):Effect s (.finish w status) u:=by
 obtain ⟨e,he,h⟩:=bind_eq_some_iff.mp h
 obtain ⟨row,hrow,h⟩:=bind_eq_some_iff.mp h
 split at h
 · rename_i hend
   cases h
   refine .runner (executionOf_eq_some he) rfl (.inl fun _ hpending=>?_)
   rw[some.inj hpending] at hend
   cases hend.1
 · cases h
lemma commit_effect (h:commit s w=some u):Effect s (.commit w) u:=by
 obtain ⟨e,he,h⟩:=bind_eq_some_iff.mp h
 obtain ⟨row,hrow,h⟩:=bind_eq_some_iff.mp h
 obtain ⟨remembered,hremembered,h⟩:=bind_eq_some_iff.mp h
 obtain ⟨loaded,hloaded,h⟩:=bind_eq_some_iff.mp h
 cases h
 exact .commit (executionOf_eq_some he) hrow hremembered hloaded
lemma ended_effect {a:Label}{e:Execution}{row:JobRow}{status:JobStatus}
 (he:executionOf s w=some e)(hrow:lockClaimedJob s e.claim=some row)(hstatus:isTerminal status):
 Effect s a (setPhase (setJob s e.claim.id (endRow status row)) w .polling):=by
 obtain ⟨hget,hrunning,-⟩:=lockClaimedJob_eq_some hrow
 exact .ended (executionOf_eq_some he) hget hrunning hstatus

lemma prepare_effect {budget:Bool}(h:prepare s w budget=some u):Effect s (.prepare w budget) u:=by
 obtain ⟨e,he,h⟩:=bind_eq_some_iff.mp h
 obtain ⟨payload,hpayload,h⟩:=bind_eq_some_iff.mp h
 split at h
 · split at h
   · cases h
     exact .done (executionOf_eq_some he)
   · rename_i row hrow
     split at h
     · cases h
       exact ended_effect he hrow rfl
     · split at h
       · cases h
         exact ended_effect he hrow rfl
       · cases h
         exact .runner (executionOf_eq_some he) rfl (.inr ⟨rfl,rfl⟩)
 · cases h
lemma finalize_effect (h:finalize s w=some u):Effect s (.finalize w) u:=by
 obtain ⟨e,he,h⟩:=bind_eq_some_iff.mp h
 obtain ⟨payload,hpayload,h⟩:=bind_eq_some_iff.mp h
 split at h
 · split at h
   · rename_i row health hrow hhealth
     split at h
     · cases h
       exact .done (executionOf_eq_some he)
     · cases h
       exact ended_effect he hrow rfl
   · cases h
     exact .done (executionOf_eq_some he)
 · cases h

lemma failClaim_effect (h:failClaim s w=some u):Effect s (.failClaim w) u:=by
 obtain ⟨e,he,h⟩:=bind_eq_some_iff.mp h
 split at h
 · split at h
   · cases h
     exact .done (executionOf_eq_some he)
   · rename_i row hrow
     cases h
     exact ended_effect he hrow rfl
 · cases h
lemma closeLocked_effect {id:JobId}(h:closeLocked s id=some u):Effect s (.closeLocked id) u:=by
 obtain ⟨row,hrow,h⟩:=bind_eq_some_iff.mp h
 split at h
 · rename_i hopen
   cases h
   exact .closeLocked hrow hopen.2
 · cases h
lemma leave_effect (h:leave s w=some u):Effect s (.leave w) u:=by
 obtain ⟨e,he,h⟩:=bind_eq_some_iff.mp h
 obtain ⟨row,hrow,h⟩:=bind_eq_some_iff.mp h
 split at h
 · cases h
   exact .done (executionOf_eq_some he)
 · cases h
lemma abort_effect (h:abort s w=some u):Effect s (.abort w) u:=by
 obtain ⟨e,he,h⟩:=bind_eq_some_iff.mp h
 cases h
 exact .done (executionOf_eq_some he)

lemma step_effect {a:Label}(h:step s a=some u):Effect s a u:=by
 cases a with
 | tick now=>
  simp only[step] at h
  split at h
  · rename_i hnow
    cases h
    exact .tick hnow
  · cases h
 | setDevice _ health=>
  cases health with
  | none | some=>
   cases h
   exact .setDevice _
 | enqueue id kind payload scheduledAt=>
  simp only[step] at h
  split at h
  · rename_i hfresh
    cases h
    exact .enqueue hfresh
  · cases h
 | start w=>
  simp only[step,startWorker] at h
  split at h
  · rename_i hw
    cases h
    exact .start hw
  · cases h
 | resetRead=>exact resetRead_effect h
 | resetWrite=>exact resetWrite_effect h
 | poll=>exact runPendingOnce_effect h
 | load=>exact load_effect h
 | stage=>exact stage_effect h
 | finish=>exact finish_effect h
 | commit=>exact commit_effect h
 | prepare=>exact prepare_effect h
 | finalize=>exact finalize_effect h
 | failClaim=>exact failClaim_effect h
 | closeLocked=>exact closeLocked_effect h
 | leave=>exact leave_effect h
 | abort=>exact abort_effect h
 | crash w=>
  simp only[step] at h
  split at h
  · rename_i hw
    cases h
    obtain ⟨phase,hphase⟩:=isSome_iff_exists.mp hw
    exact .crash hphase
  · cases h

lemma step_now {a:Label}(h:step s a=some u):s.now≤u.now:=by
 cases step_effect h with
 | tick hnow=>exact hnow
 | _=>exact le_rfl
end

/-- A write without a fence finds the row running under the claim of the writer; a reset finds every
selected row running since the start it read. -/
def fenced (s:State):Label→Bool
 | .commit w=>(executionOf s w).all fun e=>(s.jobs.get e.claim.id).any fun row=>
   row.status=.running&&row.attempts=e.claim.attempts
 | .resetWrite w=>
  match s.workers.get w with
  | some (.starting _ _ (some selected))=>selected.all fun r=>(s.jobs.get r.1).all fun row=>
    row.status=.running&&row.startedAt=r.2.startedAt
  | _=>true
 | _=>true

/-- No open publication is of a pending job, and every selected row was stale. -/
structure Sound (s:State):Prop where
 published:∀w e,s.workers.get w=some (.executing e)→e.loaded.isSome→
  e.remembered≠some .pending
 selected:∀w since kinds rows,s.workers.get w=some (.starting since kinds (some rows))→
  ∀r∈rows,∃started,r.2.startedAt=some started∧started+staleJobTimeout<s.now

inductive RowStep (now:Instant)(row:JobRow):JobRow→Prop where
 | same:RowStep now row row
 | claimed (h:row.status=.pending):RowStep now row (claimRow now row)
 | reset {started:Instant}(h:row.status=.running)(hstart:row.startedAt=some started)
  (hstale:started+staleJobTimeout<now):RowStep now row (resetRow row)
 | settled {status snapshotStatus:JobStatus}(h:row.status=.running)(hstatus:status ≠ .pending):
  RowStep now row {row with status:=status,snapshotStatus:=snapshotStatus}
 | closed (h:isTerminal row.status=false):RowStep now row (endRow .completed row)

section
variable {s u:State}{a:Label}

lemma mem_staleRows {kind:JobKind}{readAt:Instant}{r:JobId×JobRow}:
 r∈staleRows s kind readAt↔s.jobs.get r.1=some r.2∧r.2.kind=kind∧r.2.status=.running∧
  ∃started,r.2.startedAt=some started∧started+staleJobTimeout<readAt:=by
 simp only[staleRows,mem_filter,Bool.and_eq_true,decide_eq_true_eq,Option.any_eq_true,
  get_eq_some_iff,and_assoc]
lemma mem_dueJobs {skipped:List JobId}{e:JobId×JobRow}:
 e∈dueJobs s skipped↔s.jobs.get e.1=some e.2∧e.2.status=.pending∧
  e.2.scheduledAt ≤ s.now∧e.1 ∉ skipped:=by
 simp[dueJobs,get_eq_some_iff,and_assoc]
lemma nextJob_mem {skipped:List JobId}{id:JobId}{row:JobRow}(h:nextJob s skipped=some (id,row)):
 s.jobs.get id=some row∧row.status=.pending∧row.scheduledAt ≤ s.now:=by
 have hmem:=mem_dueJobs.mp ((mem_insertionSort _).mp (mem_of_head? h))
 exact ⟨hmem.1,hmem.2.1,hmem.2.2.1⟩

lemma Sound.step (h:Sound s)(hstep:step s a=some u):Sound u:=by
 have hnow:=step_now hstep
 -- Which phases are new is all that matters: the others keep what they had.
 have hkeep:∀{w phase},(∀e,phase=.executing e→e.loaded.isSome→
    e.remembered≠some .pending)→
   (∀since kinds rows,phase=.starting since kinds (some rows)→
    ∀r∈rows,∃started,r.2.startedAt=some started∧started+staleJobTimeout<s.now)→
   u.workers=s.workers.set w phase→Sound u:=by
  intro w phase hexecuting hstarting hworkers
  constructor
  · intro v e hv
    rw[hworkers] at hv
    rcases get_set_eq_some hv with ⟨-,heq⟩|⟨-,hold⟩
    · exact hexecuting e heq.symm
    · exact h.published v e hold
  · intro v since kinds rows hv r hr
    rw[hworkers] at hv
    rcases get_set_eq_some hv with ⟨-,heq⟩|⟨-,hold⟩
    · obtain ⟨started,hstart,hstale⟩:=hstarting since kinds rows heq.symm r hr
      exact ⟨started,hstart,lt_of_lt_of_le hstale hnow⟩
    · obtain ⟨started,hstart,hstale⟩:=h.selected v since kinds rows hold r hr
      exact ⟨started,hstart,lt_of_lt_of_le hstale hnow⟩
 have hsame:u.workers=s.workers→Sound u:=by
  intro hworkers
  refine ⟨by rw[hworkers];exact h.published,?_⟩
  intro v since kinds rows hv r hr
  rw[hworkers] at hv
  obtain ⟨started,hstart,hstale⟩:=h.selected v since kinds rows hv r hr
  exact ⟨started,hstart,lt_of_lt_of_le hstale hnow⟩
 cases step_effect hstep with
 | tick | setDevice | enqueue | idle | closeLocked=>exact hsame rfl
 | start | done | ended=>
  exact hkeep (by intro e heq;cases heq) (by intro since kinds rows heq;cases heq) rfl
 | resetRead _ _ hread=>
  refine hkeep (by intro e heq;cases heq) ?_ rfl
  intro since' kinds' rows heq r hr
  cases heq
  obtain ⟨-,-,-,started,hstart,hstale⟩:=mem_staleRows.mp hr
  exact ⟨started,hstart,lt_of_lt_of_le hstale hread⟩
 | resetWrite=>
  refine hkeep ?_ ?_ rfl
  · intro e heq
    split at heq <;> cases heq
  · intro since' kinds' rows heq
    split at heq <;> cases heq
 | claim=>
  refine hkeep ?_ (by intro since kinds rows heq;cases heq) rfl
  intro e heq hloaded
  cases heq
  cases hloaded
 | runner hw _ hpublish=>
  refine hkeep ?_ (by intro since kinds rows heq;cases heq) rfl
  intro e heq hloaded
  cases heq
  rcases hpublish with hpublish|⟨hl,hr⟩
  · exact hpublish hloaded
  · rw[hl] at hloaded
    rw[hr]
    exact h.published _ _ hw hloaded
 | commit=>
  refine hkeep ?_ (by intro since kinds rows heq;cases heq) rfl
  intro e heq hopen
  cases heq
  cases hopen
 | crash=>
  refine ⟨fun v e hv=>h.published v e (get_pop_eq_some hv).2,?_⟩
  intro v since kinds rows hv
  exact h.selected v since kinds rows (get_pop_eq_some hv).2

lemma row_step (h:Sound s)(hfence:fenced s a)(hstep:step s a=some u){id:JobId}
 {row:JobRow}(hrow:s.jobs.get id=some row):∃row',u.jobs.get id=some row'∧RowStep s.now row row':=by
 have hset:∀{changed:JobId}{old new:JobRow},s.jobs.get changed=some old→
   u.jobs=s.jobs.set changed new→RowStep s.now old new→
   ∃row',u.jobs.get id=some row'∧RowStep s.now row row':=by
  intro changed old new hold hjobs hmove
  rw[hjobs,get_set]
  split
  · rename_i heq
    rw[←heq,hrow] at hold
    exact ⟨new,rfl,some.inj hold ▸ hmove⟩
  · exact ⟨row,hrow,.same⟩
 cases step_effect hstep with
 | tick | setDevice | start | resetRead | idle | runner | done | crash=>exact ⟨row,hrow,.same⟩
 | enqueue hfresh=>
  refine ⟨row,?_,.same⟩
  rw[setJob,get_set_of_ne,hrow]
  rintro rfl
  rw[hrow] at hfresh
  cases hfresh
 | resetWrite hw=>
  rename_i w since kind kinds selected
  rw[resetRows,Dict.get_map,hrow,map_some]
  refine ⟨_,rfl,?_⟩
  split
  · rename_i hmem
    obtain ⟨r,hr,rfl⟩:=List.mem_map.mp hmem
    simp only[fenced,hw,List.all_eq_true] at hfence
    have hunchanged:=hfence r hr
    rw[hrow,all_some,Bool.and_eq_true,decide_eq_true_eq,decide_eq_true_eq] at hunchanged
    obtain ⟨started,hstart,hstale⟩:=h.selected w since _ selected hw r hr
    exact .reset hunchanged.1 (hunchanged.2.trans hstart) hstale
  · exact .same
 | claim _ hnext=>
  obtain ⟨hget,hpending,-⟩:=nextJob_mem hnext
  exact hset hget rfl (.claimed hpending)
 | commit hw hget hremembered hloaded=>
  rename_i w e current loaded remembered
  have hpublished:=h.published w e hw (by rw[hloaded];rfl)
  rw[hremembered] at hpublished
  have hrunning:current.status=.running:=by
   simp only[fenced,executionOf,hw,all_some,hget,any_some,Bool.and_eq_true,
    decide_eq_true_eq] at hfence
   exact hfence.1
  refine hset hget rfl (.settled hrunning ?_)
  split
  · rw[hrunning]
    decide
  · exact fun heq=>hpublished (congrArg some heq)
 | ended _ hget hrunning hstatus=>
  refine hset hget rfl (.settled hrunning ?_)
  rintro rfl
  cases hstatus
 | closeLocked hget hopen=>exact hset hget rfl (.closed hopen)
end
end GridFleet.JobQueue
