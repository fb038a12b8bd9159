import GridFleet.JobSteps
namespace GridFleet.JobQueue
open Interleaving Dict Option
open RecoveryJobs (JobId JobStatus)

/-- A claim against the row of its job: either it is the current one, or it is older than the timeout. -/
structure Behind (now:Instant)(claim:JobClaim)(row:JobRow):Prop where
 attempts:claim.attempts≤row.attempts
 started:row.status=.running→ row.attempts=claim.attempts→ row.startedAt=some claim.claimedAt
 overtaken:claim.attempts<row.attempts∨row.status=.pending→
  claim.claimedAt+staleJobTimeout<now

structure ClaimsApart (s:State):Prop where
 sound:Sound s
 behind:∀w e,s.workers.get w=some (.executing e)→
  ∃row,s.jobs.get e.claim.id=some row∧Behind s.now e.claim row
 apart:∀v w e e',s.workers.get v=some (.executing e)→s.workers.get w=some (.executing e')→
  v≠w→e.claim.id=e'.claim.id→
   e.claim.claimedAt+staleJobTimeout<e'.claim.claimedAt∨
    e'.claim.claimedAt+staleJobTimeout<e.claim.claimedAt

section
variable {s u:State}{a:Label}

variable {now:Instant}{row:JobRow}

lemma Behind.step {later:Instant}{claim:JobClaim}{row':JobRow}(h:Behind now claim row)
 (hmove:RowStep now row row')(hlater:now≤later):Behind later claim row':=by
 cases hmove with
 | same=>exact ⟨h.attempts,h.started,fun ho=>lt_of_lt_of_le (h.overtaken ho) hlater⟩
 | claimed hpending=>
  have hstale:=h.overtaken (.inr hpending)
  refine ⟨Nat.le_succ_of_le h.attempts,?_,fun _=>lt_of_lt_of_le hstale hlater⟩
  intro _ heq
  have hle:=h.attempts
  simp only[claimRow] at heq
  omega
 | reset hrunning hstart hstale=>
  refine ⟨h.attempts,(by intro hstatus;cases hstatus),fun _=>lt_of_lt_of_le ?_ hlater⟩
  rcases h.attempts.lt_or_eq with hlt|heq
  · exact h.overtaken (.inl hlt)
  · rw[h.started hrunning heq.symm] at hstart
    rw[some.inj hstart]
    exact hstale
 | settled hrunning hstatus=>
  refine ⟨h.attempts,fun _=>h.started hrunning,?_⟩
  rintro (hlt|hpending)
  · exact lt_of_lt_of_le (h.overtaken (.inl hlt)) hlater
  · exact absurd hpending hstatus
 | closed=>
  refine ⟨h.attempts,(by intro hstatus;cases hstatus),?_⟩
  rintro (hlt|hpending)
  · exact lt_of_lt_of_le (h.overtaken (.inl hlt)) hlater
  · cases hpending

lemma Behind.of_claim {id:JobId}(later:Instant):
 Behind later ⟨id,row.kind,row.payload,row.attempts+1,now⟩ (claimRow now row):=by
 refine ⟨le_rfl,fun _ _=>rfl,?_⟩
 rintro (hlt|hpending)
 · exact absurd hlt (lt_irrefl _)
 · cases hpending

lemma executing_step (hstep:step s a=some u){w:WorkerId}{e':Execution}
 (h:u.workers.get w=some (.executing e')):(∃e,s.workers.get w=some (.executing e)∧e'.claim=e.claim)∨
  (∃row,s.jobs.get e'.claim.id=some row∧row.status=.pending∧
   u.jobs.get e'.claim.id=some (claimRow s.now row)∧
   e'.claim=⟨e'.claim.id,row.kind,row.payload,row.attempts+1,s.now⟩∧
   row.scheduledAt ≤ s.now∧∀v,v≠w→u.workers.get v=s.workers.get v):=by
 -- A step that moves one worker to a phase outside a runner, or keeps its claim.
 have hset:∀{v phase},u.workers=s.workers.set v phase→
   (∀e',phase=.executing e'→∃e,s.workers.get v=some (.executing e)∧e'.claim=e.claim)→
   ∃e,s.workers.get w=some (.executing e)∧e'.claim=e.claim:=by
  intro v phase hworkers hphase
  rw[hworkers] at h
  rcases get_set_eq_some h with ⟨rfl,heq⟩|⟨-,hold⟩
  · exact hphase e' heq.symm
  · exact ⟨e',hold,rfl⟩
 cases step_effect hstep with
 | tick | setDevice | enqueue | idle | closeLocked=>exact .inl ⟨e',h,rfl⟩
 | start | resetRead | done | ended=>exact .inl (hset rfl (by intro e heq;cases heq))
 | resetWrite=>
  refine .inl (hset rfl ?_)
  intro e heq
  split at heq <;> cases heq
 | runner hw hclaim=>
  refine .inl (hset rfl ?_)
  intro e heq
  cases heq
  exact ⟨_,hw,hclaim⟩
 | commit hw=>
  refine .inl (hset rfl ?_)
  intro e heq
  cases heq
  exact ⟨_,hw,rfl⟩
 | crash=>exact .inl ⟨e',(get_pop_eq_some h).2,rfl⟩
 | claim _ hnext=>
  obtain ⟨hget,hpending,hdue⟩:=nextJob_mem hnext
  rcases get_set_eq_some h with ⟨rfl,heq⟩|⟨-,hold⟩
  · cases heq
    refine .inr ⟨_,hget,hpending,get_set_self _ _ _,rfl,hdue,?_⟩
    intro v hv
    exact get_set_of_ne _ _ hv
  · exact .inl ⟨e',hold,rfl⟩

lemma ClaimsApart.step (h:ClaimsApart s)(hfence:fenced s a)(hstep:step s a=some u):ClaimsApart u:=by
 have hnow:=step_now hstep
 refine ⟨h.sound.step hstep,?_,?_⟩
 · intro w e' he'
   rcases executing_step hstep he' with ⟨e,he,hclaim⟩|⟨row,-,-,hrow',hclaim,-⟩
   · obtain ⟨row,hrow,hbehind⟩:=h.behind w e he
     obtain ⟨row',hrow',hmove⟩:=row_step h.sound hfence hstep hrow
     rw[hclaim]
     exact ⟨row',hrow',hbehind.step hmove hnow⟩
   · rw[hclaim]
     exact ⟨_,hrow',Behind.of_claim _⟩
 · -- A claim finds the job pending, so every execution of it is already overtaken.
   have hnew:∀{w e' v e},u.workers.get w=some (.executing e')→
     s.workers.get v=some (.executing e)→e.claim.id=e'.claim.id→
     (∃row,s.jobs.get e'.claim.id=some row∧row.status=.pending)→
     e'.claim.claimedAt=s.now→e.claim.claimedAt+staleJobTimeout<e'.claim.claimedAt:=by
    rintro w e' v e-he hid ⟨row,hrow,hpending⟩ hclaimed
    obtain ⟨row',hrow',hbehind⟩:=h.behind v e he
    rw[hid,hrow,some.injEq] at hrow'
    rw[hclaimed]
    exact hbehind.overtaken (.inr (hrow' ▸ hpending))
   intro v w e₁ e₂ h₁ h₂ hne hid
   rcases executing_step hstep h₁ with ⟨e,he,hclaim⟩|⟨row,hrow,hpending,-,hclaim,-,hothers⟩
   · rcases executing_step hstep h₂ with
      ⟨e',he',hclaim'⟩ | ⟨row,hrow,hpending,-,hclaim',-⟩
     · rw[hclaim,hclaim'] at hid ⊢
       exact h.apart v w e e' he he' hne hid
     · rw[hclaim] at hid ⊢
       exact .inl (hnew h₂ he hid ⟨row,hrow,hpending⟩ (congrArg JobClaim.claimedAt hclaim'))
   · rw[hothers w hne.symm] at h₂
     exact .inr (hnew h₁ h₂ hid.symm ⟨row,hrow,hpending⟩ (congrArg JobClaim.claimedAt hclaim))

lemma ClaimsApart.init (h:s.workers=Dict.empty):ClaimsApart s:=by
 have hnone:∀w phase,s.workers.get w≠some phase:=by
  intro w phase hw
  rw[h] at hw
  cases hw
 exact ⟨⟨fun w e hw=>absurd hw (hnone w _),fun w _ _ _ hw=>absurd hw (hnone w _)⟩,
  fun w e hw=>absurd hw (hnone w _),fun v w e e' hv=>absurd hv (hnone v _)⟩
lemma RowStep.status_of_terminal {row':JobRow}(h:RowStep now row row')
 (hterminal:isTerminal row.status):row'.status=row.status:=by
 cases h with
 | same=>rfl
 | claimed hstatus | reset hstatus | settled hstatus=>
  rw[hstatus] at hterminal
  cases hterminal
 | closed hopen=>
  rw[hopen] at hterminal
  cases hterminal
end

/-- In a fenced run from a start without workers, a job that has finished by some state keeps its status
to the end, and two workers inside one job claimed it at least the stale timeout apart. -/
theorem finished_jobs_stay_finished {s u v:State} {before after:List Label}
 (hstart:s.workers=Dict.empty)
 (hfence:Guarded (fun s a=>fenced s a=true) step s before)
 (hbefore:run step s before=some u)
 (hfence':Guarded (fun s a=>fenced s a=true) step u after)
 (hafter:run step u after=some v):
 (∀id row,u.jobs.get id=some row→ isTerminal row.status=true→
  ∃row',v.jobs.get id=some row'∧row'.status=row.status)∧
 ∀w w' e e',u.workers.get w=some (.executing e)→ u.workers.get w'=some (.executing e')→
  w≠w'→ e.claim.id=e'.claim.id→
   e.claim.claimedAt+staleJobTimeout≤e'.claim.claimedAt∨
    e'.claim.claimedAt+staleJobTimeout≤e.claim.claimedAt:=by
 have hu:ClaimsApart u:=run_invariant_guarded ClaimsApart
  (fun s a u hs hguard hstep=>hs.step hguard hstep) (ClaimsApart.init hstart) hfence hbefore
 constructor
 · intro id row hrow hterminal
   have hend:=run_invariant_guarded
    (fun t=>Sound t∧∃row',t.jobs.get id=some row'∧row'.status=row.status)
    (fun t a t' ht hguard hstep=>?_) ⟨hu.sound,row,hrow,rfl⟩ hfence' hafter
   · exact hend.2
   · obtain ⟨hsound,row₁,hrow₁,hstatus⟩:=ht
     obtain ⟨row₂,hrow₂,hmove⟩:=row_step hsound hguard hstep hrow₁
     rw[←hstatus] at hterminal
     exact ⟨hsound.step hstep,row₂,hrow₂,(hmove.status_of_terminal hterminal).trans hstatus⟩
 · intro w w' e e' hw hw' hne hid
   exact (hu.apart w w' e e' hw hw' hne hid).imp le_of_lt le_of_lt

section
def boot (w:WorkerId)(now:Instant):List Label:=
 .start w::(List.replicate 5 [.resetRead w now,.resetWrite w]).flatten
def oneJob (kind:JobKind):State where
 jobs:=Dict.ofList [(1,⟨kind,.pending,.pending,some ⟨1,5,true⟩,0,0,0,none⟩)]
 devices:=Dict.ofList [(1,⟨some false,some 5,false⟩)]
 workers:=Dict.empty
 now:=0
def statusOf (s:State)(id:JobId):Option JobStatus:=(s.jobs.get id).map JobRow.status
def remediated:List Label:=boot 0 0++[.poll 0 [],.prepare 0 true,.finalize 0]

theorem remediated_job_stays_completed:
 ∃u v row,run step (oneJob .deviceHealthRemediation) remediated=some u∧
  run step u (.tick 600000001::boot 1 600000001)=some v∧v.jobs.get 1=some row∧
  row.status=.completed:=by
 have h:(run step (oneJob .deviceHealthRemediation) remediated).any (fun u=>
   decide (statusOf u 1=some .completed)&&
   decide (Guarded (fun s a=>fenced s a=true) step u (.tick 600000001::boot 1 600000001))&&
   (run step u (.tick 600000001::boot 1 600000001)).isSome)=true:=by decide
 rw[any_eq_true] at h
 obtain ⟨u,hu,h⟩:=h
 simp only[Bool.and_eq_true,decide_eq_true_eq] at h
 obtain ⟨⟨hstatus,hfence⟩,hv⟩:=h
 obtain ⟨v,hv⟩:=isSome_iff_exists.mp hv
 obtain ⟨row,hrow,hstatus⟩:=map_eq_some_iff.mp hstatus
 obtain ⟨row',hrow',heq⟩:=(finished_jobs_stay_finished rfl (by decide) hu hfence hv).1 1 row hrow
  (by rw[hstatus];rfl)
 exact ⟨u,v,row',hu,hv,hrow',heq.trans hstatus⟩

/-- A worker is still inside the job when its claim goes stale. -/
def stalled (steps:List Label):List Label:=boot 0 0 ++ .poll 0 []::steps++[.tick 600000001]

def bootToRead (w:WorkerId):List Label:=
 .start w::(List.replicate 2 [.resetRead w 600000001,.resetWrite w]).flatten ++
  [.resetRead w 600000001]
def bootFromRead (w:WorkerId):List Label:=
 .resetWrite w::(List.replicate 2 [.resetRead w 600000001,.resetWrite w]).flatten

/-- A reset writes over a completion between its two statements, the stage of a runner taken for dead
over the end of the job, and two resets of one row let two workers claim the job at one instant. -/
theorem unfenced_writes_reopen_jobs:
 ((run step (oneJob .deviceHealthRemediation)
  (stalled [.prepare 0 true]++bootToRead 1++[.finalize 0])).any fun u=>
   statusOf u 1=some .completed&&
    (run step u [.resetWrite 1]).any fun v=>statusOf v 1=some .pending)=true∧
 ((run step (oneJob .deviceVerification) (stalled [.load 0]++boot 1 600000001 ++
  [.poll 1 [],.load 1,.finish 1 .completed,.commit 1])).any fun u=>
   statusOf u 1=some .completed&&
    (run step u [.stage 0,.commit 0]).any fun v=>statusOf v 1=some .running)=true∧
 ((run step (oneJob .deviceHealthRemediation)
  (stalled [.prepare 0 true]++bootToRead 1++bootToRead 2++bootFromRead 1++[.poll 1 []] ++
   bootFromRead 2++[.poll 2 []])).any fun u=>
    (executionOf u 1).any fun e=>(executionOf u 2).any fun e'=>
     e.claim.id=e'.claim.id&&e.claim.claimedAt=e'.claim.claimedAt)=true:=by
 refine ⟨?_,?_,?_⟩ <;> decide
end
end GridFleet.JobQueue
