import GridFleet.InfiniteRun
import GridFleet.JobFencing
import Mathlib.Data.Finset.Card
/-! An execution may end with its row still running: its worker dies, an error escapes the runner, or a
remediation finds its device changed. Such a job is taken up again only by the start of a worker more
than the stale timeout after the claim. -/
namespace GridFleet.JobQueue
open Interleaving
open RecoveryJobs (JobId JobStatus)
open Option (map_some any_some any_eq_true all_some)
open Dict (get_set_self get_set_eq_some get_map get_set_of_ne)

/-- From `start` on there is the one worker, and it polls for ever: past every instant, and for every job
again and again without finding its row locked. -/
structure Survives (r:InfiniteRun step)(w:WorkerId)(start:ℕ):Prop where
 alone:∀n ≥ start,∀v,v≠w→(r.states n).workers.get v=none
 alive:∀n ≥ start,(r.states n).workers.get w≠none
 polls:∀id n,∃m ≥ n,∃skipped,r.labels m=.poll w skipped∧id ∉ skipped
 time:∀t,∃n,t<(r.states n).now

def ClaimsAt (r:InfiniteRun step)(n:ℕ)(id:JobId):Prop:=
 ∃w skipped e,r.labels n=.poll w skipped∧
  (r.states (n+1)).workers.get w=some (.executing e)∧e.claim.id=id
def FinishedAt (r:InfiniteRun step)(n:ℕ)(id:JobId):Prop:=
 ∃row,(r.states n).jobs.get id=some row∧isTerminal row.status
def Starts (r:InfiniteRun step)(n:ℕ)(v:WorkerId):Prop:=
 r.labels n=.start v∧∃k > n,(r.states k).workers.get v=some .polling∧
  ∀i,n < i→i≤k→(r.states i).workers.get v≠none

/-- Whenever an execution ends with its row still running under its claim, the kind is one that workers
reset and some worker starts after the claim has gone stale. -/
def Rescued (r:InfiniteRun step):Prop:=
 ∀n v e row,(r.states n).workers.get v=some (.executing e)→
  (∀e',(r.states (n+1)).workers.get v=some (.executing e')→e'.claim≠e.claim)→
  (r.states (n+1)).jobs.get e.claim.id=some row→ row.status=.running→
  row.attempts=e.claim.attempts→
  e.claim.kind∈staleKinds∧∃m > n,∃v',Starts r m v'∧
   e.claim.claimedAt+staleJobTimeout<(r.states m).now

section
variable {s u:State}{a:Label}

structure Follows (row row':JobRow):Prop where
 kind:row'.kind=row.kind
 createdAt:row'.createdAt=row.createdAt
 scheduledAt:row'.scheduledAt=row.scheduledAt
 attempts:row.attempts≤row'.attempts

variable {row':JobRow}{v:WorkerId}{skipped:List JobId}

lemma RowStep.follows {now:Instant}{row:JobRow}(h:RowStep now row row'):Follows row row':=by
 cases h with
 | claimed=>exact ⟨rfl,rfl,rfl,Nat.le_succ _⟩
 | _=>exact ⟨rfl,rfl,rfl,le_rfl⟩
lemma Follows.trans {row₁ row₂ row₃:JobRow}(h:Follows row₁ row₂)(h':Follows row₂ row₃):
 Follows row₁ row₃:=
 ⟨h'.kind.trans h.kind,h'.createdAt.trans h.createdAt,h'.scheduledAt.trans h.scheduledAt,
  h.attempts.trans h'.attempts⟩

inductive JobsMove (s:State)(a:Label)(u:State):Prop where
 | kept (h:u.jobs=s.jobs)
 | made {id:JobId}{row:JobRow}(hfresh:s.jobs.get id=none)(hcreated:row.createdAt=s.now)
  (h:u.jobs=s.jobs.set id row)
 | reset {w:WorkerId}{since:Instant}{kinds:List JobKind}{selected:List (JobId×JobRow)}
  (hw:s.workers.get w=some (.starting since kinds (some selected)))
  (h:u.jobs=resetRows s selected)
 | claimed {w:WorkerId}{skipped:List JobId}{e:Execution}{row:JobRow}
  (ha:a=.poll w skipped)(hw:u.workers.get w=some (.executing e))
  (hrow:s.jobs.get e.claim.id=some row)
  (h:u.jobs=s.jobs.set e.claim.id (claimRow s.now row))
 | wrote {id:JobId}{old new:JobRow}(h:u.jobs=s.jobs.set id new)
  (hold:s.jobs.get id=some old)(hattempts:new.attempts=old.attempts)
  (hcreated:new.createdAt=old.createdAt)
  (hpending:Sound s→new.status=.pending→ old.status=.pending)

lemma jobs_move (hstep:step s a=some u):JobsMove s a u:=by
 cases step_effect hstep with
 | tick | setDevice | start | resetRead | idle | runner | done | crash=>exact .kept rfl
 | enqueue hfresh=>exact .made hfresh rfl rfl
 | resetWrite hw=>exact .reset hw rfl
 | claim _ hnext=>exact .claimed rfl (get_set_self _ _ _) (nextJob_mem hnext).1 rfl
 | commit hw hget hremembered hloaded=>
  refine .wrote rfl hget rfl rfl fun hsound hpending=>?_
  have hpublished:=hsound.published _ _ hw (by rw[hloaded];rfl)
  simp only[publishRow] at hpending
  split at hpending
  · exact hpending
  · rw[hremembered,hpending] at hpublished
    exact absurd rfl hpublished
 | ended _ hget _ hstatus=>
  refine .wrote rfl hget rfl rfl fun _ hpending=>?_
  simp only[endRow] at hpending
  rw[hpending] at hstatus
  cases hstatus
 | closeLocked hget=>exact .wrote rfl hget rfl rfl fun _ hpending=>by cases hpending

lemma claims_of_attempts_lt (hstep:step s a=some u){id:JobId}{row:JobRow}
 (hrow:s.jobs.get id=some row)(hrow':u.jobs.get id=some row')(hlt:row.attempts<row'.attempts):
 ∃w skipped e,a=.poll w skipped∧u.workers.get w=some (.executing e)∧e.claim.id=id:=by
 have hkept:s.jobs.get id≠some row':=by
  intro hget
  rw[hrow,Option.some.injEq] at hget
  rw[hget] at hlt
  exact lt_irrefl _ hlt
 cases jobs_move hstep with
 | kept h=>
  rw[h] at hrow'
  exact absurd hrow' hkept
 | made hfresh _ h=>
  rw[h] at hrow'
  rcases get_set_eq_some hrow' with ⟨rfl,-⟩|⟨-,hget⟩
  · rw[hrow] at hfresh
    cases hfresh
  · exact absurd hget hkept
 | reset _ h=>
  rw[h,resetRows,get_map,hrow,map_some,Option.some.injEq] at hrow'
  rw[←hrow'] at hlt
  split at hlt <;> exact absurd hlt (lt_irrefl _)
 | claimed ha hw _ h=>
  rw[h] at hrow'
  rcases get_set_eq_some hrow' with ⟨rfl,-⟩|⟨-,hget⟩
  · exact ⟨_,_,_,ha,hw,rfl⟩
  · exact absurd hget hkept
 | wrote h hold hattempts=>
  rw[h] at hrow'
  rcases get_set_eq_some hrow' with ⟨rfl,rfl⟩|⟨-,hget⟩
  · rw[hrow,Option.some.injEq] at hold
    rw[hattempts,hold] at hlt
    exact absurd hlt (lt_irrefl _)
  · exact absurd hget hkept

lemma pending_step (h:Sound s)(hstep:step s a=some u)
 (hstarted:∀v since kinds selected,s.workers.get v≠some (.starting since kinds selected))
 {id:JobId}(hrow':u.jobs.get id=some row')(hpending:row'.status=.pending):row'.createdAt=s.now∨
  ∃row,s.jobs.get id=some row∧row.status=.pending∧row.createdAt=row'.createdAt:=by
 cases jobs_move hstep with
 | kept hjobs=>
  rw[hjobs] at hrow'
  exact .inr ⟨row',hrow',hpending,rfl⟩
 | made _ hcreated hjobs=>
  rw[hjobs] at hrow'
  rcases get_set_eq_some hrow' with ⟨-,rfl⟩|⟨-,hget⟩
  · exact .inl hcreated
  · exact .inr ⟨row',hget,hpending,rfl⟩
 | reset hw=>exact absurd hw (hstarted _ _ _ _)
 | claimed _ _ _ hjobs=>
  rw[hjobs] at hrow'
  rcases get_set_eq_some hrow' with ⟨-,rfl⟩|⟨-,hget⟩
  · cases hpending
  · exact .inr ⟨row',hget,hpending,rfl⟩
 | wrote hjobs hold _ hcreated hstatus=>
  rw[hjobs] at hrow'
  rcases get_set_eq_some hrow' with ⟨rfl,rfl⟩|⟨-,hget⟩
  · exact .inr ⟨_,hold,hstatus h hpending,hcreated.symm⟩
  · exact .inr ⟨row',hget,hpending,rfl⟩

lemma starting_step (hstep:step s a=some u){since:Instant}{kinds:List JobKind}
 {selected:Option (List (JobId×JobRow))}(h:s.workers.get v=some (.starting since kinds selected)):
 u.workers.get v=some (.starting since kinds selected)∨u.workers.get v=none∨
  (∃kind rest readAt,kinds=kind::rest∧since≤readAt∧
   u.workers.get v=some (.starting since kinds (some (staleRows s kind readAt))))∨
  ∃kind rest rows,kinds=kind::rest∧selected=some rows∧u.jobs=resetRows s rows∧
   u.workers.get v=some (if rest=[] then .polling else .starting since rest none):=by
 -- The step of another worker, or of one in another phase.
 have hother:∀{w old phase},s.workers.get w=some old→
   old ≠ .starting since kinds selected→u.workers=s.workers.set w phase→
   u.workers.get v=some (.starting since kinds selected):=by
  intro w old phase hw hne hworkers
  rw[hworkers,get_set_of_ne,h]
  rintro rfl
  rw[h,Option.some.injEq] at hw
  exact hne hw.symm
 cases step_effect hstep with
 | tick | setDevice | enqueue | idle | closeLocked=>exact .inl h
 | start hw=>
  refine .inl ((get_set_of_ne _ _ ?_).trans h)
  rintro rfl
  rw[h] at hw
  cases hw
 | claim hw | runner hw | commit hw | ended hw | done hw=>
  exact .inl (hother hw (by intro heq;cases heq) rfl)
 | crash=>
  simp only[Dict.get_pop]
  split
  · exact .inr (.inl rfl)
  · exact .inl h
 | resetRead hw hsince hread=>
  rename_i w readAt since' kind rest
  by_cases hv:v=w
  · subst hv
    rw[h] at hw
    cases hw
    exact .inr (.inr (.inl ⟨kind,rest,readAt,rfl,hsince,get_set_self _ _ _⟩))
  · exact .inl ((get_set_of_ne _ _ hv).trans h)
 | resetWrite hw=>
  rename_i w since' kind rest rows
  by_cases hv:v=w
  · subst hv
    rw[h] at hw
    cases hw
    exact .inr (.inr (.inr ⟨kind,rest,rows,rfl,rfl,rfl,get_set_self _ _ _⟩))
  · exact .inl ((get_set_of_ne _ _ hv).trans h)

lemma queueOrder_nextJob {e:JobId×JobRow}(he:e∈dueJobs s skipped):
 ∃first,nextJob s skipped=some first∧queueOrder first≤queueOrder e:=by
 have hmem:=(List.mem_insertionSort fun a b=>queueOrder a≤queueOrder b).mpr he
 have hsorted:=List.pairwise_insertionSort (fun a b=>queueOrder a≤queueOrder b) (dueJobs s skipped)
 unfold nextJob
 cases hlist:(dueJobs s skipped).insertionSort fun a b=>queueOrder a≤queueOrder b with
 | nil=>
  rw[hlist] at hmem
  cases hmem
 | cons first=>
  rw[hlist] at hmem hsorted
  refine ⟨first,rfl,?_⟩
  rcases List.mem_cons.mp hmem with heq|hrest
  · rw[heq]
  · exact (List.pairwise_cons.mp hsorted).1 _ hrest
lemma polling_of_poll {w:WorkerId}(hstep:step s (.poll w skipped)=some u):
 s.workers.get w=some .polling:=by
 simp only[step,runPendingOnce] at hstep
 split at hstep
 · assumption
 · cases hstep
lemma starting_of_start (hstep:step s (.start v)=some u):
 u.workers.get v=some (.starting s.now staleKinds none):=by
 simp only[step,startWorker] at hstep
 split at hstep
 · cases hstep
   exact get_set_self _ _ _
 · cases hstep
lemma claim_of_poll {w:WorkerId}{e:JobId×JobRow}(hstep:step s (.poll w skipped)=some u)
 (hnext:nextJob s skipped=some e):u.jobs.get e.1=some (claimRow s.now e.2)∧
  ∃x,u.workers.get w=some (.executing x)∧x.claim.id=e.1:=by
 simp only[step,runPendingOnce,claimNextJob,hnext,map_some] at hstep
 split at hstep
 · cases hstep
   exact ⟨get_set_self _ _ _,_,get_set_self _ _ _,rfl⟩
 · cases hstep
lemma not_starting_step (hstep:step s a=some u)(halive:s.workers.get v≠none)
 (h:∀since kinds selected,s.workers.get v≠some (.starting since kinds selected)):
 ∀since kinds selected,u.workers.get v≠some (.starting since kinds selected):=by
 have hset:∀{w phase},(v=w→∀since kinds selected,phase ≠ .starting since kinds selected)→
   u.workers=s.workers.set w phase→
   ∀since kinds selected,u.workers.get v≠some (.starting since kinds selected):=by
  intro w phase hphase hworkers since kinds selected hu
  rw[hworkers] at hu
  rcases get_set_eq_some hu with ⟨hv,heq⟩|⟨-,hold⟩
  · exact hphase hv _ _ _ heq.symm
  · exact h _ _ _ hold
 cases step_effect hstep with
 | tick | setDevice | enqueue | idle | closeLocked=>exact h
 | start hw=>exact hset (fun hv=>absurd (hv ▸ hw) halive) rfl
 | resetRead hw | resetWrite hw=>exact hset (fun hv=>absurd (hv ▸ hw) (h _ _ _)) rfl
 | claim | runner | commit | ended | done=>
  exact hset (fun _ _ _ _ heq=>by cases heq) rfl
 | crash=>
  intro since kinds selected hu
  exact h _ _ _ (Dict.get_pop_eq_some hu).2
end

section
variable {r:InfiniteRun step}

lemma now_mono:Monotone fun n=>(r.states n).now:=
 monotone_nat_of_le_succ fun n=>step_now (r.steps n)
lemma sound_at (hstart:(r.states 0).workers=Dict.empty)(n:ℕ):Sound (r.states n):=by
 induction n with
 | zero=>exact (ClaimsApart.init hstart).sound
 | succ n ih=>exact ih.step (r.steps n)

section
variable (hstart:(r.states 0).workers=Dict.empty)
 (hfence:∀n,fenced (r.states n) (r.labels n)=true)

include hstart hfence

variable {id:JobId}{n m:ℕ}{row:JobRow}

lemma row_step_at (hrow:(r.states n).jobs.get id=some row):
 ∃row',(r.states (n+1)).jobs.get id=some row'∧RowStep (r.states n).now row row':=
 row_step (sound_at hstart n) (hfence n) (r.steps n) hrow
lemma row_at (P:ℕ→JobRow→Prop)(hP:∀m x y,RowStep (r.states m).now x y→P m x→P (m+1) y)
 (hle:n ≤ m)(hrow:(r.states n).jobs.get id=some row)(h:P n row):
 ∃row',(r.states m).jobs.get id=some row'∧P m row':=by
 induction m,hle using Nat.le_induction with
 | base=>exact ⟨row,hrow,h⟩
 | succ m _ ih=>
  obtain ⟨row₁,hrow₁,h₁⟩:=ih
  obtain ⟨row₂,hrow₂,hmove⟩:=row_step_at hstart hfence hrow₁
  exact ⟨row₂,hrow₂,hP m row₁ row₂ hmove h₁⟩
lemma follows_at (hle:n ≤ m)(hrow:(r.states n).jobs.get id=some row):
 ∃row',(r.states m).jobs.get id=some row'∧Follows row row':=
 row_at hstart hfence (fun _ x=>Follows row x) (fun _ _ _ hmove h=>h.trans hmove.follows) hle hrow
  ⟨rfl,rfl,rfl,le_rfl⟩
lemma finished_at (hle:n ≤ m)(h:FinishedAt r n id):FinishedAt r m id:=by
 obtain ⟨row,hrow,hterminal⟩:=h
 refine row_at hstart hfence (fun _ x=>isTerminal x.status) ?_ hle hrow hterminal
 intro m x y hmove hx
 rw[hmove.status_of_terminal hx]
 exact hx
lemma behind_at (hle:n ≤ m){claim:JobClaim}(hrow:(r.states n).jobs.get claim.id=some row)
 (h:Behind (r.states n).now claim row):
 ∃row',(r.states m).jobs.get claim.id=some row'∧Behind (r.states m).now claim row'∧
  Follows row row':=
 row_at hstart hfence (fun m x=>Behind (r.states m).now claim x∧Follows row x)
  (fun m _ _ hmove hx=>
   ⟨hx.1.step hmove (step_now (r.steps m)),hx.2.trans hmove.follows⟩) hle hrow
  ⟨h,rfl,rfl,rfl,le_rfl⟩

lemma claimed_between (hle:n ≤ m){row':JobRow}(hrow:(r.states n).jobs.get id=some row)
 (hrow':(r.states m).jobs.get id=some row')(hlt:row.attempts<row'.attempts):
 ∃k ≥ n,ClaimsAt r k id:=by
 obtain ⟨k,hnk,-,⟨before,hbefore,hfew⟩,hmany⟩:=exists_last_holding
  (Q:=fun i=>∃x,(r.states i).jobs.get id=some x∧x.attempts≤row.attempts)
  ⟨row,hrow,le_rfl⟩ hle (by
   rintro ⟨x,hx,hattempts⟩
   rw[hrow',Option.some.injEq] at hx
   rw[←hx] at hattempts
   exact absurd hlt (not_lt.mpr hattempts))
 obtain ⟨after,hafter,-⟩:=row_step_at hstart hfence hbefore
 have hlt':before.attempts<after.attempts:=by
  by_contra hnot
  exact hmany ⟨after,hafter,(not_lt.mp hnot).trans hfew⟩
 exact ⟨k,hnk,claims_of_attempts_lt (r.steps k) hbefore hafter hlt'⟩
end

lemma Survives.exists_settled {w:WorkerId}{start:ℕ}(h:Survives r w start):
 ∃m ≥ start,∀n ≥ m,∀v since kinds selected,
  (r.states n).workers.get v≠some (.starting since kinds selected):=by
 obtain ⟨m,hm,skipped,hpoll,-⟩:=h.polls 0 start
 have hpolling:(r.states m).workers.get w=some .polling:=
  polling_of_poll (hpoll ▸ r.steps m)
 refine ⟨m,hm,fun n hn v=>?_⟩
 by_cases hv:v=w
 · subst hv
   induction n,hn using Nat.le_induction with
   | base=>
    intro since kinds selected hstarting
    rw[hpolling] at hstarting
    cases hstarting
   | succ n hn ih=>exact not_starting_step (r.steps n) (h.alive n (hm.trans hn)) ih
 · intro since kinds selected hstarting
   rw[h.alone n (hm.trans hn) v hv] at hstarting
   cases hstarting
lemma Survives.execution_ends {w:WorkerId}{start:ℕ}(h:Survives r w start){n:ℕ}
 {v:WorkerId}{e:Execution}(he:(r.states n).workers.get v=some (.executing e)):
 ∃m ≥ n,∃e',(r.states m).workers.get v=some (.executing e')∧e'.claim=e.claim∧
  ∀e'',(r.states (m+1)).workers.get v=some (.executing e'')→e''.claim≠e.claim:=by
 have hend:∃m ≥ n,¬∃e',(r.states m).workers.get v=some (.executing e')∧
   e'.claim=e.claim:=by
  by_cases hv:v=w
  · subst hv
    obtain ⟨m,hm,skipped,hpoll,-⟩:=h.polls 0 n
    refine ⟨m,hm,?_⟩
    rintro ⟨e',he',-⟩
    rw[polling_of_poll (hpoll ▸ r.steps m)] at he'
    cases he'
  · refine ⟨max n start,le_max_left _ _,?_⟩
    rintro ⟨e',he',-⟩
    rw[h.alone _ (le_max_right _ _) v hv] at he'
    cases he'
 obtain ⟨m,hm,hnot⟩:=hend
 obtain ⟨k,hnk,-,⟨e',he',hclaim⟩,hlast⟩:=exists_last_holding
  (Q:=fun i=>∃e',(r.states i).workers.get v=some (.executing e')∧e'.claim=e.claim)
  ⟨e,he,rfl⟩ hm hnot
 exact ⟨k,hnk,e',he',hclaim,fun e'' he'' heq=>hlast ⟨e'',he'',heq⟩⟩

section
variable {w:WorkerId}{start:ℕ}(hstart:(r.states 0).workers=Dict.empty)
 (hfence:∀n,fenced (r.states n) (r.labels n)=true)(hsurvives:Survives r w start)

def jobsBefore (s:State)(e:JobId×JobRow):Finset JobId:=
 (s.jobs.entries.filter fun other=>
  other.2.status=.pending&&decide (queueOrder other<queueOrder e)).map Prod.fst |>.toFinset

variable {e:JobId×JobRow}{id:JobId}{n:ℕ}{row:JobRow}

lemma mem_jobsBefore {s:State}:id∈jobsBefore s e↔∃row,s.jobs.get id=some row∧row.status=.pending∧
  queueOrder (id,row)<queueOrder e:=by
 simp[jobsBefore,Dict.get_eq_some_iff,and_assoc]

/-- Past the creation of a job, and with no worker starting, none comes to stand before it. -/
lemma jobsBefore_step {s u:State}{a:Label}(hsound:Sound s)(hstep:step s a=some u)
 (hsettled:∀v since kinds selected,s.workers.get v≠some (.starting since kinds selected))
 (hpast:e.2.createdAt<s.now):jobsBefore u e ⊆ jobsBefore s e:=by
 intro id hid
 obtain ⟨row',hrow',hpending,hlt⟩:=mem_jobsBefore.mp hid
 rcases pending_step hsound hstep hsettled hrow' hpending with hnew|⟨row,hrow,hstatus,hcreated⟩
 · -- A job made now comes later.
   simp only[queueOrder,Prod.Lex.toLex_lt_toLex] at hlt
   rw[hnew] at hlt
   rcases hlt with hlt|⟨heq,-⟩
   · exact absurd hlt (not_lt.mpr hpast.le)
   · exact absurd heq hpast.ne'
 · refine mem_jobsBefore.mpr ⟨row,hrow,hstatus,?_⟩
   simpa only[queueOrder,hcreated] using hlt

lemma jobsBefore_poll {s u:State}{skipped:List JobId}(hstep:step s (.poll w skipped)=some u)
 (he:e∈dueJobs s skipped)(hsubset:jobsBefore u e ⊆ jobsBefore s e):
 (∃x,u.workers.get w=some (.executing x)∧x.claim.id=e.1)∨
  (jobsBefore u e).card<(jobsBefore s e).card:=by
 obtain ⟨first,hnext,hle⟩:=queueOrder_nextJob he
 obtain ⟨hclaimed,x,hx,hid⟩:=claim_of_poll hstep hnext
 by_cases hfirst:first.1=e.1
 · exact .inl ⟨x,hx,hid.trans hfirst⟩
 · obtain ⟨hrow,hpending,-⟩:=nextJob_mem hnext
   have hbefore:first.1∈jobsBefore s e:=by
    refine mem_jobsBefore.mpr ⟨first.2,hrow,hpending,lt_of_le_of_ne hle ?_⟩
    intro heq
    exact hfirst (congrArg Prod.snd (toLex.injective heq))
   have hgone:first.1 ∉ jobsBefore u e:=by
    intro hmem
    obtain ⟨row',hrow',hstatus,-⟩:=mem_jobsBefore.mp hmem
    rw[hclaimed,Option.some.injEq] at hrow'
    rw[←hrow'] at hstatus
    cases hstatus
   exact .inr (Finset.card_lt_card ((Finset.ssubset_iff_of_subset hsubset).mpr
    ⟨first.1,hbefore,hgone⟩))

include hstart hfence

lemma pending_stays (hrow:(r.states n).jobs.get id=some row)(hpending:row.status=.pending)
 (hnot:∀m ≥ n,¬(FinishedAt r m id∨ClaimsAt r m id)){m:ℕ}(hm:n ≤ m):
 (r.states m).jobs.get id=some row:=by
 induction m,hm using Nat.le_induction with
 | base=>exact hrow
 | succ m hm ih=>
  obtain ⟨row',hrow',hmove⟩:=row_step_at hstart hfence ih
  cases hmove with
  | same=>exact hrow'
  | claimed=>
   have hclaims:=claims_of_attempts_lt (r.steps m) ih hrow' (Nat.lt_succ_self _)
   exact absurd (.inr hclaims) (hnot m hm)
  | closed=>exact absurd (.inl ⟨_,hrow',rfl⟩) (hnot (m+1) (Nat.le_succ_of_le hm))
  | reset hrunning | settled hrunning=>
   rw[hpending] at hrunning
   cases hrunning

include hsurvives

/-- A pending job that is due gets its turn, since fewer and fewer jobs stand before it. -/
lemma pending_claimed (hrow:(r.states n).jobs.get id=some row)(hpending:row.status=.pending)
 (hdue:row.scheduledAt≤(r.states n).now):∃m ≥ n,FinishedAt r m id∨ClaimsAt r m id:=by
 by_contra hnever
 have hnot:∀m ≥ n,¬(FinishedAt r m id∨ClaimsAt r m id):=fun m hm h=>hnever ⟨m,hm,h⟩
 obtain ⟨settled,-,hsettled⟩:=hsurvives.exists_settled
 obtain ⟨past,hpast⟩:=hsurvives.time row.createdAt
 have hshrinks:∀k ≥ max (max n settled) past,
   jobsBefore (r.states (k+1)) (id,row) ⊆ jobsBefore (r.states k) (id,row):=by
  intro k hk
  exact jobsBefore_step (sound_at hstart k) (r.steps k) (hsettled k (by omega))
   (lt_of_lt_of_le hpast (now_mono (by omega)))
 have hdrop:∀k ≥ max (max n settled) past,∃l ≥ k,ClaimsAt r l id∨
   (jobsBefore (r.states (l+1)) (id,row)).card<(jobsBefore (r.states l) (id,row)).card:=by
  intro k hk
  obtain ⟨m,hm,skipped,hpoll,hfree⟩:=hsurvives.polls id k
  have hstep:=r.steps m
  rw[hpoll] at hstep
  have hnm:n ≤ m:=by omega
  have hdue':(id,row)∈dueJobs (r.states m) skipped:=
   mem_dueJobs.mpr ⟨pending_stays hstart hfence hrow hpending hnot hnm,hpending,
    hdue.trans (now_mono hnm),hfree⟩
  refine ⟨m,hm,(jobsBefore_poll hstep hdue' (hshrinks m (by omega))).imp_left ?_⟩
  rintro ⟨x,hx,hid⟩
  exact ⟨w,skipped,x,hpoll,hx,hid⟩
 obtain ⟨m,hm,hclaims⟩:=eventually_of_measure
  (μ:=fun m=>(jobsBefore (r.states m) (id,row)).card)
  (fun k hk _=>Finset.card_le_card (hshrinks k hk)) hdrop
 exact hnot m (by omega) (.inr hclaims)

omit hsurvives

/-- A worker that starts after the claim went stale finds the row on its way, unless it moves first. -/
lemma start_moves_row {claim:JobClaim}(hrow:(r.states n).jobs.get claim.id=some row)
 (hbehind:Behind (r.states n).now claim row)(hkind:row.kind∈staleKinds){v:WorkerId}
 (hstarts:Starts r n v)(hstale:claim.claimedAt+staleJobTimeout<(r.states n).now):
 ∃m ≥ n,∃row',(r.states m).jobs.get claim.id=some row'∧
  ¬(row'.status=.running∧row'.attempts=claim.attempts):=by
 by_contra hnever
 have hrunning:∀m ≥ n,∃row',(r.states m).jobs.get claim.id=some row'∧
   row'.status=.running∧row'.startedAt=some claim.claimedAt∧row'.kind=row.kind:=by
  intro m hm
  obtain ⟨row',hrow',hbehind',hfollows⟩:=behind_at hstart hfence hm hrow hbehind
  have hcurrent:row'.status=.running∧row'.attempts=claim.attempts:=by
   by_contra hmoved
   exact hnever ⟨m,hm,row',hrow',hmoved⟩
  exact ⟨row',hrow',hcurrent.1,hbehind'.started hcurrent.1 hcurrent.2,hfollows.kind⟩
 obtain ⟨hlabel,k,hk,hpolling,halive⟩:=hstarts
 -- Up to its first poll the worker still has the kind ahead, or has just selected the row.
 have hahead:∀i,n+1 ≤ i→i≤k→∃kinds selected,
   (r.states i).workers.get v=some (.starting (r.states n).now kinds selected)∧
    row.kind∈kinds∧∀rows,selected=some rows→kinds.head?=some row.kind→
     claim.id∈rows.map Prod.fst:=by
  intro i hi
  induction i,hi using Nat.le_induction with
  | base=>
   intro _
   have hstep:=r.steps n
   rw[hlabel] at hstep
   exact ⟨staleKinds,none,starting_of_start hstep,hkind,by intro rows heq;cases heq⟩
  | succ i _ ih=>
   intro hik
   obtain ⟨kinds,selected,hphase,hmem,hselected⟩:=ih (by omega)
   rcases starting_step (r.steps i) hphase with hsame|hdead|⟨kind,rest,readAt,rfl,hsince,hread⟩ |
    ⟨kind,rest,rows,rfl,rfl,hjobs,hwrote⟩
   · exact ⟨kinds,selected,hsame,hmem,hselected⟩
   · exact absurd hdead (halive (i+1) (by omega) hik)
   · refine ⟨kind::rest,_,hread,hmem,?_⟩
     intro rows hrows hhead
     cases hrows
     cases hhead
     obtain ⟨row',hrow',hstatus,hstarted,hsame⟩:=hrunning i (by omega)
     exact List.mem_map.mpr ⟨(claim.id,row'),mem_staleRows.mpr
      ⟨hrow',hsame,hstatus,_,hstarted,lt_of_lt_of_le hstale hsince⟩,rfl⟩
   · by_cases hhead:kind=row.kind
     · -- The reset of the kind writes the row.
       exfalso
       have hin:=hselected rows rfl (by rw[hhead];rfl)
       obtain ⟨old,hold,-⟩:=hrunning i (by omega)
       obtain ⟨new,hnew,hstatus,-⟩:=hrunning (i+1) (by omega)
       rw[hjobs,resetRows,get_map,hold,map_some,if_pos hin,
        Option.some.injEq] at hnew
       rw[←hnew] at hstatus
       cases hstatus
     · have hrest:row.kind∈rest:=by
        rcases List.mem_cons.mp hmem with heq|hrest
        · exact absurd heq.symm hhead
        · exact hrest
       rw[if_neg (List.ne_nil_of_mem hrest)] at hwrote
       exact ⟨rest,none,hwrote,hrest,by intro rows heq;cases heq⟩
 obtain ⟨kinds,selected,hphase,-⟩:=hahead k hk le_rfl
 rw[hpolling] at hphase
 cases hphase
end
end

/-- In a fenced run that one worker survives, every claimed job finishes or is claimed again, when each
execution that ends with its row running is followed by the start of a worker after the stale timeout. -/
theorem no_job_stranded {r:InfiniteRun step} {w:WorkerId} {start:ℕ}
 (hstart:(r.states 0).workers=Dict.empty)
 (hsurvives:Survives r w start) (hfence:∀n,fenced (r.states n) (r.labels n)=true)
 (hrescued:Rescued r) {n:ℕ} {id:JobId} (hclaims:ClaimsAt r n id):
 ∃m > n,FinishedAt r m id∨ClaimsAt r m id:=by
 obtain ⟨v,skipped,e,hlabel,he,rfl⟩:=hclaims
 have hstep:=r.steps n
 rw[hlabel] at hstep
 rcases executing_step (r.steps n) he with ⟨old,hold,-⟩|⟨row,-,-,hrow,hclaim,hdue,-⟩
 · rw[polling_of_poll hstep] at hold
   cases hold
 have hbehind:Behind (r.states (n+1)).now e.claim (claimRow (r.states n).now row):=by
  rw[hclaim]
  exact Behind.of_claim _
 have hcount:e.claim.attempts=row.attempts+1:=congrArg JobClaim.attempts hclaim
 have hsort:e.claim.kind=row.kind:=congrArg JobClaim.kind hclaim
 -- Once the row is no longer running under this claim, the job is on its way.
 have hmoved:∀m > n,∀row',(r.states m).jobs.get e.claim.id=some row'→
   ¬(row'.status=.running∧row'.attempts=e.claim.attempts)→
   ∃m > n,FinishedAt r m e.claim.id∨ClaimsAt r m e.claim.id:=by
  intro m hm row' hrow' hnot
  obtain ⟨same,hsame,hbehind',hfollows⟩:=behind_at hstart hfence (Nat.succ_le_of_lt hm) hrow hbehind
  rw[hrow',Option.some.injEq] at hsame
  subst hsame
  rcases hbehind'.attempts.lt_or_eq with hlt|heq
  · rw[hcount] at hlt
    obtain ⟨k,hk,hagain⟩:=claimed_between hstart hfence (Nat.succ_le_of_lt hm) hrow hrow' hlt
    exact ⟨k,hk,.inr hagain⟩
  · cases hstatus:row'.status with
    | running=>exact absurd ⟨hstatus,heq.symm⟩ hnot
    | completed | failed=>exact ⟨m,hm,.inl ⟨row',hrow',by rw[hstatus];rfl⟩⟩
    | pending=>
     have hdue':row'.scheduledAt≤(r.states m).now:=
      (hfollows.scheduledAt.le.trans hdue).trans (now_mono hm.le)
     obtain ⟨k,hk,hend⟩:=pending_claimed hstart hfence hsurvives hrow' hstatus hdue'
     exact ⟨k,lt_of_lt_of_le hm hk,hend⟩
 obtain ⟨m,hm,e',he',hclaim',hlast⟩:=hsurvives.execution_ends he
 obtain ⟨row',hrow',hbehind',hfollows⟩:=behind_at hstart hfence (Nat.le_succ_of_le hm) hrow hbehind
 by_cases hlost:row'.status=.running∧row'.attempts=e.claim.attempts
 · obtain ⟨hkind,k,hk,v',hstarts,hstale⟩:=hrescued m v e' row' he' (by rwa [hclaim'])
    (by rwa [hclaim']) hlost.1 (by rw[hclaim'];exact hlost.2)
   rw[hclaim'] at hkind hstale
   obtain ⟨row₂,hrow₂,hbehind₂,hfollows₂⟩:=behind_at hstart hfence
    (show n+1≤k by omega) hrow hbehind
   have hkind₂:row₂.kind∈staleKinds:=by
    rw[hfollows₂.kind]
    exact hsort ▸ hkind
   obtain ⟨l,hl,row₃,hrow₃,hnot⟩:=
    start_moves_row hstart hfence hrow₂ hbehind₂ hkind₂ hstarts hstale
   exact hmoved l (by omega) row₃ hrow₃ hnot
 · exact hmoved (m+1) (by omega) row' hrow' hlost

section
def ticks (n:ℕ):ℕ:=(n+1) / 2
def idleLabel (u:State)(w:WorkerId)(n:ℕ):Label:=
 if n % 2=0 then .tick (u.now+ticks (n+1)) else .poll w []

lemma step_idleLabel {u:State}{w:WorkerId}(hphase:u.workers.get w=some .polling)
 (hidle:∀now,nextJob {u with now:=now} []=none)(n:ℕ):
 step {u with now:=u.now+ticks n} (idleLabel u w n) = some {u with now:=u.now+ticks (n+1)}:=by
 unfold idleLabel
 split
 · have hlater:ticks n≤ticks (n+1):=by
    unfold ticks
    omega
   simp only[step]
   rw[if_pos (Nat.add_le_add_left hlater _)]
 · rename_i hodd
   have hsame:ticks (n+1)=ticks n:=by
    unfold ticks
    omega
   simp only[step,runPendingOnce,hphase,claimNextJob,hidle,Option.map_none,hsame]

def idleRun (u:State)(w:WorkerId)(hphase:u.workers.get w=some .polling)
 (hidle:∀now,nextJob {u with now:=now} []=none):InfiniteRun step where
 states n:={u with now:=u.now+ticks n}
 labels:=idleLabel u w
 steps:=step_idleLabel hphase hidle

lemma nextJob_eq_none {s:State}{skipped:List JobId}
 (h:∀e∈s.jobs.entries,e.2.status ≠ .pending):nextJob s skipped=none:=by
 cases hnext:nextJob s skipped with
 | none=>rfl
 | some e=>
  obtain ⟨hrow,hpending,-⟩:=nextJob_mem hnext
  exact absurd hpending (h e (Dict.get_eq_some_iff.mp hrow))

structure Idle (u:State)(w:WorkerId):Prop where
 phase:u.workers.get w=some .polling
 alone:∀e∈u.workers.entries,e.1=w
 queue:∀e∈u.jobs.entries,e.2.status ≠ .pending

instance (u:State)(w:WorkerId):Decidable (Idle u w):=
 decidable_of_iff (u.workers.get w=some .polling∧(∀e∈u.workers.entries,e.1=w)∧
   ∀e∈u.jobs.entries,e.2.status ≠ .pending)
  ⟨fun h=>⟨h.1,h.2.1,h.2.2⟩,fun h=>⟨h.phase,h.alone,h.queue⟩⟩

/-- A fenced run that ends in such a state goes on for ever. -/
lemma exists_survived_run {s u:State}{as:List Label}{w:WorkerId}
 (hguard:Guarded (fun s a=>fenced s a) step s as)(hrun:run step s as=some u)(hidle:Idle u w):
 ∃r:InfiniteRun step,Survives r w as.length∧(∀n,fenced (r.states n) (r.labels n))∧
  (∀n≤as.length,run step s (as.take n)=some (r.states n))∧(∀n<as.length,as[n]?=some (r.labels n))∧
  ∀n ≥ as.length,(r.states n).jobs=u.jobs∧(r.states n).workers=u.workers:=by
 let loop:=idleRun u w hidle.phase fun now=>nextJob_eq_none hidle.queue
 have hloop:∀n,fenced (loop.states n) (loop.labels n):=by
  intro n
  simp only[loop,idleRun,idleLabel]
  split <;> rfl
 have hstates:loop.states 0=u:=rfl
 obtain ⟨r,hfence,htake,hlabels,htail⟩:=loop.exists_append hloop hguard (hstates ▸ hrun)
 have hlate:∀n ≥ as.length,(r.states n).jobs=u.jobs∧(r.states n).workers=u.workers:=by
  intro n hn
  obtain ⟨k,rfl⟩:=Nat.exists_eq_add_of_le hn
  rw[(htail k).1]
  exact ⟨rfl,rfl⟩
 refine ⟨r,⟨?_,?_,?_,?_⟩,hfence,htake,hlabels,hlate⟩
 · intro n hn v hv
   rw[(hlate n hn).2]
   by_contra hsome
   obtain ⟨phase,hphase⟩:=Option.ne_none_iff_exists'.mp hsome
   exact hv (hidle.alone _ (Dict.get_eq_some_iff.mp hphase))
 · intro n hn
   rw[(hlate n hn).2,hidle.phase]
   simp
 · intro id n
   refine ⟨as.length+(2*n+1),by omega,[],?_,List.not_mem_nil⟩
   rw[(htail _).2]
   exact if_neg (by omega)
 · intro t
   refine ⟨as.length+2*(t+1),?_⟩
   rw[(htail _).1]
   have hgrows:∀k:ℕ,k<ticks (2*(k+1)):=by
    intro k
    unfold ticks
    omega
   exact (hgrows t).trans_le (Nat.le_add_left _ u.now)
end

section
def restartAfterTimeout:List Label:=
 boot 0 0++[.poll 0 [],.crash 0,.tick 600000001]++boot 1 600000001 ++
  [.poll 1 [],.prepare 1 true,.finalize 1]
def around (s:State)(as:List Label)(n:ℕ)(p:State→State→Bool):Bool:=
 (run step s (as.take n)).all fun x=>(run step s (as.take (n+1))).all fun y=>p x y

/-- An execution ended in the step with its row still running under the claim. -/
def lostIn (x y:State):Bool:=
 x.workers.entries.any fun entry=>
  match entry.2 with
  | .executing e=>(executionOf y entry.1).all (fun e'=>e'.claim≠e.claim)&&
    (y.jobs.get e.claim.id).any fun row=>row.status=.running&&row.attempts=e.claim.attempts
  | _=>false

variable {v:WorkerId}

lemma lostIn_eq_true {x y:State}{e:Execution}{row:JobRow}(he:x.workers.get v=some (.executing e))
 (hlast:∀e',y.workers.get v=some (.executing e')→e'.claim≠e.claim)
 (hrow:y.jobs.get e.claim.id=some row)(hrunning:row.status=.running)
 (hattempts:row.attempts=e.claim.attempts):lostIn x y:=by
 refine List.any_eq_true.mpr ⟨(v,.executing e),Dict.get_eq_some_iff.mp he,?_⟩
 simp only[hrow,any_some,hrunning,hattempts,decide_true,Bool.and_true]
 rw[Option.all_eq_true]
 intro e' he'
 exact decide_eq_true (hlast e' (executionOf_eq_some he'))
lemma claimsAt_of_take {r:InfiniteRun step}{s:State}{as:List Label}{i:ℕ}
 (htake:run step s (as.take (i+1))=some (r.states (i+1)))(hlabels:as[i]?=some (r.labels i))
 (hlabel:as[i]?=some (.poll v []))
 (hclaim:(run step s (as.take (i+1))).any (fun x=>
  (executionOf x v).any fun e=>e.claim.id=1)):ClaimsAt r i 1:=by
 rw[htake,any_some,any_eq_true] at hclaim
 obtain ⟨e,he,hid⟩:=hclaim
 exact ⟨v,[],e,Option.some.inj (hlabels.symm.trans hlabel),executionOf_eq_some he,
  of_decide_eq_true hid⟩
lemma claim_at_crash {x:State}{e:Execution}
 (h:run step (oneJob .deviceHealthRemediation) (restartAfterTimeout.take 12)=some x)
 (he:x.workers.get v=some (.executing e)):e.claim.kind∈staleKinds∧e.claim.claimedAt=0:=by
 have hall:(run step (oneJob .deviceHealthRemediation) (restartAfterTimeout.take 12)).all (fun x=>
   x.workers.entries.all fun entry=>match entry.2 with
    | .executing e=>decide (e.claim.kind∈staleKinds∧e.claim.claimedAt=0)
    | _=>true):=by decide
 rw[h,all_some,List.all_eq_true] at hall
 exact of_decide_eq_true (hall _ (Dict.get_eq_some_iff.mp he))

lemma restart_starts {r:InfiniteRun step}(htake:∀n≤restartAfterTimeout.length,
  run step (oneJob .deviceHealthRemediation) (restartAfterTimeout.take n)=some (r.states n))
 (hlabels:∀n<restartAfterTimeout.length,restartAfterTimeout[n]?=some (r.labels n)):Starts r 14 1:=by
 have hpolling:(run step (oneJob .deviceHealthRemediation) (restartAfterTimeout.take 25)).any
   (fun x=>decide (x.workers.get 1=some .polling)):=by decide
 have halive:∀i<26,14 < i→(run step (oneJob .deviceHealthRemediation)
   (restartAfterTimeout.take i)).any (fun x=>decide (x.workers.get 1≠none)):=by decide
 rw[htake 25 (by decide)] at hpolling
 refine ⟨Option.some.inj ((hlabels 14 (by decide)).symm.trans rfl),25,by decide,
  of_decide_eq_true hpolling,fun i hi hle=>?_⟩
 have hi':=halive i (by omega) hi
 rw[htake i (hle.trans (by decide))] at hi'
 exact of_decide_eq_true hi'

theorem restarted_job_claimed_again:
 ∃r:InfiniteRun step,(∀i<restartAfterTimeout.length,
   restartAfterTimeout[i]?=some (r.labels i))∧
  ∃m > 11,FinishedAt r m 1∨ClaimsAt r m 1:=by
 have hend:(run step (oneJob .deviceHealthRemediation) restartAfterTimeout).any
   (fun u=>decide (Idle u 1))=true:=by decide
 obtain ⟨u,hrun,hidle⟩:=(any_eq_true _ _).mp hend
 have hidle:=of_decide_eq_true hidle
 obtain ⟨r,hsurvives,hfence,htake,hlabels,hlate⟩:=exists_survived_run (by decide) hrun hidle
 have hzero:r.states 0=oneJob .deviceHealthRemediation:=
  (Option.some.inj (htake 0 (Nat.zero_le _))).symm
 refine ⟨r,hlabels,no_job_stranded (by rw[hzero];rfl) hsurvives hfence ?_
  (claimsAt_of_take (htake 12 (by decide)) (hlabels 11 (by decide)) rfl (by decide))⟩
 intro n v e row he hlast hrow hrunning hattempts
 have hlost:=lostIn_eq_true he hlast hrow hrunning hattempts
 by_cases hn:n<restartAfterTimeout.length
 · -- The step of the crash is the only one that loses an execution.
   have honly:∀n<restartAfterTimeout.length,n≠12→ around (oneJob .deviceHealthRemediation)
     restartAfterTimeout n (fun x y=>!lostIn x y)=true:=by decide
   have hcrash:n=12:=by
    by_contra hne
    have:=honly n hn hne
    rw[around,htake n hn.le,all_some,htake (n+1) hn,all_some,hlost] at this
    cases this
   subst hcrash
   obtain ⟨hkind,hclaimed⟩:=claim_at_crash (htake 12 (by decide)) he
   refine ⟨hkind,14,by decide,1,restart_starts htake hlabels,?_⟩
   have hnow:(run step (oneJob .deviceHealthRemediation) (restartAfterTimeout.take 14)).any
     (fun x=>decide (0+staleJobTimeout<x.now))=true:=by decide
   rw[htake 14 (by decide)] at hnow
   rw[hclaimed]
   exact of_decide_eq_true hnow
 · rw[(hlate n (not_lt.mp hn)).2] at he
   have hv:=hidle.alone _ (Dict.get_eq_some_iff.mp he)
   rw[show v=1 from hv,hidle.phase] at he
   cases he
end

section
lemma claims_attempts {r:InfiniteRun step}{n:ℕ}{id:JobId}(h:ClaimsAt r n id):
 ∃row,(r.states n).jobs.get id=some row∧
  (r.states (n+1)).jobs.get id=some (claimRow (r.states n).now row):=by
 obtain ⟨v,skipped,e,hlabel,he,rfl⟩:=h
 have hstep:=r.steps n
 rw[hlabel] at hstep
 rcases executing_step (r.steps n) he with ⟨old,hold,-⟩|⟨row,hrow,-,hrow',-⟩
 · rw[polling_of_poll hstep] at hold
   cases hold
 · exact ⟨row,hrow,hrow'⟩

/-- The first job is claimed, never finishes and is never claimed again, though one worker survives. -/
def Strands (s:State)(as:List Label):Prop:=
 ∃(r:InfiniteRun step)(w:WorkerId)(n:ℕ),r.states 0=s∧
  (∀i<as.length,as[i]?=some (r.labels i))∧Survives r w as.length∧
  (∀i,fenced (r.states i) (r.labels i))∧ClaimsAt r n 1∧
  ∀m > n,¬FinishedAt r m 1∧¬ClaimsAt r m 1

lemma strands_of_run {s:State}{as:List Label}(v w:WorkerId)(i:ℕ)
 (hstart:s.workers=Dict.empty)(hguard:Guarded (fun s a=>fenced s a) step s as)
 (hend:(run step s as).any (fun u=>decide (Idle u w)&&
  (u.jobs.get 1).any fun row=>row.status=.running&&row.attempts=1))
 (hlabel:as[i]?=some (.poll v []))
 (hclaim:(run step s (as.take (i+1))).any (fun x=>
  (executionOf x v).any fun e=>e.claim.id=1)):Strands s as:=by
 obtain ⟨u,hrun,hend⟩:=(any_eq_true _ _).mp hend
 simp only[Bool.and_eq_true,decide_eq_true_eq,any_eq_true] at hend
 obtain ⟨hidle,last,hlast,hrunning,hattempts⟩:=hend
 obtain ⟨r,hsurvives,hfence,htake,hlabels,hlate⟩:=exists_survived_run hguard hrun hidle
 have hi:i<as.length:=(List.getElem?_eq_some_iff.mp hlabel).1
 have hzero:r.states 0=s:=(Option.some.inj (htake 0 (Nat.zero_le _))).symm
 have hclaims:ClaimsAt r i 1:=
  claimsAt_of_take (htake (i+1) hi) (hlabels i hi) hlabel hclaim
 have hworkers:(r.states 0).workers=Dict.empty:=by rw[hzero,hstart]
 refine ⟨r,w,i,hzero,hlabels,hsurvives,hfence,hclaims,fun m hm=>⟨?_,?_⟩⟩
 · intro hfinished
   obtain ⟨row,hrow,hterminal⟩:=finished_at hworkers hfence (le_max_left m as.length) hfinished
   rw[(hlate _ (le_max_right m as.length)).1,hlast,Option.some.injEq] at hrow
   rw[←hrow,hrunning] at hterminal
   cases hterminal
 · -- A second claim would leave a second attempt.
   intro hagain
   obtain ⟨first,-,hfirst⟩:=claims_attempts hclaims
   obtain ⟨second,hsecond,hsecond'⟩:=claims_attempts hagain
   obtain ⟨row₁,hrow₁,hfollows₁⟩:=follows_at hworkers hfence (Nat.succ_le_of_lt hm) hfirst
   obtain ⟨row₂,hrow₂,hfollows₂⟩:=
    follows_at hworkers hfence (le_max_left (m+1) as.length) hsecond'
   rw[hsecond,Option.some.injEq] at hrow₁
   rw[(hlate _ (le_max_right (m+1) as.length)).1,hlast,Option.some.injEq] at hrow₂
   have h₁:=hfollows₁.attempts
   have h₂:=hfollows₂.attempts
   rw[←hrow₁] at h₁
   rw[←hrow₂,hattempts] at h₂
   simp only[claimRow] at h₁ h₂
   omega

/-- A worker claims the job and dies; the next one starts at once. -/
def crashBeforeRestart:List Label:=boot 0 0++[.poll 0 [],.crash 0]++boot 1 0

/-- The device of a remediation recovers after the action went out. -/
def recoveredMeanwhile:List Label:=
 boot 0 0++[.poll 0 [],.prepare 0 true,.setDevice 1 (some ⟨some true,none,false⟩),.finalize 0]

/-- Both jobs stay running for ever: the start came too early to find the first one stale, and nobody
starts any more to find the second. -/
theorem interrupted_jobs_stranded:
 Strands (oneJob .deviceVerification) crashBeforeRestart∧
  Strands (oneJob .deviceHealthRemediation) recoveredMeanwhile:=
 ⟨strands_of_run 0 1 11 rfl (by decide) (by decide) rfl (by decide),
  strands_of_run 0 0 11 rfl (by decide) (by decide) rfl (by decide)⟩
end
end GridFleet.JobQueue
