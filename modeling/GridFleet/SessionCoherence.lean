import GridFleet.SessionLifecycle
/-! A session row's status and end time agree, and a finished row stays finished, as long as no client
reports `pending`: the report of any status but `running` is taken for an end. -/
namespace GridFleet.SessionLifecycle
open Interleaving

def isTerminalStatus (status:SessionStatus):Bool:=
 status=.passed||status=.failed||status=.error
def Coherent (row:Session):Prop:=row.endedAt.isSome=isTerminalStatus row.status

instance (row:Session):Decidable (Coherent row):=
 inferInstanceAs (Decidable (row.endedAt.isSome=isTerminalStatus row.status))

/-- Reported statuses are terminal, or a `running` that the refresh after it discards, and so are the
statuses that other callers impose on a close. -/
def Operation.Orderly:Operation→Prop
 | .updateSessionStatus _ _ status flushed _ _=>
  isTerminalStatus status∨status=.running∧flushed=false
 | .closeRunningSessionLocked _ _ _ statusOverride _=>statusOverride.all isTerminalStatus
 | _=>True

instance:(op:Operation)→Decidable op.Orderly
 | .updateSessionStatus _ _ status flushed _ _=>
  inferInstanceAs (Decidable (isTerminalStatus status∨status=.running∧flushed=false))
 | .closeRunningSessionLocked _ _ _ statusOverride _=>
  inferInstanceAs (Decidable (statusOverride.all isTerminalStatus))
 | .gridClaim .. | .claimProbeSession .. | .promoteToRunning .. | .fail .. | .confirmProbeSession ..
 | .finalizeProbeSession .. | .terminalizeSessionWithoutDevice ..=>isTrue trivial

def OrderlyBegin (_:State):Label→Prop
 | .begin _ op=>op.Orderly
 | _=>True

instance (s:State):(label:Label)→Decidable (OrderlyBegin s label)
 | .begin _ op=>inferInstanceAs (Decidable op.Orderly)
 | .run _ | .commit _ | .abort _=>isTrue trivial

def StatementCoherent:Statement→Prop
 | .insert row=>Coherent row
 | .update _ guard set=>∀row,guard row→ Coherent row→ Coherent (set row)
 | _=>True

variable {status:SessionStatus}

lemma coherent_ended (row:Session)(h:isTerminalStatus status)(now:Instant):
 Coherent (ended row status now):=by
 simp[Coherent,ended,h]
lemma terminalStatus_terminal (runState:Option RunState):
 isTerminalStatus (terminalStatus runState):=by
 rcases runState with _|(_|_|_|_|_|_|_|_) <;> rfl
lemma mapProbeResultToStatus_terminal (result:ProbeResult):
 isTerminalStatus (mapProbeResultToStatus result):=by
 cases result <;> rfl
lemma coherent_promoted {row:Session}(hpending:row.status=.pending)(h:Coherent row)
 (sessionId:String):Coherent {row with sessionId:=sessionId,status:=.running}:=by
 have hopen:row.endedAt.isSome=false:=by
  rw[Coherent,hpending] at h
  exact h
 exact hopen
lemma coherent_reported (hterminal:isTerminalStatus status)(staleRead:Bool)(now:Instant)
 (row:Session):Coherent (reported status staleRead now row):=by
 unfold reported
 split
 · exact coherent_ended row hterminal now
 · rename_i hclosed
   have hended:row.endedAt.isSome:=by
    have hnotOpen:isOpen row=false:=by
     cases hopen:isOpen row with
     | false=>rfl
     | true=>simp[hopen] at hclosed
    simpa[isOpen] using hnotOpen
   simp[Coherent,hended,hterminal]
lemma mem_lockIfPresent {device:Option DeviceId}{statement:Statement}
 (h:statement∈lockIfPresent device):∃d,statement=.lockDevice d:=by
 cases device with
 | none=>cases h
 | some d=>exact ⟨d,List.mem_singleton.mp h⟩

lemma coherent_updateSessionStatus (id:RowId)(device:Option DeviceId)(flushed staleRead:Bool)
 (now:Instant)(h:isTerminalStatus status∨status=.running∧flushed=false):
 ∀statement∈updateSessionStatus id device status flushed staleRead now,
  StatementCoherent statement:=by
 have hreported:isTerminalStatus status→∀stale,
   StatementCoherent (.update id (fun _=>true) (reported status stale now)):=
  fun hterminal stale row _ _=>coherent_reported hterminal stale now row
 intro statement hmem
 rcases h with hterminal|⟨rfl,rfl⟩
 · have hcases:statement=.update id (fun _=>true) (reported status staleRead now)∨
     (∃d,statement=.lockDevice d)∨
     statement=.update id (fun _=>true) (reported status false now):=by
    cases status with
    | running | pending=>cases hterminal
    | passed | failed | error=>
     cases device with
     | none=>exact .inl (List.mem_singleton.mp hmem)
     | some d=>
      simp only[updateSessionStatus,List.mem_cons,List.not_mem_nil,or_false] at hmem
      rcases hmem with rfl|rfl|rfl
      · exact .inr (.inl ⟨d,rfl⟩)
      · exact .inr (.inl ⟨d,rfl⟩)
      · exact .inr (.inr rfl)
   rcases hcases with rfl|⟨d,rfl⟩|rfl
   · exact hreported hterminal staleRead
   · exact trivial
   · exact hreported hterminal false
 · cases hmem

lemma program_coherent {op:Operation}(h:op.Orderly):
 ∀statement∈op.program,StatementCoherent statement:=by
 have hlocked:∀device update,StatementCoherent update→
   ∀statement∈lockIfPresent device++[update],StatementCoherent statement:=by
  intro device update hupdate statement hmem
  rcases List.mem_append.mp hmem with hlock|hlast
  · obtain ⟨d,rfl⟩:=mem_lockIfPresent hlock
    exact trivial
  · rw[List.mem_singleton.mp hlast]
    exact hupdate
 cases op with
 | gridClaim=>
  intro statement hmem
  simp only[Operation.program,SessionLifecycle.gridClaim,List.mem_cons,List.not_mem_nil,
   or_false] at hmem
  rcases hmem with rfl|rfl|rfl
  · exact trivial
  · exact trivial
  · exact rfl
 | claimProbeSession=>
  intro statement hmem
  simp only[Operation.program,SessionLifecycle.claimProbeSession,List.mem_cons,List.not_mem_nil,
   or_false] at hmem
  rcases hmem with rfl|rfl|rfl
  · exact trivial
  · exact trivial
  · exact rfl
 | promoteToRunning _ _ appiumSessionId=>
  apply hlocked
  intro row hguard hrow
  exact coherent_promoted (by simpa using hguard) hrow appiumSessionId
 | fail _ _ now=>
  apply hlocked
  intro row _ _
  exact coherent_ended row rfl now
 | confirmProbeSession _ appiumSessionId=>
  intro statement hmem
  rw[List.mem_singleton.mp hmem]
  intro row hguard hrow
  exact coherent_promoted (by simpa using (Bool.and_eq_true_iff.mp hguard).1) hrow appiumSessionId
 | finalizeProbeSession _ result now=>
  intro statement hmem
  rw[List.mem_singleton.mp hmem]
  intro row _ _
  exact coherent_ended row (mapProbeResultToStatus_terminal result) now
 | closeRunningSessionLocked device _ runState statusOverride now=>
  have hterminal:isTerminalStatus (statusOverride.getD (terminalStatus runState)):=by
   cases statusOverride with
   | none=>exact terminalStatus_terminal runState
   | some=>exact h
  apply hlocked (some device)
  intro row _ _
  exact coherent_ended row hterminal now
 | terminalizeSessionWithoutDevice _ runState now=>
  intro statement hmem
  simp only[Operation.program,SessionLifecycle.terminalizeSessionWithoutDevice,List.mem_cons,
   List.not_mem_nil,or_false] at hmem
  rcases hmem with rfl|rfl
  · exact trivial
  · intro row _ _
    exact coherent_ended row (terminalStatus_terminal runState) now
 | updateSessionStatus id device _ flushed staleRead now=>
  exact coherent_updateSessionStatus id device flushed staleRead now h

lemma exec_cases {s s':State}{tx:TxId}{x:Tx}{statement:Statement}{rest:List Statement}
 (h:exec s tx x statement rest=some s'):
 s'={s with txs:=s.txs.pop tx}∨∃x',s'={s with txs:=s.txs.set tx x'}∧
  (∀other∈x'.program,other∈rest)∧∀w,x'.write=some w→x.write=some w∨
   (∃row,statement=.insert row∧w.row=row)∨
   ∃id guard set row,statement=.update id guard set∧row∈s.rows∧guard row∧w.row=set row:=by
 cases statement with rw[exec] at h
 | lockDevice=>
  split at h
  · cases h
    exact .inr ⟨_,rfl,fun _ hmem=>hmem,fun _ hw=>.inl hw⟩
  · cases h
 | noLiveSession=>
  split at h
  · cases h
    exact .inl rfl
  · cases h
    exact .inr ⟨_,rfl,fun _ hmem=>hmem,fun _ hw=>.inl hw⟩
 | insert row=>
  split at h
  · cases h
    refine .inr ⟨_,rfl,fun _ hmem=>hmem,fun w hw=>.inr (.inl ⟨row,rfl,?_⟩)⟩
    cases hw
    rfl
  · cases h
 | unlessEnded=>
  split at h
  · cases h
    exact .inr ⟨_,rfl,fun _ hmem=>hmem,fun _ hw=>.inl hw⟩
  · cases h
    exact .inr ⟨_,rfl,fun _ hmem=>(by cases hmem),fun _ hw=>.inl hw⟩
 | update id guard set=>
  split at h
  · split at h
    · rename_i row hrow
      split at h
      · rename_i hguard
        cases h
        refine .inr ⟨_,rfl,fun _ hmem=>hmem,fun w hw=>.inr (.inr ?_)⟩
        cases hw
        exact ⟨id,guard,set,row,rfl,List.mem_of_find?_eq_some hrow,hguard,rfl⟩
      · cases h
        exact .inr ⟨_,rfl,fun _ hmem=>hmem,fun _ hw=>.inl hw⟩
    · cases h
      exact .inr ⟨_,rfl,fun _ hmem=>hmem,fun _ hw=>.inl hw⟩
  · cases h

structure TxCoherent (x:Tx):Prop where
 program:∀statement∈x.program,StatementCoherent statement
 write:∀w,x.write=some w→ Coherent w.row

structure AllCoherent (s:State):Prop where
 rows:∀row∈s.rows,Coherent row
 txs:∀tx x,s.txs.get tx=some x→TxCoherent x

section
variable {s s':State}

variable {tx:TxId}{x:Tx}

section
variable (h:AllCoherent s)
include h

lemma AllCoherent.set (hx:TxCoherent x):AllCoherent {s with txs:=s.txs.set tx x}:=
 ⟨h.rows,Dict.forall_get_set hx h.txs⟩
lemma AllCoherent.pop:AllCoherent {s with txs:=s.txs.pop tx}:=
 ⟨h.rows,fun tx' y hy=>h.txs tx' y (Dict.get_pop_eq_some hy).2⟩
lemma AllCoherent.exec {statement:Statement}{rest:List Statement}
 (hx:s.txs.get tx=some x)(hprogram:x.program=statement::rest)
 (hexec:exec s tx x statement rest=some s'):AllCoherent s':=by
 have hok:=h.txs tx x hx
 have hstatement:StatementCoherent statement:=by
  apply hok.program
  rw[hprogram]
  exact List.mem_cons_self
 rcases exec_cases hexec with rfl|⟨x',rfl,hrest,hwrite⟩
 · exact h.pop
 · refine h.set ⟨?_,?_⟩
   · intro other hmem
     apply hok.program
     rw[hprogram]
     exact List.mem_cons_of_mem _ (hrest other hmem)
   · intro w hw
     rcases hwrite w hw with hold|⟨row,rfl,hrow⟩|⟨id,guard,set,row,rfl,hmem,hguard,hrow⟩
     · exact hok.write w hold
     · rw[hrow]
       exact hstatement
     · rw[hrow]
       exact hstatement row hguard (h.rows row hmem)
lemma AllCoherent.publish (hinv:Inv s){w:Write}(hx:s.txs.get tx=some x)
 (hw:x.write=some w):∀row∈publish s.rows w,Coherent row:=by
 intro row hmem
 rcases mem_publish ((hinv.txs tx x hx).write w hw) hmem with ⟨hold,-⟩|rfl
 · exact h.rows row hold
 · exact (h.txs tx x hx).write w hw
end

lemma allCoherent_step {label:Label}(hinv:Inv s)(h:AllCoherent s)(hguard:OrderlyBegin s label)
 (hstep:step s label=some s'):AllCoherent s':=by
 cases label with
 | begin=>
  rw[step] at hstep
  split at hstep
  · cases hstep
    exact h.set ⟨program_coherent hguard,fun w hw=>by cases hw⟩
  · cases hstep
 | run tx=>
  obtain ⟨x,hx,hrun⟩:=Option.bind_eq_some_iff.mp hstep
  split at hrun
  · rename_i hprogram
    exact h.exec hx hprogram hrun
  · cases hrun
 | commit=>
  obtain ⟨x,hx,hcommit⟩:=Option.bind_eq_some_iff.mp hstep
  split at hcommit
  · cases hcommit
    cases hw:x.write with
    | none=>exact h.pop
    | some=>exact ⟨h.publish hinv hx hw,h.pop.txs⟩
  · cases hcommit
 | abort=>
  rw[step] at hstep
  split at hstep
  · cases hstep
  · cases hstep
    exact h.pop

lemma allCoherent_run (hinv:Inv s)(h:AllCoherent s){labels:List Label}
 (hguard:Interleaving.Guarded OrderlyBegin step s labels)
 (hrun:run step s labels=some s'):Inv s'∧AllCoherent s':=
 run_invariant_guarded (fun u=>Inv u∧AllCoherent u)
  (fun _ _ _ hu hlabel hstep=>⟨inv_step hu.1 hstep,allCoherent_step hu.1 hu.2 hlabel hstep⟩)
  ⟨hinv,h⟩ hguard hrun
end

theorem sessions_coherent_of_orderly (rows:List Session) (hrows:RowsOk rows)
 (hcoherent:∀row∈rows,Coherent row) (labels:List Label)
 (hguard:Interleaving.Guarded OrderlyBegin step ⟨rows,.empty⟩ labels) (s:State)
 (hrun:run step ⟨rows,.empty⟩ labels=some s):
 (∀row∈s.rows,Coherent row)∧
  ∀row∈s.rows,isTerminalStatus row.status=true→∀more s',
   Interleaving.Guarded OrderlyBegin step s more→ run step s more=some s'→
   ∀row'∈s'.rows,row'.id=row.id→ isTerminalStatus row'.status=true:=by
 have hstart:AllCoherent ⟨rows,.empty⟩:=⟨hcoherent,fun tx x hx=>by cases hx⟩
 obtain ⟨hinv,hall⟩:=allCoherent_run hrows.inv hstart hguard hrun
 refine ⟨hall.rows,?_⟩
 intro row hmem hterminal more s' hmore hrun' row' hmem' hid
 obtain ⟨hinv',hall'⟩:=allCoherent_run hinv hall hmore hrun'
 have hclosed:isOpen row=false:=by
  have hended:row.endedAt.isSome=true:=(hall.rows row hmem).trans hterminal
  simpa[isOpen] using hended
 -- the end time stays, and in the later state it comes with a terminal status
 obtain ⟨row₁,hmem₁,hid₁,hclosed₁⟩:=ended_run hinv hrun' ⟨row,hmem,rfl,hclosed⟩
 have heq:row'=row₁:=List.inj_on_of_nodup_map hinv'.rows.ids hmem' hmem₁ (hid.trans hid₁.symm)
 have hended₁:row'.endedAt.isSome=true:=by
  rw[heq]
  simpa[isOpen] using hclosed₁
 exact (hall'.rows row' hmem').symm.trans hended₁

def claimedAndPassed:List Label:=
 [.begin 1 (.gridClaim 7 100 "alloc-1" none 51 none),.run 1,.run 1,.run 1,.commit 1,
  .begin 2 (.promoteToRunning 100 (some 7) "appium-1"),.run 2,.run 2,.commit 2,
  .begin 3 (.updateSessionStatus 100 (some 7) .passed false false 30),.run 3,.run 3,.run 3,.commit 3]
def passed:State:=(run step ⟨[],.empty⟩ claimedAndPassed).getD ⟨[],.empty⟩

theorem sessions_coherent_of_orderly_passed:
 passed.rows=[⟨100, "appium-1",some 7,none,.passed,some 30,some 51,none⟩]∧
  ∀row∈passed.rows,Coherent row:=by
 have hrun:run step ⟨[],.empty⟩ claimedAndPassed=some passed:=rfl
 have hguard:Interleaving.Guarded OrderlyBegin step ⟨[],.empty⟩ claimedAndPassed:=by decide
 refine ⟨rfl,?_⟩
 exact (sessions_coherent_of_orderly [] ⟨List.nodup_nil,by simp,by simp⟩ (by simp) claimedAndPassed
  hguard passed hrun).1

def pendingReport:List Label:=
 [.begin 4 (.updateSessionStatus 100 (some 7) .pending false false 40),.run 4,.run 4,.run 4,.commit 4]
def latePromotion:List Label:=
 [.begin 5 (.promoteToRunning 100 (some 7) "appium-2"),.run 5,.run 5,.commit 5]

/-- A report of `pending` for a session that has passed lets a promotion make it running again. -/
theorem pending_report_reopens_status:
 (run step ⟨[],.empty⟩ (claimedAndPassed++pendingReport)).map State.rows =
   some [⟨100, "appium-1",some 7,none,.pending,some 30,some 51,none⟩]∧
  (run step ⟨[],.empty⟩ (claimedAndPassed++pendingReport++latePromotion)).map
   State.rows=some [⟨100, "appium-2",some 7,none,.running,some 30,some 51,none⟩]∧
  passed.rows=[⟨100, "appium-1",some 7,none,.passed,some 30,some 51,none⟩]∧
  ¬Coherent ⟨100, "appium-1",some 7,none,.pending,some 30,some 51,none⟩:=
 ⟨rfl,rfl,rfl,by decide⟩
end GridFleet.SessionLifecycle
