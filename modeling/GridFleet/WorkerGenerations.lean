import GridFleet.Dict
import GridFleet.Interleaving
/-! All processes of a handle share one alive flag and one table of pending calls, and the reader of a
process that was taken down goes on until the end of its stdout, which a child can keep open. A step is
what one task does between two of its awaits. -/
namespace GridFleet.WorkerGenerations
open Interleaving List Option

abbrev Generation:=ℕ
abbrev RequestId:=ℕ

/-- Why a process is stopped, with the process that the event belongs to. -/
inductive Cause where
 | endOfFile (of:Generation)
 | malformedOutput (of:Generation)
 | brokenPipe (of:Generation)
 | timeout (of:Generation)
 | shutdown

def Cause.Concerns (generation:Generation):Cause→Prop
 | endOfFile of | malformedOutput of | brokenPipe of | timeout of=>of=generation
 | shutdown=>True

structure State where
 process:Option Generation
 alive:Bool
 shuttingDown:Bool
 nextId:RequestId
 nextGeneration:Generation
 /-- The calls without an answer, each with the process it was written to. -/
 pending:Dict RequestId Generation
 /-- The calls whose write has not drained. -/
 draining:Dict RequestId Generation
 /-- What each process has been sent. -/
 received:List (Generation×RequestId)
 readers:List Generation
 exited:List Generation
 /-- The failure handlers that wait for a process to end. -/
 stopping:ℕ
 restarting:Bool
 handshaking:Bool
 /-- The calls that have returned, with the process each was written to and the one that answered. -/
 returned:List (RequestId×Generation×Generation)
 /-- The processes that were stopped after their handshake. -/
 stops:List (Generation×Cause)

/-- The first process is spawned like a restarted one, by the start of the handle. -/
def init:State:=
 ⟨none,false,false,1,0,.empty,.empty,[],[],[],0,true,false,[],[]⟩

inductive Label where
 | call
 | drained (id:RequestId)
 | respond (generation:Generation)(id:RequestId)
 | timeout (id:RequestId)
 | brokenPipe (id:RequestId)
 | exit (generation:Generation)
 | endOfFile (generation:Generation)
 | malformedOutput (generation:Generation)
 | stopReturns
 | spawn
 | handshake (ok:Bool)
 | giveUp
 | shutdown
 | shutdownStops

/-- The pending calls fail and the process of the handle is stopped, whichever that is. -/
def takeDown (s:State)(cause:Cause):State:=
 { s with
   alive:=false
   pending:=.empty
   process:=none
   stopping:=s.stopping+1
   stops:=s.process.toList.map (·,cause)++s.stops }

def handleFailure (s:State)(cause:Cause):State:=
 if s.shuttingDown||!s.alive then s else takeDown s cause
def killForTimeout (s:State)(cause:Cause):State:=if s.alive then takeDown s cause else s

def step (s:State):Label→Option State
 | .call=>
  if s.alive then
   s.process.map fun generation=>
    { s with
      nextId:=s.nextId+1
      pending:=s.pending.set s.nextId generation
      draining:=s.draining.set s.nextId generation
      received:=(generation,s.nextId)::s.received }
  else none
 | .drained id=>some {s with draining:=s.draining.pop id}
 | .respond generation id=>
  if generation∈s.readers∧(generation,id)∈s.received then
   match s.pending.get id with
   | none=>some s
   | some sentTo=>some
    {s with pending:=s.pending.pop id,returned:=(id,sentTo,generation)::s.returned}
  else none
 | .timeout id=>
  (s.pending.get id).map fun sentTo=>
   killForTimeout {s with pending:=s.pending.pop id} (.timeout sentTo)
 | .brokenPipe id=>
  (s.draining.get id).map fun sentTo=>
   handleFailure {s with pending:=s.pending.pop id,draining:=s.draining.pop id}
    (.brokenPipe sentTo)
 | .exit generation=>
  if generation<s.nextGeneration then some {s with exited:=generation::s.exited} else none
 | .endOfFile generation=>
  if generation∈s.readers∧generation∈s.exited then
   some (handleFailure {s with readers:=s.readers.filter (· ≠ generation)} (.endOfFile generation))
  else none
 | .malformedOutput generation=>
  if generation∈s.readers then
   some (handleFailure {s with readers:=s.readers.filter (· ≠ generation)}
    (.malformedOutput generation))
  else none
 | .stopReturns=>
  if 0<s.stopping then
   some {s with stopping:=s.stopping-1,restarting:=s.restarting||!s.shuttingDown}
  else none
 | .spawn=>
  if s.restarting∧s.handshaking=false∧(s.shuttingDown=false∨s.nextGeneration=0) then
   some { s with
    process:=some s.nextGeneration
    nextGeneration:=s.nextGeneration+1
    handshaking:=true }
  else none
 | .handshake ok=>
  if s.handshaking then
   if ok then
    some { s with
     alive:=true
     readers:=(s.nextGeneration-1)::s.readers
     handshaking:=false
     restarting:=false }
   else some {s with process:=none,handshaking:=false}
  else none
 | .giveUp=>
  if s.handshaking=false then some {s with restarting:=false} else none
 | .shutdown=>
  -- cancels the restart task; the first start is not its task
  let first:=decide (s.nextGeneration≤1)
  some { s with
   shuttingDown:=true
   restarting:=s.restarting&&first
   handshaking:=s.handshaking&&first }
 | .shutdownStops=>
  if s.shuttingDown then
   some { s with
    alive:=false
    pending:=.empty
    process:=none
    stops:=s.process.toList.map (·,.shutdown)++s.stops }
  else none

structure Inv (s:State):Prop where
 /-- The handle is alive, waits for its process to end or is restarting. -/
 phase:s.alive.toNat+s.stopping+s.restarting.toNat≤1
 handshaking:s.handshaking→s.restarting
 pending:∀id sentTo,s.pending.get id=some sentTo→
  s.alive∧s.process=some sentTo∧(sentTo,id)∈s.received
 ids:∀generation id,(generation,id)∈s.received→id<s.nextId∧
  ∀other,(other,id)∈s.received→ other=generation
 returned:∀id sentTo answered,(id,sentTo,answered)∈s.returned→sentTo=answered
 stops:∀generation cause,(generation,cause)∈s.stops→cause.Concerns generation

/-- An end of file, malformed output or a broken pipe of a process arrives before a later process of
the handle has completed its handshake. -/
def Timely (s:State):Label→Prop
 | .endOfFile generation | .malformedOutput generation=>s.alive→s.process.all (· = generation)
 | .brokenPipe id=>s.alive→s.draining.get id=s.process
 | .call | .drained _ | .respond _ _ | .timeout _ | .exit _ | .stopReturns | .spawn | .handshake _
 | .giveUp | .shutdown | .shutdownStops=>True

section
variable {s u:State}

lemma Inv.popPending (h:Inv s)(id:RequestId):Inv {s with pending:=s.pending.pop id}:=
 {h with pending:=fun other sentTo hget=>h.pending other sentTo (Dict.get_pop_eq_some hget).2}
lemma Inv.stopsProcess {cause:Cause}(h:Inv s)
 (hcause:∀generation,s.process=some generation→cause.Concerns generation):
 ∀generation other,(generation,other)∈s.process.toList.map (·,cause)++s.stops→
  other.Concerns generation:=by
 intro generation other hmem
 rcases mem_append.mp hmem with hnew|hold
 · obtain ⟨stopped,hstopped,heq⟩:=List.mem_map.mp hnew
   cases heq
   exact hcause generation (mem_toList.mp hstopped)
 · exact h.stops generation other hold
lemma Inv.takeDown {cause:Cause}(h:Inv s)(halive:s.alive)
 (hcause:∀generation,s.process=some generation→cause.Concerns generation):Inv (takeDown s cause):=
 { h with
   phase:=by
    have hphase:=h.phase
    simp only[halive,Bool.toNat_true,WorkerGenerations.takeDown,Bool.toNat_false] at hphase ⊢
    omega
   pending:=fun _ _ hget=>by cases hget
   stops:=h.stopsProcess hcause }
lemma Inv.handleFailure {cause:Cause}(h:Inv s)(hcause:s.alive→
  ∀generation,s.process=some generation→cause.Concerns generation):Inv (handleFailure s cause):=by
 unfold WorkerGenerations.handleFailure
 split
 · exact h
 · rename_i hfails
   simp only[Bool.or_eq_true,Bool.not_eq_true',not_or,Bool.not_eq_true,Bool.not_eq_false] at hfails
   exact h.takeDown hfails.2 (hcause hfails.2)

lemma inv_step {label:Label}(h:Inv s)(hguard:Timely s label)(hstep:step s label=some u):Inv u:=by
 cases label with
 | call=>
  obtain ⟨halive,hstep⟩:=ite_none_right_eq_some.mp hstep
  obtain ⟨generation,hprocess,rfl⟩:=map_eq_some_iff.mp hstep
  have hnew:∀other,(other,s.nextId) ∉ s.received:=
   fun other hmem=>Nat.lt_irrefl _ (h.ids other _ hmem).1
  refine {h with pending:=fun id sentTo hget=>?_,ids:=fun first id hmem=>?_}
  · rcases Dict.get_set_eq_some hget with ⟨rfl,rfl⟩|⟨-,hold⟩
    · exact ⟨halive,hprocess,mem_cons_self⟩
    · obtain ⟨_,hsame,hmem⟩:=h.pending id sentTo hold
      exact ⟨halive,hsame,mem_cons_of_mem _ hmem⟩
  · rcases mem_cons.mp hmem with heq|hold
    · cases heq
      refine ⟨Nat.lt_succ_self _,fun other hother=>?_⟩
      rcases mem_cons.mp hother with heq|hold
      · cases heq
        rfl
      · exact absurd hold (hnew other)
    · obtain ⟨hlt,hunique⟩:=h.ids first id hold
      refine ⟨Nat.lt_succ_of_lt hlt,fun other hother=>?_⟩
      rcases mem_cons.mp hother with heq|hother
      · cases heq
        exact absurd hold (hnew first)
      · exact hunique other hother
 | drained id=>
  cases hstep
  exact {h with}
 | respond generation id=>
  obtain ⟨⟨-,hmem⟩,hstep⟩:=ite_none_right_eq_some.mp hstep
  split at hstep <;> cases hstep
  · exact h
  · rename_i sentTo hget
    refine {h.popPending id with returned:=fun other target answered hreturned=>?_}
    rcases mem_cons.mp hreturned with heq|hold
    · cases heq
      exact (h.ids generation id hmem).2 sentTo (h.pending id sentTo hget).2.2
    · exact h.returned other target answered hold
 | timeout id=>
  obtain ⟨sentTo,hget,rfl⟩:=map_eq_some_iff.mp hstep
  obtain ⟨halive,hprocess,-⟩:=h.pending id sentTo hget
  rw[killForTimeout,if_pos halive]
  refine (h.popPending id).takeDown halive fun generation hgeneration=>?_
  exact some.inj (hprocess.symm.trans hgeneration)
 | brokenPipe id=>
  obtain ⟨sentTo,hget,rfl⟩:=map_eq_some_iff.mp hstep
  refine Inv.handleFailure {h.popPending id with} fun halive generation hgeneration=>?_
  exact some.inj (hget.symm.trans ((hguard halive).trans hgeneration))
 | exit generation=>
  obtain ⟨-,⟨⟩⟩:=ite_none_right_eq_some.mp hstep
  exact {h with}
 | endOfFile generation | malformedOutput generation=>
  obtain ⟨-,⟨⟩⟩:=ite_none_right_eq_some.mp hstep
  refine Inv.handleFailure {h with} fun halive current hcurrent=>?_
  have hsame:=hguard halive
  rw[hcurrent,all_some,decide_eq_true_eq] at hsame
  exact hsame.symm
 | stopReturns=>
  obtain ⟨hstopping,⟨⟩⟩:=ite_none_right_eq_some.mp hstep
  have hphase:=h.phase
  refine {h with phase:=?_,handshaking:=fun hs=>by simp[h.handshaking hs]}
  cases halive:s.alive <;> cases hrestarting:s.restarting <;> cases s.shuttingDown <;>
   simp[halive,hrestarting] at hphase ⊢ <;> omega
 | spawn=>
  obtain ⟨⟨hrestarting,-,-⟩,⟨⟩⟩:=ite_none_right_eq_some.mp hstep
  have hphase:=h.phase
  refine {h with handshaking:=fun _=>hrestarting,pending:=fun id sentTo hget=>?_}
  simp[(h.pending id sentTo hget).1,hrestarting] at hphase
 | handshake ok=>
  obtain ⟨hhandshaking,hstep⟩:=ite_none_right_eq_some.mp hstep
  have hrestarting:=h.handshaking hhandshaking
  have hphase:=h.phase
  have hdown:∀id sentTo,s.pending.get id≠some sentTo:=by
   intro id sentTo hget
   simp[(h.pending id sentTo hget).1,hrestarting] at hphase
  split at hstep <;> cases hstep
  · refine { h with
     phase:=?_
     handshaking:=fun hs=>(by cases hs)
     pending:=fun id sentTo hget=>absurd hget (hdown id sentTo) }
    simp[hrestarting] at hphase ⊢
    omega
  · exact { h with
     handshaking:=fun hs=>(by cases hs)
     pending:=fun id sentTo hget=>absurd hget (hdown id sentTo) }
 | giveUp=>
  obtain ⟨hidle,⟨⟩⟩:=ite_none_right_eq_some.mp hstep
  have hphase:=h.phase
  refine {h with phase:=?_,handshaking:=fun hs=>by cases hidle.symm.trans hs}
  simp only[Bool.toNat_false]
  omega
 | shutdown=>
  cases hstep
  have hphase:=h.phase
  refine {h with phase:=?_,handshaking:=fun hs=>?_}
  · have hfirst:=(decide (s.nextGeneration≤1)).toNat_le
    rcases Bool.eq_false_or_eq_true s.restarting with hs|hs <;>
     simp only[hs,Bool.true_and,Bool.false_and,Bool.toNat_true,Bool.toNat_false] at hphase ⊢ <;> omega
  · simp only[Bool.and_eq_true] at hs ⊢
    exact ⟨h.handshaking hs.1,hs.2⟩
 | shutdownStops=>
  obtain ⟨-,⟨⟩⟩:=ite_none_right_eq_some.mp hstep
  have hphase:=h.phase
  refine { h with
   phase:=?_
   pending:=fun _ _ hget=>(by cases hget)
   stops:=h.stopsProcess fun _ _=>trivial }
  simp only[Bool.toNat_false]
  omega
end

lemma inv_init:Inv init where
 phase:=by decide
 handshaking:=fun h=>by cases h
 pending:=fun _ _ h=>by cases h
 ids:=fun _ _ h=>by cases h
 returned:=fun _ _ _ h=>by cases h
 stops:=fun _ _ h=>by cases h

/-- A call returns what the process it was written to has answered; a call is pending only while its
process is the one of the handle, and no longer once the end of its output is read or the handle is shut
down; and a process is stopped for a reason of its own. -/
theorem generations_isolated (labels:List Label) (s:State)
 (hrun:run step init labels=some s) (hguard:Guarded Timely step init labels):
 (∀id sentTo answered,(id,sentTo,answered)∈s.returned→ sentTo=answered)∧
 (∀id sentTo,s.pending.get id=some sentTo→ s.alive=true∧s.process=some sentTo∧
  ∀u,s.shuttingDown=false∧step s (.endOfFile sentTo)=some u∨step s .shutdownStops=some u→
   u.pending.get id=none)∧
 ∀generation cause,(generation,cause)∈s.stops→ cause.Concerns generation:=by
 have hinv:Inv s:=
  run_invariant_guarded Inv (fun _ _ _ h hg hs=>inv_step h hg hs) inv_init hguard hrun
 refine ⟨hinv.returned,fun id sentTo hget=>?_,hinv.stops⟩
 obtain ⟨halive,hprocess,-⟩:=hinv.pending id sentTo hget
 refine ⟨halive,hprocess,fun u hends=>?_⟩
 rcases hends with ⟨hup,hend⟩|hshut
 · obtain ⟨-,⟨⟩⟩:=ite_none_right_eq_some.mp hend
   simp[handleFailure,hup,halive,takeDown]
 · obtain ⟨-,⟨⟩⟩:=ite_none_right_eq_some.mp hshut
   rfl

instance (s:State)(label:Label):Decidable (Timely s label):=by
 cases label <;> unfold Timely <;> infer_instance

/-- A call times out and its process is killed and replaced. -/
def replaced:List Label:=
 [.spawn,.handshake true,.call,.drained 1,.timeout 1,.exit 0,.stopReturns,.spawn,.handshake true]

def eofInTime:List Label:=
 [.spawn,.handshake true,.call,.drained 1,.timeout 1,.exit 0,.endOfFile 0,.stopReturns,.spawn,
  .handshake true,.call,.respond 1 2]

theorem replaced_worker_answers:∃s,run step init eofInTime=some s∧s.returned=[(2,1,1)]∧
 ∀generation cause,(generation,cause)∈s.stops→ cause.Concerns generation:=by
 have hguard:Guarded Timely step init eofInTime:=by decide
 exact ⟨_,rfl,rfl,(generations_isolated eofInTime _ rfl hguard).2.2⟩

/-- A child of the killed process closes its stdout only now: the reader of process 0 takes process 1
down. -/
theorem stale_eof_stops_successor:∃s,run step init (replaced++[.endOfFile 0])=some s∧
 (1,Cause.endOfFile 0)∈s.stops:=
 ⟨_,rfl,mem_cons_self⟩
end GridFleet.WorkerGenerations
