import GridFleet.Dict
import GridFleet.Interleaving
/-! The requests of one host; the success that its re-registration records is left out. -/
namespace GridFleet.CircuitBreaker
open Interleaving Dict Option

inductive Status where
 | closed
 | «open»
 | halfOpen
 deriving DecidableEq

structure CircuitState where
 status:Status
 consecutiveFailures:ℕ
 openedUntil:Option ℕ
 probeInFlight:Bool

def failureThreshold:ℕ:=5
def cooldownSeconds:ℕ:=30

/-- The second component is the delay a refused caller is told. -/
def beforeRequest (c:CircuitState)(now:ℕ):CircuitState×Option ℕ:=
 match c.status with
 | .open=>
  match c.openedUntil with
  | some u=>
   if u≤now then ({c with status:=.halfOpen,probeInFlight:=true},none) else (c,some (u-now))
  | none=>(c,some 0)
 | .halfOpen=>if c.probeInFlight then (c,some 0) else ({c with probeInFlight:=true},none)
 | .closed=>(c,none)

def recordSuccess:CircuitState:=⟨.closed,0,none,false⟩

def recordFailure (threshold cooldown:ℕ)(c:CircuitState)(now:ℕ):CircuitState:=
 match c.status with
 | .halfOpen=>⟨.open,threshold,some (now+cooldown),false⟩
 | .open=>{c with openedUntil:=some (now+cooldown),probeInFlight:=false}
 | .closed=>
  let failures:=c.consecutiveFailures+1
  if threshold≤failures then ⟨.open,failures,some (now+cooldown),false⟩
  else {c with consecutiveFailures:=failures}

abbrev RequestId:=ℕ

/-- The requests in flight are those whose outcome is still to be recorded; each is marked with
whether it was admitted half-open. -/
structure State where
 now:ℕ
 circuit:CircuitState
 inFlight:Dict RequestId Bool
 lastFailure:Option ℕ

def init:State:=⟨0,⟨.closed,0,none,false⟩,.empty,none⟩

inductive Label where
 | tick (seconds:ℕ)
 | begin (r:RequestId)
 | succeeds (r:RequestId)
 /-- A 5xx answer or an error of the transport. -/
 | fails (r:RequestId)
 /-- Cancellation, or an exception that the client does not catch. -/
 | leaves (r:RequestId)

def State.answered (s:State)(r:RequestId)(answer:CircuitState×Option ℕ):State:=
 { s with
  circuit:=answer.1
  inFlight:=if answer.2=none then s.inFlight.set r (answer.1.status=.halfOpen) else s.inFlight }

def step (threshold cooldown:ℕ)(s:State):Label→Option State
 | .tick seconds=>some {s with now:=s.now+seconds}
 | .begin r=>
  if s.inFlight.get r=none then some (s.answered r (beforeRequest s.circuit s.now)) else none
 | .succeeds r=>do
  let _ ←s.inFlight.get r
  return {s with circuit:=recordSuccess,inFlight:=s.inFlight.pop r}
 | .fails r=>do
  let _ ←s.inFlight.get r
  return { s with
   circuit:=recordFailure threshold cooldown s.circuit s.now
   inFlight:=s.inFlight.pop r
   lastFailure:=some s.now }
 | .leaves r=>do
  let _ ←s.inFlight.get r
  return {s with inFlight:=s.inFlight.pop r}

def probesReport (s:State):Label→Prop
 | .leaves r=>s.inFlight.get r≠some true
 | _=>True
def outcome:Label→Option RequestId
 | .succeeds r | .fails r=>some r
 | _=>none

/-- Where an outcome is recorded, no other request admitted half-open is in flight. -/
def outcomesApart (s:State)(label:Label):Prop:=
 ∀r∈outcome label,∀r'∈s.inFlight.keys,s.inFlight.get r'=some true→ r'=r

instance (s:State):DecidablePred (probesReport s)
 | .leaves r=>inferInstanceAs (Decidable (s.inFlight.get r≠some true))
 | .tick _ | .begin _ | .succeeds _ | .fails _=>isTrue trivial

instance (s:State):DecidablePred (outcomesApart s):=fun label=>
 inferInstanceAs (Decidable (∀r∈outcome label,_))

variable {threshold cooldown:ℕ}{s s':State}

lemma beforeRequest_cases (c:CircuitState)(now:ℕ):∃c' retryAfter,
 beforeRequest c now=(c',retryAfter)∧((c'=c∧(retryAfter=none→c.status=.closed))∨
  (retryAfter=none∧c'.status=.halfOpen∧c'.probeInFlight∧¬(c.status=.halfOpen∧c.probeInFlight))):=by
 unfold beforeRequest
 grind
lemma recordFailure_cases (threshold cooldown:ℕ)(c:CircuitState)(now:ℕ):
 ((recordFailure threshold cooldown c now).status=.open∧
  (recordFailure threshold cooldown c now).openedUntil=some (now+cooldown))∨
 ((recordFailure threshold cooldown c now).status=.closed):=by
 unfold recordFailure
 grind

/-- An open circuit waits for the last failure, and a token that is taken belongs to a request. -/
structure Live (cooldown:ℕ)(s:State):Prop where
 opened:s.circuit.status=.open→
  ∃f,s.lastFailure=some f∧s.circuit.openedUntil=some (f+cooldown)
 token:s.circuit.status=.halfOpen→s.circuit.probeInFlight→∃r,s.inFlight.get r=some true

def Single (s:State):Prop:=
 ∀r,s.inFlight.get r=some true→s.circuit.status=.halfOpen∧s.circuit.probeInFlight∧
  ∀r',s.inFlight.get r'=some true→ r'=r

lemma Live.step (h:Live cooldown s){label:Label}(hguard:probesReport s label)
 (hstep:step threshold cooldown s label=some s'):Live cooldown s':=by
 cases label with
 | tick=>
  cases hstep
  exact ⟨h.opened,h.token⟩
 | begin r=>
  obtain ⟨-,hstep⟩:=ite_none_right_eq_some.mp hstep
  obtain ⟨c,retryAfter,heq,hcases⟩:=beforeRequest_cases s.circuit s.now
  rw[heq] at hstep
  cases hstep
  rcases hcases with ⟨rfl,hclosed⟩|⟨rfl,hhalf,-⟩
  · refine ⟨h.opened,fun hhalf hprobe=>?_⟩
    have hsome:retryAfter≠none:=fun hnone=>by simp[State.answered,hclosed hnone] at hhalf
    rw[State.answered,if_neg hsome]
    exact h.token hhalf hprobe
  · exact ⟨fun hopen=>by simp[State.answered,hhalf] at hopen,fun _ _=>⟨r,by simp[State.answered,hhalf]⟩⟩
 | succeeds r=>
  obtain ⟨_,-,⟨⟩⟩:=bind_eq_some_iff.mp hstep
  exact ⟨fun hopen=>by simp[recordSuccess] at hopen,fun hhalf=>by simp[recordSuccess] at hhalf⟩
 | fails r=>
  obtain ⟨_,-,⟨⟩⟩:=bind_eq_some_iff.mp hstep
  rcases recordFailure_cases threshold cooldown s.circuit s.now with ⟨hopen,huntil⟩|hclosed
  · exact ⟨fun _=>⟨s.now,rfl,huntil⟩,fun hhalf=>by simp[hopen] at hhalf⟩
  · exact ⟨fun hopen=>by simp[hclosed] at hopen,fun hhalf=>by simp[hclosed] at hhalf⟩
 | leaves r=>
  obtain ⟨_,-,⟨⟩⟩:=bind_eq_some_iff.mp hstep
  refine ⟨h.opened,fun hhalf hprobe=>?_⟩
  obtain ⟨r',hr'⟩:=h.token hhalf hprobe
  have hne:r'≠r:=fun heq=>hguard (heq ▸ hr')
  exact ⟨r',(get_pop_of_ne _ hne).trans hr'⟩

lemma Live.admits (h:Live cooldown s)(hidle:∀r,s.inFlight.get r=none)
 (helapsed:∀f,s.lastFailure=some f→f+cooldown ≤ s.now):(beforeRequest s.circuit s.now).2=none:=by
 unfold beforeRequest
 split
 · rename_i hopen
   obtain ⟨f,hf,huntil⟩:=h.opened hopen
   simp[huntil,helapsed f hf]
 · rename_i hhalf
   have hfree:¬s.circuit.probeInFlight:=by
    intro hprobe
    obtain ⟨r,hr⟩:=h.token hhalf hprobe
    simp[hidle r] at hr
   simp[hfree]
 · rfl

/-- Once an outcome is recorded, the only request that could have been the probe is gone. -/
lemma Single.recorded {label:Label}{r:RequestId}(hlabel:outcome label=some r)
 (hguard:outcomesApart s label)(r':RequestId):(s.inFlight.pop r).get r'≠some true:=by
 intro hr'
 obtain ⟨hne,hget⟩:=get_pop_eq_some hr'
 exact hne (hguard r hlabel r' (mem_keys.mpr ⟨true,hget⟩) hget)

lemma Single.step (h:Single s){label:Label}(hguard:outcomesApart s label)
 (hstep:step threshold cooldown s label=some s'):Single s':=by
 cases label with
 | tick=>
  cases hstep
  exact h
 | begin r=>
  obtain ⟨-,hstep⟩:=ite_none_right_eq_some.mp hstep
  obtain ⟨c,retryAfter,heq,hcases⟩:=beforeRequest_cases s.circuit s.now
  rw[heq] at hstep
  cases hstep
  rcases hcases with ⟨rfl,hclosed⟩|⟨rfl,hhalf,hprobe,hfree⟩
  · have hkept:∀r',(s.answered r (s.circuit,retryAfter)).inFlight.get r'=some true→
      s.inFlight.get r'=some true:=by
     intro r' hr'
     dsimp only[State.answered] at hr'
     split at hr'
     · rename_i hnone
       rw[hclosed hnone] at hr'
       rcases get_set_eq_some hr' with ⟨-,⟨⟩⟩|⟨-,hr'⟩
       exact hr'
     · exact hr'
    intro r' hr'
    obtain ⟨hhalf,hprobe,honly⟩:=h r' (hkept r' hr')
    exact ⟨hhalf,hprobe,fun r'' hr''=>honly r'' (hkept r'' hr'')⟩
  · have hself:∀r',(s.answered r (c,none)).inFlight.get r'=some true→ r'=r:=by
     intro r' hr'
     rcases get_set_eq_some hr' with ⟨heq,-⟩|⟨-,hr'⟩
     · exact heq
     · exact absurd ⟨(h r' hr').1,(h r' hr').2.1⟩ hfree
    exact fun r' hr'=>⟨hhalf,hprobe,fun r'' hr''=>(hself r'' hr'').trans (hself r' hr').symm⟩
 | succeeds r | fails r=>
  obtain ⟨_,-,⟨⟩⟩:=bind_eq_some_iff.mp hstep
  exact fun r' hr'=>absurd hr' (recorded rfl hguard r')
 | leaves r=>
  obtain ⟨_,-,⟨⟩⟩:=bind_eq_some_iff.mp hstep
  intro r' hr'
  obtain ⟨hhalf,hprobe,honly⟩:=h r' (get_pop_eq_some hr').2
  exact ⟨hhalf,hprobe,fun r'' hr''=>honly r'' (get_pop_eq_some hr'').2⟩

/-- When every request admitted half-open reports an outcome, an idle circuit admits the next caller
after the cooldown; when no other outcome is recorded while one is in flight, it is the only one. -/
theorem circuit_retries {labels:List Label} (hrun:run (step threshold cooldown) init labels=some s):
 (Guarded probesReport (step threshold cooldown) init labels→(∀r,s.inFlight.get r=none)→
  (∀f,s.lastFailure=some f→ f+cooldown ≤ s.now)→(beforeRequest s.circuit s.now).2=none)∧
 (Guarded outcomesApart (step threshold cooldown) init labels→
  ∀r r',s.inFlight.get r=some true→ s.inFlight.get r'=some true→ r=r'):=by
 refine ⟨fun hguard=>?_,fun hguard r r' hr hr'=>?_⟩
 · have hlive:Live cooldown s:=run_invariant_guarded (Live cooldown)
    (fun _ _ _ h hguard hstep=>h.step hguard hstep) ⟨by simp[init],by simp[init]⟩ hguard hrun
   exact hlive.admits
 · have hsingle:Single s:=run_invariant_guarded Single
    (fun _ _ _ h hguard hstep=>h.step hguard hstep) (by simp[init,Single]) hguard hrun
   exact (hsingle r' hr').2.2 r hr

/-- Five failures open the circuit; a probe is let through after the cooldown. -/
def probed:List Label:=
 (List.range failureThreshold).flatMap (fun r=>[.begin r,.fails r])++[.tick cooldownSeconds,.begin 5]

theorem circuit_retries_probed:
 ∃s,run (step failureThreshold cooldownSeconds) init (probed++[.fails 5,.tick cooldownSeconds])=some s∧
  (beforeRequest s.circuit s.now).2=none:=by
 have hrun:run (step failureThreshold cooldownSeconds) init
  (probed++[.fails 5,.tick cooldownSeconds])=some _:=rfl
 exact ⟨_,hrun,(circuit_retries hrun).1 (by decide) (fun _=>rfl) (by decide)⟩

/-- A probe that is cancelled keeps the token: no caller is admitted again. A late answer of an earlier
request lets a second probe in. -/
theorem circuit_stuck:
 (∀seconds,(run (step failureThreshold cooldownSeconds) init (probed++[.leaves 5,.tick seconds])).map
  (fun s=>(s.inFlight.keys,(beforeRequest s.circuit s.now).2))=some ([],some 0))∧
 (run (step failureThreshold cooldownSeconds) init
  (.begin 6::probed++[.fails 6,.tick cooldownSeconds,.begin 7])).map
   (fun s=>(s.inFlight.get 5,s.inFlight.get 7))=some (some true,some true):=
 ⟨fun _=>rfl,rfl⟩
end GridFleet.CircuitBreaker
