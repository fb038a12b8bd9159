import GridFleet.FleetRows
import GridFleet.Interleaving
import GridFleet.Fallible
/-! A node owns its port for life, so an allocator takes the lowest port that no node of the host has.
Allocators of different devices hold different row locks and see each other's rows only once committed. -/
namespace GridFleet.PortAllocation
open Interleaving List
open Dict (get_set_eq_some get_pop_eq_some)

inductive NodeManagerError where
 | noFreePorts

section
variable (used excluded:List ℕ)(startPort endPort:ℕ)

def isAvailable (port:ℕ):Bool:=
 decide (startPort≤port∧port≤endPort)&&decide (port ∉ used)&&decide (port ∉ excluded)
def candidatePorts (preferredPort:Option ℕ):Except NodeManagerError (List ℕ):=
 let range:=(List.range (endPort+1-startPort)).map (startPort + ·)
 let preferred:=preferredPort.toList.filter (isAvailable used excluded startPort endPort)
 let ports:=preferred++range.filter fun port=>
  decide (some port≠preferredPort)&&isAvailable used excluded startPort endPort port
 if ports.isEmpty then .error .noFreePorts else .ok ports

/-- `candidate_ports(…)[0]` -/
def lowestPort:Except NodeManagerError ℕ:=do
 match ←candidatePorts used excluded startPort endPort none with
 | port::_=>return port
 | []=>throw .noFreePorts
end

lemma isAvailable_of_candidatePorts {used excluded ports:List ℕ}{startPort endPort port:ℕ}
 {preferredPort:Option ℕ}(h:candidatePorts used excluded startPort endPort preferredPort=.ok ports)
 (hmem:port∈ports):isAvailable used excluded startPort endPort port:=by
 unfold candidatePorts at h
 dsimp only at h
 split at h
 · cases h
 · cases h
   rcases mem_append.mp hmem with hpreferred|hrange
   · exact (mem_filter.mp hpreferred).2
   · have hboth:=(mem_filter.mp hrange).2
     rw[Bool.and_eq_true] at hboth
     exact hboth.2
lemma notMem_used_of_lowestPort {used excluded:List ℕ}{startPort endPort port:ℕ}
 (h:lowestPort used excluded startPort endPort=.ok port):port ∉ used:=by
 unfold lowestPort at h
 obtain ⟨ports,hcandidates,h⟩:=bind_eq_ok.mp h
 cases ports with
 | nil=>cases h
 | cons=>
  cases h
  have havailable:=isAvailable_of_candidatePorts hcandidates mem_cons_self
  unfold isAvailable at havailable
  simp only[Bool.and_eq_true,decide_eq_true_eq] at havailable
  exact havailable.1.2

inductive Request where
 | requestStart
 | prepareAutoRecovery
 | repinDesiredPort (conflictPort:ℕ)

/-- `locked` holds the device row, `picked` has read the used ports, `staged` has flushed. -/
inductive Phase where
 | locked
 | picked (port:ℕ)
 | staged (port:Option ℕ)

def Phase.port:Phase→Option ℕ
 | .locked=>none
 | .picked port=>some port
 | .staged port=>port

structure Tx where
 request:Request
 phase:Phase

/-- Committed node ports, and the transaction that holds each locked device row. -/
structure State where
 nodes:Dict DeviceId ℕ
 txs:Dict DeviceId Tx

inductive Label where
 | lock (device:DeviceId)(request:Request)
 | readPorts (device:DeviceId)(startPort endPort:ℕ)
 | flush (device:DeviceId)
 | commit (device:DeviceId)
 | rollback (device:DeviceId)

section
variable (hostOf:DeviceId→HostId)

/-- `SELECT port … WHERE host_id = :host`, at the statement's own snapshot. -/
def usedPorts (nodes:Dict DeviceId ℕ)(host:HostId):List ℕ:=
 (nodes.entries.filter fun entry=>hostOf entry.1=host).map Prod.snd

/-- An existing node keeps its port when it is started; a recovery or a re-pin that finds no free port
goes on without one. -/
def allocate (s:State)(device:DeviceId)(request:Request)(startPort endPort:ℕ):
 Except NodeManagerError Phase:=
 let used:=usedPorts hostOf s.nodes (hostOf device)
 match request,s.nodes.get device with
 | .requestStart,none=>(lowestPort used [] startPort endPort).map .picked
 | .prepareAutoRecovery,none=>
  match lowestPort used [] startPort endPort with
  | .ok port=>.ok (.picked port)
  | .error _=>.ok (.staged none)
 | .repinDesiredPort conflictPort,some _=>
  match lowestPort used [conflictPort] startPort endPort with
  | .ok port=>.ok (.picked port)
  | .error _=>.ok (.staged none)
 | .requestStart,some _ | .prepareAutoRecovery,some _ | .repinDesiredPort _,none=>
  .ok (.staged none)

def step (s:State):Label→Option State
 | .lock device request=>
  match s.txs.get device with
  | some _=>none
  | none=>some {s with txs:=s.txs.set device ⟨request,.locked⟩}
 | .readPorts device startPort endPort=>
  match s.txs.get device with
  | some ⟨request,.locked⟩=>
   match allocate hostOf s device request startPort endPort with
   | .ok phase=>some {s with txs:=s.txs.set device ⟨request,phase⟩}
   | .error _=>some {s with txs:=s.txs.pop device}
  | _=>none
 | .flush device=>
  match s.txs.get device with
  | some ⟨request,.picked port⟩=>
   some {s with txs:=s.txs.set device ⟨request,.staged (some port)⟩}
  | _=>none
 | .commit device=>
  match s.txs.get device with
  | some ⟨_,.staged (some port)⟩=>
   some {nodes:=s.nodes.set device port,txs:=s.txs.pop device}
  | some ⟨_,.staged none⟩=>some {s with txs:=s.txs.pop device}
  | _=>none
 | .rollback device=>
  match s.txs.get device with
  | some _=>some {s with txs:=s.txs.pop device}
  | none=>none

def PortsDistinct (nodes:Dict DeviceId ℕ):Prop:=
 ∀d e port,nodes.get d=some port→nodes.get e=some port→hostOf d=hostOf e→d=e
def portToPick (s:State)(device:DeviceId)(startPort endPort:ℕ):Option ℕ:=
 (s.txs.get device).bind fun tx=>
  match allocate hostOf s device tx.request startPort endPort with
  | .ok phase=>phase.port
  | .error _=>none

/-- The port that a read is about to pick is not one that another open transaction of the host has
picked and not yet committed. -/
def ReadsSettled (s:State):Label→Prop
 | .readPorts device startPort endPort=>
  ∀other∈s.txs.entries,other.1≠device→hostOf other.1=hostOf device→
   other.2.phase.port=none∨other.2.phase.port≠portToPick hostOf s device startPort endPort
 | _=>True

instance (s:State):(label:Label)→Decidable (ReadsSettled hostOf s label)
 | .readPorts _ _ _=>inferInstanceAs (Decidable (∀other∈s.txs.entries,_→ _→(_∨_)))
 | .lock _ _ | .flush _ | .commit _ | .rollback _=>isTrue trivial
end

section
variable {hostOf:DeviceId→HostId}{s t:State}{label:Label}

lemma mem_usedPorts {nodes:Dict DeviceId ℕ}{device:DeviceId}{port:ℕ}
 (h:nodes.get device=some port):port∈usedPorts hostOf nodes (hostOf device):=by
 unfold usedPorts
 have hmem:=Dict.get_eq_some_iff.mp h
 exact mem_map.mpr ⟨(device,port),mem_filter.mpr ⟨hmem,by simp⟩,rfl⟩

lemma allocate_fresh {device:DeviceId}{request:Request}{startPort endPort port:ℕ}
 {phase:Phase}(h:allocate hostOf s device request startPort endPort=.ok phase)
 (hport:phase.port=some port):port ∉ usedPorts hostOf s.nodes (hostOf device):=by
 unfold allocate at h
 dsimp only at h
 split at h
 · obtain ⟨_,hlowest,⟨⟩⟩:=bind_eq_ok.mp h
   cases hport
   exact notMem_used_of_lowestPort hlowest
 · split at h
   · rename_i lowest hlowest
     cases h
     cases hport
     exact notMem_used_of_lowestPort hlowest
   · cases h
     cases hport
 · split at h
   · rename_i lowest hlowest
     cases h
     cases hport
     exact notMem_used_of_lowestPort hlowest
   · cases h
     cases hport
 all_goals
  cases h
  cases hport

variable (hostOf s) in
inductive Transition:Label→State→Prop
 | lock (device:DeviceId)(request:Request)(hfree:s.txs.get device=none):
   Transition (.lock device request) {s with txs:=s.txs.set device ⟨request,.locked⟩}
 | read (device:DeviceId)(startPort endPort:ℕ)(request:Request)(phase:Phase)
   (htx:s.txs.get device=some ⟨request,.locked⟩)
   (hallocate:allocate hostOf s device request startPort endPort=.ok phase):
   Transition (.readPorts device startPort endPort)
    {s with txs:=s.txs.set device ⟨request,phase⟩}
 | flush (device:DeviceId)(request:Request)(port:ℕ)
   (htx:s.txs.get device=some ⟨request,.picked port⟩):
   Transition (.flush device) {s with txs:=s.txs.set device ⟨request,.staged (some port)⟩}
 | write (device:DeviceId)(request:Request)(port:ℕ)
   (htx:s.txs.get device=some ⟨request,.staged (some port)⟩):
   Transition (.commit device) {nodes:=s.nodes.set device port,txs:=s.txs.pop device}
 | close (device:DeviceId)(label:Label):Transition label {s with txs:=s.txs.pop device}

lemma transition_of_step (h:step hostOf s label=some t):Transition hostOf s label t:=by
 unfold step at h
 split at h
 · split at h
   · cases h
   · rename_i hfree
     cases h
     exact .lock _ _ hfree
 · split at h
   · rename_i htx
     split at h
     · rename_i hallocate
       cases h
       exact .read _ _ _ _ _ htx hallocate
     · cases h
       exact .close _ _
   · cases h
 · split at h
   · rename_i htx
     cases h
     exact .flush _ _ _ htx
   · cases h
 · split at h
   · rename_i htx
     cases h
     exact .write _ _ _ htx
   · cases h
     exact .close _ _
   · cases h
 · split at h
   · cases h
     exact .close _ _
   · cases h
end

section
variable (hostOf:DeviceId→HostId)

/-- Committed ports and picked ports of a host are all different. -/
structure Exclusive (s:State):Prop where
 nodes:PortsDistinct hostOf s.nodes
 unused:∀d e tx port,s.txs.get d=some tx→tx.phase.port=some port→
  s.nodes.get e=some port→hostOf e≠hostOf d
 picked:∀d e tx other port,s.txs.get d=some tx→s.txs.get e=some other→
  tx.phase.port=some port→ other.phase.port=some port→hostOf d=hostOf e→d=e

variable {hostOf}{s t:State}{label:Label}

lemma Exclusive.of_txs {txs:Dict DeviceId Tx}(h:Exclusive hostOf s)
 (hold:∀d tx port,txs.get d=some tx→tx.phase.port=some port→
  ∃before,s.txs.get d=some before∧before.phase.port=some port):
 Exclusive hostOf {s with txs:=txs}:=by
 constructor
 · exact h.nodes
 · intro d e tx port htx hport hnode
   obtain ⟨before,hbefore,hsame⟩:=hold d tx port htx hport
   exact h.unused d e before port hbefore hsame hnode
 · intro d e tx other port htx hother hport hotherPort hhost
   obtain ⟨before,hbefore,hsame⟩:=hold d tx port htx hport
   obtain ⟨before',hbefore',hsame'⟩:=hold e other port hother hotherPort
   exact h.picked d e before before' port hbefore hbefore' hsame hsame' hhost

variable {device:DeviceId}

section
variable (h:Exclusive hostOf s)
include h

lemma exclusive_set_of_port {tx:Tx}(hport:∀port,tx.phase.port=some port→
  ∃before,s.txs.get device=some before∧before.phase.port=some port):
 Exclusive hostOf {s with txs:=s.txs.set device tx}:=by
 apply h.of_txs
 intro d found port hfound hfoundPort
 rcases get_set_eq_some hfound with ⟨rfl,rfl⟩|⟨-,hkept⟩
 · exact hport port hfoundPort
 · exact ⟨found,hkept,hfoundPort⟩
lemma exclusive_pop (device:DeviceId):Exclusive hostOf {s with txs:=s.txs.pop device}:=by
 apply h.of_txs
 intro d tx port htx hport
 exact ⟨tx,(get_pop_eq_some htx).2,hport⟩

lemma exclusive_read {startPort endPort:ℕ}{request:Request}{phase:Phase}
 (hguard:ReadsSettled hostOf s (.readPorts device startPort endPort))
 (htx:s.txs.get device=some ⟨request,.locked⟩)
 (hallocate:allocate hostOf s device request startPort endPort=.ok phase):
 Exclusive hostOf {s with txs:=s.txs.set device ⟨request,phase⟩}:=by
 have hpick:portToPick hostOf s device startPort endPort=phase.port:=by
  unfold portToPick
  rw[htx]
  simp[hallocate]
 have hfresh:∀e other port,s.txs.get e=some other→e≠device→
   other.phase.port=some port→phase.port=some port→hostOf e≠hostOf device:=by
  intro e other port hother hne hotherPort hport hhost
  have hsettled:=hguard (e,other) (Dict.get_eq_some_iff.mp hother) hne hhost
  simp[hotherPort,hpick,hport] at hsettled
 constructor
 · exact h.nodes
 · intro d e tx port htx' hport hnode hhost
   rcases get_set_eq_some htx' with ⟨rfl,rfl⟩|⟨-,hkept⟩
   · apply allocate_fresh hallocate hport
     rw[←hhost]
     exact mem_usedPorts hnode
   · exact h.unused d e tx port hkept hport hnode hhost
 · intro d e tx other port htx' hother hport hotherPort hhost
   rcases get_set_eq_some htx' with ⟨rfl,rfl⟩|⟨hne,hkept⟩
   · rcases get_set_eq_some hother with ⟨rfl,-⟩|⟨hne',hkept'⟩
     · rfl
     · exact absurd hhost.symm (hfresh e other port hkept' hne' hotherPort hport)
   · rcases get_set_eq_some hother with ⟨rfl,rfl⟩|⟨-,hkept'⟩
     · exact absurd hhost (hfresh d tx port hkept hne hport hotherPort)
     · exact h.picked d e tx other port hkept hkept' hport hotherPort hhost

lemma exclusive_write {request:Request}{port:ℕ}
 (htx:s.txs.get device=some ⟨request,.staged (some port)⟩):
 Exclusive hostOf {nodes:=s.nodes.set device port,txs:=s.txs.pop device}:=by
 constructor
 · intro d e found hd he hhost
   rcases get_set_eq_some hd with ⟨rfl,rfl⟩|⟨-,hkept⟩
   · rcases get_set_eq_some he with ⟨rfl,-⟩|⟨-,hkept'⟩
     · rfl
     · exact absurd hhost.symm (h.unused _ e _ _ htx rfl hkept')
   · rcases get_set_eq_some he with ⟨rfl,rfl⟩|⟨-,hkept'⟩
     · exact absurd hhost (h.unused _ d _ _ htx rfl hkept)
     · exact h.nodes d e found hkept hkept' hhost
 · intro d e tx found htx' hport hnode hhost
   obtain ⟨hne,hkept⟩:=get_pop_eq_some htx'
   rcases get_set_eq_some hnode with ⟨rfl,rfl⟩|⟨-,hnode⟩
   · exact hne (h.picked d _ tx _ _ hkept htx hport rfl hhost.symm)
   · exact h.unused d e tx found hkept hport hnode hhost
 · intro d e tx other found htx' hother hport hotherPort hhost
   exact h.picked d e tx other found (get_pop_eq_some htx').2 (get_pop_eq_some hother).2
    hport hotherPort hhost
lemma exclusive_step (hguard:ReadsSettled hostOf s label)(hstep:step hostOf s label=some t):Exclusive hostOf t:=by
 cases transition_of_step hstep with
 | lock=>
  apply exclusive_set_of_port h
  intro port hport
  cases hport
 | read _ _ _ _ _ htx hallocate=>
  exact exclusive_read h hguard htx hallocate
 | flush _ _ _ htx=>
  apply exclusive_set_of_port h
  intro found hfound
  exact ⟨_,htx,hfound⟩
 | write _ _ _ htx=>exact exclusive_write h htx
 | close device=>exact exclusive_pop h device
end

/-- With every read settled, the committed nodes of a host keep pairwise distinct ports. -/
theorem ports_distinct_of_reads_settled (hostOf:DeviceId→HostId) (nodes:Dict DeviceId ℕ)
 (hdistinct:PortsDistinct hostOf nodes) (labels:List Label) (t:State)
 (hguard:Guarded (ReadsSettled hostOf) (step hostOf) ⟨nodes,.empty⟩ labels)
 (hrun:run (step hostOf) ⟨nodes,.empty⟩ labels=some t):
 PortsDistinct hostOf t.nodes:=by
 have hinitial:Exclusive hostOf ⟨nodes,.empty⟩:=by
  refine ⟨hdistinct,?_,?_⟩
  · intro d e tx port htx
    cases htx
  · intro d e tx other port htx
    cases htx
 have hfinal:Exclusive hostOf t:=
  run_invariant_guarded (Exclusive hostOf) (fun s label u hs hg hstep=>exclusive_step hs hg hstep)
   hinitial hguard hrun
 exact hfinal.nodes
end

/-- Two phones of one host are started at once and both read before either commits. -/
theorem concurrent_starts_share_port:
 PortsDistinct (fun _=>0) Dict.empty∧
  ∃t,run (step fun _=>0) ⟨.empty,.empty⟩
    [.lock 1 .requestStart,.lock 2 .requestStart,.readPorts 1 4723 4823,
     .readPorts 2 4723 4823,.flush 1,.flush 2,.commit 1,.commit 2]=some t∧
   t.nodes.get 1=some 4723∧t.nodes.get 2=some 4723∧
   ¬PortsDistinct (fun _=>0) t.nodes:=by
 refine ⟨?_,_,rfl,rfl,rfl,?_⟩
 · intro d e port hd
   cases hd
 · intro hdistinct
   have hsame:(1:DeviceId)=2:=hdistinct 1 2 4723 rfl rfl rfl
   cases hsame

/-- The second phone reads after the first has committed. -/
theorem ports_distinct_of_reads_settled_twice:
 ∃t,run (step fun _=>0) ⟨.empty,.empty⟩
   [.lock 1 .requestStart,.lock 2 .prepareAutoRecovery,.readPorts 1 4723 4823,.flush 1,
    .commit 1,.readPorts 2 4723 4823,.flush 2,.commit 2]=some t∧
  t.nodes.get 1=some 4723∧t.nodes.get 2=some 4724∧PortsDistinct (fun _=>0) t.nodes:=by
 have hempty:PortsDistinct (fun _=>0) Dict.empty:=by
  intro d e port hd
  cases hd
 refine ⟨_,rfl,rfl,rfl,ports_distinct_of_reads_settled (fun _=>0) Dict.empty hempty
  [.lock 1 .requestStart,.lock 2 .prepareAutoRecovery,.readPorts 1 4723 4823,.flush 1,
   .commit 1,.readPorts 2 4723 4823,.flush 2,.commit 2] _ ?_ rfl⟩
 decide
end GridFleet.PortAllocation
