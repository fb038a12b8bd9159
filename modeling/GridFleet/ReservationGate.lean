import GridFleet.SessionLifecycle
import GridFleet.StateProjection
/-! Grid claims and run creations lock the device row with a SELECT whose WHERE clause decides the
reservation gate. The clause is evaluated on the snapshot the statement starts with, and again once the
lock is granted only when the device row itself was modified since. Other statements read what is
committed when they start. -/
namespace GridFleet.ReservationGate
open Dict List Option
open SessionLifecycle (isLive isLiveStatus isOpen ended TxId)
open StateProjection (isMasking probeTestName DeviceStateFacts evaluateOperationalState)

/-- `version` counts the committed updates of the row. -/
structure DeviceRow where
 operationalStateLastEmitted:OperationalState
 version:ℕ

structure Tables where
 devices:Dict DeviceId DeviceRow
 sessions:List Session
 reservations:List DeviceReservation
 runs:List TestRun

def isTerminal:RunState→Bool
 | .completed | .failed | .expired | .cancelled=>true
 | .pending | .preparing | .active=>false

section
variable (t:Tables)(device:DeviceId)

def reservationActive (res:DeviceReservation):Bool:=res.releasedAt.isNone
def runIsLive (runId:RunId):Bool:=t.runs.any fun run=>run.id=runId&&!isTerminal run.state
def gatingReservations (now:Instant):List DeviceReservation:=
 t.reservations.filter fun res=>
  res.deviceId=device&&reservationActive res&&runIsLive t res.runId&&
   (!res.excluded||res.excludedUntil.any (· ≤ now))

/-- The correlated subquery: the run that holds the device, newest reservation first. -/
def reservationGatingOwner (now:Instant):Option RunId:=
 ((gatingReservations t device now).insertionSort fun a b=>b.createdAt≤a.createdAt).head?.map
  DeviceReservation.runId

def activeReservationExists:Bool:=
 t.reservations.any fun res=>res.deviceId=device&&reservationActive res
def liveSessionExists:Bool:=t.sessions.any fun row=>isLive row&&row.deviceId=some device
def maskingLiveSessionExists:Bool:=
 t.sessions.any fun row=>isMasking row&&row.deviceId=some device

/-- What the projection derives; `others` are the facts that come from other tables. -/
def derivedState (others:DeviceStateFacts):OperationalState:=
 evaluateOperationalState {others with hasRunningSession:=maskingLiveSessionExists t device}

def isAvailable (others:DeviceStateFacts):Bool:=derivedState t device others=.available
end

/-- What a lock statement reads besides the modelled tables: the other facts of the projection, and
whether the node is viable, accepts sessions and is not excluded. -/
structure Surroundings where
 others:DeviceStateFacts
 viable:Bool

def claimLockPredicates (t:Tables)(device:DeviceId)(owner:Option RunId)(now:Instant)
 (around:Surroundings):Bool:=
 isAvailable t device around.others&&around.viable&&reservationGatingOwner t device now=owner
def lockedRecheck (t:Tables)(device:DeviceId)(around:Surroundings):Bool:=
 isAvailable t device around.others&&around.viable&&!activeReservationExists t device
def unmodified (snapshot t:Tables)(device:DeviceId):Bool:=
 (snapshot.devices.get device).map DeviceRow.version=(t.devices.get device).map DeviceRow.version

def ticketPassesReservation (ticketRunId reservationRunId:Option RunId):Bool:=
 ticketRunId=reservationRunId

structure EligibleRow where
 device:DeviceId
 reservationRunId:Option RunId

/-- Before which statement a claim stands. `waiting`: its lock statement has started on `snapshot`. -/
inductive ClaimStage where
 | read
 | next (rows:List EligibleRow)
 | waiting (row:EligibleRow)(now:Instant)(snapshot:Tables)(rest:List EligibleRow)
 | locked (row:EligibleRow)(rest:List EligibleRow)
 | insert (row:EligibleRow)
 | inserted (session:Session)

inductive RunStage where
 | select (devices:List DeviceId)
 | selecting (snapshot:Tables)(devices:List DeviceId)
 | inserted (run:TestRun)(reservations:List DeviceReservation)

structure Ticket where
 id:TicketId
 runId:Option RunId
 testName:Option String

inductive Work where
 | claim (ticket:Ticket)(stage:ClaimStage)
 | createRun (stage:RunStage)

structure Tx where
 locks:List DeviceId
 work:Work

structure State where
 tables:Tables
 txs:Dict TxId Tx

def init (devices:Dict DeviceId DeviceRow):State:=⟨⟨devices,[],[],[]⟩,.empty⟩
def lockFree (s:State)(tx:TxId)(device:DeviceId):Bool:=
 s.txs.entries.all fun e=>e.1=tx||device ∉ e.2.locks

inductive Label where
 | claim (tx:TxId)(ticket:Ticket)
 | read (tx:TxId)(now:Instant)(devices:List (DeviceId×Surroundings))
 | lock (tx:TxId)(now:Instant)(around:Surroundings)
 | grant (tx:TxId)(around:Surroundings)
 /-- The rechecks under the lock; `ready`: readiness, group membership and the node target. -/
 | recheck (tx:TxId)(ready:Bool)
 | insertSession (tx:TxId)(id:RowId)(marker:String)
 | createRun (tx:TxId)(devices:List DeviceId)
 | select (tx:TxId)
 | selectRow (tx:TxId)(around:Surroundings)
 /-- `kept`: the locked devices that the requirements keep. -/
 | insertRun (tx:TxId)(run:RunId)(name:String)(kept:List DeviceId)(firstId:RowId)
   (now:Instant)
 | commit (tx:TxId)(others:DeviceStateFacts)
 | abort (tx:TxId)
 | endSession (id:RowId)(status:SessionStatus)(now:Instant)
 | releaseReservation (id:RowId)(now:Instant)
 | finishRun (id:RunId)(state:RunState)
 | touchDevice (device:DeviceId)(state:OperationalState)

def reservationOf (runId:RunId)(now:Instant)(id:RowId)(device:DeviceId):DeviceReservation where
 id:=id
 runId:=runId
 deviceId:=device
 excluded:=false
 exclusionKind:=none
 exclusionReason:=none
 excludedUntil:=none
 releasedAt:=none
 createdAt:=now

/-- The projection's part of `reconcile_locked_device`: the row is written when the state it last
announced has changed. -/
def reconcileDevice (others:DeviceStateFacts)(t:Tables)(device:DeviceId):Tables:=
 match t.devices.get device with
 | some row=>
  if derivedState t device others=row.operationalStateLastEmitted then t
  else {t with devices:=t.devices.set device ⟨derivedState t device others,row.version+1⟩}
 | none=>t

def stepClaim (s:State)(tx:TxId)(x:Tx)(ticket:Ticket)(stage:ClaimStage):
 Label→Option Tx
 | .read _ now devices=>
  match stage with
  | .read=>
   let rows:=devices.filter fun e=>
    isAvailable s.tables e.1 e.2.others&&e.2.viable&&!liveSessionExists s.tables e.1
   let rows:=rows.map fun e=>(⟨e.1,reservationGatingOwner s.tables e.1 now⟩:EligibleRow)
   some { x with
    work:=.claim ticket (.next (rows.filter fun row=>
     ticketPassesReservation ticket.runId row.reservationRunId)) }
  | _=>none
 | .lock _ now around=>
  match stage with
  | .next (row::rest)=>
   if claimLockPredicates s.tables row.device row.reservationRunId now around then
    some {x with work:=.claim ticket (.waiting row now s.tables rest)}
   else some {x with work:=.claim ticket (.next rest)}
  | _=>none
 | .grant _ around=>
  match stage with
  | .waiting row now snapshot rest=>
   if lockFree s tx row.device then
    if unmodified snapshot s.tables row.device||
      claimLockPredicates s.tables row.device row.reservationRunId now around then
     some ⟨row.device::x.locks,.claim ticket (.locked row rest)⟩
    else some {x with work:=.claim ticket (.next rest)}
   else none
  | _=>none
 | .recheck _ ready=>
  match stage with
  | .locked row rest=>
   if ready&&!liveSessionExists s.tables row.device then
    some {x with work:=.claim ticket (.insert row)}
   else some {x with work:=.claim ticket (.next rest)}
  | _=>none
 | .insertSession _ id marker=>
  match stage with
  | .insert row=>
   some { x with
    work:=.claim ticket (.inserted
     { id:=id,sessionId:=marker,deviceId:=some row.device,testName:=ticket.testName,
       status:=.pending,endedAt:=none,ticketId:=some ticket.id,runId:=ticket.runId }) }
  | _=>none
 | _=>none

def stepRun (s:State)(tx:TxId)(x:Tx)(stage:RunStage):Label→Option Tx
 | .select _=>
  match stage with
  | .select devices=>some {x with work:=.createRun (.selecting s.tables devices)}
  | _=>none
 | .selectRow _ around=>
  match stage with
  | .selecting snapshot (device::rest)=>
   -- SKIP LOCKED: a row another transaction holds is left out without waiting
   if lockedRecheck snapshot device around&&lockFree s tx device&&
     (unmodified snapshot s.tables device||lockedRecheck s.tables device around) then
    some ⟨device::x.locks,.createRun (.selecting snapshot rest)⟩
   else some {x with work:=.createRun (.selecting snapshot rest)}
  | _=>none
 | .insertRun _ run name kept firstId now=>
  match stage with
  | .selecting _ []=>
   -- one active reservation a device: the unique index refuses a second one
   if kept.Nodup∧(∀device∈kept,device∈x.locks)∧
     (∀device∈kept,activeReservationExists s.tables device=false) then
    some { x with
     work:=.createRun (.inserted ⟨run,name,.preparing⟩
      ((kept.zipIdx firstId).map fun e=>reservationOf run now e.2 e.1)) }
   else none
  | _=>none
 | _=>none

def commit (t:Tables)(others:DeviceStateFacts):Work→Option Tables
 | .claim _ (.inserted session)=>
  let t':={t with sessions:=t.sessions++[session]}
  some ((session.deviceId.map (reconcileDevice others t')).getD t')
 | .createRun (.inserted run reservations)=>
  -- identifiers are drawn at random
  if t.runs.all fun r=>r.id≠run.id then
   let t':={t with runs:=t.runs++[run],reservations:=t.reservations++reservations}
   some ((reservations.map DeviceReservation.deviceId).foldl (reconcileDevice others) t')
  else none
 | .claim _ (.next [])=>some t
 | .claim _ _ | .createRun _=>none

def Label.tx:Label→Option TxId
 | .read tx _ _ | .lock tx _ _ | .grant tx _ | .recheck tx _ | .insertSession tx _ _ | .select tx
 | .selectRow tx _ | .insertRun tx _ _ _ _ _=>some tx
 | _=>none

def step (s:State)(label:Label):Option State:=
 match label with
 | .claim tx ticket=>
  if s.txs.get tx=none then some {s with txs:=s.txs.set tx ⟨[],.claim ticket .read⟩} else none
 | .createRun tx devices=>
  if s.txs.get tx=none then
   some {s with txs:=s.txs.set tx ⟨[],.createRun (.select devices)⟩}
  else none
 | .commit tx others=>
  (s.txs.get tx).bind fun x=>
   (commit s.tables others x.work).map fun t=>⟨t,s.txs.pop tx⟩
 | .abort tx=>if s.txs.get tx=none then none else some {s with txs:=s.txs.pop tx}
 | .endSession id status now=>
  if status=.running∨status=.pending then none
  else
   some { s with
    tables:={ s.tables with
     sessions:=s.tables.sessions.map fun row=>
      if row.id=id∧isOpen row then ended row status now else row } }
 | .releaseReservation id now=>
  some { s with
   tables:={ s.tables with
    reservations:=s.tables.reservations.map fun res=>
     if res.id=id then {res with releasedAt:=some now} else res } }
 | .finishRun id state=>
  if isTerminal state then
   some { s with
    tables:={ s.tables with
     runs:=s.tables.runs.map fun run=>if run.id=id then {run with state:=state} else run } }
  else none
 | .touchDevice device state=>
  (s.tables.devices.get device).bind fun row=>
   if s.txs.entries.all fun e=>device ∉ e.2.locks then
    some { s with
     tables:={ s.tables with
      devices:=s.tables.devices.set device ⟨state,row.version+1⟩ } }
   else none
 | label=>
  label.tx.bind fun tx=>(s.txs.get tx).bind fun x=>
   (match x.work with
    | .claim ticket stage=>stepClaim s tx x ticket stage label
    | .createRun stage=>stepRun s tx x stage label).map fun x'=>{s with txs:=s.txs.set tx x'}

/-- A lock granted on an unmodified device row finds the gate as the statement's snapshot showed it: a
claim the same gating owner, a run creation neither a reservation nor a masking session. And no client
takes the probe's test name. -/
def gateHolds (s:State):Label→Bool
 | .claim _ ticket=>ticket.testName≠some probeTestName
 | .grant tx _=>
  match s.txs.get tx with
  | some ⟨_,.claim _ (.waiting row now snapshot _)⟩=>
   !unmodified snapshot s.tables row.device||
    decide (reservationGatingOwner s.tables row.device now=row.reservationRunId)
  | _=>true
 | .selectRow tx around=>
  match s.txs.get tx with
  | some ⟨_,.createRun (.selecting snapshot (device::_))⟩=>
   !lockedRecheck snapshot device around||!unmodified snapshot s.tables device||
    (!activeReservationExists s.tables device&&!maskingLiveSessionExists s.tables device)
  | _=>true
 | _=>true

structure TablesOk (t:Tables):Prop where
 unexcluded:∀res∈t.reservations,res.excluded=false
 single:∀res∈t.reservations,∀res'∈t.reservations,res.deviceId=res'.deviceId→
  reservationActive res→ reservationActive res'→ res=res'
 runKnown:∀res∈t.reservations,∃run∈t.runs,run.id=res.runId
 named:∀row∈t.sessions,row.testName≠some probeTestName
 exclusive:∀row∈t.sessions,isLive row→∀res∈t.reservations,
  row.deviceId=some res.deviceId→ reservationActive res→ runIsLive t res.runId→
   row.runId=some res.runId

def Admits (t:Tables)(device:DeviceId)(owner:Option RunId):Prop:=
 ∀res∈t.reservations,res.deviceId=device→ reservationActive res→
  runIsLive t res.runId→ owner=some res.runId
def Vacant (t:Tables)(device:DeviceId):Prop:=
 (∀res∈t.reservations,res.deviceId=device→ reservationActive res=false)∧
  ∀row∈t.sessions,isLive row→ row.deviceId≠some device

variable {now:Instant}{t':Tables}{work:Work}{s:State}{tx:TxId}{x' x:Tx}{label:Label}

variable {t:Tables}{device:DeviceId}

lemma mem_gatingReservations {res:DeviceReservation}:res∈gatingReservations t device now↔
  res∈t.reservations∧res.deviceId=device∧reservationActive res∧runIsLive t res.runId∧
   (res.excluded=false∨res.excludedUntil.any (· ≤ now)):=by
 simp[gatingReservations,and_assoc]
lemma owner_mem {owner:RunId}(h:reservationGatingOwner t device now=some owner):
 ∃res∈gatingReservations t device now,res.runId=owner:=by
 obtain ⟨res,hhead,rfl⟩:=map_eq_some_iff.mp h
 exact ⟨res,(mem_insertionSort _).mp (mem_of_head? hhead),rfl⟩
lemma TablesOk.admits (h:TablesOk t)(device:DeviceId)(now:Instant):
 Admits t device (reservationGatingOwner t device now):=by
 intro res hres hdevice hactive hrun
 have hgating:res∈gatingReservations t device now:=
  mem_gatingReservations.mpr ⟨hres,hdevice,hactive,hrun,.inl (h.unexcluded res hres)⟩
 cases howner:reservationGatingOwner t device now with
 | none=>
  have hempty:=head?_eq_none_iff.mp (map_eq_none_iff.mp howner)
  have:=(mem_insertionSort fun a b:DeviceReservation=>b.createdAt≤a.createdAt).mpr hgating
  rw[hempty] at this
  cases this
 | some=>
  obtain ⟨res',hres',hrunId⟩:=owner_mem howner
  obtain ⟨hmem',hdevice',hactive',-⟩:=mem_gatingReservations.mp hres'
  rw[←hrunId,h.single res hres res' hmem' (hdevice.trans hdevice'.symm) hactive hactive']
lemma not_masking_of_isAvailable {others:DeviceStateFacts}
 (h:isAvailable t device others):maskingLiveSessionExists t device=false:=by
 unfold isAvailable derivedState evaluateOperationalState at h
 cases hmasking:maskingLiveSessionExists t device with
 | false=>rfl
 | true=>simp[hmasking] at h
lemma isMasking_of_isLive {row:Session}(hlive:isLive row)
 (hname:row.testName≠some probeTestName):isMasking row:=by
 simp only[isLive,isLiveStatus,isOpen,Bool.and_eq_true,Bool.or_eq_true,decide_eq_true_eq] at hlive
 simp[isMasking,hlive.1,hlive.2,hname]
lemma TablesOk.vacant (h:TablesOk t)(hreserved:activeReservationExists t device=false)
 (hmasking:maskingLiveSessionExists t device=false):Vacant t device:=by
 constructor
 · intro res hres hdevice
   have hfree:=List.any_eq_false.mp hreserved res hres
   simpa[hdevice] using hfree
 · intro row hrow hlive hdevice
   have hfree:=List.any_eq_false.mp hmasking row hrow
   simp[isMasking_of_isLive hlive (h.named row hrow),hdevice] at hfree

/-- On this device the tables gain neither an active reservation of a live run nor a live session. -/
structure Shrinks (device:DeviceId)(t t':Tables):Prop where
 reservations:∀res∈t'.reservations,res.deviceId=device→ reservationActive res→
  res∈t.reservations∧(runIsLive t' res.runId→ runIsLive t res.runId)
 sessions:∀row∈t'.sessions,isLive row→ row.deviceId=some device→ row∈t.sessions

lemma Admits.shrink {owner:Option RunId}(h:Admits t device owner)
 (hshrinks:Shrinks device t t'):Admits t' device owner:=by
 intro res hres hdevice hactive hrun
 obtain ⟨hold,hlive⟩:=hshrinks.reservations res hres hdevice hactive
 exact h res hold hdevice hactive (hlive hrun)
lemma Vacant.shrink (h:Vacant t device)(hshrinks:Shrinks device t t'):Vacant t' device:=by
 constructor
 · intro res hres hdevice
   by_contra hactive
   rw[Bool.not_eq_false] at hactive
   have hold:=(hshrinks.reservations res hres hdevice hactive).1
   rw[h.1 res hold hdevice] at hactive
   cases hactive
 · intro row hrow hlive hdevice
   exact h.2 row (hshrinks.sessions row hrow hlive hdevice) hlive hdevice
lemma TablesOk.shrink (h:TablesOk t)(hshrinks:∀device,Shrinks device t t')
 (hunexcluded:∀res∈t'.reservations,res.excluded=false)
 (hknown:∀res∈t'.reservations,∃run∈t'.runs,run.id=res.runId)
 (hnamed:∀row∈t'.sessions,row.testName≠some probeTestName):TablesOk t':=by
 refine ⟨hunexcluded,?_,hknown,hnamed,?_⟩
 · intro res hres res' hres' hdevice hactive hactive'
   have hold:=((hshrinks _).reservations res hres rfl hactive).1
   have hold':=((hshrinks _).reservations res' hres' rfl hactive').1
   exact h.single res hold res' hold' hdevice hactive hactive'
 · intro row hrow hlive res hres hdevice hactive hrun
   obtain ⟨hold,holdRun⟩:=(hshrinks _).reservations res hres rfl hactive
   exact h.exclusive row ((hshrinks _).sessions row hrow hlive hdevice) hlive res hold hdevice hactive
    (holdRun hrun)

def ClaimOk (t:Tables)(locks:List DeviceId)(ticket:Ticket):ClaimStage→Prop
 | .read=>True
 | .next rows=>∀row∈rows,row.reservationRunId=ticket.runId
 | .waiting row _ _ rest=>∀r∈row::rest,r.reservationRunId=ticket.runId
 | .locked row rest=>
  (∀r∈row::rest,r.reservationRunId=ticket.runId)∧row.device∈locks∧
   Admits t row.device ticket.runId
 | .insert row=>row.device∈locks∧Admits t row.device ticket.runId
 | .inserted session=>session.testName≠some probeTestName∧
   ∃device∈locks,session.deviceId=some device∧Admits t device session.runId

def RunOk (t:Tables)(locks:List DeviceId):RunStage→Prop
 | .select _ | .selecting _ _=>∀device∈locks,Vacant t device
 | .inserted run reservations=>
  (∀device∈locks,Vacant t device)∧(reservations.map DeviceReservation.deviceId).Nodup∧
   ∀res∈reservations,res.deviceId∈locks∧res.runId=run.id∧res.excluded=false
def WorkOk (t:Tables)(locks:List DeviceId):Work→Prop
 | .claim ticket stage=>ticket.testName≠some probeTestName∧ClaimOk t locks ticket stage
 | .createRun stage=>RunOk t locks stage

lemma WorkOk.shrink {locks:List DeviceId}(h:WorkOk t locks work)
 (hshrinks:∀device∈locks,Shrinks device t t'):WorkOk t' locks work:=by
 cases work with
 | claim ticket stage=>
  refine ⟨h.1,?_⟩
  have hclaim:=h.2
  cases stage with
  | read | next | waiting=>exact hclaim
  | locked=>exact ⟨hclaim.1,hclaim.2.1,hclaim.2.2.shrink (hshrinks _ hclaim.2.1)⟩
  | insert=>exact ⟨hclaim.1,hclaim.2.shrink (hshrinks _ hclaim.1)⟩
  | inserted=>
   obtain ⟨hname,device,hlock,hdevice,hadmits⟩:=hclaim
   exact ⟨hname,device,hlock,hdevice,hadmits.shrink (hshrinks _ hlock)⟩
 | createRun stage=>
  have hvacant:(∀device∈locks,Vacant t device)→∀device∈locks,Vacant t' device:=
   fun hall device hlock=>(hall device hlock).shrink (hshrinks device hlock)
  cases stage with
  | select | selecting=>exact hvacant h
  | inserted=>exact ⟨hvacant h.1,h.2⟩

structure Inv (s:State):Prop where
 tables:TablesOk s.tables
 txs:∀tx x,s.txs.get tx=some x→WorkOk s.tables x.locks x.work
 locks:∀tx tx' x x',s.txs.get tx=some x→s.txs.get tx'=some x'→
  ∀device∈x.locks,device∈x'.locks→tx=tx'

lemma inv_init (devices:Dict DeviceId DeviceRow):Inv (init devices):=by
 refine ⟨⟨nofun,nofun,nofun,nofun,nofun⟩,?_,?_⟩
 · intro tx x hx
   cases hx
 · intro tx tx' x x' hx
   cases hx
lemma lockFree_iff:lockFree s tx device↔∀tx' y,s.txs.get tx'=some y→tx'≠tx→device ∉ y.locks:=by
 simp only[lockFree,List.all_eq_true,Bool.or_eq_true,decide_eq_true_eq,Prod.forall,
  ←get_eq_some_iff]
 exact forall_congr' fun tx'=>forall_congr' fun y=>imp_congr_right fun _=>by tauto
lemma Inv.setTx (h:Inv s)(hok:WorkOk s.tables x'.locks x'.work)
 (hlocks:∀tx' y,s.txs.get tx'=some y→tx'≠tx→∀device∈x'.locks,device ∉ y.locks):
 Inv {s with txs:=s.txs.set tx x'}:=by
 refine ⟨h.tables,?_,?_⟩
 · exact forall_get_set hok h.txs
 · intro a b xa xb ha hb device hda hdb
   rcases get_set_eq_some ha with ⟨rfl,rfl⟩|⟨hne,hold⟩ <;>
    rcases get_set_eq_some hb with ⟨rfl,rfl⟩|⟨hne',hold'⟩
   · rfl
   · exact absurd hdb (hlocks b xb hold' hne' device hda)
   · exact absurd hda (hlocks a xa hold hne device hdb)
   · exact h.locks a b xa xb hold hold' device hda hdb
lemma Inv.openTx (h:Inv s)(hok:WorkOk s.tables [] work):Inv {s with txs:=s.txs.set tx ⟨[],work⟩}:=by
 refine h.setTx hok ?_
 intro tx' y _ _ device hd
 cases hd
lemma Inv.keepLocks (h:Inv s)(hx:s.txs.get tx=some x)(hok:WorkOk s.tables x.locks work):
 Inv { s with txs:=s.txs.set tx {x with work:=work} }:=
 h.setTx hok fun tx' y hy hne device hd hyd=>hne (h.locks tx' tx y x hy hx device hyd hd)
lemma Inv.takeLock (h:Inv s)(hx:s.txs.get tx=some x)
 (hfree:lockFree s tx device)(hok:WorkOk s.tables (device::x.locks) work):
 Inv {s with txs:=s.txs.set tx ⟨device::x.locks,work⟩}:=by
 refine h.setTx hok ?_
 intro tx' y hy hne d hd hyd
 rcases mem_cons.mp hd with rfl|hd
 · exact lockFree_iff.mp hfree tx' y hy hne hyd
 · exact hne (h.locks tx' tx y x hy hx d hyd hd)

lemma owner_of_grant {ticket:Ticket}{row:EligibleRow}{snapshot:Tables}{rest:List EligibleRow}
 {around:Surroundings}(hx:s.txs.get tx=some x)
 (hwork:x.work=.claim ticket (.waiting row now snapshot rest))(hgate:gateHolds s (.grant tx around))
 (hwhere:(unmodified snapshot s.tables row.device||
  claimLockPredicates s.tables row.device row.reservationRunId now around)):
 reservationGatingOwner s.tables row.device now=row.reservationRunId:=by
 obtain ⟨locks,work⟩:=x
 cases hwork
 simp only[gateHolds,hx,Bool.or_eq_true,Bool.not_eq_true',decide_eq_true_eq] at hgate
 rcases hgate with hmodified|howner
 · rw[hmodified,Bool.false_or,claimLockPredicates,Bool.and_eq_true] at hwhere
   exact of_decide_eq_true hwhere.2
 · exact howner
lemma vacant_of_selectRow {snapshot:Tables}{rest:List DeviceId}
 {around:Surroundings}(htables:TablesOk s.tables)(hx:s.txs.get tx=some x)
 (hwork:x.work=.createRun (.selecting snapshot (device::rest)))
 (hgate:gateHolds s (.selectRow tx around))(hsnapshot:lockedRecheck snapshot device around)
 (hwhere:(unmodified snapshot s.tables device||lockedRecheck s.tables device around)):
 Vacant s.tables device:=by
 obtain ⟨locks,work⟩:=x
 cases hwork
 simp only[gateHolds,hx,hsnapshot,Bool.not_true,Bool.false_or,Bool.or_eq_true,Bool.and_eq_true,
  Bool.not_eq_true'] at hgate
 rcases hgate with hmodified|⟨hreserved,hmasking⟩
 · rw[hmodified,Bool.false_or,lockedRecheck,Bool.and_eq_true,Bool.and_eq_true,
    Bool.not_eq_true'] at hwhere
   exact htables.vacant hwhere.2 (not_masking_of_isAvailable hwhere.1.1)
 · exact htables.vacant hreserved hmasking

lemma inv_stepClaim {ticket:Ticket}{stage:ClaimStage}(h:Inv s)(hx:s.txs.get tx=some x)
 (hwork:x.work=.claim ticket stage)(htx:label.tx=some tx)(hgate:gateHolds s label)
 (hstep:stepClaim s tx x ticket stage label=some x'):Inv {s with txs:=s.txs.set tx x'}:=by
 have hok:=h.txs tx x hx
 rw[hwork] at hok
 obtain ⟨hname,hclaim⟩:=hok
 unfold stepClaim at hstep
 split at hstep
 · -- the matching pass keeps the rows whose owner is the ticket's run
   split at hstep
   · cases hstep
     refine h.keepLocks hx ⟨hname,?_⟩
     intro row hrow
     have hpasses:=(mem_filter.mp hrow).2
     exact (of_decide_eq_true hpasses).symm
   · cases hstep
 · split at hstep
   · split at hstep
     · cases hstep
       exact h.keepLocks hx ⟨hname,hclaim⟩
     · cases hstep
       exact h.keepLocks hx ⟨hname,fun r hr=>hclaim r (mem_cons_of_mem _ hr)⟩
   · cases hstep
 · split at hstep
   · rename_i tx₀ around _ row now snapshot rest
     split at hstep
     · rename_i hfree
       split at hstep
       · rename_i hwhere
         cases hstep
         cases htx
         have howner:=owner_of_grant hx hwork hgate hwhere
         refine h.takeLock hx hfree ⟨hname,hclaim,mem_cons_self,?_⟩
         rw[←hclaim row mem_cons_self,←howner]
         exact h.tables.admits row.device now
       · cases hstep
         exact h.keepLocks hx ⟨hname,fun r hr=>hclaim r (mem_cons_of_mem _ hr)⟩
     · cases hstep
   · cases hstep
 · split at hstep
   · split at hstep
     · cases hstep
       exact h.keepLocks hx ⟨hname,hclaim.2⟩
     · cases hstep
       exact h.keepLocks hx ⟨hname,fun r hr=>hclaim.1 r (mem_cons_of_mem _ hr)⟩
   · cases hstep
 · split at hstep
   · rename_i row
     cases hstep
     exact h.keepLocks hx ⟨hname,hname,row.device,hclaim.1,rfl,hclaim.2⟩
   · cases hstep
 · cases hstep

lemma map_deviceId_reservationOf (run:RunId)(now:Instant)(kept:List DeviceId)(firstId:RowId):
 ((kept.zipIdx firstId).map fun e=>reservationOf run now e.2 e.1).map DeviceReservation.deviceId
  = kept:=by
 rw[List.map_map]
 exact zipIdx_map_fst firstId kept

lemma inv_stepRun {stage:RunStage}(h:Inv s)(hx:s.txs.get tx=some x)
 (hwork:x.work=.createRun stage)(htx:label.tx=some tx)(hgate:gateHolds s label)
 (hstep:stepRun s tx x stage label=some x'):Inv {s with txs:=s.txs.set tx x'}:=by
 have hok:=h.txs tx x hx
 rw[hwork] at hok
 unfold stepRun at hstep
 split at hstep
 · split at hstep
   · cases hstep
     exact h.keepLocks hx hok
   · cases hstep
 · split at hstep
   · split at hstep
     · rename_i hlocked
       simp only[Bool.and_eq_true] at hlocked
       obtain ⟨⟨hsnapshot,hfree⟩,hwhere⟩:=hlocked
       cases hstep
       cases htx
       refine h.takeLock hx hfree ?_
       intro d hd
       rcases mem_cons.mp hd with rfl|hd
       · exact vacant_of_selectRow h.tables hx hwork hgate hsnapshot hwhere
       · exact hok d hd
     · cases hstep
       exact h.keepLocks hx hok
   · cases hstep
 · split at hstep
   · rename_i tx₀ run name kept firstId now _ snapshot
     split at hstep
     · rename_i hkept
       cases hstep
       have hdevices:=map_deviceId_reservationOf run now kept firstId
       refine h.keepLocks hx ⟨hok,?_,?_⟩
       · rw[hdevices]
         exact hkept.1
       · intro res hres
         have hdevice:res.deviceId∈kept:=hdevices ▸ List.mem_map_of_mem hres
         obtain ⟨e,-,rfl⟩:=List.mem_map.mp hres
         exact ⟨hkept.2.1 _ hdevice,rfl,rfl⟩
     · cases hstep
   · cases hstep
 · cases hstep

structure SameRows (t t':Tables):Prop where
 sessions:t'.sessions=t.sessions
 reservations:t'.reservations=t.reservations
 runs:t'.runs=t.runs

lemma sameRows_reconcileDevice (others:DeviceStateFacts)(t:Tables)(device:DeviceId):
 SameRows t (reconcileDevice others t device):=by
 unfold reconcileDevice
 split
 · split <;> exact ⟨rfl,rfl,rfl⟩
 · exact ⟨rfl,rfl,rfl⟩
lemma sameRows_reconcileDevices (others:DeviceStateFacts)(devices:List DeviceId)(t:Tables):
 SameRows t (devices.foldl (reconcileDevice others) t):=by
 induction devices generalizing t with
 | nil=>exact ⟨rfl,rfl,rfl⟩
 | cons device _ ih=>
  have hfirst:=sameRows_reconcileDevice others t device
  have hrest:=ih (reconcileDevice others t device)
  exact ⟨hrest.sessions.trans hfirst.sessions,hrest.reservations.trans hfirst.reservations,
   hrest.runs.trans hfirst.runs⟩
lemma SameRows.runIsLive (h:SameRows t t')(run:RunId):runIsLive t' run=runIsLive t run:=by
 unfold ReservationGate.runIsLive
 rw[h.runs]
lemma SameRows.shrinks {u u':Tables}(h:SameRows u u')
 (hshrinks:Shrinks device t u):Shrinks device t u':=by
 constructor
 · intro res hres hdevice hactive
   rw[h.reservations] at hres
   rw[h.runIsLive]
   exact hshrinks.reservations res hres hdevice hactive
 · intro row hrow
   rw[h.sessions] at hrow
   exact hshrinks.sessions row hrow
lemma shrinks_refl (device:DeviceId)(t:Tables):Shrinks device t t:=
 ⟨fun _ hres _ _=>⟨hres,fun hrun=>hrun⟩,fun _ hrow _ _=>hrow⟩
lemma SameRows.tablesOk (h:SameRows t t')(hok:TablesOk t):TablesOk t':=by
 refine hok.shrink (fun device=>h.shrinks (shrinks_refl device t)) ?_ ?_ ?_
 · rw[h.reservations]
   exact hok.unexcluded
 · rw[h.reservations,h.runs]
   exact hok.runKnown
 · rw[h.sessions]
   exact hok.named

section
variable {t:Tables}

variable {device:DeviceId}

lemma tablesOk_addSession (h:TablesOk t){session:Session}
 (hname:session.testName≠some probeTestName)(hdevice:session.deviceId=some device)
 (hadmits:Admits t device session.runId):TablesOk {t with sessions:=t.sessions++[session]}:=by
 refine ⟨h.unexcluded,h.single,h.runKnown,?_,?_⟩
 · intro row hrow
   rcases mem_append.mp hrow with hold|hnew
   · exact h.named row hold
   · rw[mem_singleton.mp hnew]
     exact hname
 · intro row hrow hlive res hres hsame hactive hrun
   rcases mem_append.mp hrow with hold|hnew
   · exact h.exclusive row hold hlive res hres hsame hactive hrun
   · rw[mem_singleton.mp hnew] at hsame ⊢
     have hon:device=res.deviceId:=some.inj (hdevice.symm.trans hsame)
     exact hadmits res hres hon.symm hactive hrun
lemma shrinks_addSession {session:Session}{other:DeviceId}
 (hdevice:session.deviceId=some device)(hne:other≠device):
 Shrinks other t {t with sessions:=t.sessions++[session]}:=by
 refine ⟨(shrinks_refl other t).reservations,?_⟩
 intro row hrow _ hother
 rcases mem_append.mp hrow with hold|hnew
 · exact hold
 · rw[mem_singleton.mp hnew,hdevice] at hother
   exact absurd (some.inj hother).symm hne

variable {run:TestRun}{reservations:List DeviceReservation}

lemma runIsLive_addRun (h:TablesOk t)(hfresh:∀r∈t.runs,r.id≠run.id)
 {res:DeviceReservation}(hres:res∈t.reservations)
 (hrun:runIsLive {t with runs:=t.runs++[run],reservations:=t.reservations++reservations}
  res.runId):runIsLive t res.runId:=by
 obtain ⟨r,hmem,hr⟩:=List.any_eq_true.mp hrun
 rcases mem_append.mp hmem with hold|hnew
 · exact List.any_eq_true.mpr ⟨r,hold,hr⟩
 · obtain ⟨known,hknown,hid⟩:=h.runKnown res hres
   rw[mem_singleton.mp hnew,Bool.and_eq_true,decide_eq_true_eq] at hr
   exact absurd (hid.trans hr.1.symm) (hfresh known hknown)
lemma shrinks_addRun (h:TablesOk t)(hfresh:∀r∈t.runs,r.id≠run.id)
 (hother:∀res∈reservations,res.deviceId≠device):Shrinks device t
  {t with runs:=t.runs++[run],reservations:=t.reservations++reservations}:=by
 refine ⟨?_,(shrinks_refl device t).sessions⟩
 intro res hres hdevice _
 rcases mem_append.mp hres with hold|hnew
 · exact ⟨hold,runIsLive_addRun h hfresh hold⟩
 · exact absurd hdevice (hother res hnew)

lemma tablesOk_addRun (h:TablesOk t)(hfresh:∀r∈t.runs,r.id≠run.id)
 (hnodup:(reservations.map DeviceReservation.deviceId).Nodup)
 (hnew:∀res∈reservations,Vacant t res.deviceId∧res.runId=run.id∧res.excluded=false):
 TablesOk {t with runs:=t.runs++[run],reservations:=t.reservations++reservations}:=by
 constructor
 · intro res hres
   rcases mem_append.mp hres with hold|hadded
   · exact h.unexcluded res hold
   · exact (hnew res hadded).2.2
 · intro res hres res' hres' hdevice hactive hactive'
   rcases mem_append.mp hres with hold|hadded <;>
    rcases mem_append.mp hres' with hold'|hadded'
   · exact h.single res hold res' hold' hdevice hactive hactive'
   · rw[(hnew res' hadded').1.1 res hold hdevice] at hactive
     cases hactive
   · rw[(hnew res hadded).1.1 res' hold' hdevice.symm] at hactive'
     cases hactive'
   · exact inj_on_of_nodup_map hnodup hadded hadded' hdevice
 · intro res hres
   rcases mem_append.mp hres with hold|hadded
   · obtain ⟨known,hknown,hid⟩:=h.runKnown res hold
     exact ⟨known,mem_append_left _ hknown,hid⟩
   · exact ⟨run,mem_append_right _ (mem_singleton_self run),(hnew res hadded).2.1.symm⟩
 · exact h.named
 · intro row hrow hlive res hres hdevice hactive hrun
   rcases mem_append.mp hres with hold|hadded
   · exact h.exclusive row hrow hlive res hold hdevice hactive (runIsLive_addRun h hfresh hold hrun)
   · exact absurd hdevice ((hnew res hadded).1.2 row hrow hlive)

lemma commit_spec {locks:List DeviceId}{work:Work}{others:DeviceStateFacts}{t':Tables}
 (h:TablesOk t)(hwork:WorkOk t locks work)(hcommit:commit t others work=some t'):
 TablesOk t'∧∀device,device ∉ locks→Shrinks device t t':=by
 unfold commit at hcommit
 split at hcommit
 · rename_i ticket session
   obtain ⟨-,hname,device,hlock,hdevice,hadmits⟩:=hwork
   dsimp only at hcommit
   rw[hdevice,map_some,getD_some] at hcommit
   cases hcommit
   have hsame:=sameRows_reconcileDevice others {t with sessions:=t.sessions++[session]} device
   refine ⟨hsame.tablesOk (tablesOk_addSession h hname hdevice hadmits),?_⟩
   intro other hother
   refine hsame.shrinks (shrinks_addSession hdevice ?_)
   rintro rfl
   exact hother hlock
 · rename_i run reservations
   obtain ⟨hvacant,hnodup,hnew⟩:=hwork
   split at hcommit
   · rename_i hfresh
     cases hcommit
     have hfresh:∀r∈t.runs,r.id≠run.id:=by simpa using hfresh
     have hsame:=sameRows_reconcileDevices others (reservations.map DeviceReservation.deviceId)
      {t with runs:=t.runs++[run],reservations:=t.reservations++reservations}
     refine ⟨hsame.tablesOk (tablesOk_addRun h hfresh hnodup fun res hres=>?_),?_⟩
     · exact ⟨hvacant _ (hnew res hres).1,(hnew res hres).2⟩
     · intro device hdevice
       refine hsame.shrinks (shrinks_addRun h hfresh fun res hres heq=>?_)
       exact hdevice (heq ▸ (hnew res hres).1)
   · cases hcommit
 · cases hcommit
   exact ⟨h,fun device _=>shrinks_refl device _⟩
 · cases hcommit
 · cases hcommit
end

lemma Inv.pop (h:Inv s)(htables:TablesOk t)
 (hshrinks:∀tx' y,s.txs.get tx'=some y→tx'≠tx→∀device∈y.locks,Shrinks device s.tables t):
 Inv ⟨t,s.txs.pop tx⟩:=by
 refine ⟨htables,?_,?_⟩
 · intro tx' y hy
   obtain ⟨hne,hold⟩:=get_pop_eq_some hy
   exact (h.txs tx' y hold).shrink (hshrinks tx' y hold hne)
 · intro a b xa xb ha hb
   exact h.locks a b xa xb (get_pop_eq_some ha).2 (get_pop_eq_some hb).2
lemma Inv.shrinkAll (h:Inv s)(htables:TablesOk t)
 (hshrinks:∀device,Shrinks device s.tables t):Inv {s with tables:=t}:=
 ⟨htables,fun tx x hx=>(h.txs tx x hx).shrink fun device _=>hshrinks device,h.locks⟩
lemma Inv.endSession (h:Inv s)(id:RowId)(status:SessionStatus)(now:Instant):
 Inv { s with
  tables:={ s.tables with
   sessions:=s.tables.sessions.map fun row=>
    if row.id=id∧isOpen row then ended row status now else row } }:=by
 have hkept:∀row∈s.tables.sessions.map (fun row=>
   if row.id=id∧isOpen row then ended row status now else row),
   row.testName≠some probeTestName∧(isLive row→ row∈s.tables.sessions):=by
  intro row hrow
  obtain ⟨old,hold,rfl⟩:=List.mem_map.mp hrow
  split
  · refine ⟨h.tables.named old hold,?_⟩
    intro hlive
    rw[isLive,Bool.and_eq_true] at hlive
    cases hlive.2
  · exact ⟨h.tables.named old hold,fun _=>hold⟩
 have hshrinks:∀device,Shrinks device s.tables { s.tables with
   sessions:=s.tables.sessions.map fun row=>
    if row.id=id∧isOpen row then ended row status now else row }:=
  fun device=>⟨(shrinks_refl device s.tables).reservations,fun row hrow hlive _=>
   (hkept row hrow).2 hlive⟩
 exact h.shrinkAll (h.tables.shrink hshrinks h.tables.unexcluded h.tables.runKnown
  fun row hrow=>(hkept row hrow).1) hshrinks
lemma Inv.releaseReservation (h:Inv s)(id:RowId)(now:Instant):
 Inv { s with
  tables:={ s.tables with
   reservations:=s.tables.reservations.map fun res=>
    if res.id=id then {res with releasedAt:=some now} else res } }:=by
 have hkept:∀res∈s.tables.reservations.map (fun res=>
   if res.id=id then {res with releasedAt:=some now} else res),
   res.excluded=false∧(∃run∈s.tables.runs,run.id=res.runId)∧
    (reservationActive res→ res∈s.tables.reservations):=by
  intro res hres
  obtain ⟨old,hold,rfl⟩:=List.mem_map.mp hres
  split
  · exact ⟨h.tables.unexcluded old hold,h.tables.runKnown old hold,nofun⟩
  · exact ⟨h.tables.unexcluded old hold,h.tables.runKnown old hold,fun _=>hold⟩
 have hshrinks:∀device,Shrinks device s.tables { s.tables with
   reservations:=s.tables.reservations.map fun res=>
    if res.id=id then {res with releasedAt:=some now} else res }:=
  fun device=>⟨fun res hres _ hactive=>⟨(hkept res hres).2.2 hactive,fun hrun=>hrun⟩,
   (shrinks_refl device s.tables).sessions⟩
 exact h.shrinkAll (h.tables.shrink hshrinks (fun res hres=>(hkept res hres).1)
  (fun res hres=>(hkept res hres).2.1) h.tables.named) hshrinks

lemma Inv.finishRun (h:Inv s){id:RunId}{state:RunState}(hterminal:isTerminal state):
 Inv { s with
  tables:={ s.tables with
   runs:=s.tables.runs.map fun run=>
    if run.id=id then {run with state:=state} else run } }:=by
 have hlive:∀run,runIsLive { s.tables with
   runs:=s.tables.runs.map fun run=>if run.id=id then {run with state:=state} else run }
    run→ runIsLive s.tables run:=by
  intro run hrun
  obtain ⟨r,hmem,hr⟩:=List.any_eq_true.mp hrun
  obtain ⟨old,hold,rfl⟩:=List.mem_map.mp hmem
  split at hr
  · rw[hterminal,Bool.not_true,Bool.and_false] at hr
    cases hr
  · exact List.any_eq_true.mpr ⟨old,hold,hr⟩
 have hshrinks:∀device,Shrinks device s.tables { s.tables with
   runs:=s.tables.runs.map fun run=>
    if run.id=id then {run with state:=state} else run }:=
  fun device=>⟨fun res hres _ _=>⟨hres,hlive res.runId⟩,(shrinks_refl device s.tables).sessions⟩
 refine h.shrinkAll (h.tables.shrink hshrinks h.tables.unexcluded ?_ h.tables.named) hshrinks
 intro res hres
 obtain ⟨run,hrun,hid⟩:=h.tables.runKnown res hres
 refine ⟨_,List.mem_map_of_mem hrun,?_⟩
 split <;> exact hid

lemma inv_step {s':State}(h:Inv s)(hgate:gateHolds s label)(hstep:step s label=some s'):Inv s':=by
 unfold step at hstep
 split at hstep
 · split at hstep
   · cases hstep
     exact h.openTx ⟨of_decide_eq_true hgate,trivial⟩
   · cases hstep
 · split at hstep
   · cases hstep
     refine h.openTx ?_
     intro device hd
     cases hd
   · cases hstep
 · rename_i tx others
   obtain ⟨x,hx,hmap⟩:=bind_eq_some_iff.mp hstep
   obtain ⟨t,hcommit,rfl⟩:=map_eq_some_iff.mp hmap
   obtain ⟨htables,hshrinks⟩:=commit_spec h.tables (h.txs tx x hx) hcommit
   refine h.pop htables ?_
   intro tx' y hy hne device hlock
   exact hshrinks device fun hmine=>hne (h.locks tx' tx y x hy hx device hlock hmine)
 · split at hstep
   · cases hstep
   · cases hstep
     exact h.pop h.tables fun _ _ _ _ device _=>shrinks_refl device _
 · split at hstep
   · cases hstep
   · cases hstep
     exact h.endSession _ _ _
 · cases hstep
   exact h.releaseReservation _ _
 · split at hstep
   · rename_i hterminal
     cases hstep
     exact h.finishRun hterminal
   · cases hstep
 · obtain ⟨row,-,htouch⟩:=bind_eq_some_iff.mp hstep
   split at htouch
   · cases htouch
     have hsame:∀devices,SameRows s.tables {s.tables with devices:=devices}:=
      fun _=>⟨rfl,rfl,rfl⟩
     exact h.shrinkAll ((hsame _).tablesOk h.tables) fun device=>
      (hsame _).shrinks (shrinks_refl device _)
   · cases htouch
 · obtain ⟨tx,htx,hbind⟩:=bind_eq_some_iff.mp hstep
   obtain ⟨x,hx,hmap⟩:=bind_eq_some_iff.mp hbind
   obtain ⟨x',hx',rfl⟩:=map_eq_some_iff.mp hmap
   split at hx'
   · rename_i hwork
     exact inv_stepClaim h hx hwork htx hgate hx'
   · rename_i hwork
     exact inv_stepRun h hx hwork htx hgate hx'

/-- As long as every lock is granted with the gate as its snapshot showed it, a device held by a run has
live sessions of that run only. -/
theorem reservation_is_exclusive (devices:Dict DeviceId DeviceRow) (labels:List Label) (s:State)
 (hgate:Interleaving.Guarded (fun s label=>gateHolds s label=true) step (init devices) labels)
 (hrun:Interleaving.run step (init devices) labels=some s):
 ∀row∈s.tables.sessions,isLive row=true→∀device,row.deviceId=some device→
  ∀now owner,reservationGatingOwner s.tables device now=some owner→
   row.runId=some owner:=by
 have hinv:Inv s:=Interleaving.run_invariant_guarded Inv (fun _ _ _=>inv_step) (inv_init devices)
  hgate hrun
 intro row hrow hlive device hdevice now owner howner
 obtain ⟨res,hres,rfl⟩:=owner_mem howner
 obtain ⟨hmem,rfl,hactive,hrunLive,-⟩:=mem_gatingReservations.mp hres
 exact hinv.tables.exclusive row hrow hlive res hmem hdevice hactive hrunLive

/-- Nothing but a session keeps the device from being available. -/
def inService:Surroundings:=⟨⟨false,false,false,false,true⟩,true⟩

def oneDevice:Dict DeviceId DeviceRow:=Dict.ofList [(7,⟨.available,0⟩)]
def reservedThenClaimed:List Label:=
 [.createRun 1 [7],.select 1,.selectRow 1 inService,.insertRun 1 1 "nightly" [7] 500 10,
  .commit 1 inService.others,
  .claim 2 ⟨51,some 1,none⟩,.read 2 20 [(7,inService)],.lock 2 20 inService,
  .grant 2 inService,.recheck 2 true,.insertSession 2 100 "alloc-1",.commit 2 inService.others]

theorem reservation_is_exclusive_reservedThenClaimed:
 ∃s,Interleaving.run step (init oneDevice) reservedThenClaimed=some s∧
  s.tables.sessions.map (fun row=>(row.id,row.runId))=[(100,some 1)]∧
  reservationGatingOwner s.tables 7 30=some 1∧
  ∀row∈s.tables.sessions,isLive row=true→∀device,row.deviceId=some device→
   ∀now owner,reservationGatingOwner s.tables device now=some owner→
    row.runId=some owner:=by
 have hseen:(Interleaving.run step (init oneDevice) reservedThenClaimed).map
   (fun s=>(s.tables.sessions.map fun row=>(row.id,row.runId),
    reservationGatingOwner s.tables 7 30))=some ([(100,some 1)],some 1):=by rfl
 obtain ⟨s,hrun,hs⟩:=map_eq_some_iff.mp hseen
 obtain ⟨hsessions,howner⟩:=Prod.mk.inj hs
 exact ⟨s,hrun,hsessions,howner,
  reservation_is_exclusive oneDevice reservedThenClaimed s (by decide) hrun⟩

/-- A free ticket's lock statement starts while the run creation holds the device row, which it does not
write, so the claim goes on with what its snapshot showed. -/
def claimDuringReservation:List Label:=
 [.createRun 1 [7],.select 1,.selectRow 1 inService,
  .claim 2 ⟨51,none,none⟩,.read 2 10 [(7,inService)],.lock 2 10 inService,
  .insertRun 1 1 "nightly" [7] 500 10,.commit 1 inService.others,
  .grant 2 inService,.recheck 2 true,.insertSession 2 100 "alloc-1",.commit 2 inService.others]

theorem claimDuringReservation_breaks_in:
 (Interleaving.run step (init oneDevice) claimDuringReservation).map
  (fun s=>(s.tables.sessions.map fun row=>(row.deviceId,row.runId,isLive row),
   reservationGatingOwner s.tables 7 30))=some ([(some 7,none,true)],some 1):=by
 rfl
end GridFleet.ReservationGate
