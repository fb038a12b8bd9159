import GridFleet.SessionRows
/-! A sweep enumerates the sessions of each Appium node, then reads which devices have a pending row, then
which session ids are known, and terminates what is unknown on devices without a pending row. A create
runs meanwhile: pending row, Appium session, promotion. -/
namespace GridFleet.OrphanSweep
open Dict List Option
open SessionLifecycle (isLive isLiveStatus isOpen ended)
open SessionRows Interleaving

abbrev SweepId:=ℕ

structure Create where
 device:DeviceId
 produced:Option String
 deriving DecidableEq

structure Node where
 desiredState:DesiredState
 target:Option String

structure OrphanCandidate where
 deviceId:DeviceId
 target:String

inductive Enumeration where
 | ids (liveIds:List String)
 | refused
 | transportError

def Enumeration.liveIds:Enumeration→List String
 | .ids liveIds=>liveIds
 | .refused | .transportError=>[]

/-- A sweep in progress, with the session table as each of its two queries saw it. -/
structure Sweep where
 candidates:List OrphanCandidate
 enumerations:Dict DeviceId Enumeration
 pendingRows:Option (Dict RowId Session)
 knownRows:Option (Dict RowId Session)

/-- `appium`: the sessions that each device's Appium process has now. `seen`: all it ever had; their
ids are drawn fresh. -/
structure State where
 rows:Dict RowId Session
 creates:Dict RowId Create
 nodes:Dict DeviceId Node
 appium:List (DeviceId×String)
 seen:List (DeviceId×String)
 sweeps:Dict SweepId Sweep

def loadOrphanTargets (nodes:Dict DeviceId Node):List OrphanCandidate:=
 nodes.entries.filterMap fun p=>
  if p.2.desiredState=.running then p.2.target.map fun target=>⟨p.1,target⟩ else none
def isPending (row:Session):Bool:=decide (row.status=.pending)&&isOpen row
def devicesWithPending (rows:Dict RowId Session):List DeviceId:=
 rows.entries.filterMap fun p=>if isPending p.2 then p.2.deviceId else none
def knownIds (rows:Dict RowId Session)(device:DeviceId):List String:=
 rows.entries.filterMap fun p=>
  if isLive p.2&&decide (p.2.deviceId=some device) then some p.2.sessionId else none

def isOrphan (sweep:Sweep)(device:DeviceId)(sessionId:String):Bool:=
 match sweep.pendingRows,sweep.knownRows with
 | some pendingRows,some knownRows=>
  (sweep.candidates.any fun candidate=>decide (candidate.deviceId=device))&&
   ((sweep.enumerations.get device).any fun answer=>decide (sessionId∈answer.liveIds))&&
   decide (sessionId ∉ knownIds knownRows device)&&
   decide (device ∉ devicesWithPending pendingRows)
 | _,_=>false

inductive Label where
 | setNode (device:DeviceId)(node:Node)
 | claim (id:RowId)(row:Session)
 | issueCreate (id:RowId)
 | produce (id:RowId)(sessionId:String)
 | promote (id:RowId)
 | confirm (id:RowId)
 | failAllocation (id:RowId)(now:Instant)
 | close (id:RowId)(status:SessionStatus)(now:Instant)
 | appiumStart (device:DeviceId)(sessionId:String)
 | appiumEnd (device:DeviceId)(sessionId:String)
 | load (k:SweepId)
 | enumerate (k:SweepId)(device:DeviceId)(answer:Enumeration)
 | readPending (k:SweepId)
 | readKnown (k:SweepId)
 | terminate (k:SweepId)(device:DeviceId)(sessionId:String)(terminated:Bool)
 | finish (k:SweepId)

section
variable (s:State)

def claim (id:RowId)(row:Session):Option State:=
 if (s.rows.get id).isSome then none
 else if !(isPending row&&row.deviceId.isSome) then none
 else if s.rows.entries.any fun p=>isLive p.2&&decide (p.2.deviceId=row.deviceId) then none
 else some {s with rows:=s.rows.set id row}

/-- One create a row, issued while the row is pending. -/
def issueCreate (id:RowId):Option State:=
 (s.rows.get id).bind fun row=>
  row.deviceId.bind fun device=>
   if isPending row&&(s.creates.get id).isNone then
    some {s with creates:=s.creates.set id ⟨device,none⟩}
   else none

/-- Appium makes the session of an issued create, whatever has become of the row by then. -/
def produce (id:RowId)(sessionId:String):Option State:=
 (s.creates.get id).bind fun create=>
  if create.produced.isNone&&decide ((create.device,sessionId) ∉ s.seen) then
   some { s with
    creates:=s.creates.set id ⟨create.device,some sessionId⟩
    appium:=(create.device,sessionId)::s.appium
    seen:=(create.device,sessionId)::s.seen }
  else none

def updateRow (id:RowId)(guard:Session→Bool)(set:Session→Session):State:=
 {s with rows:=s.rows.map fun k row=>if k=id&&guard row then set row else row}
def storeSessionId (id:RowId)(guard:Session→Bool):Option State:=
 (s.creates.get id).bind fun create=>
  create.produced.map fun sessionId=>
   updateRow s id guard fun row=>{row with sessionId:=sessionId,status:=.running}
def onSweep (k:SweepId)(f:Sweep→Option Sweep):Option State:=
 (s.sweeps.get k).bind fun sweep=>
  (f sweep).map fun sweep'=>{s with sweeps:=s.sweeps.set k sweep'}
def enumerate (device:DeviceId)(answer:Enumeration)(sweep:Sweep):Option Sweep:=
 if sweep.pendingRows.isNone&&
   (sweep.candidates.any fun candidate=>decide (candidate.deviceId=device))&&
   answer.liveIds.all fun sessionId=>decide ((device,sessionId)∈s.appium) then
  some {sweep with enumerations:=sweep.enumerations.set device answer}
 else none
def readPending (sweep:Sweep):Option Sweep:=
 if sweep.pendingRows.isNone&&
   sweep.candidates.all fun candidate=>(sweep.enumerations.get candidate.deviceId).isSome then
  some {sweep with pendingRows:=some s.rows}
 else none
def readKnown (sweep:Sweep):Option Sweep:=
 if sweep.pendingRows.isSome&&sweep.knownRows.isNone then
  some {sweep with knownRows:=some s.rows}
 else none

def step:Label→Option State
 | .setNode device node=>some {s with nodes:=s.nodes.set device node}
 | .claim id row=>claim s id row
 | .issueCreate id=>issueCreate s id
 | .produce id sessionId=>produce s id sessionId
 | .promote id=>storeSessionId s id fun row=>decide (row.status=.pending)
 | .confirm id=>storeSessionId s id isPending
 | .failAllocation id now=>
  some (updateRow s id (fun row=>decide (row.status=.pending)) fun row=>ended row .error now)
 | .close id status now=>some (updateRow s id isOpen fun row=>ended row status now)
 | .appiumStart device sessionId=>
  if (device,sessionId)∈s.seen then none
  else some { s with
   appium:=(device,sessionId)::s.appium
   seen:=(device,sessionId)::s.seen }
 | .appiumEnd device sessionId=>
  some {s with appium:=s.appium.filter fun p=>decide (p≠(device,sessionId))}
 | .load k=>
  if (s.sweeps.get k).isSome then none
  else some {s with sweeps:=s.sweeps.set k ⟨loadOrphanTargets s.nodes,.empty,none,none⟩}
 | .enumerate k device answer=>onSweep s k (enumerate s device answer)
 | .readPending k=>onSweep s k (readPending s)
 | .readKnown k=>onSweep s k (readKnown s)
 | .terminate k device sessionId terminated=>(s.sweeps.get k).bind fun sweep=>
   if isOrphan sweep device sessionId then
    some { s with appium:=
     if terminated then s.appium.filter fun p=>decide (p≠(device,sessionId)) else s.appium }
   else none
 | .finish k=>some {s with sweeps:=s.sweeps.pop k}
end

/-- The row whose create produced the session: while it is live it is pending, or running with the
session. -/
def Tracked (rows:Dict RowId Session)(device:DeviceId)(sessionId:String)(id:RowId):Prop:=
 ∃row,rows.get id=some row∧
  (isLive row→ row.deviceId=some device∧
   (isPending row∨row.status=.running∧row.sessionId=sessionId))

/-- The enumerated sessions exist or did; the tables the queries saw are earlier ones, in this order, and
the row of every enumerated session that a create had produced was tracked in the first. -/
structure SweepOk (s:State)(sweep:Sweep):Prop where
 sequence:sweep.pendingRows=none→sweep.knownRows=none
 seen:∀device answer sessionId,sweep.enumerations.get device=some answer→
  sessionId∈answer.liveIds→(device,sessionId)∈s.seen
 pendingLater:∀pendingRows,sweep.pendingRows=some pendingRows→RowsLater pendingRows s.rows
 knownLater:∀knownRows,sweep.knownRows=some knownRows→RowsLater knownRows s.rows
 ordered:∀pendingRows knownRows,sweep.pendingRows=some pendingRows→
  sweep.knownRows=some knownRows→RowsLater pendingRows knownRows
 tracked:∀pendingRows,sweep.pendingRows=some pendingRows→∀device answer sessionId id,
  sweep.enumerations.get device=some answer→sessionId∈answer.liveIds→
  s.creates.get id=some ⟨device,some sessionId⟩→Tracked pendingRows device sessionId id

structure Inv (s:State):Prop where
 issued:∀id device,s.creates.get id=some ⟨device,none⟩→
  ∃row,s.rows.get id=some row∧
   (isLive row→ row.deviceId=some device∧isPending row)
 produced:∀id device sessionId,s.creates.get id=some ⟨device,some sessionId⟩→
  (device,sessionId)∈s.seen∧Tracked s.rows device sessionId id
 present:∀device sessionId,(device,sessionId)∈s.appium→(device,sessionId)∈s.seen
 sweeps:∀k sweep,s.sweeps.get k=some sweep→SweepOk s sweep

section
variable {s:State}

lemma SweepOk.rows {sweep:Sweep}(h:SweepOk s sweep){rows:Dict RowId Session}
 (hlater:RowsLater s.rows rows):SweepOk {s with rows:=rows} sweep:=
 { h with
  pendingLater pendingRows hpending:=(h.pendingLater pendingRows hpending).trans hlater
  knownLater knownRows hknown:=(h.knownLater knownRows hknown).trans hlater }
lemma Inv.rows (h:Inv s){rows:Dict RowId Session}(hlater:RowsLater s.rows rows)
 (hissued:∀id device,s.creates.get id=some ⟨device,none⟩→∀row',rows.get id=some row'→
  isLive row'→s.rows.get id=some row')
 (hproduced:∀id device sessionId,s.creates.get id=some ⟨device,some sessionId⟩→
  ∀row',rows.get id=some row'→isLive row'→
   s.rows.get id=some row'∨row'.status=.running∧row'.sessionId=sessionId):
 Inv {s with rows:=rows} where
 issued id device hcreate:=by
  obtain ⟨row,hrow,hpending⟩:=h.issued id device hcreate
  obtain ⟨row',hrow',-⟩:=hlater id row hrow
  refine ⟨row',hrow',fun hlive=>?_⟩
  cases hrow.symm.trans (hissued id device hcreate row' hrow' hlive)
  exact hpending hlive
 produced id device sessionId hcreate:=by
  obtain ⟨hseen,row,hrow,htracked⟩:=h.produced id device sessionId hcreate
  obtain ⟨row',hrow',hrowLater⟩:=hlater id row hrow
  refine ⟨hseen,row',hrow',fun hlive=>?_⟩
  rcases hproduced id device sessionId hcreate row' hrow' hlive with hsame|hrunning
  · cases hrow.symm.trans hsame
    exact htracked hlive
  · obtain ⟨hold,hdevice,-⟩:=hrowLater hlive
    exact ⟨hdevice.trans (htracked hold).1,.inr hrunning⟩
 present:=h.present
 sweeps k sweep hsweep:=(h.sweeps k sweep hsweep).rows hlater
lemma Inv.endRows (h:Inv s)(id:RowId)(guard:Session→Bool)(status:SessionStatus)(now:Instant):
 Inv (updateRow s id guard fun row=>ended row status now):=by
 have hsame:∀k row',(updateRow s id guard fun row=>ended row status now).rows.get k=some row'→
   isLive row'→s.rows.get k=some row':=by
  intro k row' hget hlive
  obtain ⟨row,hrow,rfl⟩:=get_map_eq_some hget
  split at hlive
  · rw[isLive_ended] at hlive
    cases hlive
  · rename_i hkept
    rw[if_neg hkept]
    exact hrow
 apply h.rows
 · apply rowsLater_map
   intro k row
   split
   · exact rowLater_ended row status now
   · exact rowLater_refl row
 · intro k device _ row' hget hlive
   exact hsame k row' hget hlive
 · intro k device sessionId _ row' hget hlive
   exact .inl (hsame k row' hget hlive)

lemma Inv.storeSessionId (h:Inv s){id:RowId}{guard:Session→Bool}{s':State}
 (hguard:∀row,guard row→ row.status=.pending)(hstep:storeSessionId s id guard=some s'):Inv s':=by
 obtain ⟨create,hcreate,hrest⟩:=bind_eq_some_iff.mp hstep
 obtain ⟨sessionId,hproduced,rfl⟩:=map_eq_some_iff.mp hrest
 have hown:s.creates.get id=some ⟨create.device,some sessionId⟩:=by
  rw[hcreate,←hproduced]
 have hsame:∀k row',(s.rows.map fun k row=>
   if k=id&&guard row then {row with sessionId:=sessionId,status:=.running} else row).get k =
    some row'→s.rows.get k=some row'∨
     k=id∧row'.status=.running∧row'.sessionId=sessionId:=by
  intro k row' hget
  obtain ⟨row,hrow,rfl⟩:=get_map_eq_some hget
  split
  · rename_i hset
    exact .inr ⟨by simpa using (Bool.and_eq_true_iff.mp hset).1,rfl,rfl⟩
  · exact .inl hrow
 apply h.rows
 · apply rowsLater_map
   intro k row
   split
   · rename_i hset
     exact rowLater_promoted (hguard row (Bool.and_eq_true_iff.mp hset).2) sessionId
   · exact rowLater_refl row
 · intro k device hissued row' hget _
   rcases hsame k row' hget with hold|⟨rfl,-⟩
   · exact hold
   · cases hown.symm.trans hissued
 · intro k device other hother row' hget _
   rcases hsame k row' hget with hold|⟨rfl,hstored⟩
   · exact .inl hold
   · cases hown.symm.trans hother
     exact .inr hstored

lemma Inv.claim (h:Inv s){id:RowId}{row:Session}{s':State}(hstep:claim s id row=some s'):Inv s':=by
 unfold OrphanSweep.claim at hstep
 split at hstep
 · cases hstep
 rename_i hfresh
 split at hstep
 · cases hstep
 split at hstep
 · cases hstep
 cases hstep
 have hnone:s.rows.get id=none:=by simpa using hfresh
 have hold:∀k old row',s.rows.get k=some old→(s.rows.set id row).get k=some row'→
   s.rows.get k=some row':=by
  intro k old row' hk hget
  rcases get_set_eq_some hget with ⟨rfl,-⟩|⟨-,hget'⟩
  · rw[hnone] at hk
    cases hk
  · exact hget'
 apply h.rows (rowsLater_insert row hnone)
 · intro k device hcreate row' hget _
   obtain ⟨old,hk,-⟩:=h.issued k device hcreate
   exact hold k old row' hk hget
 · intro k device sessionId hcreate row' hget _
   obtain ⟨-,old,hk,-⟩:=h.produced k device sessionId hcreate
   exact .inl (hold k old row' hk hget)
end

section
variable {s:State}

variable {s':State}{sweep sweep':Sweep}

lemma SweepOk.congr (h:SweepOk s sweep)(hrows:s'.rows=s.rows)(hcreates:s'.creates=s.creates)
 (hseen:s'.seen=s.seen):SweepOk s' sweep:=
 { h with
  seen:=hseen ▸ h.seen
  pendingLater:=hrows ▸ h.pendingLater
  knownLater:=hrows ▸ h.knownLater
  tracked:=hcreates ▸ h.tracked }
lemma Inv.issueCreate (h:Inv s){id:RowId}(hstep:issueCreate s id=some s'):Inv s':=by
 obtain ⟨row,hrow,hrest⟩:=bind_eq_some_iff.mp hstep
 obtain ⟨device,hdevice,hrest⟩:=bind_eq_some_iff.mp hrest
 split at hrest
 · rename_i hpending
   cases hrest
   refine ⟨?_,?_,h.present,?_⟩
   · intro k other hcreate
     rcases get_set_eq_some hcreate with ⟨rfl,heq⟩|⟨-,hold⟩
     · cases heq
       exact ⟨row,hrow,fun _=>⟨hdevice,(Bool.and_eq_true_iff.mp hpending).1⟩⟩
     · exact h.issued k other hold
   · intro k other sessionId hcreate
     rcases get_set_eq_some hcreate with ⟨-,heq⟩|⟨-,hold⟩
     · cases heq
     · exact h.produced k other sessionId hold
   · intro k sweep hsweep
     have hok:=h.sweeps k sweep hsweep
     refine {hok with tracked:=?_}
     intro pendingRows hrows other answer sessionId j hanswer hmem hcreate
     rcases get_set_eq_some hcreate with ⟨-,heq⟩|⟨-,hold⟩
     · cases heq
     · exact hok.tracked pendingRows hrows other answer sessionId j hanswer hmem hold
 · cases hrest
lemma SweepOk.mono (h:SweepOk s sweep){appium seen:List (DeviceId×String)}
 (hseen:∀p∈s.seen,p∈seen):SweepOk {s with appium:=appium,seen:=seen} sweep:=
 { h with
  seen device answer sessionId hanswer hmem:=hseen _ (h.seen device answer sessionId hanswer hmem) }

section
variable (h:Inv s)
include h

lemma Inv.appium {appium seen:List (DeviceId×String)}
 (hseen:∀p∈s.seen,p∈seen)(hpresent:∀p∈appium,p∈seen):Inv {s with appium:=appium,seen:=seen} where
 issued:=h.issued
 produced id device sessionId hcreate:=by
  obtain ⟨hmem,htracked⟩:=h.produced id device sessionId hcreate
  exact ⟨hseen _ hmem,htracked⟩
 present device sessionId hmem:=hpresent _ hmem
 sweeps k sweep hsweep:=(h.sweeps k sweep hsweep).mono hseen
lemma Inv.appiumStart (p:DeviceId×String):Inv {s with appium:=p::s.appium,seen:=p::s.seen}:=by
 apply h.appium
 · intro q hq
   exact mem_cons_of_mem _ hq
 · intro q hq
   rcases mem_cons.mp hq with rfl|hq
   · exact mem_cons_self
   · exact mem_cons_of_mem _ (h.present _ _ hq)

lemma Inv.produce {id:RowId}{sessionId:String}(hstep:produce s id sessionId=some s'):Inv s':=by
 obtain ⟨create,hcreate,hrest⟩:=bind_eq_some_iff.mp hstep
 split at hrest
 · rename_i hfresh
   cases hrest
   obtain ⟨hissued,hunseen⟩:=Bool.and_eq_true_iff.mp hfresh
   have hunseen':(create.device,sessionId) ∉ s.seen:=by simpa using hunseen
   have hown:s.creates.get id=some ⟨create.device,none⟩:=by
    rw[hcreate,←isNone_iff_eq_none.mp hissued]
   have hinv:=h.appiumStart (create.device,sessionId)
   refine ⟨?_,?_,hinv.present,?_⟩
   · intro k device hget
     rcases get_set_eq_some hget with ⟨-,heq⟩|⟨-,hold⟩
     · cases heq
     · exact hinv.issued k device hold
   · intro k device other hget
     rcases get_set_eq_some hget with ⟨rfl,heq⟩|⟨-,hold⟩
     · cases heq
       obtain ⟨row,hrow,hpending⟩:=h.issued k create.device hown
       exact ⟨mem_cons_self,row,hrow,fun hlive=>
        ⟨(hpending hlive).1,.inl (hpending hlive).2⟩⟩
     · exact hinv.produced k device other hold
   · intro k sweep hsweep
     have hok:=hinv.sweeps k sweep hsweep
     refine {hok with tracked:=?_}
     intro pendingRows hrows device answer other j hanswer hmem hget
     rcases get_set_eq_some hget with ⟨rfl,heq⟩|⟨-,hold⟩
     · -- the new session was not there when the sweep enumerated
       cases heq
       exact absurd ((h.sweeps k sweep hsweep).seen _ answer _ hanswer hmem) hunseen'
     · exact hok.tracked pendingRows hrows device answer other j hanswer hmem hold
 · cases hrest

lemma Inv.setSweep {k:SweepId}(hok:SweepOk s sweep):Inv {s with sweeps:=s.sweeps.set k sweep}:=
 { h with
  sweeps:=forall_get_set (hok.congr rfl rfl rfl) fun j other hold=>
   (h.sweeps j other hold).congr rfl rfl rfl }
lemma Inv.onSweep {k:SweepId}{f:Sweep→Option Sweep}
 (hf:∀sweep sweep',SweepOk s sweep→f sweep=some sweep'→SweepOk s sweep')
 (hstep:onSweep s k f=some s'):Inv s':=by
 obtain ⟨sweep,hsweep,hrest⟩:=bind_eq_some_iff.mp hstep
 obtain ⟨sweep',hsweep',rfl⟩:=map_eq_some_iff.mp hrest
 exact h.setSweep (hf sweep sweep' (h.sweeps k sweep hsweep) hsweep')
lemma sweepOk_enumerate {device:DeviceId}{answer:Enumeration}(hok:SweepOk s sweep)
 (henumerate:enumerate s device answer sweep=some sweep'):SweepOk s sweep':=by
 unfold enumerate at henumerate
 split at henumerate
 · rename_i hchecks
   cases henumerate
   obtain ⟨hearly,hlisted⟩:=Bool.and_eq_true_iff.mp hchecks
   have hnone:sweep.pendingRows=none:=by
    simpa using (Bool.and_eq_true_iff.mp hearly).1
   refine ⟨hok.sequence,?_,hok.pendingLater,hok.knownLater,hok.ordered,?_⟩
   · intro d other sessionId hget hmem
     rcases get_set_eq_some hget with ⟨rfl,rfl⟩|⟨-,hold⟩
     · have hlive:=List.all_eq_true.mp hlisted sessionId hmem
       exact h.present _ _ (by simpa using hlive)
     · exact hok.seen d other sessionId hold hmem
   · intro pendingRows hrows
     have hsome:sweep.pendingRows=some pendingRows:=hrows
     rw[hnone] at hsome
     cases hsome
 · cases henumerate
lemma sweepOk_readPending (hok:SweepOk s sweep)(hread:readPending s sweep=some sweep'):
 SweepOk s sweep':=by
 unfold readPending at hread
 split at hread
 · rename_i hchecks
   cases hread
   have hknown:sweep.knownRows=none:=
    hok.sequence (by simpa using (Bool.and_eq_true_iff.mp hchecks).1)
   refine ⟨fun _=>hknown,hok.seen,?_,hok.knownLater,?_,?_⟩
   · intro pendingRows hrows
     cases hrows
     exact rowsLater_refl _
   · intro pendingRows knownRows _ hrows
     have hsome:sweep.knownRows=some knownRows:=hrows
     rw[hknown] at hsome
     cases hsome
   · intro pendingRows hrows device answer sessionId id _ _ hcreate
     cases hrows
     exact (h.produced id device sessionId hcreate).2
 · cases hread
end

lemma sweepOk_readKnown (hok:SweepOk s sweep)(hread:readKnown s sweep=some sweep'):
 SweepOk s sweep':=by
 unfold readKnown at hread
 split at hread
 · rename_i hchecks
   cases hread
   have hpendingRead:sweep.pendingRows≠none:=by
    simpa[isSome_iff_ne_none] using (Bool.and_eq_true_iff.mp hchecks).1
   refine ⟨fun hnone=>absurd hnone hpendingRead,hok.seen,hok.pendingLater,?_,?_,hok.tracked⟩
   · intro knownRows hrows
     cases hrows
     exact rowsLater_refl _
   · intro pendingRows knownRows hpending hrows
     cases hrows
     exact hok.pendingLater pendingRows hpending
 · cases hread

lemma inv_step {label:Label}(h:Inv s)(hstep:step s label=some s'):Inv s':=by
 cases label with
 | setNode=>
  cases hstep
  refine {h with sweeps:=?_}
  intro k sweep hsweep
  exact (h.sweeps k sweep hsweep).congr rfl rfl rfl
 | claim=>exact h.claim hstep
 | issueCreate=>exact h.issueCreate hstep
 | produce=>exact h.produce hstep
 | promote=>exact h.storeSessionId (fun row hguard=>by simpa using hguard) hstep
 | confirm=>
  refine h.storeSessionId ?_ hstep
  intro row hguard
  simpa using (Bool.and_eq_true_iff.mp hguard).1
 | failAllocation id now=>
  cases hstep
  exact h.endRows id _ .error now
 | close id status now=>
  cases hstep
  exact h.endRows id _ status now
 | appiumStart device sessionId=>
  simp only[step] at hstep
  split at hstep
  · cases hstep
  cases hstep
  exact h.appiumStart (device,sessionId)
 | appiumEnd=>
  cases hstep
  refine h.appium (fun p hp=>hp) ?_
  intro p hp
  exact h.present _ _ (mem_filter.mp hp).1
 | load=>
  simp only[step] at hstep
  split at hstep
  · cases hstep
  cases hstep
  apply h.setSweep
  refine ⟨fun _=>rfl,?_,?_,?_,?_,?_⟩
  · intro device answer sessionId hget
    cases hget
  · intro pendingRows hrows
    cases hrows
  · intro knownRows hrows
    cases hrows
  · intro pendingRows knownRows hrows
    cases hrows
  · intro pendingRows hrows
    cases hrows
 | enumerate=>exact h.onSweep (fun _ _ hok=>sweepOk_enumerate h hok) hstep
 | readPending=>exact h.onSweep (fun _ _ hok=>sweepOk_readPending h hok) hstep
 | readKnown=>exact h.onSweep (fun _ _ hok=>sweepOk_readKnown hok) hstep
 | terminate=>
  obtain ⟨sweep,-,hrest⟩:=bind_eq_some_iff.mp hstep
  split at hrest
  · cases hrest
    refine h.appium (fun p hp=>hp) ?_
    intro p hp
    split at hp
    · exact h.present _ _ (mem_filter.mp hp).1
    · exact h.present _ _ hp
  · cases hrest
 | finish=>
  cases hstep
  refine {h with sweeps:=?_}
  intro j sweep hsweep
  exact (h.sweeps j sweep (get_pop_eq_some hsweep).2).congr rfl rfl rfl
end

variable {device:DeviceId}{id:RowId}

lemma mem_devicesWithPending {rows:Dict RowId Session}{row:Session}(hrow:rows.get id=some row)
 (hpending:isPending row)(hdevice:row.deviceId=some device):device∈devicesWithPending rows:=by
 apply mem_filterMap.mpr
 refine ⟨(id,row),get_eq_some_iff.mp hrow,?_⟩
 rw[if_pos hpending,hdevice]
lemma mem_knownIds {rows:Dict RowId Session}{row:Session}(hrow:rows.get id=some row)
 (hlive:isLive row)(hdevice:row.deviceId=some device):row.sessionId∈knownIds rows device:=by
 apply mem_filterMap.mpr
 refine ⟨(id,row),get_eq_some_iff.mp hrow,?_⟩
 simp[hlive,hdevice]

lemma Inv.ended_of_orphan {s:State}(h:Inv s){k:SweepId}{sweep:Sweep}{sessionId:String}
 {pendingRows knownRows:Dict RowId Session}(hsweep:s.sweeps.get k=some sweep)
 (hpending:sweep.pendingRows=some pendingRows)(hknown:sweep.knownRows=some knownRows)
 {answer:Enumeration}(hanswer:sweep.enumerations.get device=some answer)
 (hmem:sessionId∈answer.liveIds)(hunknown:sessionId ∉ knownIds knownRows device)
 (hnone:device ∉ devicesWithPending pendingRows)
 (hcreate:s.creates.get id=some ⟨device,some sessionId⟩):
 ∃row,s.rows.get id=some row∧isLive row=false:=by
 have hok:=h.sweeps k sweep hsweep
 obtain ⟨row,hrow,htracked⟩:=
  hok.tracked pendingRows hpending device answer sessionId id hanswer hmem hcreate
 obtain ⟨known,hknownRow,hlater⟩:=hok.ordered pendingRows knownRows hpending hknown id row hrow
 -- live at the known-ids query, the row would have been pending or known
 have hended:isLive known=false:=by
  by_contra hnot
  have hlive:isLive known:=by simpa using hnot
  obtain ⟨hrowLive,hdevice,hrunning⟩:=hlater hlive
  obtain ⟨hrowDevice,hpendingRow|⟨hstatus,hid⟩⟩:=htracked hrowLive
  · exact hnone (mem_devicesWithPending hrow hpendingRow hrowDevice)
  · have hmemKnown:=mem_knownIds hknownRow hlive (hdevice.trans hrowDevice)
    rw[(hrunning hstatus).2,hid] at hmemKnown
    exact hunknown hmemKnown
 obtain ⟨now,hnow,hlaterNow⟩:=hok.knownLater knownRows hknown id known hknownRow
 refine ⟨now,hnow,?_⟩
 by_contra hnot
 have hlive:=(hlaterNow (by simpa using hnot)).1
 rw[hended] at hlive
 cases hlive

/-- No live row of the device had the session's id and none was pending when the sweep read them, and the
row whose create produced the session, if there is one, is not live. -/
structure Untracked (s:State)(sweep:Sweep)(device:DeviceId)(sessionId:String):Prop where
 unknown:∃knownRows,sweep.knownRows=some knownRows∧∀id row,knownRows.get id=some row→
  row.deviceId=some device→isLive row→ row.sessionId≠sessionId
 notPending:∃pendingRows,sweep.pendingRows=some pendingRows∧∀id row,
  pendingRows.get id=some row→ row.deviceId=some device→isPending row=false
 ended:∀id,s.creates.get id=some ⟨device,some sessionId⟩→
  ∃row,s.rows.get id=some row∧isLive row=false

lemma Inv.untracked {s:State}(h:Inv s){k:SweepId}{sweep:Sweep}{sessionId:String}
 (hsweep:s.sweeps.get k=some sweep)(horphan:isOrphan sweep device sessionId):
 Untracked s sweep device sessionId:=by
 unfold isOrphan at horphan
 split at horphan
 · rename_i pendingRows knownRows hpending hknown
   simp only[Bool.and_eq_true,decide_eq_true_eq] at horphan
   obtain ⟨⟨⟨-,hlisted⟩,hunknown⟩,hnone⟩:=horphan
   obtain ⟨answer,hanswer,hmem⟩:=(Option.any_eq_true _ _).mp hlisted
   refine ⟨⟨knownRows,hknown,?_⟩,⟨pendingRows,hpending,?_⟩,?_⟩
   · intro id row hrow hdevice hlive heq
     have hmemKnown:=mem_knownIds hrow hlive hdevice
     rw[heq] at hmemKnown
     exact hunknown hmemKnown
   · intro id row hrow hdevice
     by_contra hnot
     exact hnone (mem_devicesWithPending hrow (by simpa using hnot) hdevice)
   · intro id hcreate
     exact h.ended_of_orphan hsweep hpending hknown hanswer (by simpa using hmem) hunknown hnone hcreate
 · cases horphan

structure Idle (s:State):Prop where
 creates:s.creates=Dict.empty
 sweeps:s.sweeps=Dict.empty
 present:∀p∈s.appium,p∈s.seen

lemma Idle.inv {s:State}(h:Idle s):Inv s where
 issued id device hcreate:=by
  rw[h.creates] at hcreate
  cases hcreate
 produced id device sessionId hcreate:=by
  rw[h.creates] at hcreate
  cases hcreate
 present device sessionId hmem:=h.present _ hmem
 sweeps k sweep hsweep:=by
  rw[h.sweeps] at hsweep
  cases hsweep

theorem terminated_session_untracked {initial s s':State} {labels:List Label} {k:SweepId}
 {device:DeviceId} {sessionId:String} {terminated:Bool} (hidle:Idle initial)
 (hrun:run step initial labels=some s)
 (hstep:step s (.terminate k device sessionId terminated)=some s'):
 ∃sweep,s.sweeps.get k=some sweep∧Untracked s sweep device sessionId:=by
 have hinv:Inv s:=run_invariant Inv (fun _ _ _ hu hnext=>inv_step hu hnext) hidle.inv hrun
 obtain ⟨sweep,hsweep,hrest⟩:=bind_eq_some_iff.mp hstep
 split at hrest
 · rename_i horphan
   exact ⟨sweep,hsweep,hinv.untracked hsweep horphan⟩
 · cases hrest

def oneNode:State where
 rows:=Dict.empty
 creates:=Dict.empty
 nodes:=Dict.ofList [(5,⟨.running,some "http://h:4723"⟩)]
 appium:=[]
 seen:=[]
 sweeps:=Dict.empty

lemma oneNode_idle:Idle oneNode where
 creates:=rfl
 sweeps:=rfl
 present _ hmem:=by cases hmem

/-- The reaper fails the row of a create after Appium has made the session. -/
def reapedCreate:List Label:=
 [.claim 1 ⟨1, "alloc-1",some 5,none,.pending,none,some 11,none⟩,.issueCreate 1,.load 9,
  .produce 1 "A",.enumerate 9 5 (.ids ["A"]),.failAllocation 1 100,.readPending 9,.readKnown 9]

def reaped:State:=(run step oneNode reapedCreate).getD oneNode

theorem terminated_session_untracked_reaped:
 (5, "A")∈reaped.appium∧reaped.creates.get 1=some ⟨5,some "A"⟩∧
  ∃sweep,reaped.sweeps.get 9=some sweep∧Untracked reaped sweep 5 "A" :=by
 have hrun:run step oneNode reapedCreate=some reaped:=rfl
 have hstep:step reaped (.terminate 9 5 "A" true)=some {reaped with appium:=[]}:=rfl
 refine ⟨by decide,by decide,?_⟩
 exact terminated_session_untracked oneNode_idle hrun hstep
end GridFleet.OrphanSweep
