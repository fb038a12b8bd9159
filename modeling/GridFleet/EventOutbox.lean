import GridFleet.Dict
import GridFleet.KeysetPage
/-! The system-event outbox. Row ids are taken from a sequence before their transactions commit, so a
forward scan can pass over ids that become visible later. The bus keeps a frontier, the gaps its scans
passed over and a pruned map of dispatched rows. Times are milliseconds. -/
namespace GridFleet.EventOutbox
open Option

def pollScanChunkSize:ℕ:=500
def pollStatementTimeout:ℕ:=1500
def idleInTransactionBound:ℕ:=60000
def gapRetirement:ℕ:=idleInTransactionBound*2
def dedupeGrace:ℕ:=300000

structure Bus where
 /-- `_last_seen_system_event_id`. -/
 frontier:ℕ
 pendingGaps:Dict ℕ ℕ
 dispatchedRowIds:Dict ℕ ℕ
 /-- History: every dispatch and every recorded gap of this process, with its instant. -/
 log:List (ℕ×ℕ)
 gapLog:List (ℕ×ℕ)

def Bus.empty:Bus:=⟨0,.empty,.empty,[],[]⟩
def Bus.rows (b:Bus):List ℕ:=b.log.map Prod.fst
def Bus.pruneDispatchedRowIds (now:ℕ)(b:Bus):Bus:=
 {b with dispatchedRowIds:=b.dispatchedRowIds.filter fun _ at_=>decide (now<at_+dedupeGrace)}

/-- The membership check, the record and the dispatch of one row, with no await between them. -/
def Bus.dispatchRow (now:ℕ)(b:Bus)(row:ℕ):Bus:=
 match b.dispatchedRowIds.get row with
 | some _=>b
 | none=>{ b with
   dispatchedRowIds:=b.dispatchedRowIds.set row now
   pendingGaps:=b.pendingGaps.pop row
   log:=(row,now)::b.log }

def Bus.dispatchNewRows (now:ℕ)(b:Bus)(rows:List ℕ):Bus:=rows.foldl (Bus.dispatchRow now) b
def Bus.recordGap (now:ℕ)(observed:List ℕ)(b:Bus)(row:ℕ):Bus:=
 if row∈observed∨row∈b.dispatchedRowIds.keys∨row∈b.pendingGaps.keys then b
 else { b with
  pendingGaps:=b.pendingGaps.set row now
  gapLog:=(row,now)::b.gapLog }
def Bus.recordNewGaps (now:ℕ)(observed:List ℕ)(frontier:ℕ)(b:Bus):Bus:=
 (List.range' (b.frontier+1) (frontier-b.frontier)).foldl (Bus.recordGap now observed) b

structure Retirement where
 row:ℕ
 firstSeen:ℕ
 retiredAt:ℕ
 lookup:List ℕ

def retireGap (now:ℕ)(lookup:List ℕ)(acc:Bus×List Retirement)(gap:ℕ):Bus×List Retirement:=
 if gap∈lookup then acc
 else match acc.1.pendingGaps.get gap with
  | none=>acc
  | some firstSeen=>
   if now<firstSeen+gapRetirement then acc
   else ({acc.1 with pendingGaps:=acc.1.pendingGaps.pop gap},
    ⟨gap,firstSeen,now,lookup⟩::acc.2)

/-- The part of `_resolve_pending_gaps` after its query returned `lookup`. -/
def retireGaps (now:ℕ)(gapIds lookup:List ℕ)(acc:Bus×List Retirement):Bus×List Retirement:=
 gapIds.foldl (retireGap now lookup) acc

structure Scan where
 cursor:ℕ
 pending:List ℕ
 observed:List ℕ

/-- A `Seen` phase is a statement the database has executed and whose result is not processed yet.
`issued` is when a statement was sent; the first one of a session waits for a connection, so only its
execution, `readAt`, is known. -/
inductive Phase where
 | idle
 | lookup (gapIds:List ℕ)
 | lookupSeen (gapIds rows:List ℕ)(readAt:ℕ)
 | scanStart
 | page (scan:Scan)
 | pageSeen (scan:Scan)(ids:List ℕ)(readAt:ℕ)
 | hydrate (scan:Scan)(ids undispatched:List ℕ)(issued:ℕ)
 | hydrateSeen (scan:Scan)(ids rows:List ℕ)(issued:ℕ)
 | closing (scan:Scan)(issued:ℕ)

/-- The last four fields only record history: the rows committed and retired when the poll
began, whether its gap lookup failed, and when its latest page was read. -/
structure Poll where
 phase:Phase
 begun:List ℕ
 retiredBefore:List ℕ
 lookupFailed:Bool
 pageReadAt:ℕ

/-- `start` seeds the frontier with the highest visible id, read at `readAt`. -/
inductive Startup where
 | stopped
 | seeding (latest readAt:ℕ)
 | started
 deriving DecidableEq

structure State where
 now:ℕ
 assigned:ℕ
 inFlight:List ℕ
 committed:List ℕ
 bus:Bus
 startup:Startup
 seed:ℕ
 /-- Notified rows the listener has loaded and not yet handed to the bus. -/
 loaded:List ℕ
 poll:Poll
 retired:List Retirement
 /-- For each poll none of whose statements failed: rows committed and rows retired before it. -/
 successes:List (List ℕ×List ℕ)

def boot (now assigned:ℕ)(inFlight committed:List ℕ):State where
 now:=now
 assigned:=assigned
 inFlight:=inFlight
 committed:=committed
 bus:=.empty
 startup:=.stopped
 seed:=0
 loaded:=[]
 poll:=⟨.idle,[],[],false,0⟩
 retired:=[]
 successes:=[]

inductive Label where
 | tick (duration:ℕ)
 | takeId
 | commit (row:ℕ)
 | rollback (row:ℕ)
 | seedRead
 | start
 | load (row:ℕ)
 | lose (row:ℕ)
 | deliver (row:ℕ)
 | pollBegin
 | lookupRead
 | lookupReturns
 | lookupFails
 | scanBegin
 | pageRead
 | pageReturns
 | hydrateRead
 | hydrateReturns
 | scanFails
 | scanCloses

/-- `SELECT id WHERE id > cursor ORDER BY id LIMIT chunk` over the rows committed now. -/
def scanPage (committed:List ℕ)(cursor:ℕ):List ℕ:=
 KeysetPage.page committed cursor pollScanChunkSize

def State.retiredRows (s:State):List ℕ:=s.retired.map Retirement.row
def State.setPhase (s:State)(phase:Phase):State:=
 { s with poll:={s.poll with phase:=phase} }
def start (s:State)(latest:ℕ):State:=
 { s with
   bus:={s.bus with frontier:=latest}.pruneDispatchedRowIds s.now
   startup:=.started
   seed:=latest }

def pollBegin (s:State):State:=
 { s with poll:={
    phase:=if s.bus.pendingGaps.keys=[] then .scanStart
     else .lookup (s.bus.pendingGaps.keys.insertionSort (· ≤ ·))
    begun:=s.committed
    retiredBefore:=s.retiredRows
    lookupFailed:=false
    pageReadAt:=s.now } }

/-- Aged-out gaps retire and the rows found are dispatched, before the scan opens. -/
def lookupReturns (s:State)(gapIds rows:List ℕ):State:=
 let retired:=retireGaps s.now gapIds rows (s.bus,s.retired)
 { s with
   bus:=retired.1.dispatchNewRows s.now rows
   retired:=retired.2
   poll:={s.poll with phase:=.scanStart} }

/-- Move past a page: a short page ends the scan. -/
def pageDone (now:ℕ)(scan:Scan)(ids:List ℕ):Phase:=
 let scan':Scan:={scan with cursor:=ids.getLastD scan.cursor}
 if ids.length<pollScanChunkSize then .closing scan' now else .page scan'

def pageReturns (s:State)(scan:Scan)(ids:List ℕ):State:=
 let scan':Scan:={scan with observed:=ids++scan.observed}
 let undispatched:=ids.filter (· ∉ s.bus.dispatchedRowIds.keys)
 if ids=[] then s.setPhase (.closing scan s.now)
 else if undispatched=[] then s.setPhase (pageDone s.now scan' ids)
 else s.setPhase (.hydrate scan' ids undispatched s.now)
def hydrateReturns (s:State)(scan:Scan)(ids rows:List ℕ):State:=
 s.setPhase (pageDone s.now {scan with pending:=scan.pending++rows} ids)

/-- The tail of `_dispatch_and_promote`: dispatch, record the new gaps, promote, prune. -/
def Bus.promote (now:ℕ)(scan:Scan)(b:Bus):Bus:=
 let b:=(b.dispatchNewRows now scan.pending).recordNewGaps now scan.observed scan.cursor
 {b with frontier:=scan.cursor}.pruneDispatchedRowIds now

def scanCloses (s:State)(scan:Scan):State:=
 { s with
   bus:=s.bus.promote s.now scan
   poll:={s.poll with phase:=.idle}
   successes:=if s.poll.lookupFailed then s.successes
    else (s.poll.begun,s.poll.retiredBefore)::s.successes }

/-- The driver cuts a statement of the poll path off `pollStatementTimeout` after it was sent. -/
def onTime (s:State)(since:ℕ):Bool:=decide (s.now ≤ since+pollStatementTimeout)

def step (s:State):Label→Option State
 | .tick duration=>some {s with now:=s.now+duration}
 | .takeId=>some { s with
   assigned:=s.assigned+1
   inFlight:=(s.assigned+1)::s.inFlight }
 | .commit row=>
  if row∈s.inFlight then some { s with
   inFlight:=s.inFlight.erase row
   committed:=row::s.committed }
  else none
 | .rollback row=>
  if row∈s.inFlight then some {s with inFlight:=s.inFlight.erase row} else none
 | .seedRead=>
  match s.startup with
  | .stopped=>some {s with startup:=.seeding (s.committed.foldr max 0) s.now}
  | _=>none
 | .start=>
  match s.startup with
  | .seeding latest _=>some (start s latest)
  | _=>none
 | .load row=>if row∈s.committed then some {s with loaded:=row::s.loaded} else none
 | .lose row=>some {s with loaded:=s.loaded.erase row}
 | .deliver row=>
  if row∈s.loaded then some { s with
   loaded:=s.loaded.erase row
   bus:=s.bus.dispatchRow s.now row }
  else none
 | .pollBegin=>
  match s.poll.phase with
  | .idle=>if s.startup=.started then some (pollBegin s) else none
  | _=>none
 | .lookupRead=>
  match s.poll.phase with
  | .lookup gapIds=>
   some (s.setPhase (.lookupSeen gapIds (gapIds.filter (· ∈ s.committed)) s.now))
  | _=>none
 | .lookupReturns=>
  match s.poll.phase with
  | .lookupSeen gapIds rows readAt=>
   if onTime s readAt then some (lookupReturns s gapIds rows) else none
  | _=>none
 | .lookupFails=>
  match s.poll.phase with
  | .lookup _ | .lookupSeen _ _ _=>
   some { s with poll:={s.poll with phase:=.scanStart,lookupFailed:=true} }
  | _=>none
 | .scanBegin=>
  match s.poll.phase with
  | .scanStart=>some (s.setPhase (.page ⟨s.bus.frontier,[],[]⟩))
  | _=>none
 | .pageRead=>
  match s.poll.phase with
  | .page scan=>some { s with poll:={ s.poll with
    phase:=.pageSeen scan (scanPage s.committed scan.cursor) s.now
    pageReadAt:=s.now } }
  | _=>none
 | .pageReturns=>
  match s.poll.phase with
  | .pageSeen scan ids readAt=>if onTime s readAt then some (pageReturns s scan ids) else none
  | _=>none
 | .hydrateRead=>
  match s.poll.phase with
  | .hydrate scan ids undispatched issued=>
   some (s.setPhase (.hydrateSeen scan ids (undispatched.filter (· ∈ s.committed)) issued))
  | _=>none
 | .hydrateReturns=>
  match s.poll.phase with
  | .hydrateSeen scan ids rows issued=>
   if onTime s issued then some (hydrateReturns s scan ids rows) else none
  | _=>none
 | .scanFails=>
  match s.poll.phase with
  | .idle | .lookup _ | .lookupSeen _ _ _=>none
  | _=>some (s.setPhase .idle)
 | .scanCloses=>
  match s.poll.phase with
  | .closing scan issued=>if onTime s issued then some (scanCloses s scan) else none
  | _=>none

inductive Transition (s:State):Label→State→Prop where
 | tick (duration:ℕ):Transition s (.tick duration) {s with now:=s.now+duration}
 | takeId:Transition s .takeId { s with
   assigned:=s.assigned+1
   inFlight:=(s.assigned+1)::s.inFlight }
 | commit (row:ℕ)(hrow:row∈s.inFlight):Transition s (.commit row) { s with
   inFlight:=s.inFlight.erase row
   committed:=row::s.committed }
 | rollback (row:ℕ):Transition s (.rollback row) {s with inFlight:=s.inFlight.erase row}
 | seedRead (hstartup:s.startup=.stopped):Transition s .seedRead
   {s with startup:=.seeding (s.committed.foldr max 0) s.now}
 | start (latest readAt:ℕ)(hstartup:s.startup=.seeding latest readAt):
   Transition s .start (start s latest)
 | load (row:ℕ)(hrow:row∈s.committed):
   Transition s (.load row) {s with loaded:=row::s.loaded}
 | lose (row:ℕ):Transition s (.lose row) {s with loaded:=s.loaded.erase row}
 | deliver (row:ℕ)(hrow:row∈s.loaded):Transition s (.deliver row) { s with
   loaded:=s.loaded.erase row
   bus:=s.bus.dispatchRow s.now row }
 | pollBegin (hphase:s.poll.phase=.idle)(hstarted:s.startup=.started):
   Transition s .pollBegin (pollBegin s)
 | lookupRead (gapIds:List ℕ)(hphase:s.poll.phase=.lookup gapIds):
   Transition s .lookupRead
    (s.setPhase (.lookupSeen gapIds (gapIds.filter (· ∈ s.committed)) s.now))
 | lookupReturns (gapIds rows:List ℕ)(readAt:ℕ)
   (hphase:s.poll.phase=.lookupSeen gapIds rows readAt):
   Transition s .lookupReturns (lookupReturns s gapIds rows)
 | lookupFails (hstarted:s.poll.phase ≠ .idle):Transition s .lookupFails
   { s with poll:={s.poll with phase:=.scanStart,lookupFailed:=true} }
 | scanBegin (hphase:s.poll.phase=.scanStart):
   Transition s .scanBegin (s.setPhase (.page ⟨s.bus.frontier,[],[]⟩))
 | pageRead (scan:Scan)(hphase:s.poll.phase=.page scan):Transition s .pageRead
   { s with poll:={ s.poll with
      phase:=.pageSeen scan (scanPage s.committed scan.cursor) s.now
      pageReadAt:=s.now } }
 | pageReturns (scan:Scan)(ids:List ℕ)(readAt:ℕ)
   (hphase:s.poll.phase=.pageSeen scan ids readAt)(htime:s.now≤readAt+pollStatementTimeout):
   Transition s .pageReturns (pageReturns s scan ids)
 | hydrateRead (scan:Scan)(ids undispatched:List ℕ)(issued:ℕ)
   (hphase:s.poll.phase=.hydrate scan ids undispatched issued):
   Transition s .hydrateRead
    (s.setPhase (.hydrateSeen scan ids (undispatched.filter (· ∈ s.committed)) issued))
 | hydrateReturns (scan:Scan)(ids rows:List ℕ)(issued:ℕ)
   (hphase:s.poll.phase=.hydrateSeen scan ids rows issued)
   (htime:s.now ≤ issued+pollStatementTimeout):
   Transition s .hydrateReturns (hydrateReturns s scan ids rows)
 | scanFails (hstarted:s.poll.phase ≠ .idle):Transition s .scanFails (s.setPhase .idle)
 | scanCloses (scan:Scan)(issued:ℕ)(hphase:s.poll.phase=.closing scan issued)
   (htime:s.now ≤ issued+pollStatementTimeout):Transition s .scanCloses (scanCloses s scan)

lemma transition_of_step {s s':State}{a:Label}(h:step s a=some s'):Transition s a s':=by
 cases a with simp only[step] at h
 | tick duration=>
  cases h
  exact .tick duration
 | takeId=>
  cases h
  exact .takeId
 | commit row=>
  obtain ⟨hrow,h⟩:=ite_none_right_eq_some.mp h
  cases h
  exact .commit row hrow
 | rollback row=>
  obtain ⟨-,h⟩:=ite_none_right_eq_some.mp h
  cases h
  exact .rollback row
 | seedRead=>
  split at h <;> cases h
  exact .seedRead ‹_›
 | start=>
  split at h <;> cases h
  exact .start _ _ ‹_›
 | load row=>
  obtain ⟨hrow,h⟩:=ite_none_right_eq_some.mp h
  cases h
  exact .load row hrow
 | lose row=>
  cases h
  exact .lose row
 | deliver row=>
  obtain ⟨hrow,h⟩:=ite_none_right_eq_some.mp h
  cases h
  exact .deliver row hrow
 | pollBegin=>
  split at h
  · obtain ⟨hstarted,h⟩:=ite_none_right_eq_some.mp h
    cases h
    exact .pollBegin ‹_› hstarted
  · cases h
 | lookupRead=>
  split at h <;> cases h
  exact .lookupRead _ ‹_›
 | lookupReturns=>
  split at h
  · obtain ⟨-,h⟩:=ite_none_right_eq_some.mp h
    cases h
    exact .lookupReturns _ _ _ ‹_›
  · cases h
 | lookupFails=>
  split at h <;> cases h <;> exact .lookupFails (by simp[*])
 | scanBegin=>
  split at h <;> cases h
  exact .scanBegin ‹_›
 | pageRead=>
  split at h <;> cases h
  exact .pageRead _ ‹_›
 | pageReturns=>
  split at h
  · obtain ⟨htime,h⟩:=ite_none_right_eq_some.mp h
    cases h
    exact .pageReturns _ _ _ ‹_› (of_decide_eq_true htime)
  · cases h
 | hydrateRead=>
  split at h <;> cases h
  exact .hydrateRead _ _ _ _ ‹_›
 | hydrateReturns=>
  split at h
  · obtain ⟨htime,h⟩:=ite_none_right_eq_some.mp h
    cases h
    exact .hydrateReturns _ _ _ _ ‹_› (of_decide_eq_true htime)
  · cases h
 | scanFails=>
  split at h <;> cases h
  exact .scanFails ‹_›
 | scanCloses=>
  split at h
  · obtain ⟨htime,h⟩:=ite_none_right_eq_some.mp h
    cases h
    exact .scanCloses _ _ ‹_› (of_decide_eq_true htime)
  · cases h
end GridFleet.EventOutbox
