import GridFleet.SessionLifecycle
import GridFleet.StateProjection
/-! The create-session long poll and ticket cancellation. A transaction is one step: it takes the lock
of its ticket or device row first and holds it to its commit. Between two of them a request waits for
Appium or sleeps, and every other party may move. Which device the matching pass finds, the clock, the
drawn identifiers and what Appium answers stand in the label. Times are milliseconds. -/
namespace GridFleet.CreateSession
open SessionLifecycle (isLive isOpen ended terminalStatus)
open StateProjection (Json.field isMasking)

abbrev RequestId:=ℕ
abbrev CancelId:=ℕ
def longPoll:ℕ:=25000
def maxTargetAttempts:ℕ:=3
def perAttemptMinBudget:ℕ:=20000
def createTimeoutCap:ℕ:=240000
def defaultCreateBudget:ℕ:=createTimeoutCap+longPoll
def protocolErrorMessageLimit:ℕ:=512

inductive QueueStatus where
 | waiting | cancelled | expired
 deriving DecidableEq

structure Ticket where
 status:QueueStatus
 runId:Option RunId

structure Row extends Session where
 routerTarget:Option String
 errorType:Option String
 errorMessage:Option String

structure Tables where
 tickets:Dict TicketId Ticket
 rows:Dict RowId Row

section
variable (rows:Dict RowId Row)

def fail (id:RowId)(message:String)(now:Instant):Dict RowId Row:=
 match rows.get id with
 | some row=>
  if row.status=.pending then
   rows.set id
    { row with
      toSession:=ended row.toSession .error now
      errorType:=some "allocation_failed"
      errorMessage:=some message }
  else rows
 | none=>rows

/-- `None` when the update matches no pending row or hits the unique index on running session ids;
`registered`: the register API holds that id. -/
def promoteToRunning (id:RowId)(appiumSessionId:String)(registered:Bool):Option (Dict RowId Row):=
 (rows.get id).bind fun row=>
  let taken:=rows.entries.any fun e=>
   e.1≠id&&e.2.sessionId=appiumSessionId&&e.2.status=.running&&isOpen e.2.toSession
  if row.status=.pending&&!(isOpen row.toSession&&(registered||taken)) then
   some (rows.set id {row with sessionId:=appiumSessionId,status:=.running})
  else none

def runStateValue:RunState→String
 | .pending=> "pending"
 | .preparing=> "preparing"
 | .active=> "active"
 | .completed=> "completed"
 | .failed=> "failed"
 | .expired=> "expired"
 | .cancelled=> "cancelled"

structure RunOutcome where
 state:RunState
 error:Option String

def closed (row:Row)(run:Option RunOutcome)(now:Instant):Row:=
 let row':={row with toSession:=ended row.toSession (terminalStatus (run.map RunOutcome.state)) now}
 match run with
 | some ⟨state,error⟩=>
  if state=.failed∨state=.expired∨state=.cancelled then
   { row' with
     errorType:=some "run_released"
     errorMessage:=(error.filter (· ≠ "")).or
      (some ("Run ended while session was still running (" ++ runStateValue state ++ ")")) }
  else row'
 | none=>row'

def markEnded (appiumSessionId:String)(run:Option RunOutcome)(now:Instant):Dict RowId Row:=
 match rows.entries.find? fun e=>
   e.2.sessionId=appiumSessionId&&e.2.status=.running&&isOpen e.2.toSession with
 | some (id,row)=>rows.set id (closed row run now)
 | none=>rows

def finalizePreemption (victim:RowId)(now:Instant):Dict RowId Row:=
 match rows.get victim with
 | some row=>
  if isOpen row.toSession then
   rows.set victim
    { row with
      toSession:=ended row.toSession .error now
      errorType:=some "preempted"
      errorMessage:=some "preempted by a new session request" }
  else rows
 | none=>rows

structure InterruptedSessionEffect where
 sessionPk:RowId
 appiumSessionId:String
 target:String
 deriving DecidableEq

/-- `liveTarget`: the device's node target, `None` while its port is cleared. -/
def resolveRouterTarget (liveTarget:Option String)(row:Row):Option String:=
 liveTarget.or row.routerTarget

def prepareInterruptedSession (ticketId:TicketId)(liveTarget:Option String)(now:Instant):
 Dict RowId Row×Option InterruptedSessionEffect:=
 match rows.entries.find? fun e=>e.2.ticketId=some ticketId&&isLive e.2.toSession with
 | some (id,row)=>
  if row.status=.pending then (fail rows id "create interrupted; retried by router" now,none)
  else (rows,(resolveRouterTarget liveTarget row).map fun target=>⟨id,row.sessionId,target⟩)
 | none=>(rows,none)
end

/-- `parsed` is what `json.loads` makes of the body. -/
inductive AppiumReply where
 | transportError (detail:String)
 | response (status:ℕ)(body:String)(parsed:Option Json)

inductive OutcomeKind where
 | created | w3cRejected | targetUnreachable | targetProtocolError | promotionFailed
 deriving DecidableEq

structure CreateOutcome where
 kind:OutcomeKind
 appiumStatus:ℕ
 appiumBody:Option Json
 sessionId:String
 message:String
 deriving DecidableEq

def parseJsonDict:Option Json→Option Json
 | some (.obj fields)=>some (.obj fields)
 | _=>none
def nonEmptyStr:Option Json→Option String
 | some (.str text)=>if text = "" then none else some text
 | _=>none
def isW3cError (parsed:Json):Bool:=
 (nonEmptyStr ((Json.field parsed "value").bind fun value=>Json.field value "error")).isSome
def extractSessionId (parsed:Json):Option String:=
 (nonEmptyStr ((Json.field parsed "value").bind fun value=>Json.field value "sessionId")).or
  (nonEmptyStr (Json.field parsed "sessionId"))
def boundedProtocolMessage (body:String):String:=
 String.ofList (body.toList.take protocolErrorMessageLimit)

inductive Attempt where
 | fail (message:String)(outcome:CreateOutcome)
 | promote (sessionId:String)(appiumStatus:ℕ)(appiumBody:Option Json)
 deriving DecidableEq

def createAndPromote:AppiumReply→Attempt
 | .transportError detail=>
  .fail ("appium unreachable: " ++ detail)
   ⟨.targetUnreachable,0,none, "", "upstream unreachable: " ++ detail⟩
 | .response status body parsed=>
  let dict:=parseJsonDict parsed
  if ¬(200 ≤ status∧status<300) then
   .fail ("appium returned " ++ toString status)
    (if dict.any isW3cError then ⟨.w3cRejected,status,dict, "", ""⟩
    else ⟨.targetProtocolError,0,none, "",
     "appium returned " ++ toString status ++ ": " ++ boundedProtocolMessage body⟩)
  else
   match dict.bind extractSessionId with
   | some sessionId=>.promote sessionId status dict
   | none=>
    .fail "appium response missing sessionId"
     ⟨.targetProtocolError,0,none, "", "upstream response missing sessionId"⟩

structure Payload where
 ticket:Option TicketId
 runId:Option RunId

structure AllocationResult where
 allocationId:RowId
 target:String
 deviceId:DeviceId
 deriving DecidableEq

inductive ResponseStatus where
 | created | queued | createFailed | createError
 deriving DecidableEq

structure CreateSessionResponse where
 status:ResponseStatus
 sessionId:Option String
 target:Option String
 deviceId:Option DeviceId
 appiumStatus:Option ℕ
 appiumBody:Option Json
 ticket:Option TicketId
 message:Option String
 deriving DecidableEq

inductive Reply where
 | ok (response:CreateSessionResponse)
 | refused (statusCode:ℕ)(status message:String)
 /-- The client went away or the handler raised. -/
 | aborted
 deriving DecidableEq

def textOrNone (text:String):Option String:=if text = "" then none else some text
def createError (message:Option String):Reply:=
 .ok ⟨.createError,none,none,none,none,none,none,message⟩
def queued (ticket:Option TicketId):Reply:=
 .ok ⟨.queued,none,none,none,none,none,ticket,none⟩

def responseForOutcome (outcome:CreateOutcome)(result:AllocationResult):Reply:=
 let appiumStatus:=if outcome.appiumStatus=0 then none else some outcome.appiumStatus
 match outcome.kind with
 | .created=>
  .ok ⟨.created,textOrNone outcome.sessionId,some result.target,some result.deviceId,
   appiumStatus,outcome.appiumBody,none,textOrNone outcome.message⟩
 | .w3cRejected=>
  .ok ⟨.createFailed,none,none,none,appiumStatus,outcome.appiumBody,none,
   textOrNone outcome.message⟩
 | _=>createError (textOrNone outcome.message)

/-- Where a request stands: before which transaction, or waiting for Appium (`create`). -/
inductive Stage where
 | interrupted
 | endInterrupted (effect:InterruptedSessionEffect)
 | poll
 | create (result:AllocationResult)
 | fail (result:AllocationResult)(message:String)(outcome:CreateOutcome)
 | promote (result:AllocationResult)(sessionId:String)(appiumStatus:ℕ)
   (appiumBody:Option Json)
 | markDown (result:AllocationResult)(message:Option String)
 | unallocated
 | preempt (victim:RowId)
 | returned (reply:Reply)
 deriving DecidableEq

structure Request where
 payload:Payload
 createDeadline:ℕ
 pollDeadline:ℕ
 stage:Stage
 ticketId:Option TicketId
 excluded:List DeviceId
 attempts:ℕ
 preemptedOnce:Bool
 lastTargetFailureMessage:Option String

def createSession (payload:Payload)(started:ℕ)(budget:Option ℕ):Request where
 payload:=payload
 createDeadline:=started+budget.getD defaultCreateBudget
 pollDeadline:=min (started+longPoll) (started+budget.getD defaultCreateBudget)
 stage:=if payload.ticket.isSome then .interrupted else .poll
 ticketId:=payload.ticket
 excluded:=[]
 attempts:=0
 preemptedOnce:=false
 lastTargetFailureMessage:=none

inductive Allocation where
 | refused (message:String)
 | noMatch
 | claimed (device:DeviceId)(target:String)(row:RowId)(marker:String)
   (testName:Option String)

def findTicket (t:Tables)(id:Option TicketId):Option (TicketId×Ticket):=
 id.bind fun id=>(t.tickets.get id).map fun ticket=>(id,ticket)
def deviceFree (t:Tables)(device:DeviceId):Bool:=
 t.rows.entries.all fun e=>!(isLive e.2.toSession&&e.2.deviceId=some device)

def pollTicket (t:Tables)(q:Request)(id:TicketId)(ticket:Ticket)(allocation:Allocation):
 Option (Tables×Request):=
 let q:={q with ticketId:=some id}
 match ticket.status,allocation with
 | .cancelled,_=>
  some (t,{ q with stage:=.returned (.refused 400 "invalid" "invalid capabilities") })
 | .expired,_=>some (t,{ q with stage:=.returned (.refused 410 "expired" "queue timeout") })
 | .waiting,.refused message=>
  some ({ t with tickets:=t.tickets.set id {ticket with status:=.cancelled} },
   { q with stage:=.returned (.refused 400 "invalid" message) })
 | .waiting,.noMatch=>some (t,{q with stage:=.unallocated})
 | .waiting,.claimed device target row marker testName=>
  if device ∉ q.excluded∧t.rows.get row=none∧deviceFree t device then
   some (
    { tickets:=t.tickets.pop id
      rows:=t.rows.set row
       { id:=row,sessionId:=marker,deviceId:=some device,testName:=testName,
         status:=.pending,endedAt:=none,ticketId:=some id,runId:=ticket.runId,
         routerTarget:=some target,errorType:=none,errorMessage:=none } },
    {q with stage:=.create ⟨row,target,device⟩,attempts:=q.attempts+1})
  else none

inductive Action where
 | interrupted (liveTarget:Option String)(now:Instant)
 | endInterrupted (run:Option RunOutcome)(now:Instant)
 | reply (reply:AppiumReply)
 | fail (now:Instant)
 | promote (registered:Bool)
 | markDown (now:ℕ)
 /-- `victim`: what `prepare_preemption` finds, never with the setting off; `later` is the clock
 after its transaction. -/
 | unallocated (now later:ℕ)(victim:Option RowId)
 | preempt (now:Instant)
 | abort

/-- The victim is a running session that masks its device, and the ticket still waits. -/
def preemptable (t:Tables)(q:Request)(victim:RowId):Bool:=
 ((findTicket t q.ticketId).any fun e=>e.2.status=.waiting)&&
  (t.rows.get victim).any fun row=>
   row.status=.running&&isMasking row.toSession&&row.deviceId.all (· ∉ q.excluded)

def act (t:Tables)(q:Request):Action→Option (Tables×Request)
 | .interrupted liveTarget now=>
  match q.stage,q.ticketId with
  | .interrupted,some id=>
   let prepared:=prepareInterruptedSession t.rows id liveTarget now
   some ({t with rows:=prepared.1},
    {q with stage:=(prepared.2.map Stage.endInterrupted).getD .poll})
  | _,_=>none
 | .endInterrupted run now=>
  match q.stage with
  | .endInterrupted effect=>
   some ({t with rows:=markEnded t.rows effect.appiumSessionId run now},{q with stage:=.poll})
  | _=>none
 | .reply reply=>
  match q.stage with
  | .create result=>
   match createAndPromote reply with
   | .fail message outcome=>some (t,{q with stage:=.fail result message outcome})
   | .promote sessionId status body=>
    some (t,{q with stage:=.promote result sessionId status body})
  | _=>none
 | .fail now=>
  match q.stage with
  | .fail result message outcome=>
   some ({t with rows:=fail t.rows result.allocationId message now},
    if outcome.kind=.targetUnreachable∨outcome.kind=.targetProtocolError then
     { q with
       stage:=.markDown result (textOrNone outcome.message)
       lastTargetFailureMessage:=textOrNone outcome.message }
    else {q with stage:=.returned (responseForOutcome outcome result)})
  | _=>none
 | .promote registered=>
  match q.stage with
  | .promote result sessionId status body=>
   match promoteToRunning t.rows result.allocationId sessionId registered with
   | some rows=>
    some ({t with rows:=rows},
     { q with
       stage:=.returned (responseForOutcome ⟨.created,status,body,sessionId, ""⟩ result) })
   | none=>
    some (t,
     { q with
       stage:=.returned (responseForOutcome ⟨.promotionFailed,0,none, "",
        "allocation no longer pending; session rolled back"⟩ result) })
  | _=>none
 | .markDown now=>
  match q.stage with
  | .markDown result message=>
   let excluded:=result.deviceId::q.excluded
   if maxTargetAttempts≤q.attempts∨q.createDeadline<now+perAttemptMinBudget then
    some (t,{q with excluded:=excluded,stage:=.returned (createError message)})
   else some (t,{q with excluded:=excluded,stage:=.poll})
  | _=>none
 | .unallocated now later victim=>
  match q.stage with
  | .unallocated=>
   if q.pollDeadline≤now then some (t,{q with stage:=.returned (queued q.ticketId)})
   else if !q.preemptedOnce&&victim.any (preemptable t q)&&decide (later<q.pollDeadline) then
    some (t,{q with preemptedOnce:=true,stage:=(victim.map Stage.preempt).getD .poll})
   else if q.pollDeadline≤later then some (t,{q with stage:=.returned (queued q.ticketId)})
   else some (t,{q with stage:=.poll})
  | _=>none
 | .preempt now=>
  match q.stage with
  | .preempt victim=>
   some ({t with rows:=finalizePreemption t.rows victim now},{q with stage:=.poll})
  | _=>none
 | .abort=>
  match q.stage with
  | .returned _=>none
  | _=>some (t,{q with stage:=.returned .aborted})

inductive CancelStage where
 | interrupted
 | endInterrupted (effect:InterruptedSessionEffect)
 | done

structure Cancel where
 ticket:TicketId
 stage:CancelStage

def cancelTicket (t:Tables)(id:TicketId):Tables×Cancel:=
 match t.tickets.get id with
 | some ticket=>
  if ticket.status=.waiting then
   ({ t with tickets:=t.tickets.set id {ticket with status:=.cancelled} },⟨id,.done⟩)
  else (t,⟨id,.interrupted⟩)
 | none=>(t,⟨id,.interrupted⟩)

inductive CancelAction where
 | interrupted (liveTarget:Option String)(now:Instant)
 | endInterrupted (run:Option RunOutcome)(now:Instant)

def actCancel (t:Tables)(c:Cancel):CancelAction→Option (Tables×Cancel)
 | .interrupted liveTarget now=>
  match c.stage with
  | .interrupted=>
   let prepared:=prepareInterruptedSession t.rows c.ticket liveTarget now
   some ({t with rows:=prepared.1},
    {c with stage:=(prepared.2.map CancelStage.endInterrupted).getD .done})
  | _=>none
 | .endInterrupted run now=>
  match c.stage with
  | .endInterrupted effect=>
   some ({t with rows:=markEnded t.rows effect.appiumSessionId run now},{c with stage:=.done})
  | _=>none

/-- `minted` records for which request each ticket was drawn; no party reads it. -/
structure State where
 tables:Tables
 requests:Dict RequestId Request
 cancels:Dict CancelId Cancel
 minted:Dict TicketId RequestId

def init:State:=⟨⟨.empty,.empty⟩,.empty,.empty,.empty⟩

inductive Label where
 | createSession (r:RequestId)(payload:Payload)(now:ℕ)(budget:Option ℕ)
 | poll (r:RequestId)(now:ℕ)(fresh:TicketId)(allocation:Allocation)
 | act (r:RequestId)(action:Action)
 | cancelTicket (c:CancelId)(ticket:TicketId)
 | actCancel (c:CancelId)(action:CancelAction)
 | expire (ticket:TicketId)
 /-- Any other close of a session with a terminal status: the reaper, the ended notification, a sweep,
 an operator. -/
 | close (row:RowId)(status:SessionStatus)(now:Instant)

/-- Identifiers are drawn at random: a drawn one occurs nowhere yet. -/
def isFresh (s:State)(id:TicketId):Bool:=
 (s.tables.tickets.get id).isNone&&(s.minted.get id).isNone&&
  (s.tables.rows.entries.all fun e=>e.2.ticketId≠some id)&&
  (s.requests.entries.all fun e=>e.2.payload.ticket≠some id&&e.2.ticketId≠some id)&&
  (s.cancels.entries.all fun e=>e.2.ticket≠id)

def State.withRequest (s:State)(r:RequestId)(result:Tables×Request):State:=
 {s with tables:=result.1,requests:=s.requests.set r result.2}
def State.withCancel (s:State)(c:CancelId)(result:Tables×Cancel):State:=
 {s with tables:=result.1,cancels:=s.cancels.set c result.2}
def mint (s:State)(r:RequestId)(ticket:Ticket)(fresh:TicketId):State:=
 { s with
   tables:={s.tables with tickets:=s.tables.tickets.set fresh ticket}
   minted:=s.minted.set fresh r }

def poll (s:State)(r:RequestId)(q:Request)(now:ℕ)(fresh:TicketId)
 (allocation:Allocation):Option State:=
 if 0<q.attempts∧q.createDeadline<now+perAttemptMinBudget then
  some (s.withRequest r
   (s.tables,{q with stage:=.returned (createError q.lastTargetFailureMessage)}))
 else
  match findTicket s.tables q.ticketId with
  | some (id,ticket)=>(pollTicket s.tables q id ticket allocation).map (s.withRequest r)
  | none=>
   let ticket:Ticket:=⟨.waiting,q.payload.runId⟩
   let s':=mint s r ticket fresh
   if isFresh s fresh then (pollTicket s'.tables q fresh ticket allocation).map (s'.withRequest r)
   else none

def step (s:State):Label→Option State
 | .createSession r payload now budget=>
  if s.requests.get r=none then
   some {s with requests:=s.requests.set r (createSession payload now budget)}
  else none
 | .poll r now fresh allocation=>
  (s.requests.get r).bind fun q=>if q.stage=.poll then poll s r q now fresh allocation else none
 | .act r action=>
  (s.requests.get r).bind fun q=>(act s.tables q action).map (s.withRequest r)
 | .cancelTicket c ticket=>
  if s.cancels.get c=none then some (s.withCancel c (cancelTicket s.tables ticket)) else none
 | .actCancel c action=>
  (s.cancels.get c).bind fun x=>(actCancel s.tables x action).map (s.withCancel c)
 | .expire id=>
  (s.tables.tickets.get id).bind fun ticket=>
   if ticket.status=.waiting then
    some { s with
     tables:={ s.tables with tickets:=s.tables.tickets.set id {ticket with status:=.expired} } }
   else none
 | .close id status now=>
  (s.tables.rows.get id).bind fun row=>
   if isOpen row.toSession∧status ≠ .running∧status ≠ .pending then
    some { s with
     tables:={ s.tables with
      rows:=s.tables.rows.set id {row with toSession:=ended row.toSession status now} } }
   else none
end GridFleet.CreateSession
