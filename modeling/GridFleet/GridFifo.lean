import GridFleet.GridPreemption
/-! A poll of a waiting request passes over each device that an older live request could take. The older
requests are matched on the surface of this poll's groups only, which shows each of them what the full
surface would. -/
namespace GridFleet.GridFifo
open FleetTables GroupMembership CapabilityMatching GridMatching GridPreemption Readiness List Option

def ticketLivenessWindow:ℕ:=20000000

structure OlderWaiter where
 ticket:QueueTicket
 candidates:List Capabilities
 groupKeys:List String

inductive AllocationError where
 | runNotActive (runId:RunId)(state:Option RunState)
 | capabilities (error:CapabilityMergeError)

structure AllocationResult where
 deviceId:DeviceId
 target:String

structure PollClock where
 waiters:Instant
 eligible:Instant
 claim:ℕ→Instant

section
variable (f:Fleet)(text:Text)(restartWindow:ℕ)(exclude:List DeviceId)(clock:PollClock)
 (ticket:QueueTicket)

def checkRun:Option AllocationError:=do
 let runId ←ticket.runId
 match (f.runs.find? fun run=>run.id=runId).map TestRun.state with
 | none=>some (.runNotActive runId none)
 | some state=>if ReservationGate.isTerminal state then some (.runNotActive runId (some state)) else none
def validateCandidates (candidates:List Capabilities):Except CapabilityMergeError (List String):=
 match carriesRetired candidates with
 | some error=>.error error
 | none=>requestedGroupKeys candidates
def isLiveWaiter (now:Instant)(older:QueueTicket):Bool:=
 match older.lastPolledAt with
 | some polled=>now≤polled+ticketLivenessWindow
 | none=>now≤older.createdAt+ticketLivenessWindow

/-- Requests whose body cannot be merged or names a malformed group are dropped. -/
def olderWaiterCandidateSets:List OlderWaiter:=
 ((f.tickets.filter fun older=>
  older.status=.waiting&&decide (older.createdAt<ticket.createdAt)&&
   isLiveWaiter clock.waiters older).insertionSort fun a b=>a.createdAt≤b.createdAt).filterMap
  fun older=>(requestOf older.requestedBody).map fun request=>⟨older,request.1,request.2⟩

def unionGroupKeys (currentGroupKeys:List String)(older:List OlderWaiter):List String:=
 currentGroupKeys++older.flatMap OlderWaiter.groupKeys
def polledGroupKeys (currentGroupKeys:List String):List String:=
 unionGroupKeys currentGroupKeys (olderWaiterCandidateSets f clock ticket)
def loadedGroupKeys (currentGroupKeys:List String):List String:=
 (loadGroupDefinitionBatch f.groups (polledGroupKeys f clock ticket currentGroupKeys)).loadedKeys
def survivingWaiters (currentGroupKeys:List String):List OlderWaiter:=
 (olderWaiterCandidateSets f clock ticket).filter fun older=>
  older.groupKeys.all (· ∈ loadedGroupKeys f clock ticket currentGroupKeys)
def pollPass (currentGroupKeys:List String):MatchPass:=
 passFor f clock.eligible restartWindow (polledGroupKeys f clock ticket currentGroupKeys) exclude false
def pollMatches (candidates:List Capabilities)(currentGroupKeys:List String):List Match:=
 iterMatches f text (pollPass f restartWindow exclude clock ticket currentGroupKeys) candidates
  (unionGroupKeys currentGroupKeys (survivingWaiters f clock ticket currentGroupKeys)) ticket.runId
def waiterBlocks (m:Match)(older:OlderWaiter):Bool:=
 ReservationGate.ticketPassesReservation older.ticket.runId m.row.reservationRunId&&
  older.candidates.any fun c=>candidateMatchesStereotype text c m.stereotype
def olderWaiterBlocks (older:List OlderWaiter)(m:Match):Bool:=older.any (waiterBlocks text m)

def claim (now:Instant)(definitions:GroupDefinitionBatch)(pass:MatchPass)(m:Match):
 Option AllocationResult:=
 match f.devices.find? fun device=>device.id=m.row.device.id,requestedGroupKeys [m.candidate] with
 | some device,.ok candidateGroupKeys=>
  if claimLockPredicates f restartWindow exclude now m.row.reservationRunId false device&&
    lockedReadiness pass.packCatalog device=.verified&&
    lockedMembershipHolds f definitions pass.packCatalog device m.row.reservationRunId .available
     candidateGroupKeys&&
    !ReservationGate.liveSessionExists f.gate device.id then
   (nodeTarget f device).map fun target=>⟨device.id,target⟩
  else none
 | _,_=>none

/-- The match loop: a vetoed match is passed over, the first claim that succeeds ends it. -/
def claimFirst (candidates:List Capabilities)(currentGroupKeys:List String):
 Option AllocationResult:=
 (pollMatches f text restartWindow exclude clock ticket candidates currentGroupKeys).zipIdx.findSome?
  fun attempt=>
   if olderWaiterBlocks text (survivingWaiters f clock ticket currentGroupKeys) attempt.1 then none
   else claim f restartWindow exclude (clock.claim attempt.2)
    (loadGroupDefinitionBatch f.groups (polledGroupKeys f clock ticket currentGroupKeys))
    (pollPass f restartWindow exclude clock ticket currentGroupKeys) attempt.1

def tryAllocate:Except AllocationError (Option AllocationResult):=
 match checkRun f ticket with
 | some error=>.error error
 | none=>
  match mergeCandidates ticket.requestedBody with
  | .error error=>.error (.capabilities error)
  | .ok candidates=>
   match validateCandidates candidates with
   | .error error=>.error (.capabilities error)
   | .ok currentGroupKeys=>
    match (Portability.sortedKeys (currentGroupKeys.filter
      (· ∉ loadedGroupKeys f clock ticket currentGroupKeys))).head? with
    | some key=>.error (.capabilities (.unknownGroupKey key))
    | none=>.ok (claimFirst f text restartWindow exclude clock ticket candidates currentGroupKeys)
end

section
variable (f:Fleet)(text:Text)(clock:PollClock)

/-- An older live request that clears the reservation of a device and matches its full surface. Its body
merges and names existing groups; it may still carry a retired capability. -/
structure Contends (ticket older:QueueTicket)(device:FleetDevice)(candidates:List Capabilities):
  Prop where
 stored:older∈f.tickets
 waiting:older.status=.waiting
 before:older.createdAt<ticket.createdAt
 live:isLiveWaiter clock.waiters older
 owner:older.runId=gatingOwner f clock.eligible device.id
 request:∃keys,requestOf older.requestedBody=some (candidates,keys)∧
  ∀key∈keys,∃id row,f.groups.groups.get id=some row∧row.key=key
 surface:∃c∈candidates,
  candidateMatchesStereotype text c (fullSurface f clock.eligible text .available device)

/-- A request that could take the device itself if it polled: nothing in its body is retired. -/
def CouldTake (ticket older:QueueTicket)(device:FleetDevice):Prop:=
 ∃candidates,Contends f text clock ticket older device candidates∧carriesRetired candidates=none
end

section
variable {f:Fleet}{text:Text}{clock:PollClock}{ticket:QueueTicket}

lemma mem_olderWaiterCandidateSets {w:OlderWaiter}:w∈olderWaiterCandidateSets f clock ticket↔
  w.ticket∈f.tickets∧w.ticket.status=.waiting∧w.ticket.createdAt<ticket.createdAt∧
   isLiveWaiter clock.waiters w.ticket∧
   requestOf w.ticket.requestedBody=some (w.candidates,w.groupKeys):=by
 simp only[olderWaiterCandidateSets,mem_filterMap,mem_insertionSort,mem_filter,
  Bool.and_eq_true,decide_eq_true_eq,map_eq_some_iff]
 constructor
 · rintro ⟨older,⟨hstored,⟨hwaiting,hbefore⟩,hlive⟩,request,hrequest,rfl⟩
   exact ⟨hstored,hwaiting,hbefore,hlive,hrequest⟩
 · rintro ⟨hstored,hwaiting,hbefore,hlive,hrequest⟩
   exact ⟨w.ticket,⟨hstored,⟨hwaiting,hbefore⟩,hlive⟩,_,hrequest,rfl⟩
lemma mem_survivingWaiters {currentGroupKeys:List String}{w:OlderWaiter}:
 w∈survivingWaiters f clock ticket currentGroupKeys↔w∈olderWaiterCandidateSets f clock ticket∧
   ∀key∈w.groupKeys,∃id row,f.groups.groups.get id=some row∧row.key=key:=by
 unfold survivingWaiters
 rw[mem_filter,List.all_eq_true]
 refine and_congr_right fun hw=>forall₂_congr fun key hkey=>?_
 have hrequest:=(mem_olderWaiterCandidateSets.mp hw).2.2.2.2
 have hne:=(keys_ne_empty (requestOf_eq_some hrequest).2 key hkey).2
 have hpolled:key∈polledGroupKeys f clock ticket currentGroupKeys:=
  mem_append_right _ (mem_flatMap.mpr ⟨w,hw,hkey⟩)
 rw[decide_eq_true_eq]
 exact mem_loadedKeys hpolled hne

variable {restartWindow:ℕ}{exclude:List DeviceId}{candidates:List Capabilities}
 {currentGroupKeys:List String}

lemma advertised_polled (hkeys:requestedGroupKeys candidates=.ok currentGroupKeys){key:String}
 (h:key∈unionGroupKeys currentGroupKeys (survivingWaiters f clock ticket currentGroupKeys)):
 key∈polledGroupKeys f clock ticket currentGroupKeys∧key ≠ "" :=by
 rcases mem_append.mp h with hcurrent|holder
 · exact ⟨mem_append_left _ hcurrent,(keys_ne_empty hkeys key hcurrent).2⟩
 · obtain ⟨w,hw,hkey⟩:=mem_flatMap.mp holder
   have hold:=(mem_survivingWaiters.mp hw).1
   have hrequest:=(mem_olderWaiterCandidateSets.mp hold).2.2.2.2
   exact ⟨mem_append_right _ (mem_flatMap.mpr ⟨w,hold,hkey⟩),
    (keys_ne_empty (requestOf_eq_some hrequest).2 key hkey).2⟩
lemma stateColumn_of_isEligible {now:Instant}{device:FleetDevice}
 (h:isEligible f now restartWindow exclude false device):stateColumn f device=.available:=by
 simp only[isEligible,availabilityHolds,Bool.and_eq_true,Bool.false_eq_true,if_false,
  beq_iff_eq] at h
 have havailable:=h.1.1.1
 unfold StateProjection.isAvailableSql at havailable
 rw[Sql.and_eq_true_iff] at havailable
 unfold stateColumn
 rw[if_neg]
 intro hmasked
 rw[hmasked] at havailable
 exact absurd havailable.1 (by decide)

section
variable {m:Match}(hkeys:requestedGroupKeys candidates=.ok currentGroupKeys)
 (hm:m∈pollMatches f text restartWindow exclude clock ticket candidates currentGroupKeys)

include hm

lemma pollMatches_row:
 m.row.device∈f.devices∧m.row.reservationRunId=gatingOwner f clock.eligible m.row.device.id:=by
 obtain ⟨hrow,-⟩:=mem_iterMatches.mp hm
 obtain ⟨device,hmem,-,-,hrowEq⟩:=mem_passFor_rows.mp hrow
 rw[hrowEq]
 exact ⟨hmem,rfl⟩

include hkeys

lemma survivor_matches {w:OlderWaiter}
 (hw:w∈survivingWaiters f clock ticket currentGroupKeys){c:Capabilities}(hc:c∈w.candidates):
 candidateMatchesStereotype text c m.stereotype = candidateMatchesStereotype text c
   (fullSurface f clock.eligible text .available m.row.device):=by
 obtain ⟨hrow,-,-,hstereotype,-⟩:=mem_iterMatches.mp hm
 obtain ⟨device,hmem,heligible,hverified,hrowEq⟩:=mem_passFor_rows.mp hrow
 have hdevice:m.row.device=device:=by rw[hrowEq];rfl
 have hrequest:=(mem_olderWaiterCandidateSets.mp (mem_survivingWaiters.mp hw).1).2.2.2.2
 have hnamed:∀key,groupPrefix++key∈c.keys→
   key∈unionGroupKeys currentGroupKeys (survivingWaiters f clock ticket currentGroupKeys):=by
  intro key hkey
  have:=(requestedGroupKeys_eq_ok (requestOf_eq_some hrequest).2).2 c hc key hkey
  exact mem_append_right _ (mem_flatMap.mpr ⟨w,hw,this⟩)
 rw[hstereotype,hdevice,←stateColumn_of_isEligible heligible]
 exact matches_stereotypeOf hmem heligible hverified (fun key hkey=>advertised_polled hkeys hkey)
  hnamed

/-- The requests that veto a match are those that contend for its device. -/
lemma waiterBlocks_iff {older:QueueTicket}{offered:List Capabilities}:
 (∃w∈survivingWaiters f clock ticket currentGroupKeys,w.ticket=older∧
  w.candidates=offered∧waiterBlocks text m w)↔
 Contends f text clock ticket older m.row.device offered:=by
 have howner:=(pollMatches_row hm).2
 constructor
 · rintro ⟨w,hw,rfl,rfl,hblocks⟩
   obtain ⟨hold,hexist⟩:=mem_survivingWaiters.mp hw
   obtain ⟨hstored,hwaiting,hbefore,hlive,hrequest⟩:=mem_olderWaiterCandidateSets.mp hold
   simp only[waiterBlocks,ReservationGate.ticketPassesReservation,Bool.and_eq_true,
    decide_eq_true_eq,List.any_eq_true] at hblocks
   obtain ⟨hrun,c,hc,hmatches⟩:=hblocks
   rw[survivor_matches hkeys hm hw hc] at hmatches
   exact ⟨hstored,hwaiting,hbefore,hlive,hrun.trans howner,⟨_,hrequest,hexist⟩,
    ⟨c,hc,hmatches⟩⟩
 · intro h
   obtain ⟨keys,hrequest,hexist⟩:=h.request
   obtain ⟨c,hc,hmatches⟩:=h.surface
   have hw:⟨older,offered,keys⟩∈survivingWaiters f clock ticket currentGroupKeys:=
    mem_survivingWaiters.mpr ⟨mem_olderWaiterCandidateSets.mpr
     ⟨h.stored,h.waiting,h.before,h.live,hrequest⟩,hexist⟩
   refine ⟨_,hw,rfl,rfl,?_⟩
   simp only[waiterBlocks,ReservationGate.ticketPassesReservation,Bool.and_eq_true,
    decide_eq_true_eq,List.any_eq_true]
   refine ⟨h.owner.trans howner.symm,c,hc,?_⟩
   rw[survivor_matches hkeys hm hw hc]
   exact hmatches
end

lemma Contends.candidates_eq {older:QueueTicket}{device:FleetDevice}
 {offered offered':List Capabilities}(h:Contends f text clock ticket older device offered)
 (h':Contends f text clock ticket older device offered'):offered=offered':=by
 obtain ⟨keys,hrequest,-⟩:=h.request
 obtain ⟨keys',hrequest',-⟩:=h'.request
 rw[hrequest] at hrequest'
 exact (Prod.mk.inj (some.inj hrequest')).1
lemma validateCandidates_eq_ok (h:validateCandidates candidates=.ok currentGroupKeys):
 requestedGroupKeys candidates=.ok currentGroupKeys:=by
 unfold validateCandidates at h
 split at h
 · cases h
 · exact h

variable {result:AllocationResult}

lemma claim_eq_some {now:Instant}{definitions:GroupDefinitionBatch}{pass:MatchPass}{m:Match}
 (h:claim f restartWindow exclude now definitions pass m=some result):
 result.deviceId=m.row.device.id:=by
 unfold claim at h
 split at h
 · rename_i device keys hdevice hkeys
   split at h
   · obtain ⟨target,-,rfl⟩:=map_eq_some_iff.mp h
     simpa using find?_some hdevice
   · cases h
 · cases h
lemma claimFirst_eq_some
 (h:claimFirst f text restartWindow exclude clock ticket candidates currentGroupKeys=some result):
 ∃m∈pollMatches f text restartWindow exclude clock ticket candidates currentGroupKeys,
  m.row.device.id=result.deviceId∧
   ∀w∈survivingWaiters f clock ticket currentGroupKeys,waiterBlocks text m w=false:=by
 obtain ⟨⟨m,i⟩,hattempt,hclaim⟩:=exists_of_findSome?_eq_some h
 dsimp only at hclaim
 split at hclaim
 · cases hclaim
 · rename_i hfree
   refine ⟨m,fst_mem_of_mem_zipIdx hattempt,(claim_eq_some hclaim).symm,?_⟩
   intro w hw
   rw[olderWaiterBlocks,Bool.not_eq_true,List.any_eq_false] at hfree
   simpa using hfree w hw
lemma tryAllocate_eq_some (h:tryAllocate f text restartWindow exclude clock ticket=.ok (some result)):
 ∃candidates currentGroupKeys,validateCandidates candidates=.ok currentGroupKeys∧
  claimFirst f text restartWindow exclude clock ticket candidates currentGroupKeys = some result:=by
 unfold tryAllocate at h
 split at h
 · cases h
 split at h
 · cases h
 rename_i candidates hmerge
 split at h
 · cases h
 rename_i currentGroupKeys hvalid
 split at h
 · cases h
 · exact ⟨candidates,currentGroupKeys,hvalid,Except.ok.inj h⟩
end

/-- No older request that could take the device is passed over. The other way round, each veto on a
match comes from such a request, unless an older request with a retired capability contends. -/
theorem fifo_admission_iff (f:Fleet) (text:Text) (restartWindow:ℕ) (exclude:List DeviceId)
 (clock:PollClock) (ticket:QueueTicket):
 (∀result,tryAllocate f text restartWindow exclude clock ticket=.ok (some result)→
  ∃device∈f.devices,device.id=result.deviceId∧
   ∀older,¬CouldTake f text clock ticket older device)∧
 ∀candidates currentGroupKeys,mergeCandidates ticket.requestedBody=.ok candidates→
  validateCandidates candidates=.ok currentGroupKeys→
  ∀m∈pollMatches f text restartWindow exclude clock ticket candidates currentGroupKeys,
   ((∀w∈survivingWaiters f clock ticket currentGroupKeys,waiterBlocks text m w=true→
     CouldTake f text clock ticket w.ticket m.row.device)↔
    ∀older offered,Contends f text clock ticket older m.row.device offered→
     carriesRetired offered=none):=by
 constructor
 · intro result h
   obtain ⟨candidates,currentGroupKeys,hvalid,hfirst⟩:=tryAllocate_eq_some h
   obtain ⟨m,hm,hid,hfree⟩:=claimFirst_eq_some hfirst
   refine ⟨m.row.device,(pollMatches_row hm).1,hid,?_⟩
   rintro older ⟨offered,hcontends,-⟩
   obtain ⟨w,hw,-,-,hblocks⟩:=
    (waiterBlocks_iff (validateCandidates_eq_ok hvalid) hm).mpr hcontends
   rw[hfree w hw] at hblocks
   cases hblocks
 · intro candidates currentGroupKeys _ hvalid m hm
   have hkeys:=validateCandidates_eq_ok hvalid
   constructor
   · intro hall older offered hcontends
     obtain ⟨w,hw,rfl,-,hblocks⟩:=(waiterBlocks_iff hkeys hm).mpr hcontends
     obtain ⟨offered',hcontends',hkept⟩:=hall w hw hblocks
     rw[hcontends.candidates_eq hcontends']
     exact hkept
   · intro hkept w hw hblocks
     have hcontends:=(waiterBlocks_iff hkeys hm).mp ⟨w,hw,rfl,rfl,hblocks⟩
     exact ⟨w.candidates,hcontends,hkept w.ticket w.candidates hcontends⟩

def idleHandset (tickets:List QueueTicket)(h:(tickets.map QueueTicket.id).Nodup):Fleet:=
 { busyHandset none with
   sessions:=[]
   tickets:=tickets
   sessions_unique:=nodup_nil
   tickets_unique:=h }
def pollAt (now:Instant):PollClock:=⟨now,now,fun _=>now⟩
def anyPhone:QueueTicket:=⟨4,groupRequest "phones",.waiting,6,some 7,none⟩
def onePoll:Fleet:=idleHandset [anyPhone] (by decide)

lemma onePoll_claims:
 tryAllocate onePoll plainText 10 [] (pollAt 7) anyPhone =
  .ok (some ⟨1, "http://10.0.0.1:4723"⟩):=rfl

theorem idle_handset_claimed_in_order:
 ∃device∈onePoll.devices,device.id=1∧
  ∀older,¬CouldTake onePoll plainText (pollAt 7) anyPhone older device:=
 (fifo_admission_iff onePoll plainText 10 [] (pollAt 7) anyPhone).1 _ onePoll_claims

def retiredRequest:QueueTicket:=
 waitingFor (Dict.ofList [("capabilities",
  .obj [("alwaysMatch",.obj [(legacyRunIdCap,.str "run")])])])

/-- The request of a retired client is invalid and keeps the handset from the next one nevertheless. -/
theorem retired_request_vetoes:
 tryAllocate (idleHandset [retiredRequest,anyPhone] (by decide)) plainText 10 [] (pollAt 7)
   retiredRequest=.error (.capabilities .runIdCapRemoved)∧
  tryAllocate (idleHandset [retiredRequest,anyPhone] (by decide)) plainText 10 [] (pollAt 7)
   anyPhone=.ok none∧
  tryAllocate onePoll plainText 10 [] (pollAt 7) anyPhone =
   .ok (some ⟨1, "http://10.0.0.1:4723"⟩):=
 ⟨rfl,rfl,onePoll_claims⟩
end GridFleet.GridFifo
