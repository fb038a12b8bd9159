import GridFleet.GridMatching
/-! A waiting request may end the stalest session on a device it could use. The victim is found by the
matching pass without the live-session tests, and checked again under the lock of its device row. -/
namespace GridFleet.GridPreemption
open FleetTables GroupMembership CapabilityMatching GridMatching Readiness List Option SessionLifecycle StateProjection

structure PreemptionTarget where
 sessionPk:RowId
 deviceId:DeviceId
 appiumSessionId:String
 target:Option String
 deriving DecidableEq

section
variable (f:Fleet)(text:Text)(restartWindow:ℕ)(exclude:List DeviceId)

def nodeTarget (device:FleetDevice):Option String:=do
 let node ←f.nodeOf device.id
 let ip ←f.hosts.get device.hostId
 return "http://" ++ ip ++ ":" ++ toString node.port
def resolveRouterTarget (session:FleetSession)(device:FleetDevice):Option String:=
 (nodeTarget f device).or session.routerTarget
def victims (matched:List Match):List FleetSession:=
 (f.sessions.filter fun s=>
  (s.deviceId.any fun id=>matched.any fun m=>m.row.device.id=id)&&
   maskingLiveSessionPredicate s.toSession == some true&&
   s.status=.running).insertionSort fun a b=>
    a.lastActivityAt.getD a.startedAt≤b.lastActivityAt.getD b.startedAt
def claimLockPredicates (now:Instant)(reservationRunId:Option RunId)(includeBusy:Bool)
 (device:FleetDevice):Bool:=
 availabilityHolds f now includeBusy device&&nodeServes f now restartWindow device&&
  !decide (device.id∈exclude)&&gatingOwner f now device.id=reservationRunId
def lockedReadiness (packs:Catalog)(device:FleetDevice):ReadinessState:=
 (assessDeviceWithPack device.toDevice (packs.get device.packId)).readinessState

def lockedMembershipHolds (definitions:GroupDefinitionBatch)(packs:Catalog)
 (device:FleetDevice)(reservationRunId:Option RunId)(state:OperationalState)
 (candidateGroupKeys:List String):Bool:=
 candidateGroupKeys.isEmpty||
  (evaluateGroupMemberships definitions [device] fun device=>
   buildDeviceGroupFacts state reservationRunId.isSome (lockedReadiness packs device)
    (loadStaticGroupKeys f.groups device.id)).matchesAll device.id candidateGroupKeys

def lockVictim (now:Instant)(definitions:GroupDefinitionBatch)(pass:MatchPass)
 (victim:FleetSession)(m:Match):Option PreemptionTarget:=
 match f.devices.find? fun device=>device.id=m.row.device.id,requestedGroupKeys [m.candidate] with
 | some device,.ok candidateGroupKeys=>
  if claimLockPredicates f restartWindow exclude now m.row.reservationRunId true device&&
    lockedReadiness pass.packCatalog device=.verified&&
    lockedMembershipHolds f definitions pass.packCatalog device m.row.reservationRunId .busy
     candidateGroupKeys&&
    candidateMatchesStereotype text m.candidate (deviceMatchSurface text
     (stereotypeTemplate f pass.packCatalog device) device candidateGroupKeys) then
   some ⟨victim.id,device.id,victim.sessionId,resolveRouterTarget f victim device⟩
  else none
 | _,_=>none

/-- The first match of a device counts, as `setdefault` keeps it. -/
def lockStalestVictim (now:Instant)(definitions:GroupDefinitionBatch)(pass:MatchPass)
 (matched:List Match):Option PreemptionTarget:=do
 let victim ←(victims f matched).head?
 let m ←matched.find? fun m=>victim.deviceId=some m.row.device.id
 lockVictim f text restartWindow exclude now definitions pass victim m

def requestOf (body:JsonObject):Option (List Capabilities×List String):=
 match mergeCandidates body with
 | .error _=>none
 | .ok candidates=>
  match requestedGroupKeys candidates with
  | .error _=>none
  | .ok keys=>some (candidates,keys)

/-- `now` is the clock of the matching pass, `lockNow` that of the lock statement. -/
def preparePreemption (now lockNow:Instant)(ticketId:TicketId):Option PreemptionTarget:=do
 let ticket ←f.tickets.find? fun ticket=>ticket.id=ticketId
 if ticket.status ≠ .waiting then none
 else
  let (candidates,groupKeys) ←requestOf ticket.requestedBody
  let definitions:=loadGroupDefinitionBatch f.groups groupKeys
  if groupKeys.any (· ∉ definitions.loadedKeys) then none
  else
   let pass:=passFor f now restartWindow groupKeys exclude true
   lockStalestVictim f text restartWindow exclude lockNow definitions pass
    (iterMatches f text pass candidates groupKeys ticket.runId)

def strictMatches (now:Instant)(ticket:QueueTicket):List Match:=
 match requestOf ticket.requestedBody with
 | none=>[]
 | some (candidates,groupKeys)=>
  iterMatches f text (passFor f now restartWindow groupKeys exclude false) candidates groupKeys
   ticket.runId
end

def closeSession (f:Fleet)(pk:RowId)(status:SessionStatus)(endedAt:Instant):Fleet:=
 { f with
   sessions:=f.sessions.map fun s=>
    if s.id=pk then
     { s with toSession:={s.toSession with status:=status,endedAt:=some endedAt} }
    else s
   sessions_unique:=by
    have hids:(fun s:FleetSession=>(if s.id=pk then
      { s with toSession:={s.toSession with status:=status,endedAt:=some endedAt} }
      else s).id)=fun s=>s.id:=by
     funext s
     split <;> rfl
    rw [List.map_map,Function.comp_def,hids]
    exact f.sessions_unique }

section
variable {f:Fleet}{text:Text}{restartWindow:ℕ}{exclude:List DeviceId}

lemma requestOf_eq_some {body:JsonObject}{candidates:List Capabilities}{keys:List String}
 (h:requestOf body=some (candidates,keys)):
 mergeCandidates body=.ok candidates∧requestedGroupKeys candidates=.ok keys:=by
 unfold requestOf at h
 split at h
 · cases h
 · rename_i merged hmerge
   split at h
   · cases h
   · rename_i requested hkeys
     cases h
     exact ⟨hmerge,hkeys⟩
lemma keys_ne_empty {candidates:List Capabilities}{keys:List String}
 (h:requestedGroupKeys candidates=.ok keys):∀key∈keys,key∈keys∧key ≠ "" :=by
 intro key hkey
 refine ⟨hkey,?_⟩
 rintro rfl
 have hvalid:=(requestedGroupKeys_eq_ok h).1 "" hkey
 rw[isValidGroupKey_empty] at hvalid
 cases hvalid
lemma lockVictim_eq_some {now:Instant}{definitions:GroupDefinitionBatch}{pass:MatchPass}
 {victim:FleetSession}{m:Match}{target:PreemptionTarget}
 (h:lockVictim f text restartWindow exclude now definitions pass victim m=some target):
 target.deviceId=m.row.device.id∧target.sessionPk=victim.id:=by
 unfold lockVictim at h
 split at h
 · rename_i device keys hdevice hkeys
   split at h
   · cases h
     exact ⟨by simpa using find?_some hdevice,rfl⟩
   · cases h
 · cases h

lemma preparePreemption_eq_some {now lockNow:Instant}{ticketId:TicketId}{target:PreemptionTarget}
 (h:preparePreemption f text restartWindow exclude now lockNow ticketId=some target):
 ∃ticket candidates keys m,f.tickets.find? (fun ticket=>ticket.id=ticketId)=some ticket∧
  requestOf ticket.requestedBody=some (candidates,keys)∧
  m∈iterMatches f text (passFor f now restartWindow keys exclude true) candidates keys
   ticket.runId∧m.row.device.id=target.deviceId:=by
 unfold preparePreemption at h
 obtain ⟨ticket,hticket,h⟩:=bind_eq_some_iff.mp h
 split at h
 · cases h
 obtain ⟨⟨candidates,keys⟩,hrequest,h⟩:=bind_eq_some_iff.mp h
 dsimp only at h
 split at h
 · cases h
 obtain ⟨victim,-,h⟩:=bind_eq_some_iff.mp h
 obtain ⟨m,hfind,h⟩:=bind_eq_some_iff.mp h
 exact ⟨ticket,candidates,keys,m,hticket,hrequest,mem_of_find?_eq_some hfind,
  (lockVictim_eq_some h).1.symm⟩

section
variable {now endedAt:Instant}{pk:RowId}{status:SessionStatus}{device:FleetDevice}
 (hothers:∀s∈f.sessions,isLive s.toSession=true→
  s.deviceId=some device.id→s.id=pk)

include hothers

lemma notLive_closeSession {s:FleetSession}
 (hs:s∈(closeSession f pk status endedAt).sessions)(hdevice:s.deviceId=some device.id):
 isLive s.toSession=false:=by
 obtain ⟨s',hs',rfl⟩:=List.mem_map.mp hs
 by_cases hpk:s'.id=pk
 · rw[if_pos hpk]
   simp[isLive,isOpen]
 · rw[if_neg hpk] at hdevice ⊢
   by_contra hlive
   exact hpk (hothers s' hs' (by simpa using hlive) hdevice)
lemma notMasked_closeSession:maskingLiveSessionExists (closeSession f pk status endedAt).database
  device.toDevice=some false:=by
 rw[maskingLiveSessionExists_eq,some.injEq,masked,
  List.any_eq_false]
 intro row hrow hmasks
 obtain ⟨s,hs,rfl⟩:=List.mem_map.mp hrow
 rw[Bool.and_eq_true,decide_eq_true_eq] at hmasks
 have hdead:=notLive_closeSession hothers hs hmasks.1
 have hmasking:=hmasks.2
 simp only[isMasking,Bool.and_eq_true,decide_eq_true_eq] at hmasking
 have hlive:isLive s.toSession:=by
  simp only[isLive,isLiveStatus,isOpen,
   Bool.and_eq_true,Bool.or_eq_true,decide_eq_true_eq]
  exact hmasking.1
 rw[hdead] at hlive
 cases hlive
lemma isEligible_closeSession (h:isEligible f now restartWindow exclude true device):
 isEligible (closeSession f pk status endedAt) now restartWindow exclude false device:=by
 simp only[isEligible,Bool.and_eq_true,Bool.true_or,and_true] at h
 obtain ⟨⟨havailable,hserves⟩,hexclude⟩:=h
 have hunmasked:maskingLiveSessionExists (closeSession f pk status endedAt).database
   device.toDevice=some false:=notMasked_closeSession hothers
 have hstrict:availabilityHolds (closeSession f pk status endedAt) now false device:=by
  unfold availabilityHolds isAvailableSql at *
  simp only[if_true,Bool.false_eq_true,if_false,beq_iff_eq] at havailable ⊢
  rw[hunmasked,Sql.and_eq_true_iff]
  exact ⟨rfl,havailable⟩
 have hidle:ReservationGate.liveSessionExists (closeSession f pk status endedAt).gate device.id =
   false:=by
  unfold ReservationGate.liveSessionExists
  rw[List.any_eq_false]
  intro row hrow hlive
  obtain ⟨s,hs,rfl⟩:=List.mem_map.mp hrow
  rw[Bool.and_eq_true,decide_eq_true_eq] at hlive
  rw[notLive_closeSession hothers hs hlive.2] at hlive
  exact absurd hlive.1 (by decide)
 simp only[isEligible,Bool.and_eq_true,Bool.false_or,hidle,Bool.not_false,and_true]
 exact ⟨⟨hstrict,hserves⟩,hexclude⟩
lemma stateColumn_closeSession:stateColumn (closeSession f pk status endedAt) device=.available:=by
 unfold stateColumn
 rw[notMasked_closeSession hothers]
 rfl

variable (text) in
/-- The routing surface reads no session: it is the one of the open state, for an available device. -/
lemma matches_closeSession {keys:List String}{candidate:Capabilities}(hmem:device∈f.devices)
 (heligible:isEligible (closeSession f pk status endedAt) now restartWindow exclude false device =
  true)
 (hverified:IsVerified f device)(hkeys:∀key∈keys,key∈keys∧key ≠ "")
 (hcandidate:∀key,groupPrefix++key∈candidate.keys→key∈keys):
 candidateMatchesStereotype text candidate (stereotypeOf (closeSession f pk status endedAt) text
  (passFor (closeSession f pk status endedAt) now restartWindow keys exclude false) keys device) =
 candidateMatchesStereotype text candidate (fullSurface f now text .available device):=by
 have hmem':device∈(closeSession f pk status endedAt).devices:=hmem
 have hverified':IsVerified (closeSession f pk status endedAt) device:=hverified
 rw[matches_stereotypeOf hmem' heligible hverified' hkeys hcandidate,
  stateColumn_closeSession hothers]
 rfl
end

/-- The victim's device can be claimed once the session is closed exactly when some candidate of the
request matches the device as an available one: a group that holds busy devices only does not count. -/
theorem preemption_victim_claimable_iff {now lockNow endedAt:Instant} {ticketId:TicketId}
 {target:PreemptionTarget} {ticket:QueueTicket} {status:SessionStatus}
 (h:preparePreemption f text restartWindow exclude now lockNow ticketId=some target)
 (hticket:f.tickets.find? (fun ticket=>ticket.id=ticketId)=some ticket)
 (hothers:∀s∈f.sessions,isLive s.toSession=true→
  s.deviceId=some target.deviceId→ s.id=target.sessionPk):
 (∃m∈strictMatches (closeSession f target.sessionPk status endedAt) text restartWindow exclude
   now ticket,m.row.device.id=target.deviceId)↔
  ∃device∈f.devices,device.id=target.deviceId∧
   ∃candidates,mergeCandidates ticket.requestedBody=.ok candidates∧
    ∃candidate∈candidates,candidateMatchesStereotype text candidate
     (fullSurface f now text .available device)=true:=by
 obtain ⟨ticket',candidates,keys,m,hticket',hrequest,hmatch,hdevice⟩:=
  preparePreemption_eq_some h
 obtain rfl:ticket'=ticket:=some.inj (hticket'.symm.trans hticket)
 obtain ⟨hmerge,hkeys⟩:=requestOf_eq_some hrequest
 obtain ⟨hrow,-,hrun,-,-⟩:=mem_iterMatches.mp hmatch
 obtain ⟨device,hmem,heligible,hverified,hrowEq⟩:=mem_passFor_rows.mp hrow
 rw[hrowEq] at hdevice hrun
 have hid:device.id=target.deviceId:=hdevice
 rw[←hid] at hothers ⊢
 have hvalid:=keys_ne_empty hkeys
 have hnamed:=(requestedGroupKeys_eq_ok hkeys).2
 have heligible':isEligible (closeSession f target.sessionPk status endedAt) now restartWindow
   exclude false device=true:=isEligible_closeSession hothers heligible
 have hsame:=fun candidate (hcandidate:candidate∈candidates)=>
  matches_closeSession text hothers hmem heligible' hverified hvalid (hnamed candidate hcandidate)
 unfold strictMatches
 rw[hrequest]
 dsimp only
 constructor
 · rintro ⟨m',hm',hid'⟩
   obtain ⟨hrow',hcandidate,-,hstereotype,hmatches⟩:=mem_iterMatches.mp hm'
   obtain ⟨device',hmem',-,-,hrowEq'⟩:=mem_passFor_rows.mp hrow'
   rw[hrowEq'] at hid' hstereotype
   obtain rfl:=device_unique hmem' hmem hid'
   rw[hstereotype] at hmatches
   exact ⟨device',hmem,rfl,candidates,hmerge,m'.candidate,hcandidate,
    (hsame m'.candidate hcandidate).symm.trans hmatches⟩
 · rintro ⟨device',hmem',hid',candidates',hmerge',candidate,hcandidate,hmatches⟩
   obtain rfl:=device_unique hmem' hmem hid'
   obtain rfl:candidates'=candidates:=Except.ok.inj (hmerge'.symm.trans hmerge)
   let closed:=closeSession f target.sessionPk status endedAt
   let row:=eligibleRow closed now (loadGroupDefinitionBatch closed.groups keys).loadedKeys device'
   have hrow':row∈(passFor closed now restartWindow keys exclude false).rows:=
    mem_passFor_rows.mpr ⟨device',hmem,heligible',hverified,rfl⟩
   let found:Match:=
    ⟨row,candidate,stereotypeOf closed text
     (passFor closed now restartWindow keys exclude false) keys device'⟩
   refine ⟨found,mem_iterMatches.mpr ⟨hrow',hcandidate,hrun,rfl,?_⟩,rfl⟩
   exact (hsame candidate hcandidate).trans hmatches
end

def groupOfState (key:String)(state:Option OperationalState):GroupTables where
 groups:=Dict.ofList [(1,⟨key,key,none,.dynamic,some {status:=state}⟩)]
 memberOf:=[]
 memberships:=[]
 key_unique _ _ _ _ hi hj _:=
  (Dict.key_of_get_ofList_singleton hi).trans (Dict.key_of_get_ofList_singleton hj).symm
 memberOf_typed:=by intro e he;cases he

def plainText:Text:=⟨fun _=> "",fun _ _=>none⟩
def groupRequest (key:String):JsonObject:=
 Dict.ofList [("capabilities",.obj [("alwaysMatch",.obj [(groupPrefix++key,.bool true)])])]

def handsetNode:FleetNode:=
 { runningNode with
   deviceId:=1
   activeConnectionTarget:=some "emulator"
   observedPackRelease:=none
   healthRunning:=some true
   startedAt:=some 0 }

def handsetSession:FleetSession:=
 ⟨⟨7, "s-7",some 1,none,.running,none,none,none⟩,0,none,none⟩
def waitingFor (body:JsonObject):QueueTicket:=⟨3,body,.waiting,5,some 5,none⟩

def busyHandset (state:Option OperationalState):Fleet where
 devices:=[handset]
 nodes:=[handsetNode]
 sessions:=[handsetSession]
 intents:=[]
 reservations:=[]
 runs:=[]
 packs:=Dict.ofList [("appium-uiautomator2",
  ⟨some "1",[⟨"1",[⟨"android_mobile",⟨[],.empty⟩⟩]⟩]⟩)]
 stereotypes:=fun _ _ _=>⟨"Android", "UiAutomator2",.empty⟩
 hosts:=Dict.ofList [(1, "10.0.0.1")]
 groups:=groupOfState "phones" state
 tickets:=[waitingFor (groupRequest "phones")]
 devices_unique:=by decide
 nodes_unique:=by decide
 sessions_unique:=by decide
 intents_unique:=by decide
 tickets_unique:=by decide

theorem preempted_handset_claimable:
 ∃m∈strictMatches (closeSession (busyHandset none) 7 .error 6) plainText 10 [] 6
  (waitingFor (groupRequest "phones")),m.row.device.id=1:=
 (preemption_victim_claimable_iff
  (show preparePreemption (busyHandset none) plainText 10 [] 6 6 3 =
   some ⟨7,1, "s-7",some "http://10.0.0.1:4723"⟩ by decide) rfl (by decide)).mpr
  ⟨handset,by decide,rfl,_,rfl,_,mem_cons_self,by decide⟩

/-- The group of busy handsets loses the handset when its session is closed, so the session ends for
nothing. -/
theorem preempted_handset_leaves_group:
 preparePreemption (busyHandset (some .busy)) plainText 10 [] 6 6 3 =
   some ⟨7,1, "s-7",some "http://10.0.0.1:4723"⟩∧
  (∀s∈(busyHandset (some .busy)).sessions,s.id=7)∧
  strictMatches (closeSession (busyHandset (some .busy)) 7 .error 6) plainText 10 [] 6
   (waitingFor (groupRequest "phones"))=[]:=by
 refine ⟨?_,?_,?_⟩
 · decide
 · decide
 · rfl
end GridFleet.GridPreemption
