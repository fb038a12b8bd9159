import GridFleet.Verification
namespace GridFleet.Verification
open Decision DecisionSnapshot IntentReconciler IntentStore ReleaseRollout Dict List Option
open SessionLifecycle (isLive isLiveStatus isOpen ended)

lemma append_ne_of_getElem? {a b:String}(i:ℕ)(ha:i<a.toList.length)
 (hb:i<b.toList.length)(hne:a.toList[i]?≠b.toList[i]?)(x y:String):a++x≠b++y:=by
 intro heq
 apply hne
 have hlists:a.toList++x.toList=b.toList++y.toList:=by
  rw[←String.toList_append,←String.toList_append,heq]
 calc a.toList[i]?=(a.toList++x.toList)[i]?:=(getElem?_append_left ha).symm
   _=(b.toList++y.toList)[i]?:=by rw[hlists]
   _=b.toList[i]?:=getElem?_append_left hb

/-- No reconcile writes a row of such a source: it is no rollout's. -/
def NotRollout (source:String):Prop:=∀deviceId,source≠releaseRolloutIntentSource deviceId

section
variable (deviceId:DeviceId)

lemma notRollout_verification:NotRollout (verificationIntentSource deviceId):=
 fun other=>append_ne_of_getElem? 0 (by decide) (by decide) (by decide) _ (toString other)
lemma notRollout_operatorStopNode:NotRollout (operatorStopNodeSource deviceId):=
 fun other=>append_ne_of_getElem? 0 (by decide) (by decide) (by decide) _ (toString other)
lemma operatorStopNode_ne_verification:
 operatorStopNodeSource deviceId≠verificationIntentSource deviceId:=
 append_ne_of_getElem? 0 (by decide) (by decide) (by decide) _ _
lemma operatorStopNode_ne_operatorStart:
 operatorStopNodeSource deviceId≠operatorStartSource deviceId:=
 append_ne_of_getElem? 11 (by decide) (by decide) (by decide) _ _
lemma verification_notMem_operatorStopSources:
 verificationIntentSource deviceId ∉ operatorStopSources deviceId:=by
 intro hmem
 rcases mem_cons.mp hmem with heq|hmem
 · exact append_ne_of_getElem? 0 (by decide) (by decide) (by decide) _ _ heq
 · exact append_ne_of_getElem? 0 (by decide) (by decide) (by decide) _ _ (mem_singleton.mp hmem)
lemma verification_ne_operatorStart:verificationIntentSource deviceId≠operatorStartSource deviceId:=
 append_ne_of_getElem? 0 (by decide) (by decide) (by decide) _ _
end

def SameRows (source:String)(a b:IntentTable):Prop:=
 ∀row:DeviceIntent,row.source=source→(row∈b.rows↔row∈a.rows)
def Gone (source:String)(a:IntentTable):Prop:=∀row∈a.rows,row.source≠source
def NoNewRows (source:String)(a b:IntentTable):Prop:=
 ∀row∈b.rows,row.source=source→ row∈a.rows

section
variable {a b c:IntentTable}{source:String}

lemma SameRows.trans (hab:SameRows source a b)(hbc:SameRows source b c):SameRows source a c:=
 fun row hsource=>(hbc row hsource).trans (hab row hsource)
lemma SameRows.gone (h:SameRows source a b)(hgone:Gone source a):Gone source b:=
 fun row hmem hsource=>hgone row ((h row hsource).mp hmem) hsource
lemma SameRows.noNewRows (h:SameRows source a b):NoNewRows source a b:=
 fun row hmem hsource=>(h row hsource).mp hmem
lemma Gone.noNewRows (h:Gone source b):NoNewRows source a b:=
 fun row hmem hsource=>absurd hsource (h row hmem)
lemma NoNewRows.trans (hab:NoNewRows source a b)(hbc:NoNewRows source b c):NoNewRows source a c:=
 fun row hmem hsource=>hab row (hbc row hmem hsource) hsource
lemma NoNewRows.gone (h:NoNewRows source a b)(hgone:Gone source a):Gone source b:=
 fun row hmem hsource=>hgone row (h row hmem hsource) hsource
lemma noNewRows_delete {p:DeviceIntent→Bool}:NoNewRows source a (a.delete p):=
 fun _ hmem _=>(mem_delete.mp hmem).1
lemma sameRows_registerIntents {deviceId:DeviceId}{intents:List IntentRegistration}
 (h:registerIntents a deviceId intents=some b)(hne:∀reg∈intents,source≠reg.source):
 SameRows source a b:=by
 intro row hsource
 apply mem_registerIntents_of_notMem h
 intro reg hreg
 rw[hsource]
 exact hne reg hreg

variable {sources:List String}

lemma mem_foldl_revokeIntent {row:DeviceIntent}:
 row∈(sources.foldl revokeIntent a).rows↔row∈a.rows∧row.source ∉ sources:=by
 induction sources generalizing a with
 | nil=>simp
 | cons _ _ ih=>
  rw[foldl_cons,ih,revokeIntent,mem_delete,mem_cons,not_or,and_assoc]
  simp
lemma sameRows_foldl_revokeIntent (hne:source ∉ sources):
 SameRows source a (sources.foldl revokeIntent a):=by
 intro row hsource
 rw[mem_foldl_revokeIntent,hsource]
 exact and_iff_left hne
lemma gone_foldl_revokeIntent (hmem:source∈sources):Gone source (sources.foldl revokeIntent a):=by
 intro row hrow hsource
 rw[mem_foldl_revokeIntent,hsource] at hrow
 exact hrow.2 hmem
lemma sameRows_stampVerificationOutcome {deviceId:DeviceId}{outcome:String}
 (hne:source≠verificationIntentSource deviceId):
 SameRows source a (stampVerificationOutcome deviceId outcome a):=by
 intro row hsource
 rw[stampVerificationOutcome,mem_modify]
 constructor
 · rintro ⟨before,hbefore,rfl⟩
   split at hsource
   · rename_i hlease
     exact absurd (hsource.symm.trans hlease) hne
   · rename_i hother
     rwa [if_neg hother]
 · intro hmem
   exact ⟨row,hmem,if_neg (hsource ▸ hne)⟩

lemma sameRows_settledIntents (text:DatetimeText)(deviceId:DeviceId)
 {snapshot:DeviceDecisionSnapshot}{now:Instant}(hrows:snapshot.intents=snapshotRows a)
 (hsource:NotRollout source):SameRows source a
  ((settledIntents text deviceId snapshot now).2.foldl IntentTable.applyWrite a):=by
 have hsettles:Settles text deviceId snapshot.nodeObservedPackRelease snapshot.intents
   snapshot.decisionFacts snapshot.hasLiveSession now (settledIntents text deviceId snapshot now):=
  settles_applyRolloutStamp
 -- the row a write names is the rollout's, so a row of another source has another key
 have hother:∀rollout,rolloutRow snapshot.intents deviceId=some rollout→
   ∀row∈a.rows,row.source=source→ row.id≠rollout.id:=by
  intro rollout hrollout row hmem hrow hid
  rw[hrows,rolloutRow_snapshotRows] at hrollout
  obtain ⟨hstored,hkey⟩:=rolloutRow_eq_some_iff.mp hrollout
  have heq:row=rollout:=inj_on_of_nodup_map a.ids_unique hmem hstored hid
  exact hsource deviceId (by rw[←hrow,heq,hkey])
 generalize settledIntents text deviceId snapshot now=settled at hsettles ⊢
 intro row hrow
 cases hsettles with
 | absent | kept=>exact Iff.rfl
 | converged rollout hrollout=>
  rw[foldl_cons,foldl_nil,IntentTable.applyWrite,mem_delete]
  exact and_iff_left_of_imp fun hmem=>decide_eq_false (hother rollout hrollout row hmem hrow)
 | stamped rollout hrollout hdue payload hpayload=>
  rw[foldl_cons,foldl_nil,mem_setPayload]
  constructor
  · rintro ⟨before,hbefore,rfl⟩
    split at hrow
    · rename_i hid
      exact absurd hid (hother rollout hrollout before hbefore hrow)
    · rename_i hid
      rwa [if_neg hid]
  · intro hmem
    exact ⟨row,hmem,if_neg (hother rollout hrollout row hmem hrow)⟩
end

def KeepsNode (t u:Tables):Prop:=
 ∀node,t.node=some node→∃after,u.node=some after∧after.pid=node.pid∧
  after.activeConnectionTarget=node.activeConnectionTarget

structure Touches (touched:List String)(t u:Tables):Prop where
 rows:∀source,NotRollout source→source ∉ touched→SameRows source t.intents u.intents
 sessions:u.sessions=t.sessions

section
variable {text:DatetimeText}{deviceId:DeviceId}{t u v:Tables}
 {facts:DeviceDecisionSnapshot}{now:Instant}

lemma KeepsNode.trans (htu:KeepsNode t u)(huv:KeepsNode u v):KeepsNode t v:=by
 intro node hnode
 obtain ⟨middle,hmiddle,hpid,htarget⟩:=htu node hnode
 obtain ⟨after,hafter,hpid',htarget'⟩:=huv middle hmiddle
 exact ⟨after,hafter,hpid'.trans hpid,htarget'.trans htarget⟩
lemma keepsNode_of_eq (h:u.node=t.node):KeepsNode t u:=
 fun node hnode=>⟨node,h.trans hnode,rfl,rfl⟩
lemma Touches.trans {a b:List String}(htu:Touches a t u)(huv:Touches b u v):Touches (a++b) t v where
 rows:=by
  intro source hrollout hnot
  rw[mem_append,not_or] at hnot
  exact (htu.rows source hrollout hnot.1).trans (huv.rows source hrollout hnot.2)
 sessions:=huv.sessions.trans htu.sessions

lemma reconcile_spec (h:reconcile text deviceId t facts now=some u):Touches [] t u∧KeepsNode t u:=by
 unfold reconcile at h
 split at h
 · cases h
 rename_i device hdevice
 split at h
 · cases h
 rename_i result hresult
 cases h
 cases hnode:t.node with
 | none=>
  rw[hnode] at hresult
  cases hresult
  refine ⟨⟨fun source _ _ row _=>Iff.rfl,rfl⟩,?_⟩
  intro node hsome
  rw[hnode] at hsome
  cases hsome
 | some node=>
  obtain ⟨spec,hspec,hwrites,hwritten⟩:=
   reconcileLockedDevice_spec text device node (snapshotOf deviceId t facts now) now
  rw[hnode,hspec] at hresult
  cases hresult
  refine ⟨⟨?_,rfl⟩,?_⟩
  · intro source hsource _
    rw[hwrites]
    exact sameRows_settledIntents text device.id rfl hsource
  · intro before hbefore
    rw[hnode] at hbefore
    cases hbefore
    exact ⟨_,hwritten,rfl,rfl⟩

lemma registerIntentsAndReconcile_spec {intents:List IntentRegistration}
 (h:registerIntentsAndReconcile text deviceId t intents facts now=some u):
 Touches (intents.map IntentRegistration.source) t u∧KeepsNode t u∧
  ∃table,registerIntents t.intents deviceId intents=some table∧
   ∀source,NotRollout source→SameRows source table u.intents:=by
 obtain ⟨table,htable,hreconcile⟩:=bind_eq_some_iff.mp h
 obtain ⟨htouches,hkeeps⟩:=reconcile_spec hreconcile
 refine ⟨⟨?_,htouches.sessions⟩,hkeeps,table,htable,?_⟩
 · intro source hrollout hnot
   have hregister:SameRows source t.intents table:=by
    apply sameRows_registerIntents htable
    intro reg hreg heq
    exact hnot (heq ▸ List.mem_map_of_mem hreg)
   exact hregister.trans (htouches.rows source hrollout (not_mem_nil))
 · intro source hrollout
   exact htouches.rows source hrollout (not_mem_nil)
lemma revokeIntentsAndReconcile_spec {sources:List String}
 (h:revokeIntentsAndReconcile text deviceId t sources facts now=some u):
 Touches sources t u∧KeepsNode t u∧∀source∈sources,NotRollout source→Gone source u.intents:=by
 obtain ⟨htouches,hkeeps⟩:=reconcile_spec h
 refine ⟨⟨?_,htouches.sessions⟩,hkeeps,?_⟩
 · intro source hrollout hnot
   exact (sameRows_foldl_revokeIntent hnot).trans (htouches.rows source hrollout not_mem_nil)
 · intro source hmem hrollout
   exact (htouches.rows source hrollout not_mem_nil).gone (gone_foldl_revokeIntent hmem)
lemma startNodeTxn_spec {choices:StartChoices}(h:startNodeTxn text deviceId t choices now=some u):
 Touches (operatorStopSources deviceId++[operatorStartSource deviceId]) t u∧KeepsNode t u∧
  Gone (operatorStopNodeSource deviceId) u.intents:=by
 unfold startNodeTxn at h
 obtain ⟨-,h⟩:=ite_none_left_eq_some.mp h
 obtain ⟨middle,hrevoke,hregister⟩:=bind_eq_some_iff.mp h
 obtain ⟨hrevoked,hkept,hgone⟩:=revokeIntentsAndReconcile_spec hrevoke
 obtain ⟨hregistered,hkept',-⟩:=registerIntentsAndReconcile_spec hregister
 have hnode:KeepsNode t {t with node:=some (t.node.getD (newNode deviceId choices.port))}:=by
  intro node hsome
  exact ⟨node,by rw[hsome,getD_some],rfl,rfl⟩
 have hstop:=notRollout_operatorStopNode deviceId
 have hother:operatorStopNodeSource deviceId ∉ [operatorStartIntent deviceId
   (deadline now choices.startupTimeoutSec choices.viabilityTimeoutSec)].map
    IntentRegistration.source:=by
  rw[map_singleton,mem_singleton]
  exact operatorStopNode_ne_operatorStart deviceId
 have hstarted:Touches (operatorStopSources deviceId) t middle:=
  ⟨hrevoked.rows,hrevoked.sessions⟩
 refine ⟨hstarted.trans hregistered,(hnode.trans hkept).trans hkept',?_⟩
 exact (hregistered.rows _ hstop hother).gone (hgone _ mem_cons_self hstop)
lemma registerIntents_singleton {a b:IntentTable}{reg:IntentRegistration}
 (htarget:reg.payload.get targetReleaseKey=none)
 (h:registerIntents a deviceId [reg]=some b):b=a.upsert deviceId reg:=by
 have hplain:withPreservedStamp a [reg] reg=reg:=by
  unfold withPreservedStamp preservedStamp stampableSources
  simp[htarget]
 unfold registerIntents at h
 rw[map_singleton,map_singleton,if_pos (nodup_singleton _),hplain] at h
 exact (some.inj h).symm
lemma writeVerificationLease_spec {op:OpId}{startup viability:ℕ}
 (h:writeVerificationLease text deviceId t op startup viability facts now=some u):
 Touches [verificationIntentSource deviceId] t u∧KeepsNode t u∧
  ∀row∈u.intents.rows,row.source=verificationIntentSource deviceId→
   payloadGet row.payload operationIdKey=some (.str op):=by
 obtain ⟨htouches,hkeeps,table,htable,hsame⟩:=registerIntentsAndReconcile_spec h
 refine ⟨htouches,hkeeps,?_⟩
 intro row hmem hsource
 have hstored:=(hsame _ (notRollout_verification deviceId) row hsource).mp hmem
 have htarget:(verificationLease deviceId op (deadline now startup viability)).payload.get
   targetReleaseKey=none:=by
  rw[verificationLease,get_set_of_ne _ _ (by decide),get_set_of_ne _ _ (by decide)]
  rfl
 rw[registerIntents_singleton htarget htable] at hstored
 rcases mem_upsert hstored with ⟨-,hne⟩|⟨-,-,hpayload,-⟩
 · exact absurd hsource hne
 · rw[hpayload]
   simp[verificationLease,payloadGet]
end

/-- A session that holds the device for a client: the row of a grid claim carries its ticket, a
probe's carries none. -/
def isClientSession (row:Session):Bool:=isLive row&&row.ticketId.isSome

def NoClient (sessions:Dict RowId Session):Prop:=
 ∀id row,sessions.get id=some row→isClientSession row=false

lemma noClient_empty:NoClient Dict.empty:=by
 intro id row hget
 cases hget

variable {t:Tables}

lemma noClient_of_not_live (h:deviceHasLiveSession t=false):NoClient t.sessions:=by
 intro id row hget
 have hlive:isLive row=false:=by
  have hall:=List.any_eq_false.mp h (id,row) (get_eq_some_iff.mp hget)
  simpa using hall
 rw[isClientSession,hlive,Bool.false_and]
lemma NoClient.set {sessions:Dict RowId Session}(h:NoClient sessions){id:RowId}
 {row:Session}(hrow:isClientSession row=false):NoClient (sessions.set id row):=
 forall_get_set hrow h
lemma NoClient.updateSession (h:NoClient t.sessions){id:RowId}
 {guard:Session→Bool}{set:Session→Session}
 (hset:∀row,guard row→isClientSession row=false→isClientSession (set row)=false):
 NoClient (Verification.updateSession t id guard set).sessions:=by
 intro other row hget
 obtain ⟨before,hbefore,rfl⟩:=get_map_eq_some hget
 have hfree:=h other before hbefore
 split
 · rename_i hguard
   exact hset before hguard.2 hfree
 · exact hfree
lemma isClientSession_ended (row:Session)(status:SessionStatus)(now:Instant):
 isClientSession (ended row status now)=false:=by
 simp[isClientSession,isLive,isOpen,ended]
lemma NoClient.promoteToRunning (h:NoClient t.sessions)(id:RowId)(appiumSessionId:String):
 NoClient (Verification.promoteToRunning t id appiumSessionId).sessions:=by
 apply h.updateSession
 intro row hguard hfree
 simp only[Bool.and_eq_true,decide_eq_true_eq] at hguard
 obtain ⟨hpending,hopen⟩:=hguard
 have hticket:row.ticketId.isSome=false:=by
  simpa[isClientSession,isLive,isLiveStatus,hpending,hopen] using hfree
 simp[isClientSession,hticket]

structure Moves (deviceId:DeviceId)(t:Tables)(now:Instant)(p q:Phase):Prop where
 prepared:p.prepareDone→q.prepareDone
 stopRead:q.pastStopRead→
  p.pastStopRead∨operatorStopActive deviceId t now=false
 sessionRead:q.unleased→p.unleased∨deviceHasLiveSession t=false

lemma moves_finished {deviceId:DeviceId}{now:Instant}{p:Phase}:Moves deviceId t now p .finished:=
 ⟨fun _=>rfl,fun h=>(by cases h),fun h=>(by cases h)⟩
lemma moves_of_prepareDone {deviceId:DeviceId}{now:Instant}{p q:Phase}
 (hp:p.pastStopRead)(hq:q.prepareDone):Moves deviceId t now p q:=by
 refine ⟨fun _=>hq,fun _=>.inl hp,fun hgap=>?_⟩
 cases q <;> cases hq <;> cases hgap

section
variable (deviceId:DeviceId)(t:Tables)(now:Instant)(op:OpId)(o:Operation)

inductive Acted:Action→Tables→Operation→Prop
 | quiet (action:Action)(phase:Phase)(hmoves:Moves deviceId t now o.phase phase):
   Acted action t (o.goto phase)
 | leased (payload:DeviceFields)(startup viability:ℕ)(facts:DeviceDecisionSnapshot)
   (u:Tables)(hphase:o.phase=.checked)
   (htouches:Touches [verificationIntentSource deviceId] t u)(hkeeps:KeepsNode t u)
   (hlease:∀row∈u.intents.rows,row.source=verificationIntentSource deviceId→
    payloadGet row.payload operationIdKey=some (.str op)):
   Acted (.writeLease payload startup viability facts) u
    {o with phase:=.prepared,payload:=payload}
 | stopped (hphase:o.phase=.stopping)(hrunning:observedRunning t.node):
   Acted .stopExistingNode {t with node:=t.node.map stoppedNode} (o.goto .starting)
 | started (choices:StartChoices)(u:Tables)(hphase:o.phase=.starting)
   (hlease:holdsLease deviceId t op)
   (htouches:Touches (operatorStopSources deviceId++[operatorStartSource deviceId]) t u)
   (hkeeps:KeepsNode t u)(hgone:Gone (operatorStopNodeSource deviceId) u.intents):
   Acted (.startNode choices) u (o.goto .started)
 | probed (action:Action)(hunfenced:action.unfenced)(sessions:Dict RowId Session)
   (phase:Phase)(hdone:o.phase.pastStopRead)(hnext:phase.prepareDone)
   (hfree:NoClient t.sessions→NoClient sessions):
   Acted action {t with sessions:=sessions} (o.goto phase)
 | succeeded (facts:DeviceDecisionSnapshot)(u:Tables)(hlease:holdsLease deviceId t op)
   (htouches:Touches [verificationIntentSource deviceId] t u)(hkeeps:KeepsNode t u)
   (hgone:Gone (verificationIntentSource deviceId) u.intents):
   Acted (.finalizeSuccess facts) u (o.goto .finished)
 | failed (facts:DeviceDecisionSnapshot)(nodeStarted:Bool)(u:Tables)
   (hphase:o.phase=.failing nodeStarted)(hmode:o.mode=.update)
   (hlease:holdsLease deviceId t op)
   (hsessions:u.sessions=t.sessions)(hkeeps:nodeStarted=false→KeepsNode t u)
   (hgone:Gone (verificationIntentSource deviceId) u.intents)
   (hstop:Gone (operatorStopNodeSource deviceId) u.intents):
   Acted (.finalizeFailure facts) u (o.goto .finished)
 | deleted (facts:DeviceDecisionSnapshot)(hmode:o.mode=.create)
   (hlease:holdsLease deviceId t op):
   Acted (.finalizeFailure facts) (deleteDevice t) (o.goto .finished)
end

section
variable {text:DatetimeText}{deviceId:DeviceId}{t u:Tables}{now:Instant}{op:OpId}
 {o o':Operation}

lemma finalizeSuccess_spec {payload:DeviceFields}{facts:DeviceDecisionSnapshot}
 (h:finalizeSuccess text deviceId t payload facts now=some u):
 Touches [verificationIntentSource deviceId] t u∧KeepsNode t u∧
  Gone (verificationIntentSource deviceId) u.intents:=by
 obtain ⟨htouches,hkeeps,hgone⟩:=revokeIntentsAndReconcile_spec h
 refine ⟨⟨?_,htouches.sessions⟩,hkeeps,
  hgone _ mem_cons_self (notRollout_verification deviceId)⟩
 intro source hrollout hnot
 have hne:source≠verificationIntentSource deviceId:=by simpa using hnot
 exact (sameRows_stampVerificationOutcome hne).trans (htouches.rows source hrollout hnot)
lemma finalizeFailure_spec {original:DeviceFields}{nodeStarted:Bool}{facts:DeviceDecisionSnapshot}
 (h:finalizeFailure text deviceId t original nodeStarted facts now=some u):
 u.sessions=t.sessions∧(nodeStarted=false→KeepsNode t u)∧
  Gone (verificationIntentSource deviceId) u.intents∧
  Gone (operatorStopNodeSource deviceId) u.intents:=by
 obtain ⟨htouches,hkeeps,hgone⟩:=revokeIntentsAndReconcile_spec h
 refine ⟨?_,?_,hgone _ (by simp) (notRollout_verification deviceId),
  hgone _ (by simp[operatorStopSources]) (notRollout_operatorStopNode deviceId)⟩
 · rw[htouches.sessions]
   unfold stopVerificationNodeIfRunning
   split <;> rfl
 · rintro rfl
   exact hkeeps
lemma fenced_eq_some {body:Option (Tables×Operation)}(h:fenced deviceId t op o body=some (u,o')):
 (holdsLease deviceId t op∧body=some (u,o'))∨
  (holdsLease deviceId t op=false∧u=t∧o'=o.goto .finished):=by
 unfold fenced at h
 split at h
 · rename_i hlease
   exact .inl ⟨hlease,h⟩
 · rename_i hlost
   cases h
   exact .inr ⟨by simpa using hlost,rfl,rfl⟩

lemma acted_of_act {action:Action}(h:act text deviceId t now op o action=some (u,o')):
 Acted deviceId t now op o action u o':=by
 cases action with simp only[act] at h
 | readSessions=>
  split at h
  · cases h
    refine .quiet _ _ ?_
    split
    · exact moves_finished
    · rename_i hphase hlive
      refine ⟨fun hdone=>?_,fun hpast=>(by cases hpast),fun _=>.inr (by simpa using hlive)⟩
      rw[hphase] at hdone
      cases hdone
  · cases h
 | readOperatorStop=>
  split at h
  · cases h
    refine .quiet _ _ ?_
    split
    · exact moves_finished
    · rename_i hphase hactive
      refine ⟨fun hdone=>?_,fun _=>.inr (by simpa using hactive),fun _=>.inl ?_⟩
      · rw[hphase] at hdone
        cases hdone
      · rw[hphase]
        rfl
  · cases h
 | refuse=>
  obtain ⟨-,⟨⟩⟩:=ite_none_left_eq_some.mp h
  exact .quiet _ _ moves_finished
 | writeLease payload startup viability facts=>
  obtain ⟨hphase,h⟩:=ite_none_right_eq_some.mp h
  obtain ⟨after,hlease,heq⟩:=map_eq_some_iff.mp h
  cases heq
  obtain ⟨htouches,hkeeps,htoken⟩:=writeVerificationLease_spec hlease
  exact .leased payload startup viability facts _ hphase htouches hkeeps htoken
 | deviceHealth healthy=>
  obtain ⟨hphase,⟨⟩⟩:=ite_none_right_eq_some.mp h
  refine .quiet _ _ (moves_of_prepareDone (by rw[hphase];rfl) ?_)
  split
  · split <;> rfl
  · rfl
 | stopExistingNode=>
  obtain ⟨hphase,⟨⟩⟩:=ite_none_right_eq_some.mp h
  unfold stopExistingNode
  split
  · rename_i hrunning
    exact .stopped hphase.1 hrunning
  · exact .quiet _ _ (moves_of_prepareDone (by rw[hphase.1];rfl) rfl)
 | startNode choices=>
  obtain ⟨hphase,h⟩:=ite_none_right_eq_some.mp h
  have hpast:o.phase.pastStopRead:=by rw[hphase.1];rfl
  rcases fenced_eq_some h with ⟨hlease,hbody⟩|⟨-,rfl,rfl⟩
  · split at hbody
    · cases hbody
      exact .quiet _ _ (moves_of_prepareDone hpast rfl)
    · rename_i after hstart
      cases hbody
      obtain ⟨htouches,hkeeps,hgone⟩:=startNodeTxn_spec hstart
      exact .started choices _ hphase.1 hlease htouches hkeeps hgone
  · exact .quiet _ _ moves_finished
 | waitForNodeRunning timedOut=>
  obtain ⟨hphase,h⟩:=ite_none_right_eq_some.mp h
  have hpast:o.phase.pastStopRead:=by rw[hphase];rfl
  split at h
  · cases h
    exact .quiet _ _ (moves_of_prepareDone hpast rfl)
  · obtain ⟨-,⟨⟩⟩:=ite_none_right_eq_some.mp h
    exact .quiet _ _ (moves_of_prepareDone hpast rfl)
 | claimProbe id sessionId=>
  obtain ⟨hphase,h⟩:=ite_none_right_eq_some.mp h
  have hpast:o.phase.pastStopRead:=by rw[hphase.1];rfl
  split at h
  · cases h
    exact .quiet _ _ (moves_of_prepareDone hpast rfl)
  · obtain ⟨-,⟨⟩⟩:=ite_none_left_eq_some.mp h
    exact .probed _ rfl _ _ hpast rfl fun hfree=>hfree.set (by simp[isClientSession,probeRow])
 | confirmProbe appiumSessionId=>
  split at h
  · rename_i probe device hphase hdevice
    cases h
    have hpast:o.phase.pastStopRead:=by rw[hphase];rfl
    exact .probed _ rfl _ o.phase hpast (by rw[hphase];rfl)
     fun hfree=>hfree.promoteToRunning probe appiumSessionId
  · cases h
 | finalizeProbe result=>
  split at h
  · rename_i probe device hphase hdevice
    cases h
    have hpast:o.phase.pastStopRead:=by rw[hphase];rfl
    refine .probed _ rfl _ _ hpast (by split <;> rfl) fun hfree=>?_
    exact hfree.updateSession fun row _ _=>isClientSession_ended row _ now
  · cases h
 | finalizeSuccess facts=>
  obtain ⟨-,h⟩:=ite_none_right_eq_some.mp h
  rcases fenced_eq_some h with ⟨hlease,hbody⟩|⟨-,rfl,rfl⟩
  · split at hbody
    · cases hbody
      exact .quiet _ _ moves_finished
    · obtain ⟨after,hfinal,heq⟩:=map_eq_some_iff.mp hbody
      cases heq
      obtain ⟨htouches,hkeeps,hgone⟩:=finalizeSuccess_spec hfinal
      exact .succeeded facts _ hlease htouches hkeeps hgone
  · exact .quiet _ _ moves_finished
 | finalizeFailure facts=>
  split at h
  · rename_i nodeStarted device hphase hdevice
    rcases fenced_eq_some h with ⟨hlease,hbody⟩|⟨-,rfl,rfl⟩
    · split at hbody
      · rename_i hmode
        cases hbody
        exact .deleted facts hmode hlease
      · rename_i hmode
        obtain ⟨after,hfinal,heq⟩:=map_eq_some_iff.mp hbody
        cases heq
        obtain ⟨hsessions,hkeeps,hgone,hstop⟩:=finalizeFailure_spec hfinal
        exact .failed facts nodeStarted _ hphase hmode hlease hsessions hkeeps hgone hstop
    · exact .quiet _ _ moves_finished
  · cases h
 | crash=>
  obtain ⟨phase,hcrash,heq⟩:=map_eq_some_iff.mp h
  cases heq
  refine .quiet _ _ ?_
  cases hphase:o.phase <;> rw[hphase] at hcrash <;> cases hcrash <;>
   exact moves_of_prepareDone rfl rfl
end

section
variable (deviceId:DeviceId)

structure Outside (s:State)(label:Label)(u:State):Prop where
 ops:u.ops=s.ops
 now:s.now≤u.now
 lease:NoNewRows (verificationIntentSource deviceId) s.tables.intents u.tables.intents
 stop:(∀facts,label ≠ .operatorStop facts)→
  NoNewRows (operatorStopNodeSource deviceId) s.tables.intents u.tables.intents
 sticky:∀row∈u.tables.intents.rows,row.source=operatorStopNodeSource deviceId→
  row∈s.tables.intents.rows∨row.expiresAt=none
 clients:(∀ticket confirmed id sessionId testName runId facts,
   label ≠ .claim ticket confirmed id sessionId testName runId facts)→
  NoClient s.tables.sessions→NoClient u.tables.sessions

inductive Transition (s:State):Label→State→Prop
 | begun (op:OpId)(payload:DeviceFields)(o:Operation)(hnew:s.ops.get op=none)
   (hphase:o.phase=.loaded):
   Transition s (.beginUpdate op payload) {s with ops:=s.ops.set op o}
 | created (op:OpId)(device:Device)(payload:DeviceFields)(startup viability:ℕ)
   (facts:DeviceDecisionSnapshot)(t:Tables)(o:Operation)(hnew:s.ops.get op=none)
   (hphase:o.phase=.prepared)(hmode:o.mode=.create)
   (hlease:∀row∈t.intents.rows,row.source=verificationIntentSource deviceId→
    payloadGet row.payload operationIdKey=some (.str op))
   (hstop:Gone (operatorStopNodeSource deviceId) t.intents)(hfree:NoClient t.sessions):
   Transition s (.createDevice op device payload startup viability facts)
    {s with tables:=t,ops:=s.ops.set op o}
 | acted (op:OpId)(action:Action)(o o':Operation)(t:Tables)(hget:s.ops.get op=some o)
   (hacted:Acted deviceId s.tables s.now op o action t o'):
   Transition s (.verification op action) {s with tables:=t,ops:=s.ops.set op o'}
 | outside (label:Label)(u:State)(houtside:Outside deviceId s label u):
   Transition s label u
end

section
variable {text:DatetimeText}{deviceId:DeviceId}{s u:State}

lemma outside_of_touches {label:Label}{touched:List String}{before t:Tables}
 {claims:List TicketId}(htouches:Touches touched before t)
 (hlease:NoNewRows (verificationIntentSource deviceId) s.tables.intents before.intents)
 (hstop:NoNewRows (operatorStopNodeSource deviceId) s.tables.intents before.intents)
 (hne:verificationIntentSource deviceId ∉ touched)
 (hne':NoNewRows (operatorStopNodeSource deviceId) before.intents t.intents)
 (hfree:(∀ticket confirmed id sessionId testName runId facts,
   label ≠ .claim ticket confirmed id sessionId testName runId facts)→
  NoClient s.tables.sessions→NoClient before.sessions):
 Outside deviceId s label {s with tables:=t,claims:=claims} where
 ops:=rfl
 now:=le_rfl
 lease:=hlease.trans (htouches.rows _ (notRollout_verification deviceId) hne).noNewRows
 stop:=fun _=>hstop.trans hne'
 sticky:=fun row hmem hsource=>.inl ((hstop.trans hne') row hmem hsource)
 clients:=fun hlabel hclients=>by
  rw[htouches.sessions]
  exact hfree hlabel hclients
lemma Touches.stopRows {touched:List String}{t v:Tables}(h:Touches touched t v)
 (hne:operatorStopNodeSource deviceId ∉ touched):
 NoNewRows (operatorStopNodeSource deviceId) t.intents v.intents:=
 (h.rows _ (notRollout_operatorStopNode deviceId) hne).noNewRows
lemma noNewRows_refl {source:String}{a:IntentTable}:NoNewRows source a a:=
 fun _ hmem _=>hmem
lemma expiresAt_operatorStop {a b:IntentTable}
 (h:registerIntents a deviceId (operatorStopIntents deviceId)=some b){row:DeviceIntent}
 (hmem:row∈b.rows):row∈a.rows∨row.expiresAt=none:=by
 rcases mem_registerIntents h hmem with hold|⟨reg,hreg,-,-,hexpiry⟩
 · exact .inl hold
 · right
   rw[hexpiry]
   rcases mem_cons.mp hreg with rfl|hreg
   · rfl
   · rw[mem_singleton.mp hreg]

lemma transition_of_step {label:Label}(h:step text deviceId s label=some u):
 Transition deviceId s label u:=by
 cases label with simp only[step] at h
 | beginUpdate op payload=>
  split at h
  · rename_i device hnew hdevice
    cases h
    exact .begun op payload _ hnew rfl
  · cases h
 | createDevice op device payload startup viability facts=>
  obtain ⟨hnew,h⟩:=ite_none_right_eq_some.mp h
  obtain ⟨t,hwrite,rfl⟩:=map_eq_some_iff.mp h
  obtain ⟨htouches,-,htoken⟩:=writeVerificationLease_spec hwrite
  have hempty:Gone (operatorStopNodeSource deviceId) (deleteDevice s.tables).intents:=by
   intro row hmem
   cases (mem_delete.mp hmem).2
  have hother:operatorStopNodeSource deviceId ∉ [verificationIntentSource deviceId]:=by
   rw[mem_singleton]
   exact operatorStopNode_ne_verification deviceId
  refine .created op device payload startup viability facts t _ hnew.1 rfl rfl htoken
   ((htouches.stopRows hother).gone hempty) ?_
  rw[htouches.sessions]
  exact noClient_empty
 | verification op action=>
  obtain ⟨o,hget,hact⟩:=bind_eq_some_iff.mp h
  obtain ⟨next,hnext,rfl⟩:=map_eq_some_iff.mp hact
  exact .acted op action o next.2 next.1 hget (acted_of_act hnext)
 | operatorStop facts=>
  obtain ⟨-,h⟩:=ite_none_right_eq_some.mp h
  obtain ⟨t,hregister,rfl⟩:=map_eq_some_iff.mp h
  obtain ⟨htouches,-,table,htable,hsame⟩:=registerIntentsAndReconcile_spec hregister
  refine .outside _ _ ⟨rfl,le_rfl,?_,fun hlabel=>absurd rfl (hlabel facts),?_,?_⟩
  · exact (htouches.rows _ (notRollout_verification deviceId)
     (verification_notMem_operatorStopSources deviceId)).noNewRows
  · intro row hmem hsource
    have hstored:=(hsame _ (notRollout_operatorStopNode deviceId) row hsource).mp hmem
    exact expiresAt_operatorStop htable hstored
  · intro _ hclients
    rw[htouches.sessions]
    exact hclients
 | operatorStart=>
  obtain ⟨-,h⟩:=ite_none_right_eq_some.mp h
  obtain ⟨t,hstart,rfl⟩:=map_eq_some_iff.mp h
  obtain ⟨htouches,-,hgone⟩:=startNodeTxn_spec hstart
  refine .outside _ _ (outside_of_touches htouches noNewRows_refl noNewRows_refl ?_
   hgone.noNewRows fun _ hclients=>hclients)
  rw[mem_append,mem_singleton,not_or]
  exact ⟨verification_notMem_operatorStopSources deviceId,verification_ne_operatorStart deviceId⟩
 | operatorRestart=>
  obtain ⟨-,h⟩:=ite_none_right_eq_some.mp h
  obtain ⟨t,hregister,rfl⟩:=map_eq_some_iff.mp h
  obtain ⟨htouches,-,-⟩:=registerIntentsAndReconcile_spec hregister
  refine .outside _ _ (outside_of_touches htouches noNewRows_refl noNewRows_refl ?_
   (htouches.stopRows ?_) fun _ hclients=>hclients)
  · rw[map_singleton,mem_singleton]
    exact verification_ne_operatorStart deviceId
  · rw[map_singleton,mem_singleton]
    exact operatorStopNode_ne_operatorStart deviceId
 | lockQuery=>
  obtain ⟨-,⟨⟩⟩:=ite_none_right_eq_some.mp h
  exact .outside _ _ ⟨rfl,le_rfl,noNewRows_refl,fun _=>noNewRows_refl,
   fun row hmem _=>.inl hmem,fun _ hclients=>hclients⟩
 | claim ticket confirmed id sessionId testName runId facts=>
  obtain ⟨-,h⟩:=ite_none_right_eq_some.mp h
  split at h
  · cases h
    exact .outside _ _ ⟨rfl,le_rfl,noNewRows_refl,fun _=>noNewRows_refl,
     fun row hmem _=>.inl hmem,fun _ hclients=>hclients⟩
  · obtain ⟨t,hreconcile,rfl⟩:=map_eq_some_iff.mp h
    obtain ⟨htouches,-⟩:=reconcile_spec hreconcile
    exact .outside _ _ (outside_of_touches htouches noNewRows_refl noNewRows_refl
     not_mem_nil (htouches.stopRows not_mem_nil)
     fun hlabel=>absurd rfl (hlabel ticket confirmed id sessionId testName runId facts))
 | promote id appiumSessionId=>
  cases h
  exact .outside _ _ ⟨rfl,le_rfl,noNewRows_refl,fun _=>noNewRows_refl,
   fun row hmem _=>.inl hmem,fun _ hclients=>hclients.promoteToRunning id appiumSessionId⟩
 | closeSession _ status=>
  obtain ⟨t,hreconcile,rfl⟩:=map_eq_some_iff.mp h
  obtain ⟨htouches,-⟩:=reconcile_spec hreconcile
  exact .outside _ _ (outside_of_touches htouches noNewRows_refl noNewRows_refl
   not_mem_nil (htouches.stopRows not_mem_nil)
   fun _ hclients=>hclients.updateSession fun row _ _=>isClientSession_ended row status s.now)
 | reconcileScan=>
  obtain ⟨t,hreconcile,rfl⟩:=map_eq_some_iff.mp h
  obtain ⟨htouches,-⟩:=reconcile_spec hreconcile
  exact .outside _ _ (outside_of_touches htouches noNewRows_delete noNewRows_delete
   not_mem_nil (htouches.stopRows not_mem_nil) fun _ hclients=>hclients)
 | observe=>
  split at h
  · cases h
  cases h
  exact .outside _ _ ⟨rfl,le_rfl,noNewRows_refl,fun _=>noNewRows_refl,
   fun row hmem _=>.inl hmem,fun _ hclients=>hclients⟩
 | tick=>
  cases h
  exact .outside _ _ ⟨rfl,Nat.le_add_right _ _,noNewRows_refl,fun _=>noNewRows_refl,
   fun row hmem _=>.inl hmem,fun _ hclients=>hclients⟩
end
end GridFleet.Verification
