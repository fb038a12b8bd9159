import GridFleet.IntentStore
import GridFleet.Interleaving
/-! The detector decides from an unlocked read and registers or revokes later, under the device lock;
reconciles of the same device stamp, apply and revoke the row in transactions of their own. -/
namespace GridFleet.ReleaseRollout
open Decision DecisionSnapshot IntentReconciler IntentStore List Option

inductive RolloutAction where
 | register (targetRelease:String)
 | revoke
 deriving DecidableEq

def candidateFor (t:IntentTable)(deviceId:DeviceId)(targetRelease:Option String)
 (pid:Option ℕ)(activeConnectionTarget observedRelease:Option String):Option RolloutAction:=
 let row:=t.rows.find? fun row=>row.kind=CommandKind.releaseRollout.value&&
  row.source=releaseRolloutIntentSource deviceId
 match targetRelease with
 | some target=>
  if pid.isSome∧activeConnectionTarget.isSome∧observedRelease.isSome∧
    observedRelease≠some target then
   let alreadyStamped:=row.any fun row=>
    (payloadGet row.payload restartRequestedAtKey).isSome&&
     decide (payloadGet row.payload targetReleaseKey=some (.str target))
   if alreadyStamped then none else some (.register target)
  else if row.isSome then some .revoke else none
 | none=>if row.isSome then some .revoke else none

def rolloutRegistration (deviceId:DeviceId)(targetRelease:String)(expiresAt:Instant):
 IntentRegistration where
 source:=releaseRolloutIntentSource deviceId
 kind:=.releaseRollout
 payload:=Dict.empty.set targetReleaseKey (.str targetRelease)
 runId:=none
 expiresAt:=some expiresAt

/-- A locked transaction under way. The snapshot is loaded once and then threaded through the
passes; `watermark` is what the last pass wrote through the rollout rung. -/
structure Working where
 table:IntentTable
 node:Option AppiumNode
 lastEmitted:OperationalState
 loaded:Option IntentTable
 watermark:Option Instant

inductive Op where
 | register (intents:List IntentRegistration)
 | revoke (source:String)
 | load
 | reconcile (snapshot:DeviceDecisionSnapshot)(now:Instant)

def snapshotRows (t:IntentTable):List DeviceIntent:=
 t.rows.insertionSort fun a b=>a.source≤b.source

lemma mem_snapshotRows {t:IntentTable}{row:DeviceIntent}:
 row∈snapshotRows t↔row∈t.rows:=mem_insertionSort _
lemma snapshotRows_unique {κ:Type}{t:IntentTable}{key:DeviceIntent→κ}
 (h:(t.rows.map key).Nodup):((snapshotRows t).map key).Nodup:=
 ((perm_insertionSort _ t.rows).map key).nodup_iff.mpr h

def withIntents (snapshot:DeviceDecisionSnapshot)(t:IntentTable):DeviceDecisionSnapshot:=
 { snapshot with
   intents:=snapshotRows t
   intents_unique:=snapshotRows_unique t.ids_unique }

section
variable (text:DatetimeText)(device:Device)

def pass (w:Working)(snapshot:DeviceDecisionSnapshot)(now:Instant):Option Working:=
 match reconcileLockedDevice text {device with operationalStateLastEmitted:=w.lastEmitted} w.node
   snapshot now with
 | .error _=>none
 | .ok result=>some
  { w with
    table:=result.intentWrites.foldl IntentTable.applyWrite w.table
    node:=result.node
    lastEmitted:=result.lastEmitted
    watermark:=
     if w.node.isSome∧(ladderDecision text device.id snapshot now).desiredState=.runningDraining
     then result.node.bind (·.restartRequestedAt) else none }

/-- Only the detector registers or revokes a rollout. -/
def runOp (w:Working):Op→Option Working
 | .register intents=>
  if intents.all fun reg=>
    reg.source≠releaseRolloutIntentSource device.id&&reg.kind ≠ .releaseRollout then
   (registerIntents w.table device.id intents).map fun t=>{w with table:=t}
  else none
 | .revoke source=>
  if source=releaseRolloutIntentSource device.id then none
  else some {w with table:=revokeIntent w.table source}
 | .load=>some {w with loaded:=some w.table}
 | .reconcile snapshot now=>w.loaded.bind fun t=>pass text device w (withIntents snapshot t) now

structure State where
 table:IntentTable
 node:Option AppiumNode
 lastEmitted:OperationalState
 candidates:List RolloutAction
 episode:ℕ
 watermarks:List (ℕ×Instant)

def rolloutKey (t:IntentTable):Option (RowId×Option Json):=
 (rolloutRow t.rows device.id).map fun row=>(row.id,payloadGet row.payload targetReleaseKey)
def nextEpisode (before after:IntentTable)(episode:ℕ):ℕ:=
 if rolloutKey device before=rolloutKey device after then episode else episode+1

inductive Label where
 | scan (targetRelease:Option String)(pid:Option ℕ)
   (activeConnectionTarget observedRelease:Option String)
 | stage (candidate:RolloutAction)(expiresAt:Instant)(ops:List Op)
 | reconcile (expired:Option Instant)(ops:List Op)
 | observe (node:Option AppiumNode)

def commit (s:State)(mutated:IntentTable)(candidates:List RolloutAction)(ops:List Op):Option State:=
 (Interleaving.run (runOp text device) ⟨mutated,s.node,s.lastEmitted,none,none⟩ ops).map
  fun w=>
   let episode:=nextEpisode device s.table mutated s.episode
   { table:=w.table
     node:=w.node
     lastEmitted:=w.lastEmitted
     candidates:=candidates
     episode:=nextEpisode device mutated w.table episode
     watermarks:=(w.watermark.map fun at_=>(episode,at_)).toList++s.watermarks }

def step (s:State):Label→Option State
 | .scan targetRelease pid activeConnectionTarget observedRelease=>
  some { s with
   candidates:=(candidateFor s.table device.id targetRelease pid activeConnectionTarget
    observedRelease).toList++s.candidates }
 | .stage candidate expiresAt ops=>
  if candidate∈s.candidates then
   match candidate with
   | .register targetRelease=>
    (registerIntents s.table device.id [rolloutRegistration device.id targetRelease expiresAt]).bind
     fun t=>commit text device s t (s.candidates.erase candidate) ops
   | .revoke=>
    commit text device s (revokeIntent s.table (releaseRolloutIntentSource device.id))
     (s.candidates.erase candidate) ops
  else none
 | .reconcile expired ops=>
  commit text device s ((expired.map (deleteExpiredIntents s.table)).getD s.table) s.candidates ops
 | .observe node=>some {s with node:=node}
end

def stampOf (row:DeviceIntent):Option Json:=payloadGet row.payload restartRequestedAtKey
def targetOf (row:DeviceIntent):Option Json:=payloadGet row.payload targetReleaseKey

section
variable (text:DatetimeText)(device:Device)

/-- Only the row under the rollout source has the rollout kind, and a stamp is an instant's text. -/
structure TableOk (t:IntentTable):Prop where
 kinds:∀row∈t.rows,row.kind=CommandKind.releaseRollout.value→
  row.source=releaseRolloutIntentSource device.id
 stamps:∀row∈t.rows,row.source=releaseRolloutIntentSource device.id→
  ∀stamp,stampOf row=some stamp→∃at_ written,stamp=.str written∧
   text.fromisoformat written=some at_

/-- `row` stands in the episode `origin` belongs to, and has lost no stamp. -/
structure Continues (origin row:DeviceIntent):Prop where
 id:row.id=origin.id
 target:targetOf row=targetOf origin
 stamp:∀stamp,stampOf origin=some stamp→stampOf row=some stamp

structure OpsOk (origin:Option DeviceIntent)(w:Working):Prop where
 table:TableOk text device w.table
 row:∀row,rolloutRow w.table.rows device.id=some row→
  ∃first,origin=some first∧Continues first row
 loadedTable:∀t,w.loaded=some t→TableOk text device t
 loadedRow:∀t,w.loaded=some t→∀row,rolloutRow t.rows device.id=some row→
  ∃first,origin=some first∧Continues first row∧
   ∀stamp,stampOf row=some stamp→∀current,
    rolloutRow w.table.rows device.id=some current→stampOf current=some stamp
 watermark:∀at_,w.watermark=some at_→∃first written,origin=some first∧
  text.fromisoformat written=some at_∧
  (∀stamp,stampOf first=some stamp→stamp=.str written)∧
  ∀current,rolloutRow w.table.rows device.id=some current→stampOf current=some (.str written)
end

section
variable {text:DatetimeText}{device:Device}{t u:IntentTable}

lemma rolloutRow_snapshotRows (t:IntentTable)(deviceId:DeviceId):
 rolloutRow (snapshotRows t) deviceId=rolloutRow t.rows deviceId:=by
 ext row
 have hsorted:rolloutRow (snapshotRows t) deviceId=some row↔_:=
  Sql.find_eq_some_iff (snapshotRows_unique t.sources_unique)
 rw[hsorted,rolloutRow_eq_some_iff,mem_snapshotRows]
lemma TableOk.of_subset (hok:TableOk text device t)(hsub:∀row∈u.rows,row∈t.rows):
 TableOk text device u where
 kinds:=fun row hmem=>hok.kinds row (hsub row hmem)
 stamps:=fun row hmem=>hok.stamps row (hsub row hmem)
lemma rolloutRow_of_subset (hsub:∀row∈u.rows,row∈t.rows){row:DeviceIntent}
 (hrow:rolloutRow u.rows device.id=some row):rolloutRow t.rows device.id=some row:=by
 obtain ⟨hmem,hsource⟩:=rolloutRow_eq_some_iff.mp hrow
 exact rolloutRow_eq_some_iff.mpr ⟨hsub row hmem,hsource⟩
lemma mem_of_mem_delete {p:DeviceIntent→Bool}:∀row∈(t.delete p).rows,row∈t.rows:=
 fun _ hmem=>(mem_delete.mp hmem).1
lemma TableOk.unstamped (hok:TableOk text device t){row:DeviceIntent}
 (hrow:rolloutRow t.rows device.id=some row)
 (hnone:optionalDatetime text (stampOf row)=none):stampOf row=none:=by
 obtain ⟨hmem,hsource⟩:=rolloutRow_eq_some_iff.mp hrow
 cases hstamp:stampOf row with
 | none=>rfl
 | some stamp=>
  obtain ⟨at_,written,rfl,hread⟩:=hok.stamps row hmem hsource stamp hstamp
  rw[hstamp] at hnone
  change text.fromisoformat written=none at hnone
  rw[hread] at hnone
  cases hnone
lemma optionalDatetime_eq_some {value:Option Json}{at_:Instant}
 (h:optionalDatetime text value=some at_):
 ∃written,value=some (.str written)∧text.fromisoformat written=some at_:=by
 unfold optionalDatetime at h
 obtain ⟨written,htext,hread⟩:=bind_eq_some_iff.mp h
 unfold textOf at htext
 split at htext
 · cases htext
   exact ⟨written,rfl,hread⟩
 · cases htext
end

section
variable {text:DatetimeText}{device:Device}{t u:IntentTable}

variable (text device t u) in
structure Mutates:Prop where
 table:TableOk text device u
 stamp:∀before after,rolloutRow t.rows device.id=some before→
  rolloutRow u.rows device.id=some after→after.id=before.id→
  targetOf after=targetOf before→stampOf after=stampOf before

lemma Mutates.of_subset (hok:TableOk text device t)(hsub:∀row∈u.rows,row∈t.rows):
 Mutates text device t u where
 table:=hok.of_subset hsub
 stamp:=by
  intro before after hbefore hafter _ _
  rw[rolloutRow_of_subset hsub hafter] at hbefore
  cases hbefore
  rfl
lemma stampOf_set (row:DeviceIntent)(payload:JsonObject)(written:String)
 (hpayload:row.payload=payload.set restartRequestedAtKey (.str written)):
 stampOf row=some (.str written):=by
 unfold stampOf payloadGet
 rw[hpayload,Dict.get_set_self]
 rfl
lemma targetOf_set (row:DeviceIntent)(payload:JsonObject)(value:Json)
 (hpayload:row.payload=payload.set restartRequestedAtKey value):
 targetOf row=payloadGet payload targetReleaseKey:=by
 unfold targetOf
 rw[hpayload,payloadGet_set_of_ne _ _ (by decide)]

variable {expiresAt:Instant}{targetRelease:String}

lemma preservedStamp_eq_some_iff {deviceId:DeviceId}{stamp:String}:
 preservedStamp t [rolloutRegistration deviceId targetRelease expiresAt]
   (rolloutRegistration deviceId targetRelease expiresAt)=some stamp↔
  ∃row,rolloutRow t.rows deviceId=some row∧stampOf row=some (.str stamp)∧
   targetOf row=some (.str targetRelease):=by
 have hstampable:(rolloutRegistration deviceId targetRelease expiresAt).source ∈
   stampableSources [rolloutRegistration deviceId targetRelease expiresAt]:=mem_singleton_self _
 have htext:∀value:Option Json,textOf value=some stamp↔value=some (.str stamp):=by
  intro value
  unfold textOf
  split <;> simp_all
 unfold preservedStamp
 rw[if_pos hstampable]
 change ((rolloutRow t.rows deviceId).bind fun row=>(textOf (stampOf row)).bind fun kept=>
  if targetOf row=some (.str targetRelease) then some kept else none)=some stamp↔_
 simp only[bind_eq_some_iff]
 refine exists_congr fun row=>and_congr_right fun _=>?_
 rw[←htext]
 constructor
 · rintro ⟨kept,hkept,hif⟩
   split at hif
   · rename_i htarget
     cases hif
     exact ⟨hkept,htarget⟩
   · cases hif
 · rintro ⟨hkept,htarget⟩
   exact ⟨stamp,hkept,if_pos htarget⟩

lemma row_of_register {row:DeviceIntent}
 (h:registerIntents t device.id [rolloutRegistration device.id targetRelease expiresAt]=some u)
 (hmem:row∈u.rows):(row∈t.rows∧row.source≠releaseRolloutIntentSource device.id)∨
  (row.source=releaseRolloutIntentSource device.id∧targetOf row=some (.str targetRelease)∧
   stampOf row=(preservedStamp t [rolloutRegistration device.id targetRelease expiresAt]
    (rolloutRegistration device.id targetRelease expiresAt)).map Json.str):=by
 have hnodup:(List.map IntentRegistration.source
   [rolloutRegistration device.id targetRelease expiresAt]).Nodup:=nodup_singleton _
 unfold registerIntents at h
 rw[if_pos hnodup] at h
 cases h
 have hsource:(withPreservedStamp t [rolloutRegistration device.id targetRelease expiresAt]
   (rolloutRegistration device.id targetRelease expiresAt)).source =
   releaseRolloutIntentSource device.id:=by
  unfold withPreservedStamp
  split <;> rfl
 rcases mem_upsert hmem with ⟨hmem,hne⟩|⟨hrow,-,hpayload,-⟩
 · rw[hsource] at hne
   exact .inl ⟨hmem,hne⟩
 · refine .inr ⟨hrow.trans hsource,?_⟩
   unfold withPreservedStamp at hpayload
   split at hpayload
   · rename_i stamp hstamp
     rw[hstamp]
     refine ⟨?_,stampOf_set row _ stamp hpayload⟩
     rw[targetOf_set row _ _ hpayload]
     rfl
   · rename_i hnone
     rw[hnone]
     unfold targetOf stampOf
     rw[hpayload]
     exact ⟨rfl,rfl⟩

lemma mutates_register (hok:TableOk text device t)
 (h:registerIntents t device.id [rolloutRegistration device.id targetRelease expiresAt]=some u):
 Mutates text device t u:=by
 refine ⟨⟨?_,?_⟩,?_⟩
 · intro row hmem hkind
   rcases row_of_register h hmem with ⟨hmem,-⟩|⟨hsource,-⟩
   · exact hok.kinds row hmem hkind
   · exact hsource
 · intro row hmem hsource stamp hstamp
   rcases row_of_register h hmem with ⟨-,hne⟩|⟨-,-,hkept⟩
   · exact absurd hsource hne
   · rw[hkept] at hstamp
     obtain ⟨written,hpreserved,rfl⟩:=map_eq_some_iff.mp hstamp
     obtain ⟨before,hbefore,hbeforeStamp,-⟩:=preservedStamp_eq_some_iff.mp hpreserved
     obtain ⟨hbeforeMem,hbeforeSource⟩:=rolloutRow_eq_some_iff.mp hbefore
     exact hok.stamps before hbeforeMem hbeforeSource _ hbeforeStamp
 · intro before after hbefore hafter _ htarget
   obtain ⟨hmem,hsource⟩:=rolloutRow_eq_some_iff.mp hafter
   rcases row_of_register h hmem with ⟨-,hne⟩|⟨-,hnewTarget,hkept⟩
   · exact absurd hsource hne
   · rw[hkept]
     cases hstamp:stampOf before with
     | none=>
      -- nothing stored, nothing kept
      cases hpreserved:preservedStamp t [rolloutRegistration device.id targetRelease expiresAt]
        (rolloutRegistration device.id targetRelease expiresAt) with
      | none=>rfl
      | some=>
       obtain ⟨row,hrow,hrowStamp,-⟩:=preservedStamp_eq_some_iff.mp hpreserved
       rw[hbefore] at hrow
       cases hrow
       rw[hstamp] at hrowStamp
       cases hrowStamp
     | some stamp=>
      obtain ⟨hbeforeMem,hbeforeSource⟩:=rolloutRow_eq_some_iff.mp hbefore
      obtain ⟨at_,written,rfl,-⟩:=hok.stamps before hbeforeMem hbeforeSource stamp hstamp
      rw[preservedStamp_eq_some_iff.mpr ⟨before,hbefore,hstamp,htarget.symm.trans hnewTarget⟩]
      rfl
end

section
variable {text:DatetimeText}{device:Device}{origin:Option DeviceIntent}{w w':Working}

lemma OpsOk.frame (h:OpsOk text device origin w){u:IntentTable}
 (hkinds:∀row∈u.rows,row.kind=CommandKind.releaseRollout.value→
  row.source=releaseRolloutIntentSource device.id)
 (hrows:∀row,row.source=releaseRolloutIntentSource device.id→(row∈u.rows↔row∈w.table.rows)):
 OpsOk text device origin {w with table:=u}:=by
 have hsame:rolloutRow u.rows device.id=rolloutRow w.table.rows device.id:=rolloutRow_congr hrows
 constructor
 · exact ⟨hkinds,fun row hmem hsource=>h.table.stamps row ((hrows row hsource).mp hmem) hsource⟩
 · intro row hrow
   exact h.row row (hsame ▸ hrow)
 · exact h.loadedTable
 · intro t ht row hrow
   obtain ⟨first,hfirst,hcontinues,hstamp⟩:=h.loadedRow t ht row hrow
   exact ⟨first,hfirst,hcontinues,fun stamp hs current hcurrent=>
    hstamp stamp hs current (hsame ▸ hcurrent)⟩
 · intro at_ hat
   obtain ⟨first,written,hfirst,hread,horigin,hcurrent⟩:=h.watermark at_ hat
   exact ⟨first,written,hfirst,hread,horigin,fun current hrow=>hcurrent current (hsame ▸ hrow)⟩
lemma OpsOk.load (h:OpsOk text device origin w):
 OpsOk text device origin {w with loaded:=some w.table}:=
 { h with
  loadedTable:=by
   rintro t ⟨rfl⟩
   exact h.table
  loadedRow:=by
   rintro t ⟨rfl⟩ row hrow
   obtain ⟨first,hfirst,hcontinues⟩:=h.row row hrow
   refine ⟨first,hfirst,hcontinues,?_⟩
   intro stamp hstamp current hcurrent
   rw[hrow] at hcurrent
   cases hcurrent
   exact hstamp }

variable {now:Instant}{row:DeviceIntent}

lemma pass_cases {snapshot:DeviceDecisionSnapshot}(h:pass text device w snapshot now=some w'):
 w'.loaded=w.loaded∧((w'.table=w.table∧w'.watermark=none)∨
   (w'.table=(settledIntents text device.id snapshot now).2.foldl IntentTable.applyWrite w.table∧
    ∀at_,w'.watermark=some at_→
     (∃release,rolloutTargetRelease (settledIntents text device.id snapshot now).1 device.id =
      some release)∧∃row∈(settledIntents text device.id snapshot now).1,
      row.kind=CommandKind.releaseRollout.value∧optionalDatetime text (stampOf row)=some at_)):=by
 unfold pass at h
 cases hnode:w.node with
 | none=>
  rw[hnode] at h
  cases h
  exact ⟨rfl,.inl ⟨rfl,by simp⟩⟩
 | some node=>
  rw[hnode] at h
  obtain ⟨result,hresult,hwrites,hwritten⟩:=reconcileLockedDevice_spec text
   {device with operationalStateLastEmitted:=w.lastEmitted} node snapshot now
  rw[hresult] at h
  cases h
  refine ⟨rfl,.inr ⟨by rw[hwrites],?_⟩⟩
  intro at_ hat
  dsimp only at hat
  split at hat
  · rename_i hdraining
    rw[hwritten] at hat
    change (writtenNode _ _ _ _ _ _ _).restartRequestedAt=some at_ at hat
    unfold writtenNode at hat
    dsimp only at hat
    split at hat
    · cases hat
    · obtain ⟨-,-,hrelease,-,hrestart⟩:=validWatermark_draining hdraining.2 hat
      obtain ⟨row,hmem,hkind,hstamp⟩:=row_of_draining hdraining.2
      exact ⟨hrelease,row,hmem,hkind,hstamp.symm.trans hrestart⟩
  · cases hat

variable {t:IntentTable}

lemma eq_of_rollout_kind (hok:TableOk text device t){other:DeviceIntent}
 (hrow:rolloutRow t.rows device.id=some row)(hmem:other∈snapshotRows t)
 (hkind:other.kind=CommandKind.releaseRollout.value):other=row:=by
 have hother:other∈t.rows:=mem_snapshotRows.mp hmem
 have hfound:=rolloutRow_eq_some_iff.mpr ⟨hother,hok.kinds other hother hkind⟩
 exact some.inj (hfound.symm.trans hrow)

section
variable (h:OpsOk text device origin w)
include h

lemma OpsOk.shrink {u:IntentTable}
 (hsub:∀row∈u.rows,row∈w.table.rows)(htable:w'.table=u)(hloaded:w'.loaded=w.loaded)
 (hwatermark:w'.watermark=none):OpsOk text device origin w':=by
 constructor
 · rw[htable]
   exact h.table.of_subset hsub
 · intro row hrow
   rw[htable] at hrow
   exact h.row row (rolloutRow_of_subset hsub hrow)
 · rw[hloaded]
   exact h.loadedTable
 · rw[hloaded,htable]
   intro t ht row hrow
   obtain ⟨first,hfirst,hcontinues,hstamp⟩:=h.loadedRow t ht row hrow
   exact ⟨first,hfirst,hcontinues,fun stamp hs current hcurrent=>
    hstamp stamp hs current (rolloutRow_of_subset hsub hcurrent)⟩
 · rw[hwatermark]
   intro at_ hat
   cases hat
lemma OpsOk.row_of_stamp {first:DeviceIntent}{payload:JsonObject}
 (hfirst:origin=some first)(hcontinues:Continues first row)
 (hpayload:payload=row.payload.set restartRequestedAtKey (.str (text.isoformat now)))
 (htable:w'.table=w.table.applyWrite (.setPayload row.id payload)){current:DeviceIntent}
 (hcurrent:rolloutRow w'.table.rows device.id=some current):
 current.id=first.id∧targetOf current=targetOf first∧
  stampOf current=some (.str (text.isoformat now)):=by
 rw[htable] at hcurrent
 obtain ⟨hmem,hsource⟩:=rolloutRow_eq_some_iff.mp hcurrent
 obtain ⟨before,hbefore,hset⟩:=mem_setPayload.mp hmem
 have hbeforeSource:before.source=releaseRolloutIntentSource device.id:=by
  rw[←hsource,←hset]
  split <;> rfl
 obtain ⟨first',hfirst',hcont⟩:=
  h.row before (rolloutRow_eq_some_iff.mpr ⟨hbefore,hbeforeSource⟩)
 rw[hfirst] at hfirst'
 cases hfirst'
 have hid:before.id=row.id:=hcont.id.trans hcontinues.id.symm
 rw[if_pos hid] at hset
 subst hset
 refine ⟨hcont.id,?_,stampOf_set _ _ _ hpayload⟩
 rw[targetOf_set _ _ _ hpayload]
 exact hcontinues.target

/-- A pass that mints the stamp: its snapshot showed the row unstamped, so the episode was. -/
lemma OpsOk.stamp {payload:JsonObject}
 (ht:w.loaded=some t)(hrow:rolloutRow t.rows device.id=some row)(hunstamped:stampOf row=none)
 (hpayload:payload=row.payload.set restartRequestedAtKey (.str (text.isoformat now)))
 (htable:w'.table=w.table.applyWrite (.setPayload row.id payload))(hloaded:w'.loaded=w.loaded)
 (hwatermark:∀at_,w'.watermark=some at_→at_=now):OpsOk text device origin w':=by
 obtain ⟨first,hfirst,hcontinues,-⟩:=h.loadedRow t ht row hrow
 have horigin:∀stamp,stampOf first≠some stamp:=by
  intro stamp hstamp
  rw[hcontinues.stamp stamp hstamp] at hunstamped
  cases hunstamped
 have hread:=text.fromisoformat_isoformat now
 constructor
 · rw[htable]
   constructor
   · intro r hmem hkind
     obtain ⟨before,hbefore,rfl⟩:=mem_setPayload.mp hmem
     by_cases hid:before.id=row.id
     · rw[if_pos hid] at hkind ⊢
       exact h.table.kinds before hbefore hkind
     · rw[if_neg hid] at hkind ⊢
       exact h.table.kinds before hbefore hkind
   · intro r hmem hsource stamp hstamp
     rw[←htable] at hmem
     obtain ⟨-,-,hset⟩:=h.row_of_stamp hfirst hcontinues hpayload htable
      (rolloutRow_eq_some_iff.mpr ⟨hmem,hsource⟩)
     rw[hset] at hstamp
     cases hstamp
     exact ⟨now,_,rfl,hread⟩
 · intro current hrow'
   obtain ⟨hid,htarget,-⟩:=h.row_of_stamp hfirst hcontinues hpayload htable hrow'
   exact ⟨first,hfirst,hid,htarget,fun stamp hs=>absurd hs (horigin stamp)⟩
 · rw[hloaded]
   exact h.loadedTable
 · rw[hloaded]
   intro t' ht' row' hrow'
   rw[ht] at ht'
   cases ht'
   rw[hrow] at hrow'
   cases hrow'
   refine ⟨first,hfirst,hcontinues,?_⟩
   intro stamp hs
   rw[hunstamped] at hs
   cases hs
 · intro at_ hat
   rw[hwatermark at_ hat]
   exact ⟨first,text.isoformat now,hfirst,hread,fun stamp hs=>absurd hs (horigin stamp),
    fun current hrow'=>(h.row_of_stamp hfirst hcontinues hpayload htable hrow').2.2⟩

/-- A pass that leaves the table alone and takes its watermark from the snapshot's stamp. -/
lemma OpsOk.keep (ht:w.loaded=some t)
 (hrow:rolloutRow t.rows device.id=some row)(htable:w'.table=w.table)(hloaded:w'.loaded=w.loaded)
 (hwatermark:∀at_,w'.watermark=some at_→ optionalDatetime text (stampOf row)=some at_):
 OpsOk text device origin w':=by
 obtain ⟨first,hfirst,hcontinues,hcurrent⟩:=h.loadedRow t ht row hrow
 constructor
 · rw[htable]
   exact h.table
 · rw[htable]
   exact h.row
 · rw[hloaded]
   exact h.loadedTable
 · rw[hloaded,htable]
   exact h.loadedRow
 · intro at_ hat
   obtain ⟨written,hstamp,hread⟩:=optionalDatetime_eq_some (hwatermark at_ hat)
   refine ⟨first,written,hfirst,hread,?_,?_⟩
   · intro stamp hs
     rw[hcontinues.stamp stamp hs] at hstamp
     exact some.inj hstamp
   · rw[htable]
     exact hcurrent _ hstamp

lemma OpsOk.pass (ht:w.loaded=some t)
 {snapshot:DeviceDecisionSnapshot}(hpass:pass text device w (withIntents snapshot t) now=some w'):
 OpsOk text device origin w':=by
 have hok:=h.loadedTable t ht
 obtain ⟨hloaded,⟨htable,hnone⟩|⟨htable,hwatermark⟩⟩:=pass_cases hpass
 · exact h.shrink (fun _ hmem=>hmem) htable hloaded hnone
 · have hsettles:Settles text device.id snapshot.nodeObservedPackRelease (snapshotRows t)
     snapshot.decisionFacts snapshot.hasLiveSession now
     (settledIntents text device.id (withIntents snapshot t) now):=settles_applyRolloutStamp
   generalize settledIntents text device.id (withIntents snapshot t) now=settled at *
   cases hsettles with
   | absent habsent=>
    refine h.shrink (fun _ hmem=>hmem) htable hloaded ?_
    refine eq_none_iff_forall_ne_some.mpr fun at_ hat=>?_
    obtain ⟨⟨release,hrelease⟩,-⟩:=hwatermark at_ hat
    unfold rolloutTargetRelease at hrelease
    rw[habsent] at hrelease
    cases hrelease
   | converged _ hrow=>
    rw[rolloutRow_snapshotRows] at hrow
    refine h.shrink (fun _=>mem_of_mem_delete _) htable hloaded ?_
    refine eq_none_iff_forall_ne_some.mpr fun at_ hat=>?_
    obtain ⟨-,other,hmem,hkind,-⟩:=hwatermark at_ hat
    obtain ⟨hmem,hne⟩:=mem_filter.mp hmem
    rw[eq_of_rollout_kind hok hrow hmem hkind] at hne
    simp at hne
   | stamped _ hrow hdue _ hpayload=>
    rw[rolloutRow_snapshotRows] at hrow
    have hunstamped:=hok.unstamped hrow (restart_of_stampDue hdue)
    refine h.stamp ht hrow hunstamped hpayload htable hloaded ?_
    intro at_ hat
    obtain ⟨-,other,hmem,hkind,hstamp⟩:=hwatermark at_ hat
    obtain ⟨before,hbefore,rfl⟩:=List.mem_map.mp hmem
    have hbeforeKind:before.kind=CommandKind.releaseRollout.value:=by
     rw[←hkind]
     split <;> rfl
    rw[eq_of_rollout_kind hok hrow hbefore hbeforeKind,if_pos rfl,
     stampOf_set _ _ _ hpayload] at hstamp
    change text.fromisoformat (text.isoformat now)=some at_ at hstamp
    rw[text.fromisoformat_isoformat] at hstamp
    exact (some.inj hstamp).symm
   | kept _ hrow=>
    rw[rolloutRow_snapshotRows] at hrow
    refine h.keep ht hrow htable hloaded ?_
    intro at_ hat
    obtain ⟨-,other,hmem,hkind,hstamp⟩:=hwatermark at_ hat
    rw[eq_of_rollout_kind hok hrow hmem hkind] at hstamp
    exact hstamp

lemma opsOk_runOp {op:Op}(hop:runOp text device w op=some w'):OpsOk text device origin w':=by
 cases op with
 | register intents=>
  rw[runOp] at hop
  split at hop
  · rename_i hothers
    obtain ⟨u,hregister,rfl⟩:=map_eq_some_iff.mp hop
    have hreg:∀reg∈intents,reg.source≠releaseRolloutIntentSource device.id∧
      reg.kind ≠ .releaseRollout:=by
     intro reg hmem
     simpa using List.all_eq_true.mp hothers reg hmem
    refine h.frame ?_ ?_
    · intro row hmem hkind
      rcases mem_registerIntents hregister hmem with hmem|⟨reg,hmem,-,hregKind,-⟩
      · exact h.table.kinds row hmem hkind
      · refine absurd ?_ (hreg reg hmem).2
        rw[hregKind] at hkind
        cases hk:reg.kind <;> rw[hk] at hkind <;> first | rfl | exact absurd hkind (by decide)
    · intro row hsource
      refine mem_registerIntents_of_notMem hregister fun reg hmem hsame=>?_
      exact (hreg reg hmem).1 (hsame.symm.trans hsource)
  · cases hop
 | revoke source=>
  rw[runOp] at hop
  split at hop
  · cases hop
  · rename_i hother
    cases hop
    refine h.frame (fun row hmem=>h.table.kinds row (mem_of_mem_delete row hmem)) ?_
    intro row hsource
    rw[revokeIntent,mem_delete,hsource]
    simp[Ne.symm hother]
 | load=>
  cases hop
  exact h.load
 | reconcile=>
  obtain ⟨t,ht,hpass⟩:=bind_eq_some_iff.mp hop
  exact h.pass ht hpass
end
end

section
variable {text:DatetimeText}{device:Device}{s s':State}

variable {t:IntentTable}

lemma opsOk_begin (hok:TableOk text device t)(node:Option AppiumNode)(lastEmitted:OperationalState):
 OpsOk text device (rolloutRow t.rows device.id) ⟨t,node,lastEmitted,none,none⟩ where
 table:=hok
 row:=fun row hrow=>⟨row,hrow,rfl,rfl,fun _ hstamp=>hstamp⟩
 loadedTable:=nofun
 loadedRow:=nofun
 watermark:=nofun
lemma rolloutKey_eq_some {key:RowId×Option Json}(h:rolloutKey device t=some key):
 ∃row,rolloutRow t.rows device.id=some row∧row.id=key.1∧targetOf row=key.2:=by
 obtain ⟨row,hrow,rfl⟩:=map_eq_some_iff.mp h
 exact ⟨row,hrow,rfl,rfl⟩
lemma rolloutKey_of_row {row:DeviceIntent}
 (h:rolloutRow t.rows device.id=some row):rolloutKey device t=some (row.id,targetOf row):=by
 unfold rolloutKey
 rw[h]
 rfl

variable (text device s) in
def Commits (s':State):Prop:=
 ∃(mutated:IntentTable)(w:Working),Mutates text device s.table mutated∧
  OpsOk text device (rolloutRow mutated.rows device.id) w∧
  s'.table=w.table∧
  s'.episode=nextEpisode device mutated w.table (nextEpisode device s.table mutated s.episode)∧
  s'.watermarks=(w.watermark.map fun at_=>
   (nextEpisode device s.table mutated s.episode,at_)).toList++s.watermarks

lemma commits_commit {mutated:IntentTable}{candidates:List RolloutAction}{ops:List Op}
 (hmutates:Mutates text device s.table mutated)
 (h:commit text device s mutated candidates ops=some s'):Commits text device s s':=by
 obtain ⟨w,hrun,rfl⟩:=map_eq_some_iff.mp h
 have hw:=Interleaving.run_invariant (OpsOk text device (rolloutRow mutated.rows device.id))
  (fun _ _ _ hI hop=>opsOk_runOp hI hop) (opsOk_begin hmutates.table s.node s.lastEmitted) hrun
 exact ⟨mutated,w,hmutates,hw,rfl,rfl,rfl⟩

/-- Every step commits a transaction or leaves the rows and the history alone. -/
lemma step_cases (hok:TableOk text device s.table){label:Label}(h:step text device s label=some s'):
 Commits text device s s'∨(s'.table=s.table∧s'.episode=s.episode∧s'.watermarks=s.watermarks):=by
 cases label with
 | scan | observe=>
  cases h
  exact .inr ⟨rfl,rfl,rfl⟩
 | stage candidate=>
  cases candidate with
  | register=>
   rw[step] at h
   split at h
   · obtain ⟨t,hregister,hcommit⟩:=bind_eq_some_iff.mp h
     exact .inl (commits_commit (mutates_register hok hregister) hcommit)
   · cases h
  | revoke=>
   rw[step] at h
   split at h
   · exact .inl (commits_commit (.of_subset hok mem_of_mem_delete) h)
   · cases h
 | reconcile expired=>
  refine .inl (commits_commit (.of_subset hok ?_) h)
  cases expired with
  | none=>exact fun _ hmem=>hmem
  | some=>exact mem_of_mem_delete

lemma Commits.stamp (h:Commits text device s s'){row row':DeviceIntent}
 (hrow:rolloutRow s.table.rows device.id=some row)
 (hrow':rolloutRow s'.table.rows device.id=some row')(hid:row'.id=row.id)
 (htarget:targetOf row'=targetOf row){stamp:Json}(hstamp:stampOf row=some stamp):
 stampOf row'=some stamp:=by
 obtain ⟨mutated,w,hmutates,hw,htable,-,-⟩:=h
 rw[htable] at hrow'
 obtain ⟨first,hfirst,hcontinues⟩:=hw.row row' hrow'
 have hkept:=hmutates.stamp row first hrow hfirst (hcontinues.id.symm.trans hid)
  (hcontinues.target.symm.trans htarget)
 exact hcontinues.stamp stamp (hkept.trans hstamp)
lemma nextEpisode_cases (device:Device)(before after:IntentTable)(episode:ℕ):
 (rolloutKey device before=rolloutKey device after∧nextEpisode device before after episode=episode)∨
  nextEpisode device before after episode=episode+1:=by
 unfold nextEpisode
 split
 · rename_i hsame
   exact .inl ⟨hsame,rfl⟩
 · exact .inr rfl

/-- The history read against one table: past episodes are closed, the current one shows its stamp. -/
structure History (device:Device)(text:DatetimeText)(t:IntentTable)(episode:ℕ)
  (watermarks:List (ℕ×Instant)):Prop where
 past:∀e at_,(e,at_)∈watermarks→e≤episode
 once:∀e at_ at',(e,at_)∈watermarks→(e,at')∈watermarks→at_=at'
 current:∀at_,(episode,at_)∈watermarks→∃row written,
  rolloutRow t.rows device.id=some row∧stampOf row=some (.str written)∧
   text.fromisoformat written=some at_

lemma History.next {u:IntentTable}{episode:ℕ}{watermarks:List (ℕ×Instant)}
 (h:History device text t episode watermarks)
 (hstamp:∀row row',rolloutRow t.rows device.id=some row→ rolloutRow u.rows device.id=some row'→
  row'.id=row.id→targetOf row'=targetOf row→
  ∀written,stampOf row=some (.str written)→stampOf row'=some (.str written)):
 History device text u (nextEpisode device t u episode) watermarks:=by
 rcases nextEpisode_cases device t u episode with ⟨hsame,hepisode⟩|hepisode
 · rw[hepisode]
   refine ⟨h.past,h.once,?_⟩
   intro at_ hat
   obtain ⟨row,written,hrow,hwritten,hread⟩:=h.current at_ hat
   rw[rolloutKey_of_row hrow] at hsame
   obtain ⟨row',hrow',hid,htarget⟩:=rolloutKey_eq_some hsame.symm
   exact ⟨row',written,hrow',hstamp row row' hrow hrow' hid htarget written hwritten,hread⟩
 · rw[hepisode]
   refine ⟨fun e at_ hat=>Nat.le_succ_of_le (h.past e at_ hat),h.once,?_⟩
   intro at_ hat
   have hle:=h.past _ _ hat
   omega

variable (text device) in
structure Inv (s:State):Prop where
 table:TableOk text device s.table
 history:History device text s.table s.episode s.watermarks

/-- The watermark a transaction commits is the episode's own. -/
lemma History.record {w:Working}{episode:ℕ}{watermarks:List (ℕ×Instant)}
 (h:History device text t episode watermarks)(hw:OpsOk text device (rolloutRow t.rows device.id) w):
 History device text w.table (nextEpisode device t w.table episode)
  ((w.watermark.map fun at_=>(episode,at_)).toList++watermarks):=by
 have hnext:History device text w.table (nextEpisode device t w.table episode) watermarks:=by
  refine h.next ?_
  intro row row' hrow hrow' _ _ written hwritten
  obtain ⟨first,hfirst,hcontinues⟩:=hw.row row' hrow'
  rw[hrow] at hfirst
  cases hfirst
  exact hcontinues.stamp _ hwritten
 cases hmark:w.watermark with
 | none=>exact hnext
 | some mark=>
  obtain ⟨first,written,hfirst,hread,horigin,hcurrent⟩:=hw.watermark mark hmark
  have hagree:∀at_,(episode,at_)∈watermarks→at_=mark:=by
   intro at_ hat
   obtain ⟨row,stored,hrow,hstored,hreadStored⟩:=h.current at_ hat
   rw[hfirst] at hrow
   cases hrow
   cases horigin _ hstored
   exact some.inj (hreadStored.symm.trans hread)
  have hepisode:episode≤nextEpisode device t w.table episode:=by
   rcases nextEpisode_cases device t w.table episode with ⟨-,heq⟩|heq <;> omega
  constructor
  · intro e at_ hat
    rcases mem_cons.mp hat with heq|hat
    · cases heq
      exact hepisode
    · exact hnext.past e at_ hat
  · intro e at_ at' hat hat'
    rcases mem_cons.mp hat with heq|hat <;> rcases mem_cons.mp hat' with heq'|hat'
    · cases heq
      cases heq'
      rfl
    · cases heq
      exact (hagree at' hat').symm
    · cases heq'
      exact hagree at_ hat
    · exact h.once e at_ at' hat hat'
  · intro at_ hat
    rcases mem_cons.mp hat with heq|hat
    · obtain ⟨hsame,rfl⟩:=Prod.mk.inj heq
      rcases nextEpisode_cases device t w.table episode with ⟨hkey,-⟩|hbumped
      · rw[rolloutKey_of_row hfirst] at hkey
        obtain ⟨row,hrow,-,-⟩:=rolloutKey_eq_some hkey.symm
        exact ⟨row,written,hrow,hcurrent row hrow,hread⟩
      · omega
    · exact hnext.current at_ hat

lemma inv_step (h:Inv text device s){label:Label}(hstep:step text device s label=some s'):
 Inv text device s':=by
 rcases step_cases h.table hstep with hcommits|⟨htable,hepisode,hwatermarks⟩
 · obtain ⟨mutated,w,hmutates,hw,htable,hepisode,hwatermarks⟩:=hcommits
   have hmutated:History device text mutated (nextEpisode device s.table mutated s.episode)
     s.watermarks:=by
    refine h.history.next ?_
    intro row row' hrow hrow' hid htarget written hwritten
    exact (hmutates.stamp row row' hrow hrow' hid htarget).trans hwritten
   constructor
   · rw[htable]
     exact hw.table
   · rw[htable,hepisode,hwatermarks]
     exact hmutated.record hw
 · constructor
   · rw[htable]
     exact h.table
   · rw[htable,hepisode,hwatermarks]
     exact h.history
end

theorem rollout_stamp_minted_once (text:DatetimeText) (device:Device) (first:State)
 (hrows:TableOk text device first.table) (hnew:first.watermarks=[]) (labels:List Label)
 (s:State) (hrun:Interleaving.run (step text device) first labels=some s):
 (∀label s',step text device s label=some s'→
  ∀row row',rolloutRow s.table.rows device.id=some row→
   rolloutRow s'.table.rows device.id=some row'→
   row'.id=row.id→ targetOf row'=targetOf row→
   ∀stamp,stampOf row=some stamp→ stampOf row'=some stamp)∧
 ∀episode watermark watermark',(episode,watermark)∈s.watermarks→
  (episode,watermark')∈s.watermarks→ watermark=watermark':=by
 have hfirst:Inv text device first:=by
  refine ⟨hrows,?_⟩
  rw[hnew]
  exact ⟨nofun,nofun,nofun⟩
 have hinv:=Interleaving.run_invariant (Inv text device) (fun _ _ _ hI hs=>inv_step hI hs) hfirst hrun
 refine ⟨?_,hinv.history.once⟩
 intro label s' hstep row row' hrow hrow' hid htarget stamp hstamp
 rcases step_cases hinv.table hstep with hcommits|⟨htable,-,-⟩
 · exact hcommits.stamp hrow hrow' hid htarget hstamp
 · rw[htable,hrow] at hrow'
   cases hrow'
   exact hstamp

def idleFleet:State where
 table:=⟨[],0,nodup_nil,nofun,nodup_nil⟩
 node:=some runningNode
 lastEmitted:=.available
 candidates:=[]
 episode:=0
 watermarks:=[]

/-- Two detector passes read the device before either registers. -/
def overlappingPasses:List Label:=
 let scan:=.scan (some "2.0") (some 31) (some "00008110") (some "1.0")
 [scan,scan,
  .stage (.register "2.0") 900 [.load,.reconcile idleSnapshot 3],
  .stage (.register "2.0") 960 [.load,.reconcile idleSnapshot 9]]

def stored (s:State):Option Json×List (ℕ×Instant):=
 ((rolloutRow s.table.rows phone.id).bind stampOf,s.watermarks)

theorem rollout_stamp_minted_once_overlappingPasses:
 ∃s,Interleaving.run (step tallyText phone) idleFleet overlappingPasses=some s∧
  stored s=(some (.str "|||"),[(1,3),(1,3)])∧
  ∀watermark,(1,watermark)∈s.watermarks→ watermark=3:=by
 have hseen:(Interleaving.run (step tallyText phone) idleFleet overlappingPasses).map stored =
   some (some (.str "|||"),[(1,3),(1,3)]):=by decide
 obtain ⟨s,hrun,hs⟩:=map_eq_some_iff.mp hseen
 obtain ⟨-,honce⟩:=rollout_stamp_minted_once tallyText phone idleFleet
  ⟨nofun,nofun⟩ rfl overlappingPasses s hrun
 have hmarks:s.watermarks=[(1,3),(1,3)]:=congrArg Prod.snd hs
 refine ⟨s,hrun,hs,fun watermark hmem=>honce 1 watermark 3 hmem ?_⟩
 rw[hmarks]
 exact mem_cons_self
end GridFleet.ReleaseRollout
