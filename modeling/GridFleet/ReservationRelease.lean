import GridFleet.RunTeardown
/-! A reservation is released with its exclusion cleared. Completion and teardown read the run's
reservation list with the run row, then wait for the device locks, and their flush writes a column only
where the assigned value differs from the loaded one. The other writers load the row under the lock. -/
namespace GridFleet.ReservationRelease
open Dict List Option
open RecoveryJobs (ExclusionKind terminalStates)
open RunTeardown (RunTeardownKind)
open Interleaving

abbrev TxId:=ℕ

structure Entry where
 runId:RunId
 deviceId:DeviceId
 excluded:Bool
 exclusionKind:Option ExclusionKind
 exclusionReason:Option String
 excludedAt:Option Instant
 excludedUntil:Option Instant
 cooldownCount:ℕ
 releasedAt:Option Instant

def reservationActive (entry:Entry):Bool:=entry.releasedAt.isNone

/-- A column is written when the assigned value differs from the loaded one. -/
def writeColumn {α:Type*} [DecidableEq α](loaded assigned stored:α):α:=
 if assigned=loaded then stored else assigned

def flush (loaded assigned stored:Entry):Entry where
 runId:=stored.runId
 deviceId:=stored.deviceId
 excluded:=writeColumn loaded.excluded assigned.excluded stored.excluded
 exclusionKind:=writeColumn loaded.exclusionKind assigned.exclusionKind stored.exclusionKind
 exclusionReason:=writeColumn loaded.exclusionReason assigned.exclusionReason stored.exclusionReason
 excludedAt:=writeColumn loaded.excludedAt assigned.excludedAt stored.excludedAt
 excludedUntil:=writeColumn loaded.excludedUntil assigned.excludedUntil stored.excludedUntil
 cooldownCount:=writeColumn loaded.cooldownCount assigned.cooldownCount stored.cooldownCount
 releasedAt:=writeColumn loaded.releasedAt assigned.releasedAt stored.releasedAt

section
variable (entry:Entry)(now:Instant)

def released:Entry:=
 { entry with
   releasedAt:=some now
   excluded:=false
   exclusionKind:=none
   excludedAt:=none
   excludedUntil:=none }

def releasedFor (reason:String):Entry:={released entry now with exclusionReason:=some reason}
def entryIsExcluded:Bool:=entry.excluded&&entry.excludedUntil.all (now < ·)

def excludeEntry (reason:String):Option Entry:=
 if entryIsExcluded entry now&&decide (entry.exclusionReason=some reason) then none
 else some { entry with
  excluded:=true
  exclusionKind:=some .exclusion
  exclusionReason:=some reason
  excludedAt:=some now
  excludedUntil:=none }

/-- The exclusion columns as a restore and the elapsed-cooldown update leave them. -/
def included:Entry:=
 { entry with
   excluded:=false
   exclusionKind:=none
   exclusionReason:=none
   excludedAt:=none
   excludedUntil:=none }

def restoreEntry:Option Entry:=
 if entry.excludedUntil.any (now < ·) then none
 else if !entryIsExcluded entry now then none
 else some {included entry with cooldownCount:=0}

def cooledEntry (reason:String)(ttl:ℕ):Entry:=
 { entry with
   excluded:=true
   exclusionKind:=some .cooldown
   exclusionReason:=some reason
   excludedAt:=some now
   excludedUntil:=some (now+ttl*RunTeardown.microsPerSecond) }
end

structure Settings where
 cooldownMaxSec:ℕ
 cooldownEscalationThreshold:ℕ

inductive Command where
 | completeRun (run:RunId)
 | finalizeTeardown (run:RunId)(kind:RunTeardownKind)
 | cooldownDevice (run:RunId)(device:DeviceId)(reason:String)(ttl:ℕ)
 | reportPreparationFailure (run:RunId)(device:DeviceId)(reason:String)
 | excludeLocked (device:DeviceId)(reason:String)
 | restoreLocked (device:DeviceId)
 | clearElapsedCooldown (device:DeviceId)

def Command.releasedRun:Command→Option RunId
 | .completeRun run | .finalizeTeardown run _=>some run
 | _=>none
def Command.lockedRun:Command→Option RunId
 | .completeRun run | .finalizeTeardown run _ | .cooldownDevice run .. |
  .reportPreparationFailure run ..=>some run
 | .excludeLocked .. | .restoreLocked _ | .clearElapsedCooldown _=>none
def Command.device:Command→Option DeviceId
 | .completeRun _ | .finalizeTeardown ..=>none
 | .cooldownDevice _ device .. | .reportPreparationFailure _ device _ | .excludeLocked device _
 | .restoreLocked device | .clearElapsedCooldown device=>some device

/-- An open transaction: the reservations it loaded with the run, and the devices it has yet to lock,
in ascending order. -/
structure Tx where
 command:Command
 loaded:Dict RowId Entry
 waiting:List DeviceId

structure State where
 now:Instant
 runs:Dict RunId RunState
 entries:Dict RowId Entry
 runLocks:Dict RunId TxId
 deviceLocks:Dict DeviceId TxId
 txs:Dict TxId Tx

section
variable (entries:Dict RowId Entry)(now:Instant)

/-- `lock_active_reservation`; the table holds one active row a device. -/
def lockActiveReservation (device:DeviceId)(run:Option RunId):Option (RowId×Entry):=
 entries.entries.find? fun p=>
  decide (p.2.deviceId=device)&&reservationActive p.2&&run.all (fun id=>decide (p.2.runId=id))

/-- The flush of a release: every active loaded reservation on a locked device. -/
def releaseDevices (loaded:Dict RowId Entry)(locked:DeviceId→Bool):Dict RowId Entry:=
 entries.map fun id stored=>
  match loaded.get id with
  | none=>stored
  | some entry=>
   if reservationActive entry&&locked entry.deviceId then flush entry (released entry now) stored
   else stored

def releaseLocked (device:DeviceId)(reason:String):Dict RowId Entry:=
 match lockActiveReservation entries device none with
 | none=>entries
 | some (id,entry)=>entries.set id (releasedFor entry now reason)
def cooldownEscalationReason (count threshold:ℕ)(reason:String):String:=
 "Exceeded cooldown threshold (" ++ toString count ++ "/" ++ toString threshold ++ "): " ++ reason

def cooldownDevice (settings:Settings)(run:RunId)(device:DeviceId)(reason:String)(ttl:ℕ):
 Dict RowId Entry:=
 match lockActiveReservation entries device (some run) with
 | none=>entries
 | some (id,entry)=>
  let counted:={entry with cooldownCount:=entry.cooldownCount+1}
  let threshold:=settings.cooldownEscalationThreshold
  if 0<threshold∧threshold≤counted.cooldownCount then
   releaseLocked (entries.set id counted) now device
    (cooldownEscalationReason counted.cooldownCount threshold reason)
  else entries.set id (cooledEntry counted now reason ttl)

def reportPreparationFailure (run:RunId)(device:DeviceId)(reason:String):Dict RowId Entry:=
 match lockActiveReservation entries device (some run) with
 | none=>entries
 | some _=>releaseLocked entries now device reason

/-- Callers pass the reservation of the snapshot they took under the device lock. -/
def excludeLocked (device:DeviceId)(reason:String):Dict RowId Entry:=
 match lockActiveReservation entries device none with
 | none=>entries
 | some (id,entry)=>((excludeEntry entry now reason).map (entries.set id)).getD entries

def restoreLocked (device:DeviceId):Dict RowId Entry:=
 match lockActiveReservation entries device none with
 | none=>entries
 | some (id,entry)=>((restoreEntry entry now).map (entries.set id)).getD entries

/-- The run states that the elapsed-cooldown update passes over; `expired` is not among them. -/
def cooldownSettledStates:List RunState:=[.completed,.cancelled,.failed]

def clearElapsedCooldown (runs:Dict RunId RunState)(device:DeviceId):Dict RowId Entry:=
 entries.map fun _ entry=>
  if decide (entry.deviceId=device)&&decide (entry.exclusionKind=some .cooldown)&&
    entry.excludedUntil.any (· < now)&&reservationActive entry&&
    (runs.get entry.runId).any (fun state=>decide (state ∉ cooldownSettledStates)) then
   included entry
  else entry
end

def teardownState:RunTeardownKind→RunState
 | .cancel | .forceRelease=>.cancelled
 | .expire=>.expired

section
variable (settings:Settings)

def commitEntries (s:State)(tx:TxId)(t:Tx):Dict RowId Entry:=
 match t.command with
 | .completeRun _ | .finalizeTeardown ..=>
  releaseDevices s.entries s.now t.loaded fun device=>decide (s.deviceLocks.get device=some tx)
 | .cooldownDevice run device reason ttl=>
  cooldownDevice s.entries s.now settings run device reason ttl
 | .reportPreparationFailure run device reason=>
  reportPreparationFailure s.entries s.now run device reason
 | .excludeLocked device reason=>excludeLocked s.entries s.now device reason
 | .restoreLocked device=>restoreLocked s.entries s.now device
 | .clearElapsedCooldown device=>clearElapsedCooldown s.entries s.now s.runs device

def commitRuns (s:State):Command→Dict RunId RunState
 | .completeRun run=>s.runs.set run .completed
 | .finalizeTeardown run kind=>s.runs.set run (teardownState kind)
 | _=>s.runs
def State.close (s:State)(tx:TxId):State:=
 { s with
   runLocks:=s.runLocks.filter fun _ holder=>decide (holder≠tx)
   deviceLocks:=s.deviceLocks.filter fun _ holder=>decide (holder≠tx)
   txs:=s.txs.pop tx }
def Command.isValid:Command→Bool
 | .cooldownDevice _ _ reason ttl=>decide (ttl ≤ settings.cooldownMaxSec)&&decide (reason ≠ "")
 | .reportPreparationFailure _ _ reason=>decide (reason ≠ "")
 | _=>true

/-- The devices of the loaded reservations, released ones included, each once and in ascending order. -/
def devicesToLock (loaded:Dict RowId Entry):List DeviceId:=
 (loaded.entries.map fun p=>p.2.deviceId).dedup.insertionSort (· ≤ ·)

/-- The first statement of a run command: the row lock of a live run, with its reservation list for the
commands that release it. -/
def lockRun (s:State)(tx:TxId)(command:Command)(run:RunId):Option State:=
 if (s.runLocks.get run).isSome then none
 else if (s.runs.get run).all (fun state=>decide (state∈terminalStates)) then none
 else
  let loaded:=if command.releasedRun.isSome then s.entries.filter fun _ e=>decide (e.runId=run)
   else Dict.empty
  let waiting:=command.device.elim (devicesToLock loaded) fun device=>[device]
  some { s with
   runLocks:=s.runLocks.set run tx
   txs:=s.txs.set tx ⟨command,loaded,waiting⟩ }

inductive Label where
 | tick (elapsed:ℕ)
 | createRun (run:RunId)(devices:List (RowId×DeviceId))
 | begin (tx:TxId)(command:Command)
 | lockDevice (tx:TxId)
 | commit (tx:TxId)
 | rollback (tx:TxId)

def newEntry (run:RunId)(device:DeviceId):Entry:=
 ⟨run,device,false,none,none,none,none,0,none⟩

def insertReservations (run:RunId):
 Dict RowId Entry→List (RowId×DeviceId)→Option (Dict RowId Entry)
 | entries,[]=>some entries
 | entries,(id,device)::rest=>
  if (entries.get id).isSome then none
  else if (lockActiveReservation entries device none).isSome then none
  else insertReservations run (entries.set id (newEntry run device)) rest

def step (s:State):Label→Option State
 | .tick elapsed=>some {s with now:=s.now+elapsed}
 | .createRun run devices=>
  if (s.runs.get run).isSome then none
  else (insertReservations run s.entries devices).map fun entries=>
   {s with entries:=entries,runs:=s.runs.set run .preparing}
 | .begin tx command=>
  if (s.txs.get tx).isSome then none
  else if !command.isValid settings then none
  else
   match command.lockedRun with
   | some run=>lockRun s tx command run
   | none=>some {s with txs:=s.txs.set tx ⟨command,.empty,command.device.toList⟩}
 | .lockDevice tx=>(s.txs.get tx).bind fun t=>
   match t.waiting with
   | []=>none
   | device::rest=>
    if (s.deviceLocks.get device).isSome then none
    else some { s with
     deviceLocks:=s.deviceLocks.set device tx
     txs:=s.txs.set tx {t with waiting:=rest} }
 | .commit tx=>(s.txs.get tx).bind fun t=>
   if t.waiting=[] then
    some { s.close tx with
     entries:=commitEntries settings s tx t
     runs:=commitRuns s t.command }
   else none
 | .rollback tx=>(s.txs.get tx).map fun _=>s.close tx
end

structure Clean (entry:Entry):Prop where
 excluded:entry.excluded=false
 exclusionKind:entry.exclusionKind=none
 excludedUntil:entry.excludedUntil=none

instance (entry:Entry):Decidable (Clean entry):=
 decidable_of_iff
  (entry.excluded=false∧entry.exclusionKind=none∧entry.excludedUntil=none)
  ⟨fun h=>⟨h.1,h.2.1,h.2.2⟩,fun h=>⟨h.1,h.2,h.3⟩⟩

/-- Every exclusion column that the stored row has set is set in the loaded one, so that a flush which
clears it is not taken for a change of nothing. -/
structure Covers (loaded stored:Entry):Prop where
 excluded:loaded.excluded=false→stored.excluded=false
 exclusionKind:loaded.exclusionKind=none→stored.exclusionKind=none
 excludedUntil:loaded.excludedUntil=none→stored.excludedUntil=none

lemma covers_refl (entry:Entry):Covers entry entry:=⟨id,id,id⟩
lemma Covers.trans {a b c:Entry}(h:Covers a b)(h':Covers b c):Covers a c:=
 ⟨h'.1 ∘ h.1,h'.2 ∘ h.2,h'.3 ∘ h.3⟩
lemma covers_of_clean {loaded stored:Entry}(h:Clean stored):Covers loaded stored:=
 ⟨fun _=>h.1,fun _=>h.2,fun _=>h.3⟩
lemma clean_included (entry:Entry):Clean (included entry):=⟨rfl,rfl,rfl⟩
lemma writeColumn_of_covered {α:Type*} [DecidableEq α]{loaded assigned stored:α}
 (h:loaded=assigned→stored=assigned):writeColumn loaded assigned stored=assigned:=by
 unfold writeColumn
 split
 · rename_i heq
   exact h heq.symm
 · rfl
lemma clean_flush {loaded stored:Entry}(h:Covers loaded stored)(now:Instant):
 Clean (flush loaded (released loaded now) stored):=
 ⟨writeColumn_of_covered h.1,writeColumn_of_covered h.2,writeColumn_of_covered h.3⟩

/-- One row before and after a commit: a released row is not written, a row is released clean, and a
row that the transaction has no claim to stays active and gains no exclusion. -/
structure RowStep (touched:Prop)(entry entry':Entry):Prop where
 runId:entry'.runId=entry.runId
 deviceId:entry'.deviceId=entry.deviceId
 released:reservationActive entry=false→entry'=entry
 clean:reservationActive entry→ reservationActive entry'=false→Clean entry'
 untouched:¬touched→entry'.releasedAt=entry.releasedAt∧Covers entry entry'

lemma rowStep_refl (touched:Prop)(entry:Entry):RowStep touched entry entry where
 runId:=rfl
 deviceId:=rfl
 released _:=rfl
 clean hactive hreleased:=by
  rw[hactive] at hreleased
  cases hreleased
 untouched _:=⟨rfl,covers_refl entry⟩
lemma rowStep_of_touched {touched:Prop}{entry entry':Entry}(htouched:touched)
 (hactive:reservationActive entry)(hrun:entry'.runId=entry.runId)
 (hdevice:entry'.deviceId=entry.deviceId)
 (hclean:reservationActive entry'=false→Clean entry'):RowStep touched entry entry' where
 runId:=hrun
 deviceId:=hdevice
 released hreleased:=by
  rw[hactive] at hreleased
  cases hreleased
 clean _:=hclean
 untouched hnot:=absurd htouched hnot
lemma rowStep_of_lifted {touched:Prop}{entry entry':Entry}
 (hactive:reservationActive entry)(hrun:entry'.runId=entry.runId)
 (hdevice:entry'.deviceId=entry.deviceId)(hreleasedAt:entry'.releasedAt=entry.releasedAt)
 (hclean:Clean entry'):RowStep touched entry entry' where
 runId:=hrun
 deviceId:=hdevice
 released hreleased:=by
  rw[hactive] at hreleased
  cases hreleased
 clean _ _:=hclean
 untouched _:=⟨hreleasedAt,covers_of_clean hclean⟩

structure Updated (touched:RowId→Entry→Prop)(entries entries':Dict RowId Entry):Prop where
 forward:∀id entry,entries.get id=some entry→
  ∃entry',entries'.get id=some entry'∧RowStep (touched id entry) entry entry'
 backward:∀id entry',entries'.get id=some entry'→
  ∃entry,entries.get id=some entry∧RowStep (touched id entry) entry entry'

section
variable {touched:RowId→Entry→Prop}{entries entries':Dict RowId Entry}

lemma updated_refl (touched:RowId→Entry→Prop)(entries:Dict RowId Entry):
 Updated touched entries entries where
 forward _ entry h:=⟨entry,h,rowStep_refl _ entry⟩
 backward _ entry h:=⟨entry,h,rowStep_refl _ entry⟩
lemma updated_map {f:RowId→Entry→Entry}
 (hf:∀id entry,entries.get id=some entry→RowStep (touched id entry) entry (f id entry)):
 Updated touched entries (entries.map f) where
 forward id entry h:=by
  refine ⟨f id entry,?_,hf id entry h⟩
  rw[Dict.get_map,h]
  rfl
 backward id entry' h:=by
  obtain ⟨entry,hentry,rfl⟩:=get_map_eq_some h
  exact ⟨entry,hentry,hf id entry hentry⟩
lemma updated_set {id:RowId}{entry entry':Entry}(hentry:entries.get id=some entry)
 (hstep:RowStep (touched id entry) entry entry'):
 Updated touched entries (entries.set id entry') where
 forward k other h:=by
  by_cases hk:k=id
  · subst hk
    cases hentry.symm.trans h
    exact ⟨entry',get_set_self ..,hstep⟩
  · exact ⟨other,(get_set_of_ne _ _ hk).trans h,rowStep_refl _ other⟩
 backward:=forall_get_set ⟨entry,hentry,hstep⟩ fun _ other hold=>
  ⟨other,hold,rowStep_refl _ other⟩
lemma lockActiveReservation_spec {device:DeviceId}{run:Option RunId}{id:RowId}{entry:Entry}
 (h:lockActiveReservation entries device run=some (id,entry)):
 entries.get id=some entry∧entry.deviceId=device∧reservationActive entry∧
  ∀r,run=some r→entry.runId=r:=by
 have hmem:=mem_of_find?_eq_some h
 have hfound:=find?_some h
 simp only[Bool.and_eq_true,decide_eq_true_eq] at hfound
 refine ⟨get_eq_some_iff.mpr hmem,hfound.1.1,hfound.1.2,?_⟩
 intro r hr
 simpa[hr] using hfound.2
end

def UniqueActive (entries:Dict RowId Entry):Prop:=
 ∀id id' entry entry',entries.get id=some entry→entries.get id'=some entry'→
  reservationActive entry→ reservationActive entry'→
  entry.deviceId=entry'.deviceId→id=id'
def OfRun (run:RunId)(_:RowId)(entry:Entry):Prop:=entry.runId=run

section
variable {touched:RowId→Entry→Prop}{entries:Dict RowId Entry}{now:Instant}

variable {run:RunId}{device:DeviceId}{reason:String}

lemma RowStep.trans {a b c:Entry}(h:RowStep (a.runId=run) a b)(h':RowStep (b.runId=run) b c):
 RowStep (a.runId=run) a c where
 runId:=h'.runId.trans h.runId
 deviceId:=h'.deviceId.trans h.deviceId
 released hreleased:=by
  have hsame:=h.released hreleased
  rw[h'.released (by rw[hsame];exact hreleased),hsame]
 clean hactive hreleased:=by
  cases hmiddle:reservationActive b with
  | true=>exact h'.clean hmiddle hreleased
  | false=>
   rw[h'.released hmiddle]
   exact h.clean hactive hmiddle
 untouched hnot:=by
  obtain ⟨hreleasedAt,hcovers⟩:=h.untouched hnot
  obtain ⟨hreleasedAt',hcovers'⟩:=h'.untouched (by rw[h.runId];exact hnot)
  exact ⟨hreleasedAt'.trans hreleasedAt,hcovers.trans hcovers'⟩
lemma Updated.trans {entries' entries'':Dict RowId Entry}(h:Updated (OfRun run) entries entries')
 (h':Updated (OfRun run) entries' entries''):Updated (OfRun run) entries entries'' where
 forward id entry hentry:=by
  obtain ⟨middle,hmiddle,hstep⟩:=h.forward id entry hentry
  obtain ⟨final,hfinal,hstep'⟩:=h'.forward id middle hmiddle
  exact ⟨final,hfinal,RowStep.trans hstep hstep'⟩
 backward id final hfinal:=by
  obtain ⟨middle,hmiddle,hstep'⟩:=h'.backward id final hfinal
  obtain ⟨entry,hentry,hstep⟩:=h.backward id middle hmiddle
  exact ⟨entry,hentry,RowStep.trans hstep hstep'⟩

/-- What a transaction knows of a row it loaded before it had the device's lock: the row is still its
run's, released or not as loaded, and the loaded exclusion covers the stored one. -/
structure Reflects (loaded stored:Entry):Prop where
 runId:stored.runId=loaded.runId
 releasedAt:stored.releasedAt=loaded.releasedAt
 covers:Covers loaded stored

lemma updated_releaseDevices {loaded:Dict RowId Entry}(locked:DeviceId→Bool)
 (hloaded:∀id entry stored,loaded.get id=some entry→entries.get id=some stored→
  Reflects entry stored∧touched id stored):
 Updated touched entries (releaseDevices entries now loaded locked):=by
 apply updated_map
 intro id stored hstored
 cases hget:loaded.get id with
 | none=>exact rowStep_refl _ stored
 | some entry=>
  obtain ⟨hreflects,htouched⟩:=hloaded id entry stored hget hstored
  dsimp only
  split
  · rename_i hreleases
    have hactive:reservationActive stored:=by
     unfold reservationActive
     rw[hreflects.releasedAt]
     exact (Bool.and_eq_true_iff.mp hreleases).1
    exact rowStep_of_touched htouched hactive rfl rfl fun _=>clean_flush hreflects.covers now
  · exact rowStep_refl _ stored
lemma updated_releaseLocked (hmine:∀id entry,entries.get id=some entry→ reservationActive entry→
  entry.deviceId=device→touched id entry):
 Updated touched entries (releaseLocked entries now device reason):=by
 unfold releaseLocked
 split
 · exact updated_refl _ entries
 · rename_i id entry hlocked
   obtain ⟨hentry,hdevice,hactive,-⟩:=lockActiveReservation_spec hlocked
   refine updated_set hentry (rowStep_of_touched (hmine id entry hentry hactive hdevice) hactive rfl rfl ?_)
   intro _
   exact ⟨rfl,rfl,rfl⟩

section
variable (hunique:UniqueActive entries)
include hunique

lemma UniqueActive.ofRun {id:RowId}{entry:Entry}
 (hlocked:lockActiveReservation entries device (some run)=some (id,entry)){k:RowId}{other:Entry}
 (hother:entries.get k=some other)(hactive:reservationActive other)
 (hdevice:other.deviceId=device):OfRun run k other:=by
 obtain ⟨hentry,hentryDevice,hentryActive,hrun⟩:=lockActiveReservation_spec hlocked
 have hsame:k=id:=
  hunique k id other entry hother hentry hactive hentryActive (hdevice.trans hentryDevice.symm)
 subst hsame
 cases hentry.symm.trans hother
 exact hrun run rfl
lemma updated_reportPreparationFailure:
 Updated (OfRun run) entries (reportPreparationFailure entries now run device reason):=by
 unfold reportPreparationFailure
 split
 · exact updated_refl _ entries
 · rename_i found hlocked
   apply updated_releaseLocked
   intro k other hother hactive hdevice
   exact hunique.ofRun hlocked hother hactive hdevice

lemma updated_cooldownDevice {settings:Settings}{ttl:ℕ}:
 Updated (OfRun run) entries (cooldownDevice entries now settings run device reason ttl):=by
 unfold cooldownDevice
 split
 · exact updated_refl _ entries
 · rename_i id entry hlocked
   obtain ⟨hentry,hdevice,hactive,hrun⟩:=lockActiveReservation_spec hlocked
   have htouched:OfRun run id entry:=hrun run rfl
   have hstill:∀{entry':Entry},entry'.releasedAt=entry.releasedAt→
     reservationActive entry'=false→Clean entry':=by
    intro entry' hsame hreleased
    unfold reservationActive at hreleased hactive
    rw[hsame,hactive] at hreleased
    cases hreleased
   dsimp only
   split
   · -- the count is flushed, then the release locks the device's active row again
     have hcounted:Updated (OfRun run) entries
       (entries.set id {entry with cooldownCount:=entry.cooldownCount+1}):=
      updated_set hentry (rowStep_of_touched htouched hactive rfl rfl (hstill rfl))
     apply hcounted.trans
     apply updated_releaseLocked
     intro k other hother hotherActive hotherDevice
     rcases get_set_eq_some hother with ⟨rfl,rfl⟩|⟨-,hold⟩
     · exact htouched
     · exact hunique.ofRun hlocked hold hotherActive hotherDevice
   · exact updated_set hentry (rowStep_of_touched htouched hactive rfl rfl (hstill rfl))
end

lemma updated_excludeLocked:
 Updated (fun id _=>∃entry,lockActiveReservation entries device none=some (id,entry)) entries
  (excludeLocked entries now device reason):=by
 unfold excludeLocked
 split
 · exact updated_refl _ entries
 · rename_i id entry hlocked
   obtain ⟨hentry,-,hactive,-⟩:=lockActiveReservation_spec hlocked
   unfold excludeEntry
   split
   · exact updated_refl _ entries
   · refine updated_set hentry (rowStep_of_touched ⟨entry,hlocked⟩ hactive rfl rfl ?_)
     intro hreleased
     unfold reservationActive at hreleased hactive
     rw[hactive] at hreleased
     cases hreleased
lemma updated_restoreLocked:Updated touched entries (restoreLocked entries now device):=by
 unfold restoreLocked
 split
 · exact updated_refl _ entries
 · rename_i id entry hlocked
   obtain ⟨hentry,-,hactive,-⟩:=lockActiveReservation_spec hlocked
   unfold restoreEntry
   split
   · exact updated_refl _ entries
   · split
     · exact updated_refl _ entries
     · exact updated_set hentry (rowStep_of_lifted hactive rfl rfl rfl ⟨rfl,rfl,rfl⟩)
lemma updated_clearElapsedCooldown {runs:Dict RunId RunState}:
 Updated touched entries (clearElapsedCooldown entries now runs device):=by
 apply updated_map
 intro id entry _
 split
 · rename_i hmatches
   simp only[Bool.and_eq_true] at hmatches
   exact rowStep_of_lifted hmatches.1.2 rfl rfl rfl (clean_included entry)
 · exact rowStep_refl _ entry
end

structure Inv (s:State):Prop where
 clean:∀id entry,s.entries.get id=some entry→ reservationActive entry=false→Clean entry
 unique:UniqueActive s.entries
 runLock:∀tx t run,s.txs.get tx=some t→t.command.lockedRun=some run→
  s.runLocks.get run=some tx
 loadedRun:∀tx t id loaded,s.txs.get tx=some t→t.loaded.get id=some loaded→
  t.command.releasedRun=some loaded.runId
 reflects:∀tx t id loaded,s.txs.get tx=some t→t.loaded.get id=some loaded→
  ∃stored,s.entries.get id=some stored∧Reflects loaded stored

lemma lockedRun_of_releasedRun {command:Command}{run:RunId}(h:command.releasedRun=some run):
 command.lockedRun=some run:=by
 cases command <;> first | exact h | cases h

section
variable {s:State}{tx:TxId}{t:Tx}

variable {id:RowId}

lemma Inv.loader (h:Inv s)(htx:s.txs.get tx=some t){loaded stored:Entry}
 (hloaded:t.loaded.get id=some loaded)(hstored:s.entries.get id=some stored):
 s.runLocks.get stored.runId=some tx:=by
 obtain ⟨found,hfound,hreflects⟩:=h.reflects tx t id loaded htx hloaded
 cases hstored.symm.trans hfound
 rw[hreflects.runId]
 exact h.runLock tx t _ htx (lockedRun_of_releasedRun (h.loadedRun tx t id loaded htx hloaded))
lemma Inv.close (h:Inv s)(tx:TxId):Inv (s.close tx):=
 { h with
  runLock tx' t' run htx' hrun:=by
   obtain ⟨hne,hold⟩:=get_pop_eq_some htx'
   have hlock:=h.runLock tx' t' run hold hrun
   simp[State.close,hlock,filter_some,hne]
  loadedRun tx' t' id loaded htx':=h.loadedRun tx' t' id loaded (get_pop_eq_some htx').2
  reflects tx' t' id loaded htx':=h.reflects tx' t' id loaded (get_pop_eq_some htx').2 }

variable {entries:Dict RowId Entry}

lemma Inv.updated (h:Inv s){touched:RowId→Entry→Prop}(hupdated:Updated touched s.entries entries)
 (huntouched:∀tx t id loaded stored,s.txs.get tx=some t→t.loaded.get id=some loaded→
  s.entries.get id=some stored→¬touched id stored)(runs:Dict RunId RunState):
 Inv {s with entries:=entries,runs:=runs}:=
 { h with
  clean id entry' hentry' hreleased:=by
   obtain ⟨entry,hentry,hstep⟩:=hupdated.backward id entry' hentry'
   cases hactive:reservationActive entry with
   | true=>exact hstep.clean hactive hreleased
   | false=>
    rw[hstep.released hactive]
    exact h.clean id entry hentry hactive
  unique id id' entry entry' hentry hentry' hactive hactive' hdevice:=by
   obtain ⟨old,hold,hstep⟩:=hupdated.backward id entry hentry
   obtain ⟨old',hold',hstep'⟩:=hupdated.backward id' entry' hentry'
   have hwas:∀{e e':Entry}{p:Prop},RowStep p e e'→ reservationActive e'→
     reservationActive e:=by
    intro e e' p hrow he'
    by_contra hnot
    have hreleased:reservationActive e=false:=by simpa using hnot
    rw[hrow.released hreleased,hreleased] at he'
    cases he'
   refine h.unique id id' old old' hold hold' (hwas hstep hactive) (hwas hstep' hactive') ?_
   rw[←hstep.deviceId,←hstep'.deviceId,hdevice]
  reflects tx t id loaded htx hloaded:=by
   obtain ⟨stored,hstored,hreflects⟩:=h.reflects tx t id loaded htx hloaded
   obtain ⟨stored',hstored',hstep⟩:=hupdated.forward id stored hstored
   obtain ⟨hreleasedAt,hcovers⟩:=
    hstep.untouched (huntouched tx t id loaded stored htx hloaded hstored)
   exact ⟨stored',hstored',hstep.runId.trans hreflects.runId,hreleasedAt.trans hreflects.releasedAt,
    hreflects.covers.trans hcovers⟩ }

lemma Inv.setTx (h:Inv s){t:Tx}{runLocks:Dict RunId TxId}{deviceLocks:Dict DeviceId TxId}
 (hothers:∀tx' t' run,tx'≠tx→s.txs.get tx'=some t'→t'.command.lockedRun=some run→
  runLocks.get run=some tx')(hrun:∀run,t.command.lockedRun=some run→ runLocks.get run=some tx)
 (hloadedRun:∀id loaded,t.loaded.get id=some loaded→t.command.releasedRun=some loaded.runId)
 (hreflects:∀id loaded,t.loaded.get id=some loaded→
  ∃stored,s.entries.get id=some stored∧Reflects loaded stored):
 Inv {s with runLocks:=runLocks,deviceLocks:=deviceLocks,txs:=s.txs.set tx t}:=
 { h with
  runLock tx' t' run htx' hlocked:=by
   rcases get_set_eq_some htx' with ⟨rfl,rfl⟩|⟨hne,hold⟩
   · exact hrun run hlocked
   · exact hothers tx' t' run hne hold hlocked
  loadedRun tx' t' id loaded htx' hloaded:=by
   rcases get_set_eq_some htx' with ⟨rfl,rfl⟩|⟨-,hold⟩
   · exact hloadedRun id loaded hloaded
   · exact h.loadedRun tx' t' id loaded hold hloaded
  reflects tx' t' id loaded htx' hloaded:=by
   rcases get_set_eq_some htx' with ⟨rfl,rfl⟩|⟨-,hold⟩
   · exact hreflects id loaded hloaded
   · exact h.reflects tx' t' id loaded hold hloaded }

lemma Inv.lockRun (h:Inv s){command:Command}{run:RunId}{s':State}
 (hcommand:command.lockedRun=some run)(hlock:lockRun s tx command run=some s'):Inv s':=by
 unfold ReservationRelease.lockRun at hlock
 split at hlock
 · cases hlock
 rename_i hfree
 split at hlock
 · cases hlock
 cases hlock
 have hrows:∀id loaded,(if command.releasedRun.isSome then
   s.entries.filter fun _ e=>decide (e.runId=run) else Dict.empty).get id=some loaded→
   s.entries.get id=some loaded∧command.releasedRun=some loaded.runId:=by
  intro id loaded hget
  split at hget
  · rename_i hreleases
    rw[Dict.get_filter,filter_eq_some_iff,decide_eq_true_eq] at hget
    obtain ⟨released,hreleased⟩:=isSome_iff_exists.mp hreleases
    have hsame:=(lockedRun_of_releasedRun hreleased).symm.trans hcommand
    cases hsame
    exact ⟨hget.1,hreleased.trans (congrArg some hget.2.symm)⟩
  · cases hget
 refine h.setTx ?_ ?_ (fun id loaded hget=>(hrows id loaded hget).2) ?_
 · intro tx' t' run' hne htx' hrun'
   have hheld:=h.runLock tx' t' run' htx' hrun'
   have hother:run'≠run:=by
    intro heq
    rw[heq] at hheld
    simp[hheld] at hfree
   exact (get_set_of_ne _ _ hother).trans hheld
 · intro run' hrun'
   cases hcommand.symm.trans hrun'
   exact get_set_self ..
 · intro id loaded hget
   exact ⟨loaded,(hrows id loaded hget).1,rfl,rfl,covers_refl loaded⟩

lemma ne_device_of_lockActiveReservation_none {device:DeviceId}
 (h:lockActiveReservation entries device none=none){entry:Entry}
 (hentry:entries.get id=some entry)(hactive:reservationActive entry):entry.deviceId≠device:=by
 intro hdevice
 have hnot:=find?_eq_none.mp h (id,entry) (get_eq_some_iff.mp hentry)
 simp[hdevice,hactive] at hnot
lemma Inv.insert (h:Inv s){entry:Entry}(hfresh:s.entries.get id=none)
 (hactive:reservationActive entry)
 (hdevice:lockActiveReservation s.entries entry.deviceId none=none):
 Inv {s with entries:=s.entries.set id entry}:=
 { h with
  clean k other hother hreleased:=by
   rcases get_set_eq_some hother with ⟨rfl,rfl⟩|⟨-,hold⟩
   · rw[hactive] at hreleased
     cases hreleased
   · exact h.clean k other hold hreleased
  unique k k' other other' hother hother' hotherActive hotherActive' hsame:=by
   rcases get_set_eq_some hother with ⟨rfl,rfl⟩|⟨-,hold⟩
   · rcases get_set_eq_some hother' with ⟨rfl,-⟩|⟨-,hold'⟩
     · rfl
     · exact absurd hsame.symm (ne_device_of_lockActiveReservation_none hdevice hold' hotherActive')
   · rcases get_set_eq_some hother' with ⟨rfl,rfl⟩|⟨-,hold'⟩
     · exact absurd hsame (ne_device_of_lockActiveReservation_none hdevice hold hotherActive)
     · exact h.unique k k' other other' hold hold' hotherActive hotherActive' hsame
  reflects tx t k loaded htx hloaded:=by
   obtain ⟨stored,hstored,hreflects⟩:=h.reflects tx t k loaded htx hloaded
   have hne:k≠id:=by
    intro heq
    rw[heq,hfresh] at hstored
    cases hstored
   exact ⟨stored,(get_set_of_ne _ _ hne).trans hstored,hreflects⟩ }

def Kept (entries entries':Dict RowId Entry):Prop:=
 ∀id entry,entries.get id=some entry→ reservationActive entry=false→
  entries'.get id=some entry

lemma kept_refl (entries:Dict RowId Entry):Kept entries entries:=fun _ _ h _=>h
lemma Kept.trans {a b c:Dict RowId Entry}(h:Kept a b)(h':Kept b c):Kept a c:=
 fun id entry hentry hreleased=>h' id entry (h id entry hentry hreleased) hreleased
lemma Updated.kept {touched:RowId→Entry→Prop}{entries':Dict RowId Entry}
 (h:Updated touched entries entries'):Kept entries entries':=by
 intro id entry hentry hreleased
 obtain ⟨entry',hentry',hstep⟩:=h.forward id entry hentry
 rw[hentry',hstep.released hreleased]

lemma inv_insertReservations {run:RunId}(runs:Dict RunId RunState)
 {devices:List (RowId×DeviceId)}(h:Inv s)
 (hinsert:insertReservations run s.entries devices=some entries):
 Inv {s with entries:=entries,runs:=runs}∧Kept s.entries entries:=by
 induction devices generalizing s with
 | nil=>
  cases hinsert
  exact ⟨{h with},kept_refl _⟩
 | cons head rest ih=>
  obtain ⟨id,device⟩:=head
  unfold insertReservations at hinsert
  split at hinsert
  · cases hinsert
  rename_i hfresh
  split at hinsert
  · cases hinsert
  rename_i hdevice
  have hfresh':s.entries.get id=none:=by simpa using hfresh
  have hnext:Inv {s with entries:=s.entries.set id (newEntry run device)}:=
   h.insert hfresh' rfl (by simpa[newEntry] using hdevice)
  obtain ⟨hinv,hkept⟩:=ih hnext hinsert
  refine ⟨hinv,Kept.trans ?_ hkept⟩
  intro k other hother _
  have hne:k≠id:=by
   intro heq
   rw[heq,hfresh'] at hother
   cases hother
  exact (get_set_of_ne _ _ hne).trans hother
end

/-- No open completion or teardown has loaded the device's active reservation. -/
def exclusionWaits (s:State)(device:DeviceId):Bool:=
 (lockActiveReservation s.entries device none).all fun p=>
  s.txs.entries.all fun q=>(q.2.loaded.get p.1).isNone

/-- An exclusion commits only when no open completion or teardown has read the reservation. -/
def ExclusionsWait (s:State):Label→Prop
 | .commit tx=>((s.txs.get tx).all fun t=>
   match t.command with
   | .excludeLocked device _=>exclusionWaits s device
   | _=>true)
 | _=>True

instance (s:State)(label:Label):Decidable (ExclusionsWait s label):=
 match label with
 | .commit _=>inferInstanceAs (Decidable (_=true))
 | .tick _ | .createRun .. | .begin .. | .lockDevice _ | .rollback _=>isTrue trivial

section
variable {settings:Settings}{s s':State}

lemma Inv.ofRun_untouched (h:Inv s){tx:TxId}{t:Tx}{run:RunId}
 (htx:s.txs.get tx=some t)(hrun:t.command.lockedRun=some run)(tx':TxId)(t':Tx)
 (id:RowId)(loaded stored:Entry)(htx':(s.close tx).txs.get tx'=some t')
 (hloaded:t'.loaded.get id=some loaded)(hstored:s.entries.get id=some stored):
 ¬OfRun run id stored:=by
 obtain ⟨hne,hold⟩:=get_pop_eq_some htx'
 intro hmine
 have hlock:=h.loader hold hloaded hstored
 rw[hmine,h.runLock tx t run htx hrun] at hlock
 exact hne (some.inj hlock).symm

lemma commit_updated (settings:Settings)(h:Inv s){tx:TxId}{t:Tx}
 (htx:s.txs.get tx=some t)(hwaits:ExclusionsWait s (.commit tx)):
 ∃touched,Updated touched s.entries (commitEntries settings s tx t)∧
  ∀tx' t' id loaded stored,(s.close tx).txs.get tx'=some t'→t'.loaded.get id=some loaded→
   s.entries.get id=some stored→¬touched id stored:=by
 have hreleases:∀run,t.command.releasedRun=some run→
   Updated (OfRun run) s.entries (releaseDevices s.entries s.now t.loaded
    fun device=>decide (s.deviceLocks.get device=some tx)):=by
  intro run hrun
  apply updated_releaseDevices
  intro id loaded stored hloaded hstored
  obtain ⟨found,hfound,hreflects⟩:=h.reflects tx t id loaded htx hloaded
  cases hstored.symm.trans hfound
  refine ⟨hreflects,hreflects.runId.trans ?_⟩
  exact some.inj ((h.loadedRun tx t id loaded htx hloaded).symm.trans hrun)
 unfold commitEntries
 cases hcommand:t.command with
 | completeRun run | finalizeTeardown run=>
  exact ⟨OfRun run,hreleases run (by rw[hcommand];rfl),
   h.ofRun_untouched htx (by rw[hcommand];rfl)⟩
 | cooldownDevice run=>
  exact ⟨OfRun run,updated_cooldownDevice h.unique,h.ofRun_untouched htx (by rw[hcommand];rfl)⟩
 | reportPreparationFailure run=>
  exact ⟨OfRun run,updated_reportPreparationFailure h.unique,
   h.ofRun_untouched htx (by rw[hcommand];rfl)⟩
 | excludeLocked device=>
  refine ⟨_,updated_excludeLocked,?_⟩
  intro tx' t' id loaded stored htx' hloaded _ hlocked
  obtain ⟨entry,hlocked⟩:=hlocked
  have hnone:exclusionWaits s device:=by
   simpa only[ExclusionsWait,htx,all_some,hcommand] using hwaits
  rw[exclusionWaits,hlocked,all_some] at hnone
  have hunread:=List.all_eq_true.mp hnone (tx',t')
   (get_eq_some_iff.mp (get_pop_eq_some htx').2)
  simp[hloaded] at hunread
 | restoreLocked=>
  exact ⟨fun _ _=>False,updated_restoreLocked,fun _ _ _ _ _ _ _ _=>not_false⟩
 | clearElapsedCooldown=>
  exact ⟨fun _ _=>False,updated_clearElapsedCooldown,fun _ _ _ _ _ _ _ _=>not_false⟩

lemma inv_step (h:Inv s){label:Label}(hwaits:ExclusionsWait s label)
 (hstep:step settings s label=some s'):Inv s'∧Kept s.entries s'.entries:=by
 cases label with
 | tick=>
  cases hstep
  exact ⟨{h with},kept_refl _⟩
 | createRun=>
  simp only[step] at hstep
  split at hstep
  · cases hstep
  obtain ⟨entries,hinsert,rfl⟩:=map_eq_some_iff.mp hstep
  exact inv_insertReservations _ h hinsert
 | begin tx command=>
  simp only[step] at hstep
  split at hstep
  · cases hstep
  split at hstep
  · cases hstep
  split at hstep
  · rename_i run hrun
    have hkept:s'.entries=s.entries:=by
     unfold lockRun at hstep
     split at hstep
     · cases hstep
     split at hstep
     · cases hstep
     cases hstep
     rfl
    rw[hkept]
    exact ⟨h.lockRun hrun hstep,kept_refl _⟩
  · rename_i hrun
    cases hstep
    refine ⟨h.setTx ?_ ?_ ?_ ?_,kept_refl _⟩
    · intro tx' t' run _ htx' hlocked
      exact h.runLock tx' t' run htx' hlocked
    · intro run hlocked
      rw[hrun] at hlocked
      cases hlocked
    · intro id loaded hloaded
      cases hloaded
    · intro id loaded hloaded
      cases hloaded
 | lockDevice tx=>
  obtain ⟨t,htx,hrest⟩:=bind_eq_some_iff.mp hstep
  split at hrest
  · cases hrest
  split at hrest
  · cases hrest
  cases hrest
  refine ⟨h.setTx ?_ ?_ ?_ ?_,kept_refl _⟩
  · intro tx' t' run _ htx' hlocked
    exact h.runLock tx' t' run htx' hlocked
  · exact fun run=>h.runLock tx t run htx
  · exact fun id loaded=>h.loadedRun tx t id loaded htx
  · exact fun id loaded=>h.reflects tx t id loaded htx
 | commit tx=>
  obtain ⟨t,htx,hrest⟩:=bind_eq_some_iff.mp hstep
  split at hrest
  · cases hrest
    obtain ⟨touched,hupdated,huntouched⟩:=commit_updated settings h htx hwaits
    exact ⟨(h.close tx).updated hupdated huntouched _,hupdated.kept⟩
  · cases hrest
 | rollback tx=>
  obtain ⟨t,-,rfl⟩:=map_eq_some_iff.mp hstep
  exact ⟨h.close tx,kept_refl _⟩
end

structure Quiet (s:State):Prop where
 txs:s.txs=Dict.empty
 clean:∀id entry,s.entries.get id=some entry→ reservationActive entry=false→Clean entry
 unique:UniqueActive s.entries

lemma Quiet.inv {s:State}(h:Quiet s):Inv s:=
 { h with
  runLock tx t run htx:=by
   rw[h.txs] at htx
   cases htx
  loadedRun tx t id loaded htx:=by
   rw[h.txs] at htx
   cases htx
  reflects tx t id loaded htx:=by
   rw[h.txs] at htx
   cases htx }

theorem released_clean_if_exclusions_wait {settings:Settings} {initial s final:State}
 {before after:List Label} (hquiet:Quiet initial)
 (hbeforeWaits:Guarded ExclusionsWait (step settings) initial before)
 (hbefore:run (step settings) initial before=some s)
 (hafterWaits:Guarded ExclusionsWait (step settings) s after)
 (hafter:run (step settings) s after=some final):
 (∀id entry,final.entries.get id=some entry→ entry.releasedAt.isSome=true→
  entry.excluded=false∧entry.exclusionKind=none∧entry.excludedUntil=none)∧
 ∀id entry releasedAt,s.entries.get id=some entry→ entry.releasedAt=some releasedAt→
  ∃entry',final.entries.get id=some entry'∧entry'.releasedAt=some releasedAt:=by
 have hs:Inv s:=by
  refine run_invariant_guarded Inv ?_ hquiet.inv hbeforeWaits hbefore
  intro u label v hu hwaits hstep
  exact (inv_step hu hwaits hstep).1
 have hfinal:Inv final∧Kept s.entries final.entries:=by
  refine run_invariant_guarded (fun u=>Inv u∧Kept s.entries u.entries) ?_ ⟨hs,kept_refl _⟩
   hafterWaits hafter
  intro u label v hu hwaits hstep
  obtain ⟨hinv,hkept⟩:=inv_step hu.1 hwaits hstep
  exact ⟨hinv,hu.2.trans hkept⟩
 refine ⟨?_,?_⟩
 · intro id entry hentry hreleased
   have hclean:=hfinal.1.clean id entry hentry (by simpa[reservationActive] using hreleased)
   exact ⟨hclean.excluded,hclean.exclusionKind,hclean.excludedUntil⟩
 · intro id entry releasedAt hentry hreleased
   exact ⟨entry,hfinal.2 id entry hentry (by simp[reservationActive,hreleased]),hreleased⟩

def reserved:State where
 now:=10
 runs:=Dict.empty.set 1 .active
 entries:=Dict.empty.set 3 (newEntry 1 7)
 runLocks:=Dict.empty
 deviceLocks:=Dict.empty
 txs:=Dict.empty

lemma reserved_quiet:Quiet reserved:=by
 refine ⟨rfl,?_,?_⟩
 · exact forall_get_set (fun hreleased=>by cases hreleased) fun _ _ hnone=>by cases hnone
 · intro id id' entry entry' hentry hentry' _ _ _
   rcases get_set_eq_some hentry with ⟨rfl,-⟩|⟨-,hnone⟩
   · rcases get_set_eq_some hentry' with ⟨rfl,-⟩|⟨-,hnone'⟩
     · rfl
     · cases hnone'
   · cases hnone

def cooldownSettings:Settings:=⟨3600,3⟩
def excludedThenCompleted:List Label:=
 [.begin 2 (.excludeLocked 7 "Probe failed"),.lockDevice 2,.commit 2,.begin 1 (.completeRun 1),
  .lockDevice 1,.commit 1]
def completedClean:State:=
 (run (step cooldownSettings) reserved excludedThenCompleted).getD reserved
def reservedAgain:State:=
 (run (step cooldownSettings) completedClean [.tick 5,.createRun 2 [(4,7)]]).getD completedClean

theorem released_clean_if_exclusions_wait_completed:
 (completedClean.entries.get 3).map Entry.releasedAt=some (some 10)∧
  (∀id entry,reservedAgain.entries.get id=some entry→ entry.releasedAt.isSome=true→
   entry.excluded=false∧entry.exclusionKind=none∧entry.excludedUntil=none)∧
  ∀id entry releasedAt,completedClean.entries.get id=some entry→
   entry.releasedAt=some releasedAt→
   ∃entry',reservedAgain.entries.get id=some entry'∧entry'.releasedAt=some releasedAt:=by
 have hbefore:run (step cooldownSettings) reserved excludedThenCompleted=some completedClean:=rfl
 have hafter:run (step cooldownSettings) completedClean [.tick 5,.createRun 2 [(4,7)]] =
   some reservedAgain:=rfl
 refine ⟨by decide,released_clean_if_exclusions_wait reserved_quiet ?_ hbefore ?_ hafter⟩ <;> decide

/-- The same two transactions, with the exclusion between the completion's read and its device lock. -/
theorem completion_keeps_exclusion:
 ∃final,run (step cooldownSettings) reserved
   [.begin 1 (.completeRun 1),.begin 2 (.excludeLocked 7 "Probe failed"),.lockDevice 2,.commit 2,
    .lockDevice 1,.commit 1]=some final∧
  (final.entries.get 3).map (fun entry=>(entry.releasedAt,entry.excluded,entry.exclusionKind)) =
   some (some 10,true,some .exclusion):=by
 refine ⟨_,rfl,?_⟩
 decide
end GridFleet.ReservationRelease
