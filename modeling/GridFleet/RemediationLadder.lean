import GridFleet.RemediationLog
import GridFleet.OrderedLog
import Mathlib.Algebra.Group.Nat.Defs
import Mathlib.Data.List.Induction
import Mathlib.Data.Prod.Lex
namespace GridFleet.RemediationLog
open List

structure Stamp where
 id:RowId
 deviceId:DeviceId
 at_:Instant

def appendEntry (stamp:Stamp)(kind:EntryKind)(source action:String)(reason:Option String)
 (backoffUntil:Option Instant):Entry:=
 ⟨stamp.id,stamp.deviceId,kind,source,action,reason,backoffUntil,stamp.at_⟩
def attemptEntry (stamp:Stamp)(source reason:String)(backoffUntil:Instant):Entry:=
 appendEntry stamp .attempt source "recovery_failed" (some reason) (some backoffUntil)
def appendFailure (stamp:Stamp)(source reason:String):Entry:=
 appendEntry stamp .failure source "failure_observed" (some reason) none
def appendReset (stamp:Stamp)(source action:String)(reason:Option String):Entry:=
 appendEntry stamp .reset source action reason none
def appendAction (stamp:Stamp)(source action:String)(reason:Option String):Entry:=
 appendEntry stamp .action source action reason none

inductive Written:Entry→Prop where
 | attempt (stamp:Stamp)(source reason:String)(backoffUntil:Instant):
   Written (attemptEntry stamp source reason backoffUntil)
 | failure (stamp:Stamp)(source reason:String):Written (appendFailure stamp source reason)
 | reset (stamp:Stamp)(source action:String)(reason:Option String):
   Written (appendReset stamp source action reason)
 | action (stamp:Stamp)(source action:String)(reason:Option String):
   Written (appendAction stamp source action reason)

def advanceLadder (ladder:LadderState)(entry:Entry):LadderState:=
 match entry.kind with
 | .reset=>{emptyLadder with lastAction:=some entry.action,lastActionAt:=some entry.at_}
 | .attempt=>
  { ladder with
    attempts:=ladder.attempts+1
    backoffUntil:=entry.backoffUntil
    lastFailureSource:=some entry.source
    lastFailureReason:=entry.reason
    lastAction:=some entry.action
    lastActionAt:=some entry.at_ }
 | .failure | .action=>
  let lastRestartAt:=
   if entry.action=actionRestartCommissioned then some entry.at_ else ladder.lastRestartAt
  let deferred:=
   if entry.action=actionAutoStopDeferred then (true,entry.reason,some entry.at_)
   else if entry.action=actionAutoStopped∨entry.action=actionAutoStopCleared then
    (false,none,none)
   else (ladder.deferredStopPending,ladder.deferredStopReason,ladder.deferredStopSince)
  { ladder with
    lastFailureSource:=if entry.kind=.failure then some entry.source else ladder.lastFailureSource
    lastFailureReason:=if entry.kind=.failure then entry.reason else ladder.lastFailureReason
    lastAction:=some entry.action
    lastActionAt:=some entry.at_
    nodeDirective:=
     match directiveByAction entry.action with
     | some kind=>some ⟨kind,entry.reason,if kind=.start then lastRestartAt else none⟩
     | none=>ladder.nodeDirective
    deferredStopPending:=deferred.1
    deferredStopReason:=deferred.2.1
    deferredStopSince:=deferred.2.2
    lastRestartAt:=lastRestartAt }

structure BackoffSettings where
 baseSec:ℕ
 maxSec:ℕ

def backoffSeconds (settings:BackoffSettings)(attempts:ℕ):ℕ:=
 min (max settings.baseSec settings.maxSec) (settings.baseSec*2 ^ (attempts-1))

/-- The window is opened at `now`, just before the row gets its own time. -/
def appendAttempt (stamp:Stamp)(source reason:String)(settings:BackoffSettings)
 (prior:LadderState)(now:Instant):Entry×LadderState:=
 let seconds:=backoffSeconds settings (prior.attempts+1)
 let entry:=attemptEntry stamp source reason (now+seconds*1000000)
 (entry,advanceLadder prior entry)

def directiveRows (window:List Entry):List Entry:=
 window.filter fun e=>(directiveByAction e.action).isSome
def restartedAt (window:List Entry):Option Instant:=
 ((directiveRows window).filter fun e=>e.action=actionRestartCommissioned).getLast?.map Entry.at_
def deferredRow (window:List Entry):Option Entry:=
 (window.filter fun e=>e.action∈deferredLifecycleActions).getLast?.filter fun e=>
  e.action=actionAutoStopDeferred

def ladderOf (window:List Entry)(last:Option Entry):LadderState:=
 let attempts:=window.filter fun e=>e.kind=.attempt
 let failures:=window.filter fun e=>e.kind=.attempt∨e.kind=.failure
 { attempts:=attempts.length
   backoffUntil:=attempts.getLast?.bind Entry.backoffUntil
   lastFailureSource:=failures.getLast?.map Entry.source
   lastFailureReason:=failures.getLast?.bind Entry.reason
   lastAction:=last.map Entry.action
   lastActionAt:=last.map Entry.at_
   nodeDirective:=nodeDirectiveOf (directiveRows window) (restartedAt window)
   deferredStopPending:=(deferredRow window).isSome
   deferredStopReason:=(deferredRow window).bind Entry.reason
   deferredStopSince:=(deferredRow window).map Entry.at_
   lastRestartAt:=restartedAt window }

lemma deriveLadder_eq (entries:List Entry):
 deriveLadder entries=ladderOf (window (entries.insertionSort Entry.Le))
  (entries.insertionSort Entry.Le).getLast?:=by
 cases hlast:(entries.insertionSort Entry.Le).getLast? with
 | none=>
  rw[getLast?_eq_none_iff] at hlast
  simp[deriveLadder,hlast,window,ladderOf,nodeDirectiveOf,emptyLadder,directiveRows,
   restartedAt,deferredRow]
 | some=>
  simp only[deriveLadder,hlast,ladderOf,Option.map_some,directiveRows,restartedAt,deferredRow]
lemma window_concat (ordered:List Entry)(e:Entry):
 window (ordered++[e])=if e.kind=.reset then [] else window ordered++[e]:=by
 simp[window,foldl_append]

section
variable (w:List Entry)(e:Entry)

lemma directiveRows_concat:directiveRows (w++[e]) =
 if (directiveByAction e.action).isSome then directiveRows w++[e] else directiveRows w:=by
 unfold directiveRows
 rw[filter_append]
 split
 · rename_i h
   simp[h]
 · rename_i h
   simp[h]
lemma restartedAt_concat:restartedAt (w++[e]) =
 if e.action=actionRestartCommissioned then some e.at_ else restartedAt w:=by
 have hrestart:directiveByAction actionRestartCommissioned=some .start:=by decide
 unfold restartedAt
 rw[directiveRows_concat]
 by_cases h:e.action=actionRestartCommissioned
 · simp[h,hrestart,filter_append]
 · split <;> simp[h,filter_append]
lemma nodeDirectiveOf_concat (watermark:Option Instant):
 nodeDirectiveOf (directiveRows (w++[e])) watermark =
  match directiveByAction e.action with
   | some kind=>some ⟨kind,e.reason,if kind=.start then watermark else none⟩
   | none=>nodeDirectiveOf (directiveRows w) watermark:=by
 rw[directiveRows_concat]
 cases h:directiveByAction e.action with
 | none=>simp
 | some=>simp[nodeDirectiveOf,h]

lemma deferredRow_concat:deferredRow (w++[e]) = if e.action=actionAutoStopDeferred then some e
 else if e.action=actionAutoStopped∨e.action=actionAutoStopCleared then none else deferredRow w:=by
 have hmem:e.action∈deferredLifecycleActions↔e.action=actionAutoStopDeferred∨
   e.action=actionAutoStopped∨e.action=actionAutoStopCleared:=by
  simp[deferredLifecycleActions]
 unfold deferredRow
 rw[filter_append]
 by_cases hdeferred:e.action=actionAutoStopDeferred
 · have hkept:[e].filter (fun x=>decide (x.action∈deferredLifecycleActions))=[e]:=by
    simp only[filter_singleton,decide_eq_true (hmem.mpr (.inl hdeferred)),cond_true]
   rw[hkept,getLast?_concat]
   simp[hdeferred]
 · by_cases hended:e.action=actionAutoStopped∨e.action=actionAutoStopCleared <;>
    simp[hmem,hdeferred,hended]
lemma ladderOf_attempt (last:Option Entry)(hkind:e.kind=.attempt)
 (haction:e.action = "recovery_failed"):
 ladderOf (w++[e]) (some e)=advanceLadder (ladderOf w last) e:=by
 have hdirective:directiveByAction e.action=none:=by
  rw[haction]
  decide
 have hrows:directiveRows (w++[e])=directiveRows w:=by
  rw[directiveRows_concat,hdirective]
  rfl
 have hrestarted:restartedAt (w++[e])=restartedAt w:=by
  unfold restartedAt
  rw[hrows]
 have hdeferred:deferredRow (w++[e])=deferredRow w:=by
  rw[deferredRow_concat,haction]
  rfl
 simp[ladderOf,advanceLadder,hkind,hrows,hrestarted,hdeferred,filter_append]
lemma ladderOf_action (last:Option Entry)(hkind:e.kind=.failure∨e.kind=.action):
 ladderOf (w++[e]) (some e)=advanceLadder (ladderOf w last) e:=by
 have hwatermark:nodeDirectiveOf (directiveRows (w++[e])) (restartedAt (w++[e])) =
   match directiveByAction e.action with
   | some kind=>some ⟨kind,e.reason,if kind=.start then
     (if e.action=actionRestartCommissioned then some e.at_ else restartedAt w) else none⟩
   | none=>nodeDirectiveOf (directiveRows w) (restartedAt w):=by
  rw[nodeDirectiveOf_concat,restartedAt_concat]
  cases h:directiveByAction e.action with
  | some=>rfl
  | none=>
   have hne:e.action≠actionRestartCommissioned:=by
    rintro heq
    rw[heq] at h
    cases h
   rw[if_neg hne]
 simp only[ladderOf]
 rw[hwatermark,restartedAt_concat,deferredRow_concat]
 rcases hkind with hkind|hkind
 · simp only[advanceLadder,hkind,filter_append]
   split_ifs <;> simp[hkind]
 · simp only[advanceLadder,hkind,filter_append,reduceCtorEq,if_false]
   split_ifs <;> simp[hkind]
end

lemma ladderOf_window_concat {e:Entry}(hwritten:Written e)(ordered:List Entry):
 ladderOf (window (ordered++[e])) (some e) =
  advanceLadder (ladderOf (window ordered) ordered.getLast?) e:=by
 rw[window_concat]
 cases hwritten with
 | attempt=>exact ladderOf_attempt _ _ _ rfl rfl
 | failure=>exact ladderOf_action _ _ _ (.inl rfl)
 | reset=>rfl
 | action=>exact ladderOf_action _ _ _ (.inr rfl)
lemma foldl_advanceLadder {ordered:List Entry}(hwritten:∀e∈ordered,Written e):
 ordered.foldl advanceLadder emptyLadder=ladderOf (window ordered) ordered.getLast?:=by
 induction ordered using List.reverseRecOn with
 | nil=>rfl
 | append_singleton ordered e ih=>
  have hlast:Written e:=hwritten e (by simp)
  have hprior:=ih fun x hx=>hwritten x (mem_append_left _ hx)
  rw[foldl_append,hprior,getLast?_concat,ladderOf_window_concat hlast ordered]
  rfl

/-- The row is newer in log order. -/
def Entry.Lt (a b:Entry):Prop:=a.at_<b.at_∨(a.at_=b.at_∧a.id<b.id)

instance:DecidableRel Entry.Lt:=fun a b=>
 inferInstanceAs (Decidable (a.at_<b.at_∨(a.at_=b.at_∧a.id<b.id)))

variable {a b:Entry}

lemma Entry.Lt.le (h:a.Lt b):a.Le b:=h.imp_right fun htie=>⟨htie.1,htie.2.le⟩
lemma Entry.lt_iff:a.Lt b↔toLex (a.at_,a.id)<toLex (b.at_,b.id):=by
 rw[Prod.Lex.toLex_lt_toLex]
 exact Iff.rfl
lemma Entry.Lt.trans {c:Entry}(hab:a.Lt b)(hbc:b.Lt c):a.Lt c:=by
 rw[Entry.lt_iff] at hab hbc ⊢
 exact hab.trans hbc
lemma Entry.le_iff:a.Le b↔toLex (a.at_,a.id)≤toLex (b.at_,b.id):=by
 rw[Prod.Lex.toLex_le_toLex]
 exact Iff.rfl

instance:Std.Total Entry.Le where
 total a b:=by
  rw [Entry.le_iff,Entry.le_iff]
  exact le_total _ _

instance:IsTrans Entry Entry.Le where
 trans a b c:=by
  rw [Entry.le_iff,Entry.le_iff,Entry.le_iff]
  exact le_trans

lemma Entry.Le.refl (a:Entry):a.Le a:=.inr ⟨rfl,le_rfl⟩
lemma eq_of_le_of_le {entries:List Entry}(hids:(entries.map Entry.id).Nodup)(ha:a∈entries)
 (hb:b∈entries)(hab:a.Le b)(hba:b.Le a):a=b:=by
 have hkey:toLex (a.at_,a.id)=toLex (b.at_,b.id):=
  le_antisymm (Entry.le_iff.mp hab) (Entry.le_iff.mp hba)
 exact inj_on_of_nodup_map hids ha hb (Prod.mk.inj (toLex.injective hkey)).2

/-- The rows of a device as the append functions have written them, each under its own id. -/
structure Log where
 entries:List Entry
 ids:(entries.map Entry.id).Nodup
 written:∀e∈entries,Written e

lemma deriveLadder_concat {entries:List Entry}{e:Entry}(hwritten:Written e)
 (hnewer:∀x∈entries,x.Lt e):deriveLadder (entries++[e])=advanceLadder (deriveLadder entries) e:=by
 have hsort:=OrderedLog.insertionSort_concat fun x hx=>(hnewer x hx).le
 rw[deriveLadder_eq,deriveLadder_eq,hsort,getLast?_concat,ladderOf_window_concat hwritten]

theorem incremental_ladder_eq_derived (log:Log):
 (∀e,Written e→(∀x∈log.entries,x.Lt e)→
  advanceLadder (deriveLadder log.entries) e=deriveLadder (log.entries++[e]))∧
 deriveLadder log.entries=(log.entries.insertionSort Entry.Le).foldl advanceLadder emptyLadder∧
 ∀entries,entries.Perm log.entries→ deriveLadder entries=deriveLadder log.entries:=by
 refine ⟨?_,?_,?_⟩
 · intro e hwritten hnewer
   exact (deriveLadder_concat hwritten hnewer).symm
 · have hordered:∀e∈log.entries.insertionSort Entry.Le,Written e:=fun e he=>
    log.written e ((mem_insertionSort Entry.Le).mp he)
   rw[foldl_advanceLadder hordered,deriveLadder_eq]
 · intro entries hperm
   have hsort:=OrderedLog.insertionSort_congr
    (fun a ha b hb hab hba=>eq_of_le_of_le log.ids ha hb hab hba) hperm
   rw[deriveLadder_eq,deriveLadder_eq,hsort]

def exampleLog:Log where
 entries:=[appendAction ⟨1,7,100⟩ "node_health" actionRestartCommissioned (some "unresponsive"),
  appendFailure ⟨2,7,200⟩ "device_checks" "adb offline"]
 ids:=by decide
 written:=by
  intro e he
  rcases mem_pair.mp he with rfl|rfl
  · exact .action _ _ _ _
  · exact .failure _ _ _

theorem incremental_ladder_eq_derived_deferral:
 advanceLadder (deriveLadder exampleLog.entries)
   (appendAction ⟨3,7,200⟩ "device_checks" actionAutoStopDeferred none) =
  deriveLadder (exampleLog.entries ++
   [appendAction ⟨3,7,200⟩ "device_checks" actionAutoStopDeferred none]):=
 (incremental_ladder_eq_derived exampleLog).1 _ (.action _ _ _ _) (by decide)

def loadLadder (log:List Entry)(deviceId:DeviceId):LadderState:=
 deriveLadder (log.filter fun e=>e.deviceId=deviceId)

lemma window_from_reset (before after:List Entry){reset:Entry}(hkind:reset.kind=.reset):
 window (before++reset::after)=window (reset::after):=by
 simp[window,foldl_append,hkind]

theorem truncated_ladder_eq_full (log:List Entry) (deviceId:DeviceId)
 (hids:((log.filter fun e=>e.deviceId=deviceId).map Entry.id).Nodup):
 deriveLadder (ladderEntries log deviceId)=loadLadder log deviceId:=by
 unfold loadLadder ladderEntries
 generalize (log.filter fun e=>decide (e.deviceId=deviceId))=own at hids
 have hsorted:(own.insertionSort Entry.Le).Pairwise Entry.Le:=pairwise_insertionSort Entry.Le own
 have hperm:(own.insertionSort Entry.Le).Perm own:=perm_insertionSort Entry.Le own
 have hresort:(own.insertionSort Entry.Le).insertionSort Entry.Le=own.insertionSort Entry.Le:=
  hsorted.insertionSort_eq
 have hids':((own.insertionSort Entry.Le).map Entry.id).Nodup:=(hperm.map Entry.id).nodup_iff.mpr hids
 simp only
 split
 · rw[deriveLadder_eq,deriveLadder_eq own,hresort]
 · rename_i reset hreset
   obtain ⟨before,after,hsplit,hkind,-,hfilter⟩:=
    OrderedLog.split_at_last hsorted (List.Nodup.of_map Entry.id hids') Entry.Le.refl
     (fun a ha b hb hab hba=>eq_of_le_of_le hids' ha hb hab hba) hreset
   have htail:(reset::after).insertionSort Entry.Le=reset::after:=by
    rw[hsplit] at hsorted
    exact (pairwise_append.mp hsorted).2.1.insertionSort_eq
   rw[deriveLadder_eq,deriveLadder_eq own,hfilter,htail,hsplit,
    window_from_reset before after (of_decide_eq_true hkind),getLast?_append_cons]

def tiedLog:List Entry:=
 [attemptEntry ⟨1,7,100⟩ "recovery" "probe failed" 400,attemptEntry ⟨9,8,100⟩ "recovery" "probe failed" 400,
  appendAction ⟨3,7,100⟩ "node_health" actionRestartCommissioned none,
  appendReset ⟨2,7,100⟩ "operator" "operator_started" none]

theorem truncated_ladder_eq_full_tied:
 deriveLadder (ladderEntries tiedLog 7)=loadLadder tiedLog 7:=
 truncated_ladder_eq_full tiedLog 7 (by decide)
end GridFleet.RemediationLog
