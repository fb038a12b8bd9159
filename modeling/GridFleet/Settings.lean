import GridFleet.Dict
import GridFleet.Interleaving
import Mathlib.Data.Int.Notation
/-! A write is checked against the cache of its process before the lock and the transaction are taken. The
cache follows the writes of other processes by refreshes, which events start. -/
namespace GridFleet.Settings
open Interleaving Option
open Dict (get_set get_pop get_set_of_ne get_set_eq_some get_set_self get_pop_of_ne)

inductive Key where
 | hostOfflineAfterSec
 | sessionIdleTimeoutSec
 | sessionIdleTimeoutCeilingSec
 | sessionFirstCommandGraceSec
 | queueTimeoutSec
 | other (name:String)
 deriving DecidableEq

abbrev Rows:=Key→Option ℤ
abbrev Values:=Key→ℤ
def hostSweepIntervalSec:ℤ:=15
def longPollSec:ℤ:=25

inductive CrossError where
 | offlineAfter (offlineAfter:ℤ)
 | idleAboveCeiling (idle ceiling:ℤ)
 | graceNotBelowIdle (grace idle:ℤ)
 | queueTimeout (queueTimeout:ℤ)
 deriving DecidableEq

def crossInvariantErrors (get:Values):List CrossError:=
 let offlineAfter:=get .hostOfflineAfterSec
 let idle:=get .sessionIdleTimeoutSec
 let ceiling:=get .sessionIdleTimeoutCeilingSec
 let grace:=get .sessionFirstCommandGraceSec
 let queueTimeout:=get .queueTimeoutSec
 (if offlineAfter≤hostSweepIntervalSec then [.offlineAfter offlineAfter] else []) ++
 (if idle > ceiling then [.idleAboveCeiling idle ceiling] else []) ++
 (if grace ≥ idle then [.graceNotBelowIdle grace idle] else []) ++
 (if queueTimeout≤longPollSec then [.queueTimeout queueTimeout] else [])

inductive Mutation where
 | update (key:Key)(value:ℤ)
 | bulkUpdate (updates:Dict Key ℤ)
 | reset (key:Key)
 | resetAll

section
variable (valid:Key→ℤ→Bool)(defaults:Values)

def completed (rows:Rows):Values:=fun key=>(rows key).getD (defaults key)
def Mutation.stage (rows:Rows):Mutation→Rows
 | update key value=>Function.update rows key (some value)
 | bulkUpdate updates=>fun key=>(updates.get key).or (rows key)
 | reset key=>Function.update rows key none
 | resetAll=>fun _=>none

/-- The rows once a mutation commits whose statements ran on the rows `reads`: a row that they left as it
was there is not written. -/
def Mutation.write (reads rows:Rows)(m:Mutation):Rows:=fun key=>
 if m.stage reads key=reads key then rows key else m.stage rows key

/-- The cache with the delta of the mutation, which is also what the check of a write looks at. -/
def Mutation.applyCacheDelta (cache:Values):Mutation→Values
 | update key value=>Function.update cache key value
 | bulkUpdate updates=>fun key=>(updates.get key).getD (cache key)
 | reset key=>Function.update cache key (defaults key)
 | resetAll=>defaults

/-- What a call checks before it waits for the lock. -/
def Mutation.admitted (cache:Values)(m:Mutation):Bool:=
 match m with
 | update key value=>valid key value&&(crossInvariantErrors (m.applyCacheDelta defaults cache)).isEmpty
 | bulkUpdate updates=>updates.entries.all (fun entry=>valid entry.1 entry.2)&&
   (crossInvariantErrors (m.applyCacheDelta defaults cache)).isEmpty
 | reset _=>(crossInvariantErrors (m.applyCacheDelta defaults cache)).isEmpty
 | resetAll=>true

variable {valid defaults}

lemma completed_stage (rows:Rows)(m:Mutation):
 completed defaults (m.stage rows)=m.applyCacheDelta defaults (completed defaults rows):=by
 funext key
 cases m with
 | update first value | reset first=>
  by_cases h:key=first <;> simp[completed,Mutation.stage,Mutation.applyCacheDelta,h]
 | bulkUpdate updates=>
  cases h:updates.get key <;> simp[completed,Mutation.stage,Mutation.applyCacheDelta,h]
 | resetAll=>rfl
lemma write_self (rows:Rows)(m:Mutation):m.write rows rows=m.stage rows:=by
 funext key
 unfold Mutation.write
 split
 · rename_i hsame
   exact hsame.symm
 · rfl
lemma consistent_of_admitted {cache:Values}{m:Mutation}
 (h:m.admitted valid defaults cache)(hdefaults:crossInvariantErrors defaults=[]):
 crossInvariantErrors (m.applyCacheDelta defaults cache)=[]:=by
 cases m <;> simp_all [Mutation.admitted,Mutation.applyCacheDelta]
end

/-- A call that has passed its check against `cache`. `reads`: the rows committed when its statements
ran. -/
structure Checked where
 mutation:Mutation
 cache:Values
 reads:Option Rows

/-- The calls are those of all processes. -/
structure Store where
 rows:Rows
 checked:List Checked

inductive Write where
 | check (m:Mutation)(cache:Values)
 | execute (call:ℕ)
 | commit (call:ℕ)

section
variable (valid:Key→ℤ→Bool)(defaults:Values)

def write (s:Store):Write→Option Store
 | .check m cache=>
  if m.admitted valid defaults cache then some {s with checked:=⟨m,cache,none⟩::s.checked}
  else none
 | .execute call=>s.checked[call]?.map fun c=>
  {s with checked:=s.checked.set call {c with reads:=some s.rows} }
 | .commit call=>s.checked[call]?.bind fun c=>c.reads.map fun reads=>
  ⟨c.mutation.write reads s.rows,s.checked.eraseIdx call⟩

/-- When a call commits, the rows are those its statements ran on, and the cache it was checked against
is what they complete to; a reset of everything is not checked. -/
def Current (s:Store):Write→Prop
 | .check _ _ | .execute _=>True
 | .commit call=>∀c,s.checked[call]?=some c→
   c.reads=some s.rows∧(c.mutation=.resetAll∨c.cache=completed defaults s.rows)

theorem stored_settings_consistent (rows:Rows) (writes:List Write) (s:Store)
 (hdefaults:crossInvariantErrors defaults=[])
 (hstored:crossInvariantErrors (completed defaults rows)=[])
 (hrun:run (write valid defaults) ⟨rows,[]⟩ writes=some s)
 (hguard:Guarded (Current defaults) (write valid defaults) ⟨rows,[]⟩ writes):
 crossInvariantErrors (completed defaults s.rows)=[]:=by
 refine (run_invariant_guarded (fun s:Store=>crossInvariantErrors (completed defaults s.rows)=[]∧
  ∀c∈s.checked,c.mutation.admitted valid defaults c.cache=true) ?_ ⟨hstored,by simp⟩
  hguard hrun).1
 rintro s label u ⟨hrows,hchecked⟩ hcurrent hstep
 cases label with
 | check m cache=>
  obtain ⟨hadmitted,⟨⟩⟩:=ite_none_right_eq_some.mp hstep
  exact ⟨hrows,List.forall_mem_cons.mpr ⟨hadmitted,hchecked⟩⟩
 | execute call=>
  obtain ⟨c,hcall,rfl⟩:=map_eq_some_iff.mp hstep
  refine ⟨hrows,fun other hother=>?_⟩
  rcases List.mem_or_eq_of_mem_set hother with hmem|rfl
  · exact hchecked other hmem
  · exact hchecked c (List.mem_of_getElem? hcall)
 | commit call=>
  obtain ⟨c,hcall,hreads⟩:=bind_eq_some_iff.mp hstep
  obtain ⟨hsame,hcache⟩:=hcurrent c hcall
  rw[hsame] at hreads
  cases hreads
  refine ⟨?_,fun other hother=>hchecked other (List.mem_of_mem_eraseIdx hother)⟩
  have hadmitted:=hchecked c (List.mem_of_getElem? hcall)
  dsimp only
  rw[write_self,completed_stage]
  rcases hcache with hall|hcache
  · rw[hall]
    exact hdefaults
  · rw[←hcache]
    exact consistent_of_admitted hadmitted hdefaults
end

def shipped:Values
 | .hostOfflineAfterSec=>45
 | .sessionIdleTimeoutSec=>1800
 | .sessionIdleTimeoutCeilingSec=>7200
 | .sessionFirstCommandGraceSec=>180
 | .queueTimeoutSec=>300
 | .other _=>0

def noRows:Rows:=fun _=>none
def loneWrite:List Write:=
 [.check (.update .sessionIdleTimeoutSec 7000) shipped,.execute 0,.commit 0]

theorem lone_write_consistent:∃s,
 run (write (fun _ _=>true) shipped) ⟨noRows,[]⟩ loneWrite=some s∧
 crossInvariantErrors (completed shipped s.rows)=[]:=by
 have hguard:Guarded (Current shipped) (write (fun _ _=>true) shipped) ⟨noRows,[]⟩ loneWrite:=by
  refine ⟨trivial,fun _ hcheck=>⟨trivial,fun _ hexecute=>⟨fun c hcall=>?_,fun _ _=>trivial⟩⟩⟩
  cases hcheck
  cases hexecute
  cases hcall
  exact ⟨rfl,.inr rfl⟩
 have hrun:run (write (fun _ _=>true) shipped) ⟨noRows,[]⟩ loneWrite=some _:=rfl
 exact ⟨_,hrun,stored_settings_consistent _ shipped noRows loneWrite _ rfl rfl hrun hguard⟩

def highCeiling:Rows:=Function.update noRows .sessionIdleTimeoutCeilingSec (some 20000)

/-- Both calls are checked before either commits: the idle timeout rises above the ceiling that the
other call lowers. Or it rises, checked against what is stored, after a reset of everything has deleted
the ceiling and before that commits. -/
theorem concurrent_writes_contradict:(∃s,
 run (write (fun _ _=>true) shipped) ⟨noRows,[]⟩
  [.check (.update .sessionIdleTimeoutSec 7000) shipped,
   .check (.update .sessionIdleTimeoutCeilingSec 3600) shipped,.execute 0,.commit 0,.execute 0,
   .commit 0]=some s∧
 crossInvariantErrors (completed shipped s.rows)=[.idleAboveCeiling 7000 3600])∧∃s,
 run (write (fun _ _=>true) shipped) ⟨highCeiling,[]⟩
  [.check .resetAll shipped,.execute 0,
   .check (.update .sessionIdleTimeoutSec 15000) (completed shipped highCeiling),.execute 0,
   .commit 0,.commit 0]=some s∧
 crossInvariantErrors (completed shipped s.rows)=[.idleAboveCeiling 15000 7200]:=
 ⟨⟨_,rfl,by decide⟩,_,rfl,by decide⟩

inductive Stage where
 | waiting
 | read (snapshot:Rows)
 | assigned

structure Refresh where
 stage:Stage
 cancelled:Bool

inductive Phase where
 | awaiting (task:ℕ)
 | waiting
 | staged
 | committed
 deriving DecidableEq

/-- A local mutation, and whether it has cancelled a refresh. -/
structure Call where
 mutation:Mutation
 cancelled:Bool
 phase:Phase

inductive Lock where
 | free
 | refresh (task:ℕ)
 | mutation (call:ℕ)
 deriving DecidableEq

structure Process where
 rows:Rows
 cache:Values
 overrides:Rows
 /-- The events of commits that have not been handled here. -/
 undelivered:ℕ
 refreshes:Dict ℕ Refresh
 nextTask:ℕ
 refreshTask:Option ℕ
 calls:Dict ℕ Call
 lock:Lock

inductive Label where
 | foreignCommit (m:Mutation)
 | event (again:Bool)
 | refreshReads (task:ℕ)
 | refreshAssigns (task:ℕ)
 | refreshEnds (task:ℕ)
 | mutate (call:ℕ)(m:Mutation)
 | mutationResumes (call:ℕ)
 | mutationLocks (call:ℕ)
 | commit (call:ℕ)
 | rollback (call:ℕ)
 | applyDelta (call:ℕ)

section
variable (defaults:Values)

/-- The task that `_refresh_task` names, if it is not done. -/
def Process.running (s:Process):Option (ℕ×Refresh):=
 s.refreshTask.bind fun task=>(s.refreshes.get task).map fun refresh=>(task,refresh)

def handleSystemEvent (s:Process):Process:=
 match s.running with
 | some _=>s
 | none=>
  { s with
    refreshes:=s.refreshes.set s.nextTask ⟨.waiting,false⟩
    nextTask:=s.nextTask+1
    refreshTask:=some s.nextTask }

def step (s:Process):Label→Option Process
 | .foreignCommit m=>some {s with rows:=m.stage s.rows,undelivered:=s.undelivered+1}
 | .event again=>
  if 0<s.undelivered∨again then some (handleSystemEvent
   {s with undelivered:=if again then s.undelivered else s.undelivered-1})
  else none
 | .refreshReads task=>
  match s.refreshes.get task,s.lock with
  | some ⟨.waiting,false⟩,.free=>some
   {s with refreshes:=s.refreshes.set task ⟨.read s.rows,false⟩,lock:=.refresh task}
  | _,_=>none
 | .refreshAssigns task=>
  match s.refreshes.get task with
  | some ⟨.read snapshot,false⟩=>some
   { s with
     cache:=completed defaults snapshot
     overrides:=snapshot
     refreshes:=s.refreshes.set task ⟨.assigned,false⟩ }
  | _=>none
 | .refreshEnds task=>
  match s.refreshes.get task with
  | some ⟨_,true⟩ | some ⟨.assigned,false⟩=>some
   { s with
     refreshes:=s.refreshes.pop task
     lock:=if s.lock=.refresh task then .free else s.lock }
  | _=>none
 | .mutate call m=>
  match s.calls.get call,s.running with
  | none,some (task,refresh)=>some
   { s with
     refreshes:=s.refreshes.set task {refresh with cancelled:=true}
     calls:=s.calls.set call ⟨m,true,.awaiting task⟩ }
  | none,none=>some {s with refreshTask:=none,calls:=s.calls.set call ⟨m,false,.waiting⟩}
  | some _,_=>none
 | .mutationResumes call=>
  match s.calls.get call with
  | some ⟨m,cancelled,.awaiting task⟩=>
   if (s.refreshes.get task).isNone then some
    {s with refreshTask:=none,calls:=s.calls.set call ⟨m,cancelled,.waiting⟩}
   else none
  | _=>none
 | .mutationLocks call=>
  match s.calls.get call,s.lock with
  | some ⟨m,cancelled,.waiting⟩,.free=>some
   {s with calls:=s.calls.set call ⟨m,cancelled,.staged⟩,lock:=.mutation call}
  | _,_=>none
 | .commit call=>
  match s.calls.get call with
  | some ⟨m,cancelled,.staged⟩=>some
   { s with
     rows:=m.stage s.rows
     undelivered:=s.undelivered+1
     calls:=s.calls.set call ⟨m,cancelled,.committed⟩ }
  | _=>none
 | .rollback call=>
  match s.calls.get call with
  | some ⟨_,_,.committed⟩ | none=>none
  | some _=>some
   { s with
     calls:=s.calls.pop call
     lock:=if s.lock=.mutation call then .free else s.lock }
 | .applyDelta call=>
  match s.calls.get call with
  | some ⟨m,_,.committed⟩=>some
   { s with
     cache:=m.applyCacheDelta defaults s.cache
     overrides:=m.stage s.overrides
     calls:=s.calls.pop call
     lock:=.free }
  | _=>none

/-- No event arrives while the refresh of `_refresh_task` has read the rows and is neither cancelled nor
done, and a mutation that has cancelled a refresh commits. -/
def prompt (s:Process):Label→Bool
 | .event _=>
  match s.running with
  | some (_,⟨.read _,false⟩) | some (_,⟨.assigned,false⟩)=>false
  | _=>true
 | .rollback call=>(s.calls.get call).all fun c=>!c.cancelled
 | .foreignCommit _ | .refreshReads _ | .refreshAssigns _ | .refreshEnds _ | .mutate _ _
 | .mutationResumes _ | .mutationLocks _ | .commit _ | .applyDelta _=>true

def Synced (s:Process):Prop:=s.overrides=s.rows∧s.cache=completed defaults s.rows
def HasCall (calls:Dict ℕ Call)(P:Call→Prop):Prop:=∃call c,calls.get call=some c∧P c

/-- A refresh will read the rows after everything committed so far. -/
def Owed (undelivered:ℕ)(refreshes:Dict ℕ Refresh)(calls:Dict ℕ Call):Prop:=
 0<undelivered∨(∃task,refreshes.get task=some ⟨.waiting,false⟩)∨
  HasCall calls fun c=>c.cancelled∧c.phase ≠ .committed

structure Books (refreshes:Dict ℕ Refresh)(calls:Dict ℕ Call)(lock:Lock):Prop where
 awaited:∀task refresh,refreshes.get task=some refresh→ refresh.cancelled→
  HasCall calls fun c=>c.cancelled∧c.phase=.awaiting task
 reading:∀task snapshot,refreshes.get task=some ⟨.read snapshot,false⟩→lock=.refresh task
 writing:∀call c,calls.get call=some c→c.phase=.staged∨c.phase=.committed→
  lock=.mutation call

structure Inv (s:Process):Prop extends Books s.refreshes s.calls s.lock where
 idle:(∀task snapshot,s.refreshes.get task≠some ⟨.read snapshot,false⟩)→
  Synced defaults s∨Owed s.undelivered s.refreshes s.calls
 snapshot:∀task snapshot,s.refreshes.get task=some ⟨.read snapshot,false⟩→
  snapshot=s.rows∨Owed s.undelivered s.refreshes s.calls
 committed:∀call c,s.calls.get call=some c→c.phase=.committed→
  Owed s.undelivered s.refreshes s.calls

variable {defaults}{s u:Process}

section
variable {calls calls':Dict ℕ Call}{call:ℕ}(hother:∀j,j≠call→calls'.get j=calls.get j)
include hother

lemma HasCall.kept {P:Call→Prop}(h:HasCall calls P)
 (hcall:∀c,calls.get call=some c→P c→∃c',calls'.get call=some c'∧P c'):HasCall calls' P:=by
 obtain ⟨j,c,hget,hc⟩:=h
 by_cases heq:j=call
 · subst heq
   obtain ⟨c',hget',hc'⟩:=hcall c hget hc
   exact ⟨j,c',hget',hc'⟩
 · exact ⟨j,c,(hother j heq).trans hget,hc⟩
lemma Books.onCall {refreshes:Dict ℕ Refresh}{lock lock':Lock}(h:Books refreshes calls lock)
 (hcall:∀c task,calls.get call=some c→c.cancelled→c.phase=.awaiting task→ refreshes.get task=none)
 (hlock:lock'=lock∨lock=.free∨lock=.mutation call)
 (hwriting:∀c,calls'.get call=some c→c.phase=.staged∨c.phase=.committed→
  lock'=.mutation call):Books refreshes calls' lock' where
 awaited task refresh hget hcancelled:=by
  refine (h.awaited task refresh hget hcancelled).kept hother fun c hc hawaiting=>?_
  rw[hcall c task hc hawaiting.1 hawaiting.2] at hget
  cases hget
 reading task snapshot hget:=by
  have:=h.reading task snapshot hget
  rcases hlock with rfl|hfree|hmutation <;> simp_all
 writing j c hget hphase:=by
  by_cases heq:j=call
  · subst heq
    exact hwriting c hget hphase
  · rw[hother j heq] at hget
    have:=h.writing j c hget hphase
    rcases hlock with rfl|hfree|hmutation <;> simp_all
end

lemma running_eq_some {task:ℕ}{refresh:Refresh}(h:s.running=some (task,refresh)):
 s.refreshes.get task=some refresh:=by
 obtain ⟨named,-,hget⟩:=bind_eq_some_iff.mp h
 obtain ⟨found,hfound,heq⟩:=map_eq_some_iff.mp hget
 cases heq
 exact hfound

section
variable {refreshes:Dict ℕ Refresh}(h:Books s.refreshes s.calls s.lock)
include h

lemma books_step {label:Label}(hprompt:prompt s label)(hstep:step defaults s label=some u):Books u.refreshes u.calls u.lock:=by
 cases label with simp only[step] at hstep
 | foreignCommit m=>
  cases hstep
  exact h
 | event again=>
  obtain ⟨-,⟨⟩⟩:=ite_none_right_eq_some.mp hstep
  unfold handleSystemEvent
  split
  · exact h
  · constructor <;> grind[Books,get_set]
 | refreshReads task | refreshAssigns task | refreshEnds task=>
  split at hstep <;> cases hstep <;> constructor <;> grind[Books,get_set,get_pop]
 | mutate call m=>
  split at hstep <;> cases hstep
  · rename_i task refresh hnew hrunning
    have hset:Books s.refreshes (s.calls.set call ⟨m,true,.awaiting task⟩) s.lock:=
     h.onCall (fun j hj=>get_set_of_ne s.calls _ hj) (by grind) (.inl rfl) (by simp)
    constructor
    · exact Dict.forall_get_set (fun _=>⟨call,_,get_set_self ..,rfl,rfl⟩) hset.awaited
    · intro other snapshot hget
      rcases get_set_eq_some hget with ⟨-,heq⟩|⟨-,hold⟩
      · cases congrArg Refresh.cancelled heq
      · exact h.reading other snapshot hold
    · exact hset.writing
  · exact h.onCall (fun j hj=>get_set_of_ne s.calls _ hj) (by grind) (.inl rfl) (by simp)
 | mutationResumes call=>
  split at hstep
  · obtain ⟨hdone,⟨⟩⟩:=ite_none_right_eq_some.mp hstep
    rw[isNone_iff_eq_none] at hdone
    exact h.onCall (fun j hj=>get_set_of_ne s.calls _ hj) (by grind) (.inl rfl) (by simp)
  · cases hstep
 | mutationLocks call | commit call=>
  split at hstep <;> cases hstep
  refine h.onCall (fun j hj=>get_set_of_ne s.calls _ hj) ?_ ?_ ?_ <;>
   grind[Books,get_set]
 | rollback call | applyDelta call=>
  split at hstep <;> cases hstep
  refine h.onCall (fun j hj=>get_pop_of_ne s.calls hj) ?_ ?_ (by simp) <;> grind[Books,prompt]

lemma Inv.of_owed (howed:Owed s.undelivered s.refreshes s.calls):Inv defaults s:=
 {h with idle:=fun _=>.inr howed,snapshot:=fun _ _ _=>.inr howed,committed:=fun _ _ _ _=>howed}
lemma Books.owed {task n:ℕ}{refresh:Refresh}(hget:s.refreshes.get task=some refresh)
 (hcancelled:refresh.cancelled):Owed n refreshes s.calls:=by
 obtain ⟨call,c,hc,hcancel,hphase⟩:=h.awaited task refresh hget hcancelled
 exact .inr (.inr ⟨call,c,hc,hcancel,by simp[hphase]⟩)

/-- An event finds a refresh that has not read yet, a mutation that has cancelled one, or none. -/
lemma owed_handleSystemEvent {again:Bool}(hprompt:prompt s (.event again))(n:ℕ):
 let u:=handleSystemEvent {s with undelivered:=n}
 Owed u.undelivered u.refreshes u.calls:=by
 unfold handleSystemEvent
 split
 · rename_i found hrunning
   obtain ⟨task,stage,cancelled⟩:=found
   have hget:s.refreshes.get task=some ⟨stage,cancelled⟩:=running_eq_some hrunning
   cases cancelled with
   | true=>exact h.owed hget rfl
   | false=>
    have hrunning':s.running=some (task,⟨stage,false⟩):=hrunning
    cases stage with
    | waiting=>exact .inr (.inl ⟨task,hget⟩)
    | read | assigned=>simp[prompt,hrunning'] at hprompt
 · exact .inr (.inl ⟨s.nextTask,get_set_self ..⟩)
end

lemma Owed.onCall {n call:ℕ}{refreshes:Dict ℕ Refresh}{calls calls':Dict ℕ Call}
 (h:Owed n refreshes calls)(hother:∀j,j≠call→calls'.get j=calls.get j)
 (hcall:∀c,calls.get call=some c→c.cancelled∧c.phase ≠ .committed→
  ∃c',calls'.get call=some c'∧c'.cancelled∧c'.phase ≠ .committed):Owed n refreshes calls':=
 h.imp_right fun h=>h.imp_right fun h=>h.kept hother hcall
lemma Owed.onRefresh {n task:ℕ}{refreshes refreshes':Dict ℕ Refresh}{calls:Dict ℕ Call}
 (h:Owed n refreshes calls)(hother:∀j,j≠task→ refreshes'.get j=refreshes.get j)
 (htask:refreshes.get task≠some ⟨.waiting,false⟩):Owed n refreshes' calls:=by
 rcases h with hevents|⟨other,hwaiting⟩|hcall
 · exact .inl hevents
 · refine .inr (.inl ⟨other,(hother other ?_).trans hwaiting⟩)
   rintro rfl
   exact htask hwaiting
 · exact .inr (.inr hcall)
lemma Inv.kept (h:Inv defaults s)(hbooks:Books u.refreshes u.calls u.lock)
 (hsynced:Synced defaults s→Synced defaults u)(hrows:u.rows=s.rows)
 (hreading:∀task snapshot,u.refreshes.get task=some ⟨.read snapshot,false⟩↔
  s.refreshes.get task=some ⟨.read snapshot,false⟩)
 (hcommitted:∀call c,u.calls.get call=some c→c.phase=.committed→s.calls.get call=some c)
 (howed:Owed s.undelivered s.refreshes s.calls→Owed u.undelivered u.refreshes u.calls):
 Inv defaults u:=
 { hbooks with
   idle:=fun hidle=>(h.idle fun task snapshot hget=>hidle task snapshot ((hreading task snapshot).mpr hget)).imp
    hsynced howed
   snapshot:=fun task snapshot hget=>(h.snapshot task snapshot ((hreading task snapshot).mp hget)).imp
    (fun heq=>heq.trans hrows.symm) howed
   committed:=fun call c hget hphase=>howed (h.committed call c (hcommitted call c hget hphase) hphase) }

lemma inv_step {label:Label}(h:Inv defaults s)(hprompt:prompt s label)
 (hstep:step defaults s label=some u):Inv defaults u:=by
 have hbooks:=books_step h.toBooks hprompt hstep
 cases label with simp only[step] at hstep
 | foreignCommit m=>
  cases hstep
  exact .of_owed hbooks (.inl (Nat.succ_pos _))
 | event again=>
  obtain ⟨-,⟨⟩⟩:=ite_none_right_eq_some.mp hstep
  exact .of_owed hbooks (owed_handleSystemEvent h.toBooks hprompt _)
 | refreshReads task=>
  split at hstep <;> cases hstep
  refine {hbooks with idle:=?_,snapshot:=?_,committed:=?_}
  · intro hidle
    exact absurd (get_set_self ..) (hidle task s.rows)
  · intro other snapshot hget
    rcases get_set_eq_some hget with ⟨-,heq⟩|⟨-,hold⟩
    · cases heq
      exact .inl rfl
    · cases (h.reading other snapshot hold).symm.trans (by assumption)
  · intro call c hget hphase
    cases (h.writing call c hget (.inr hphase)).symm.trans (by assumption)
 | refreshAssigns task=>
  split at hstep <;> cases hstep
  rename_i snapshot hread
  have howed:Owed s.undelivered s.refreshes s.calls→Owed s.undelivered
    (s.refreshes.set task ⟨.assigned,false⟩) s.calls:=
   fun howed=>howed.onRefresh (fun j hj=>get_set_of_ne s.refreshes _ hj) (by simp[hread])
  refine {hbooks with idle:=?_,snapshot:=?_,committed:=?_}
  · intro _
    exact (h.snapshot task snapshot hread).imp (fun heq=>⟨heq,congrArg (completed defaults) heq⟩) howed
  · intro other found hget
    rcases get_set_eq_some hget with ⟨-,heq⟩|⟨-,hold⟩
    · cases heq
    · exact (h.snapshot other found hold).imp_right howed
  · exact fun call c hget hphase=>howed (h.committed call c hget hphase)
 | refreshEnds task=>
  split at hstep <;> cases hstep
  · rename_i hget
    exact .of_owed hbooks (h.toBooks.owed hget rfl)
  · refine h.kept hbooks id rfl (by grind[get_pop]) (fun _ _ hget _=>hget) fun howed=>?_
    exact howed.onRefresh (fun j hj=>get_pop_of_ne s.refreshes hj) (by grind)
 | mutate call m=>
  split at hstep <;> cases hstep
  · exact .of_owed hbooks (.inr (.inr ⟨call,_,get_set_self ..,rfl,by simp⟩))
  · refine h.kept hbooks id rfl (fun _ _=>Iff.rfl) (by grind[get_set]) fun howed=>?_
    exact howed.onCall (fun j hj=>get_set_of_ne s.calls _ hj) (by grind)
 | mutationResumes call=>
  split at hstep
  · obtain ⟨hdone,⟨⟩⟩:=ite_none_right_eq_some.mp hstep
    refine h.kept hbooks id rfl (fun _ _=>Iff.rfl) (by grind[get_set]) fun howed=>?_
    exact howed.onCall (fun j hj=>get_set_of_ne s.calls _ hj) (by grind[get_set])
  · cases hstep
 | mutationLocks call=>
  split at hstep <;> cases hstep
  refine h.kept hbooks id rfl (fun _ _=>Iff.rfl) (by grind[get_set]) fun howed=>?_
  exact howed.onCall (fun j hj=>get_set_of_ne s.calls _ hj) (by grind[get_set])
 | commit call=>
  split at hstep <;> cases hstep
  exact .of_owed hbooks (.inl (Nat.succ_pos _))
 | rollback call=>
  split at hstep <;> cases hstep
  refine h.kept hbooks id rfl (fun _ _=>Iff.rfl) (by grind[get_pop]) fun howed=>?_
  exact howed.onCall (fun j hj=>get_pop_of_ne s.calls hj) (by grind[prompt])
 | applyDelta call=>
  split at hstep <;> cases hstep
  rename_i hcall
  refine .of_owed hbooks ((h.committed call _ hcall rfl).onCall (fun j hj=>get_pop_of_ne s.calls hj) ?_)
  simp[hcall]

def initialized (defaults:Values)(rows:Rows):Process:=
 ⟨rows,completed defaults rows,rows,0,.empty,0,none,.empty,.free⟩

theorem settings_cache_converges (defaults:Values) (rows:Rows) (labels:List Label) (s:Process)
 (hrun:run (step defaults) (initialized defaults rows) labels=some s)
 (hguard:Guarded (fun s label=>prompt s label=true) (step defaults) (initialized defaults rows)
  labels)
 (hevents:s.undelivered=0) (hrefresh:∀task,s.refreshes.get task=none)
 (hcalls:∀call,s.calls.get call=none):
 s.overrides=s.rows∧s.cache=completed defaults s.rows:=by
 have hinit:Inv defaults (initialized defaults rows):=by
  refine ⟨⟨?_,?_,?_⟩,?_,?_,?_⟩ <;> simp[initialized,Synced]
 have hinv:Inv defaults s:=run_invariant_guarded (Inv defaults)
  (fun _ _ _ h hg hs=>inv_step h hg hs) hinit hguard hrun
 refine (hinv.idle (by simp[hrefresh])).resolve_right ?_
 simp[Owed,HasCall,hevents,hrefresh,hcalls]
end

def raised (value:ℤ):Mutation:=.update .queueTimeoutSec value

/-- A local write cancels the refresh; the event is repeated while the cancelled task unwinds. -/
def healed:List Label:=
 [.foreignCommit (raised 400),.event false,.refreshReads 0,.mutate 0 (raised 500),.event true,
  .refreshEnds 0,.mutationResumes 0,.mutationLocks 0,.commit 0,.event false,.applyDelta 0,
  .refreshReads 1,.refreshAssigns 1,.refreshEnds 1]

theorem healed_cache_converges:∃s,
 run (step shipped) (initialized shipped noRows) healed=some s∧
 s.overrides=s.rows∧s.cache=completed shipped s.rows:=by
 have hrun:run (step shipped) (initialized shipped noRows) healed=some _:=rfl
 exact ⟨_,hrun,settings_cache_converges shipped noRows healed _ hrun (by decide) rfl
  (fun _=>rfl) fun _=>rfl⟩

/-- The event of the second write arrives while the refresh for the first has read and not ended, or a
local write that is rolled back cancels the refresh. -/
theorem settings_cache_stays_behind:
 (∃s,run (step shipped) (initialized shipped noRows) [.foreignCommit (raised 400),.event false,
   .refreshReads 0,.foreignCommit (raised 500),.event false,.refreshAssigns 0,.refreshEnds 0]=some s∧
  s.undelivered=0∧s.refreshes.keys=[]∧s.calls.keys=[]∧
  s.cache .queueTimeoutSec=400∧s.rows .queueTimeoutSec=some 500)∧
 ∃s,run (step shipped) (initialized shipped noRows) [.foreignCommit (raised 400),.event false,
   .mutate 0 (raised 500),.refreshEnds 0,.mutationResumes 0,.mutationLocks 0,.rollback 0]=some s∧
  s.undelivered=0∧s.refreshes.keys=[]∧s.calls.keys=[]∧
  s.cache .queueTimeoutSec=300∧s.rows .queueTimeoutSec=some 400:=
 ⟨⟨_,rfl,rfl,rfl,rfl,rfl,rfl⟩,_,rfl,rfl,rfl,rfl,rfl,rfl⟩
end GridFleet.Settings
