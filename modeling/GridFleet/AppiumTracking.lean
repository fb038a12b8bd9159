import GridFleet.AppiumBooks
/-! The books stay right over whole runs as long as no watch task schedules an auto-restart behind the
back of a convergence start that holds the lock for its port. -/
namespace GridFleet.AppiumManager
open Interleaving Option

variable {s t:State}{port:Port}{child:ChildId}

def startHolds (s:State)(port:Port):Bool:=
 s.holder.any fun held=>held.1=.convergence&&held.2.job.isSome&&held.2.port=port

/-- The watch task of a child that has exited resumes only while no convergence start of its port
holds the start lock. -/
def WatchYields (s:State):Label→Prop
 | .watchResumes port=>startHolds s port=false
 | _=>True

instance (s:State):(label:Label)→Decidable (WatchYields s label)
 | .watchResumes port=>inferInstanceAs (Decidable (startHolds s port=false))
 | .pack _ | .start _ _ | .stop _ | .reconfigure _ _ | .crash _ | .restartAttempt _ _ | .restartWakes _
 | .hookFails _ | .acquire _ _ | .portOccupied | .spawn _ | .spawnFails | .childReady | .childNotReady
 | .childKilled | .stopAcquires | .stopSignals _ | .stopReaps | .stopReturns=>isTrue trivial

lemma Bookkeeping.watchSchedules (h:Bookkeeping s)(hyields:startHolds s port=false)
 (hwatch:s.watch.get port=some child)(htracked:s.procs.get port=some child)
 (hdead:isAlive s child=false):Restartable s port where
 dead:=running_of_tracked_dead htracked hdead
 free stage hholder hport:=by
  cases hjob:stage.job with
  | none=>
   have hnone:=((h.holding _ _ hholder).stopping hjob).2.2
   rw[hport] at hnone
   cases hnone.symm.trans hwatch
  | some=>simp[startHolds,hholder,hjob,hport] at hyields
 notQuiet hquiet:=by cases (h.quiet port hquiet).1.symm.trans htracked

lemma bookkeeping_step {label:Label}(h:Bookkeeping s)(hguard:WatchYields s label)
 (hstep:step s label=some t):Bookkeeping t:=by
 cases transition_of_step hstep with
 | pack=>
  exact h.of_shrinks_same {Shrinks.refl s with} {h.addressed with} rfl fun _=>.inl rfl
 | start hbegan=>
  refine (h.stopForgotten _).began ?_ ?_ hbegan
  · intro port heq
    cases heq
  · exact notMem_stopped_forgetStop s _
 | stop=>exact h.setConv (fun _ hconv=>(by cases hconv)) (fun _ hconv=>(by cases hconv))
 | reconfigure port stopPending=>exact h.stopPendingSet port stopPending
 | crash child=>exact h.childUpdated child fun row=>⟨rfl,rfl,rfl,fun halive=>(by cases halive),id⟩
 | watchSchedules hwatch htracked hdead=>
  have hport:=h.watchSchedules hguard hwatch htracked hdead
  exact (h.setRestart hport fun _ heq=>(by cases heq)).popWatch _
 | watchEnds port=>exact h.popWatch port
 | restartEnds port=>exact h.popRestart port
 | restartBacksOff hphase=>exact h.setRestart (h.restartable hphase) fun _ heq=>(by cases heq)
 | restartStarts hphase hspec hbegan=>
  refine (h.stopForgotten _).began (fun p heq=>?_) (notMem_stopped_forgetStop s _) hbegan
  cases heq
  exact ⟨(h.restartable hphase).stopForgotten _,h.addressed.specs _ _ hspec⟩
 | hookFails _ hcall=>
  refine h.concluded (fun port heq=>?_) .failed
  subst heq
  exact h.restartable hcall
 | acquire _ hfree hcall hentered=>exact h.acquired hfree hcall hentered
 | startFails hholder=>
  have hreleased:=h.released hholder fun _ hchild=>(by cases hchild)
  refine hreleased.concluded (fun port heq=>?_) _
  subst heq
  exact (h.holding _ _ hholder).restartable
 | spawn hholder hfresh=>exact h.spawned hholder hfresh
 | childReady hholder=>exact h.childReady hholder
 | childNotReady hholder=>
  refine h.setHolder {h.holding _ _ hholder with} ?_
  intro actor' stage' c hholds hchild
  cases hholder.symm.trans hholds
  exact hchild
 | childKilled hholder hdead=>
  have hreleased:=h.released hholder fun _ hchild=>(by cases hchild;exact hdead)
  refine hreleased.concluded (fun port heq=>?_) _
  subst heq
  exact (h.holding _ _ hholder).restartable
 | stopAcquires hfree=>exact h.stopEntered hfree _
 | stopSignals hholder=>exact h.signalled hholder
 | stopRaises hholder hdead=>
  exact (h.released hholder fun _ hchild=>(by cases hchild;exact hdead)).convIdle
 | stopSkips hholder hdead=>exact h.skipped hholder hdead
 | stopReaps hholder hdead=>exact h.reaped hholder hdead
 | stopReturns hconv=>
  refine h.of_shrinks_same ?_ ?_ rfl fun _=>.inl rfl
  · refine {Shrinks.refl s with quiet:=fun p hquiet=>?_}
    rcases hquiet with hmem|hidle
    · rcases List.mem_cons.mp hmem with rfl|hmem
      · exact .inr hconv
      · exact .inl hmem
    · cases hidle
  · exact {h.addressed with conv:=fun _ hidle=>(by cases hidle)}

/-- The books agree with the processes: a live ready child that no stop has signalled is tracked, or
is with the stop of its port that has yet to signal it. -/
structure Tracked (s:State):Prop where
 tracked:∀child row,s.children.get child=some row→ row.alive→ row.ready→
  row.signalled=false→
  (s.procs.get row.port=some child∧(s.info.get row.port).isSome)∨
   s.holder=some (.convergence,.deletingSessions row.port child)
 single:∀child other row row',s.children.get child=some row→s.children.get other=some row'→
  row.alive→ row.ready→ row'.alive→ row'.ready→
  row.port=row'.port→child=other
 distinct:∀port other child child' row row',s.procs.get port=some child→
  s.procs.get other=some child'→s.children.get child=some row→
  s.children.get child'=some row'→ row.alive→ row'.alive→
  row.target=row'.target→port=other
 quiet:∀port∈s.stopped,∀child row,s.children.get child=some row→ row.alive→
  row.port≠port

variable {row:Child}

section
variable (h:Bookkeeping s)
include h

lemma Bookkeeping.tracked_or_stopping (hrow:s.children.get child=some row)
 (halive:row.alive)(hready:row.ready):s.procs.get row.port=some child∨
  s.holder=some (.convergence,.deletingSessions row.port child)∨
  (s.holder=some (.convergence,.terminating row.port child)∧row.signalled):=by
 rcases h.tracked child row hrow halive with hproc|⟨actor,stage,hholder,hchild⟩
 · exact .inl hproc
 · have hholding:=h.holding actor stage hholder
   obtain ⟨row',hrow',hport,hfits⟩:=hholding.held child hchild
   cases hrow.symm.trans hrow'
   cases stage with
   | checkingPort=>cases hchild
   | waitingReady | killing=>cases hready.symm.trans hfits.1
   | deletingSessions=>
    cases hchild
    obtain ⟨rfl,-⟩:=hholding.stopping rfl
    exact .inr (.inl (hport ▸ hholder))
   | terminating=>
    cases hchild
    obtain ⟨rfl,-⟩:=hholding.stopping rfl
    exact .inr (.inr ⟨hport ▸ hholder,hfits halive⟩)
lemma Bookkeeping.procs_of_stopping
 (hheld:s.holder=some (.convergence,.deletingSessions row.port child)∨
  s.holder=some (.convergence,.terminating row.port child)):s.procs.get row.port=none:=by
 rcases hheld with hholder|hholder <;> exact ((h.holding _ _ hholder).stopping rfl).2.1
lemma Bookkeeping.single {other:ChildId}{row':Child}
 (hrow:s.children.get child=some row)(hrow':s.children.get other=some row')
 (halive:row.alive)(hready:row.ready)(halive':row'.alive)
 (hready':row'.ready)(hport:row.port=row'.port):child=other:=by
 have hone:∀{c:ChildId}{r:Child},s.children.get c=some r→ r.alive→
   r.ready→s.procs.get r.port=some c∨(s.procs.get r.port=none∧
    ∃stage,s.holder=some (.convergence,stage)∧stage.child=some c):=by
  intro c r hr ha hre
  rcases h.tracked_or_stopping hr ha hre with hproc|hholder|⟨hholder,-⟩
  · exact .inl hproc
  · exact .inr ⟨h.procs_of_stopping (.inl hholder),_,hholder,rfl⟩
  · exact .inr ⟨h.procs_of_stopping (.inr hholder),_,hholder,rfl⟩
 rcases hone hrow halive hready with hproc|⟨hproc,stage,hholder,hchild⟩
 · rcases hone hrow' halive' hready' with hproc'|⟨hproc',-⟩
   · exact some.inj (hproc.symm.trans (hport ▸ hproc'))
   · cases hproc.symm.trans (hport ▸ hproc')
 · rcases hone hrow' halive' hready' with hproc'|⟨-,stage',hholder',hchild'⟩
   · cases hproc.symm.trans (hport ▸ hproc')
   · cases hholder.symm.trans hholder'
     exact some.inj (hchild.symm.trans hchild')
lemma Bookkeeping.quiet_dead (hquiet:Quiet s port)
 (hrow:s.children.get child=some row)(halive:row.alive):row.port≠port:=by
 rintro rfl
 rcases h.tracked child row hrow halive with hproc|⟨actor,stage,hholder,hchild⟩
 · cases (h.quiet _ hquiet).1.symm.trans hproc
 · have hholding:=h.holding actor stage hholder
   obtain ⟨row',hrow',hport,-⟩:=hholding.held child hchild
   cases hrow.symm.trans hrow'
   exact hholding.notQuiet (hport ▸ hquiet)
lemma Bookkeeping.trackedState:Tracked s where
 tracked child row hrow halive hready hunsignalled:=by
  rcases h.tracked_or_stopping hrow halive hready with hproc|hholder|⟨-,hsignalled⟩
  · obtain ⟨-,info,-,hinfo,-⟩:=h.listed row.port child hproc
    exact .inl ⟨hproc,by rw[hinfo,isSome_some]⟩
  · exact .inr hholder
  · cases hunsignalled.symm.trans hsignalled
 single _ _ _ _ hrow hrow' halive hready halive' hready' hport:=
  h.single hrow hrow' halive hready halive' hready' hport
 distinct port other child child' row row' hproc hproc' hrow hrow' halive halive' htarget:=
  h.distinct port other row'.target ⟨child,row,hproc,hrow,halive,htarget⟩
   ⟨child',row',hproc',hrow',halive',rfl⟩
 quiet _ hmem _ _ hrow halive:=h.quiet_dead (.inl hmem) hrow halive
end

theorem live_children_tracked {labels:List Label} {s:State}
 (hyields:Guarded WatchYields step init labels) (hrun:run step init labels=some s):
 Tracked s:=
 (run_invariant_guarded Bookkeeping (fun _ _ _ h hguard hstep=>bookkeeping_step h hguard hstep)
  bookkeeping_init hyields hrun).trackedState

def examplePack:AgentPacks.DesiredPack:=⟨"uiautomator2", "1.0",none,[]⟩
def exampleLaunch:LaunchSpec:=
 ⟨4723, "emulator-5554", "android_mobile", "uiautomator2",some "1.0",false,false,[]⟩
def crashedNode:List Label:=
 [.pack (.fetch [examplePack]),.pack (.reconcile [("uiautomator2", "rt-1", "/opt/appium")]),
  .pack .setRuntime,.start exampleLaunch true,.acquire .convergence "",.spawn 1,.childReady,
  .crash 1]
def restartedNode:List Label:=
 crashedNode++[.watchResumes 4723,.restartAttempt 4723 true,.restartWakes 4723,
  .acquire (.restart 4723) "",.spawn 2,.childReady]

theorem live_children_tracked_restart:∃s,
 run step init restartedNode=some s∧s.procs.get 4723=some 2∧Tracked s:=by
 have hyields:Guarded WatchYields step init restartedNode:=by decide
 exact ⟨_,rfl,rfl,live_children_tracked hyields rfl⟩

/-- An auto-restart scheduled behind the checks of a convergence start drops the new child from the
books; a stop then returns and leaves it running. -/
theorem restart_forgets_live_child:∃s row,
 run step init (crashedNode++[.start exampleLaunch true,.acquire .convergence "",
  .watchResumes 4723,.spawn 2,.restartAttempt 4723 true,.restartWakes 4723,.childReady,
  .acquire (.restart 4723) "",.stop 4723,.stopAcquires,.stopReturns])=some s∧
 s.children.get 2=some row∧row.port=4723∧row.alive=true∧row.ready=true∧
 row.signalled=false∧s.holder=none∧s.procs.get 4723=none∧s.info.get 4723=none∧
 4723∈s.stopped:=by
 refine ⟨_,_,rfl,rfl,rfl,rfl,rfl,rfl,rfl,rfl,rfl,?_⟩
 decide
end GridFleet.AppiumManager
