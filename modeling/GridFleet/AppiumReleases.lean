import GridFleet.AppiumSteps
/-! What a start read before its awaits is checked again under the lock, and from that check to the
last read of a registry nothing else runs. An auto-restart replays the release its launch spec pins. -/
namespace GridFleet.AppiumManager
open AgentPacks Interleaving Dict Option

variable {s t:State}{actor:Actor}{label:Label}

structure OneRelease (packs:List DesiredPack)(spawn:Spawn)(release:String):Prop where
 desired:(Packs.desiredPack packs spawn.spec.packId).map DesiredPack.release=some release
 runtime:spawn.env.packId=spawn.spec.packId∧spawn.env.release=release
 worker:∀w∈spawn.worker,w.packId=spawn.spec.packId∧w.release=release
 capabilities:∀r∈spawn.spec.capReleases,r=release
 payload:∀r∈spawn.requestedRelease,r=release
 recorded:spawn.spec.packRelease=some release

def Unmixed (spawn:Spawn):Prop:=
 ∀packs,spawn.desired=some packs→∃release,OneRelease packs spawn release

inductive Begins (s:State):Spawn→Prop where
 | mk {actor:Actor}{call:Resolving}{resolvedTarget:String}{worker:Option Worker}
   {env:RuntimeEnv}{stamp:String}(hcall:Resolves s call actor)
   (hresolve:s.packs.resolvePackWorker call.launch.packId call.launch.packRelease =
    some (call.release,worker))
   (hruntime:s.packs.runtimes.get call.launch.packId=some (env,stamp)):
   Begins s ⟨launchedSpec call resolvedTarget,env,call.worker,call.launch.packRelease,
    s.packs.desired⟩

inductive Spawning (s:State):Label→State→Prop where
 | pass {label:Packs.PassLabel}{t:State}
   (hpass:s.packs.passStep (retainedPackWorkerKeys s) label=some t.packs)
   (hholder:t.holder=s.holder)(hreturned:t.returned=s.returned):
   Spawning s (.pack label) t
 | begins {label:Label}{t:State}{actor:Actor}{job:Spawn}(hbegins:Begins s job)
   (hpacks:t.packs=s.packs)(hholder:t.holder=some (actor,.checkingPort job))
   (hreturned:t.returned=s.returned):Spawning s label t
 | goesOn {label:Label}{t:State}(hpacks:t.packs=s.packs)
   (hholder:∀actor stage job,t.holder=some (actor,stage)→stage.job=some job→
    ∃actor' stage',s.holder=some (actor',stage')∧stage'.job=some job)
   (hreturned:t.returned=s.returned):Spawning s label t
 | returns {label:Label}{t:State}{actor:Actor}{stage:Stage}{job:Spawn}{child:ChildId}
   (hheld:s.holder=some (actor,stage))(hjob:stage.job=some job)
   (hpacks:t.packs=s.packs)(hfree:t.holder=none)
   (hreturned:t.returned=(child,job)::s.returned):Spawning s label t

lemma Spawning.same (hpacks:t.packs=s.packs)(hholder:t.holder=s.holder)
 (hreturned:t.returned=s.returned):Spawning s label t:=
 .goesOn hpacks (fun actor stage _ hheld hjob=>⟨actor,stage,hholder.symm.trans hheld,hjob⟩) hreturned
lemma Spawning.free (hpacks:t.packs=s.packs)(hfree:t.holder=none)
 (hreturned:t.returned=s.returned):Spawning s label t:=
 .goesOn hpacks (fun _ _ _ hheld=>(by cases hfree.symm.trans hheld)) hreturned
lemma conclude_unchanged (s:State)(actor:Actor)(outcome:Outcome):
 (conclude s actor outcome).packs=s.packs∧(conclude s actor outcome).holder=s.holder∧
  (conclude s actor outcome).returned=s.returned:=by
 cases actor with
 | convergence=>exact ⟨rfl,rfl,rfl⟩
 | restart=>cases outcome <;> exact ⟨rfl,rfl,rfl⟩
lemma cancelRestart_unchanged (s:State)(actor:Actor)(port:Port):
 (cancelRestart s actor port).packs=s.packs∧(cancelRestart s actor port).holder=s.holder∧
  (cancelRestart s actor port).returned=s.returned:=by
 unfold cancelRestart
 split <;> exact ⟨rfl,rfl,rfl⟩
lemma takeLock_unchanged (s:State)(actor:Actor)(stage:Stage):(takeLock s actor stage).packs=s.packs∧
  (takeLock s actor stage).holder=some (actor,stage)∧
  (takeLock s actor stage).returned=s.returned:=by
 cases actor <;> exact ⟨rfl,rfl,rfl⟩
lemma Spawning.concluded (u:State)(hpacks:u.packs=s.packs)(hholder:u.holder=s.holder)
 (hreturned:u.returned=s.returned)(actor:Actor)(outcome:Outcome):
 Spawning s label (conclude u actor outcome):=by
 obtain ⟨hpacks',hholder',hreturned'⟩:=conclude_unchanged u actor outcome
 exact .same (hpacks'.trans hpacks) (hholder'.trans hholder) (hreturned'.trans hreturned)
lemma Spawning.failed (actor:Actor)(outcome:Outcome):
 Spawning s label (conclude (release s) actor outcome):=by
 obtain ⟨hpacks,hholder,hreturned⟩:=conclude_unchanged (release s) actor outcome
 exact .free hpacks hholder hreturned
lemma Spawning.began {port:Port}{launch:LaunchSpec}
 (hbegan:Began (forgetStop s port) actor launch t):Spawning s label t:=by
 cases hbegan with
 | refused outcome=>exact .concluded (s:=s) (forgetStop s port) rfl rfl rfl actor outcome
 | awaits=>
  cases actor with
  | convergence | restart=>exact .same rfl rfl rfl

variable {call:Resolving}

lemma Spawning.entered {resolvedTarget:String}(hcall:Resolves s call actor)
 (hentered:Entered (cancelRestart s actor call.launch.port) actor call
  (launchedSpec call resolvedTarget) t):Spawning s label t:=by
 obtain ⟨hpacks,hholder,hreturned⟩:=cancelRestart_unchanged s actor call.launch.port
 cases hentered with
 | refused outcome=>exact .concluded _ hpacks hholder hreturned actor outcome
 | failed=>exact .concluded (recordSpec _ _) hpacks hholder hreturned actor .failed
 | checks _ _ hresolve hruntime=>
  rw[hpacks] at hresolve hruntime ⊢
  obtain ⟨hpacks',hholder',hreturned'⟩:=
   takeLock_unchanged (recordSpec (cancelRestart s actor call.launch.port)
    (launchedSpec call resolvedTarget)) actor (.checkingPort ⟨launchedSpec call resolvedTarget,_,
     call.worker,call.launch.packRelease,s.packs.desired⟩)
  exact .begins (.mk hcall hresolve hruntime) (hpacks'.trans hpacks) hholder'
   (hreturned'.trans hreturned)

lemma spawning_of_step (hstep:step s label=some t):Spawning s label t:=by
 cases transition_of_step hstep with
 | pack hpass=>exact .pass hpass rfl rfl
 | start hbegan | restartStarts _ _ hbegan=>exact .began hbegan
 | stop | reconfigure | crash | watchSchedules | watchEnds | restartEnds | restartBacksOff
 | stopReturns=>exact .same rfl rfl rfl
 | hookFails=>exact .concluded s rfl rfl rfl _ _
 | acquire _ _ hcall hentered=>exact .entered hcall hentered
 | startFails | childKilled=>exact .failed _ _
 | spawn hholder | childNotReady hholder=>
  refine .goesOn rfl ?_ rfl
  intro actor stage job hheld hjob
  cases hheld
  exact ⟨_,_,hholder,hjob⟩
 | childReady hholder=>
  obtain ⟨hpacks,hfree,hreturned⟩:=conclude_unchanged (registerChild (release s) _ _) _ .ok
  exact .returns hholder rfl hpacks hfree hreturned
 | stopAcquires=>
  unfold enterStop
  split
  · split
    · refine .goesOn rfl ?_ rfl
      intro actor stage job hheld hjob
      cases hheld
      cases hjob
    · exact .free rfl rfl rfl
  · exact .free rfl rfl rfl
 | stopSignals | stopSkips=>
  refine .goesOn rfl ?_ rfl
  intro actor stage job hheld hjob
  cases hheld
  cases hjob
 | stopRaises | stopReaps=>exact .free rfl rfl rfl

structure Spawns (P:Spawn→Prop)(s:State):Prop where
 held:∀actor stage job,s.holder=some (actor,stage)→stage.job=some job→P job
 returned:∀entry∈s.returned,P entry.2

lemma spawns_init (P:Spawn→Prop):Spawns P init:=
 ⟨fun _ _ _ hheld=>(by cases hheld),fun _ hmem=>(by cases hmem)⟩
lemma Spawns.step {P:Spawn→Prop}(h:Spawns P s)(hnew:∀job,Begins s job→P job)
 (hstep:step s label=some t):Spawns P t:=by
 cases spawning_of_step hstep with
 | pass _ hholder hreturned=>exact ⟨hholder ▸ h.held,hreturned ▸ h.returned⟩
 | begins hbegins _ hholder hreturned=>
  refine ⟨fun actor stage job hheld hjob=>?_,hreturned ▸ h.returned⟩
  cases hholder.symm.trans hheld
  cases hjob
  exact hnew _ hbegins
 | goesOn _ hholder hreturned=>
  refine ⟨fun actor stage job hheld hjob=>?_,hreturned ▸ h.returned⟩
  obtain ⟨actor',stage',hheld',hjob'⟩:=hholder actor stage job hheld hjob
  exact h.held actor' stage' job hheld' hjob'
 | returns hheld hjob _ hfree hreturned=>
  refine ⟨fun _ _ _ hheld'=>(by cases hfree.symm.trans hheld'),fun entry hmem=>?_⟩
  rw[hreturned] at hmem
  rcases List.mem_cons.mp hmem with rfl|hold
  · exact h.held _ _ _ hheld hjob
  · exact h.returned entry hold
lemma packs_step {I:Packs→Prop}(h:I s.packs)(hstep:step s label=some t)
 (hpass:∀pass q,label=.pack pass→
  s.packs.passStep (retainedPackWorkerKeys s) pass=some q→I q):I t.packs:=by
 cases spawning_of_step hstep with
 | pass hq=>exact hpass _ _ rfl hq
 | begins _ hpacks | goesOn hpacks | returns _ _ hpacks=>exact hpacks ▸ h

/-- Whatever adapter has written into the capabilities was of the pinned release. -/
def Pinned (spec:LaunchSpec):Prop:=∀release∈spec.capReleases,spec.packRelease=some release

structure Bound (call:Resolving):Prop where
 pinned:Pinned call.launch
 requested:∀release∈call.launch.packRelease,release=call.release
 worker:∀w∈call.worker,w.packId=call.launch.packId∧w.release=call.release

lemma Bound.capReleases (h:Bound call)(resolvedTarget:String):
 ∀release∈(launchedSpec call resolvedTarget).capReleases,release=call.release:=by
 intro release hmem
 rcases List.mem_append.mp hmem with hold|hnew
 · exact h.requested release (h.pinned release hold)
 · obtain ⟨w,hw,rfl⟩:=List.mem_map.mp hnew
   have hworker:=(filter_eq_some_iff.mp (mem_toList.mp hw)).1
   exact (h.worker w hworker).2
lemma Bound.launched (h:Bound call)(resolvedTarget:String):
 Pinned (launchedSpec call resolvedTarget):=by
 intro release hmem
 rw[h.capReleases resolvedTarget release hmem]
 rfl

structure Calls (s:State):Prop where
 specs:∀port spec,s.specs.get port=some spec→Pinned spec
 conv:∀call,s.conv=.starting call→Bound call
 restarts:∀port call,s.restarts.get port=some (.starting call)→Bound call

lemma calls_init:Calls init:=
 ⟨fun _ _ hspec=>(by cases hspec),fun _ hconv=>(by cases hconv),fun _ _ hcall=>(by cases hcall)⟩

section
variable (h:Calls s)
include h

lemma Calls.resolves (hcall:Resolves s call actor):Bound call:=by
 cases actor with
 | convergence=>exact h.conv call hcall
 | restart port=>exact h.restarts port call hcall
lemma Calls.popRestart (port:Port):Calls {s with restarts:=s.restarts.pop port}:=
 {h with restarts:=fun p call hcall=>h.restarts p call (get_pop_eq_some hcall).2}
lemma Calls.setRestart (port:Port){phase:RestartPhase}
 (hphase:∀call,phase=.starting call→Bound call):
 Calls {s with restarts:=s.restarts.set port phase}:=by
 refine {h with restarts:=fun p call hcall=>?_}
 rcases get_set_eq_some hcall with ⟨-,heq⟩|⟨-,hold⟩
 · exact hphase call heq.symm
 · exact h.restarts p call hold
lemma Calls.portForgotten (port:Port):Calls (forgetPort s port):=
 {h with specs:=fun p spec hspec=>h.specs p spec (get_pop_eq_some hspec).2}
lemma Calls.setConv {conv:ConvPhase}(hconv:∀call,conv=.starting call→Bound call):
 Calls {s with conv:=conv}:=
 {h with conv:=hconv}
lemma Calls.specRecorded {spec:LaunchSpec}(hspec:Pinned spec):Calls (recordSpec s spec):=
 {h with specs:=forall_get_set hspec h.specs}
lemma Calls.stopPendingSet (port:Port)(stopPending:Bool):
 Calls (setStopPending s port stopPending):=by
 refine {h with specs:=fun p stored hget=>?_}
 obtain ⟨old,hold,rfl⟩:=get_map_eq_some hget
 have hpinned:=h.specs p old hold
 split <;> exact hpinned
lemma Calls.stopForgotten (port:Port):Calls (forgetStop s port):={h with}
lemma Calls.released:Calls (release s):={h with}
lemma Calls.registered (job:Spawn)(child:ChildId):
 Calls (registerChild (release s) job child):={h with}
lemma Calls.concluded (actor:Actor)(outcome:Outcome):Calls (conclude s actor outcome):=by
 cases actor with
 | convergence=>exact h.setConv fun _ hconv=>(by cases hconv)
 | restart port=>
  cases outcome with
  | ok | deferred=>exact h.popRestart port
  | alreadyRunning | portOccupied=>exact (h.portForgotten port).popRestart port
  | failed=>exact h.setRestart port fun _ heq=>(by cases heq)
lemma Calls.began (hstamped:Packs.Stamped s.packs){launch:LaunchSpec}
 (hpinned:Pinned launch)(hbegan:Began s actor launch t):Calls t:=by
 cases hbegan with
 | refused outcome=>exact h.concluded actor outcome
 | awaits hresolve=>
  have hresolved:=Packs.resolved_of_resolvePackWorker hstamped hresolve
  have hbound:Bound ⟨launch,_,_⟩:=⟨hpinned,hresolved.requested,hresolved.worker⟩
  cases actor with
  | convergence=>exact h.setConv fun call hcall=>(by cases hcall;exact hbound)
  | restart port=>exact h.setRestart port fun call hcall=>(by cases hcall;exact hbound)
lemma Calls.cancelled (actor:Actor)(port:Port):Calls (cancelRestart s actor port):=by
 unfold cancelRestart
 split
 · exact h
 · exact h.popRestart port
lemma Calls.lockTaken (actor:Actor)(stage:Stage):Calls (takeLock s actor stage):=by
 cases actor with
 | convergence=>exact {h with conv:=fun _ hconv=>(by cases hconv)}
 | restart port=>
  have hset:Calls {s with restarts:=s.restarts.set port .holding}:=
   h.setRestart port fun _ heq=>(by cases heq)
  exact {hset with}
lemma Calls.entered (hbound:Bound call){resolvedTarget:String}
 (hentered:Entered s actor call (launchedSpec call resolvedTarget) t):Calls t:=by
 cases hentered with
 | refused outcome=>exact h.concluded actor outcome
 | failed=>exact (h.specRecorded (hbound.launched resolvedTarget)).concluded actor .failed
 | checks=>exact (h.specRecorded (hbound.launched resolvedTarget)).lockTaken actor _
lemma Calls.takenOff (port:Port):Calls (takeOff s port):=
 {(h.portForgotten port).popRestart port with}
lemma Calls.finished (port:Port):Calls (finishStop s port):=
 {h with conv:=fun _ hconv=>(by cases hconv)}

lemma Calls.step (hstamped:Packs.Stamped s.packs)(hstep:step s label=some t):Calls t:=by
 cases transition_of_step hstep with
 | pack | crash | watchEnds | spawn | childNotReady | stopSignals | stopSkips=>exact {h with}
 | start hbegan=>
  exact (h.stopForgotten _).began hstamped (fun _ hmem=>(by cases hmem)) hbegan
 | stop | stopReturns | stopRaises=>exact {h with conv:=fun _ hconv=>(by cases hconv)}
 | reconfigure port stopPending=>exact h.stopPendingSet port stopPending
 | watchSchedules=>exact {h.setRestart _ fun _ heq=>(by cases heq) with}
 | restartEnds port=>exact h.popRestart port
 | restartBacksOff=>exact h.setRestart _ fun _ heq=>(by cases heq)
 | restartStarts _ hspec hbegan=>
  exact (h.stopForgotten _).began hstamped (h.specs _ _ hspec) hbegan
 | hookFails=>exact h.concluded _ _
 | acquire _ _ hcall hentered=>exact (h.cancelled _ _).entered (h.resolves hcall) hentered
 | startFails | childKilled=>
  exact h.released.concluded _ _
 | childReady=>
  exact (h.registered _ _).concluded _ .ok
 | stopAcquires=>
  unfold enterStop
  split
  · split
    · exact (h.takenOff _).lockTaken _ _
    · exact (h.takenOff _).finished _
  · exact (h.takenOff _).finished _
 | stopReaps=>exact h.finished _
end

/-- Under the lock the release that the call is bound to is the desired one, and the runtime carries
its stamp. -/
lemma unmixed_of_begins (hcalls:Calls s)(hstamped:Packs.Stamped s.packs){job:Spawn}
 (hbegins:Begins s job):Unmixed job:=by
 obtain ⟨hcall,hresolve,hruntime⟩:=hbegins
 rename_i actor call resolvedTarget worker env stamp
 have hbound:=hcalls.resolves hcall
 intro packs hknown
 obtain ⟨hdesired,hstamp⟩:=
  (Packs.resolved_of_resolvePackWorker hstamped hresolve).desired packs hknown
 have hrelease:stamp=call.release:=by
  simpa[Packs.releaseForPack,hruntime] using hstamp
 obtain ⟨henvPack,henvRelease⟩:=hstamped.runtimes _ env stamp hruntime
 exact ⟨call.release,
  { desired:=hdesired
    runtime:=⟨henvPack,henvRelease.trans hrelease⟩
    worker:=hbound.worker
    capabilities:=hbound.capReleases resolvedTarget
    payload:=hbound.requested
    recorded:=rfl }⟩

structure Unmixing (s:State):Prop where
 stamped:Packs.Stamped s.packs
 calls:Calls s
 spawns:Spawns Unmixed s

lemma unmixing_init:Unmixing init:=⟨Packs.stamped_init,calls_init,spawns_init Unmixed⟩
lemma unmixing_step (h:Unmixing s)(hstep:step s label=some t):Unmixing t where
 stamped:=packs_step h.stamped hstep fun _ _ _ hpass=>Packs.stamped_passStep h.stamped hpass
 calls:=h.calls.step h.stamped hstep
 spawns:=h.spawns.step (fun _=>unmixed_of_begins h.calls h.stamped) hstep

/-- As long as the pack loop is not rebuilt, a spawn begins under a known list. -/
structure Knowing (s:State):Prop where
 unfetched:Packs.Unfetched s.packs
 spawns:Spawns (fun spawn=>spawn.desired≠none) s

lemma knowing_init:Knowing init:=⟨Packs.unfetched_init,spawns_init _⟩
lemma knowing_step (h:Knowing s)(hlabel:label ≠ .pack .rebuild)(hstep:step s label=some t):
 Knowing t where
 unfetched:=packs_step h.unfetched hstep fun pass q heq hpass=>
  Packs.unfetched_passStep h.unfetched (fun hrebuild=>hlabel (heq.trans (congrArg _ hrebuild))) hpass
 spawns:=h.spawns.step (fun job hbegins hnone=>by
  obtain ⟨-,hresolve,-⟩:=hbegins
  rw[Packs.resolvePackWorker_of_unfetched h.unfetched hnone] at hresolve
  cases hresolve) hstep

theorem returned_process_of_one_release {labels:List Label} {s:State}
 (hrun:run step init labels=some s) {child:ChildId} {spawn:Spawn}
 (hreturned:(child,spawn)∈s.returned):
 (∀packs,spawn.desired=some packs→∃release,OneRelease packs spawn release)∧
  (.pack .rebuild ∉ labels→∃packs,spawn.desired=some packs):=by
 constructor
 · have hinv:=run_invariant Unmixing (fun _ _ _ h hstep=>unmixing_step h hstep) unmixing_init hrun
   exact hinv.spawns.returned _ hreturned
 · intro hlabels
   have hguard:Guarded (fun _ label=>label ≠ .pack .rebuild) step init labels:=
    guarded_of_forall fun label hmem heq=>hlabels (heq ▸ hmem)
   have hinv:=run_invariant_guarded Knowing (fun _ _ _ h hlabel hstep=>knowing_step h hlabel hstep)
    knowing_init hguard hrun
   exact ne_none_iff_exists'.mp (hinv.spawns.returned _ hreturned)

def packRelease (release:String):DesiredPack:=
 ⟨"uiautomator2",release,some "5f1d",[⟨"android_mobile",false⟩]⟩
def loadRelease (release runtimeId:String)(worker:ℕ):List Label:=
 [.pack (.fetch [packRelease release]),.pack (.reconcile [("uiautomator2",runtimeId, "/opt/appium")]),
  .pack .setRuntime,.pack (.load (.loaded worker ["pre_session"])),.pack .purge]
def nodeLaunch:LaunchSpec:=
 ⟨4723, "emulator-5554", "android_mobile", "uiautomator2",none,false,false,[]⟩

def upgradedNode:List Label:=
 loadRelease "1.0" "rt-1" 1 ++
  [.pack .done,.start nodeLaunch true,.acquire .convergence "",.spawn 1,.childReady,.crash 1] ++
  loadRelease "2.0" "rt-2" 2 ++
  [.start nodeLaunch true,.acquire .convergence "",.spawn 2,.childReady]
def upgradedSpawn:Spawn where
 spec:={ nodeLaunch with packRelease:=some "2.0",capReleases:=["2.0"] }
 env:=⟨"uiautomator2", "2.0", "rt-2", "/opt/appium"⟩
 worker:=some ⟨2, "uiautomator2", "2.0",["pre_session"]⟩
 requestedRelease:=none
 desired:=some [packRelease "2.0"]

theorem returned_process_of_one_release_upgrade:∃s,
 run step init upgradedNode=some s∧(2,upgradedSpawn)∈s.returned∧
 OneRelease [packRelease "2.0"] upgradedSpawn "2.0" :=by
 have hreturned:(run step init upgradedNode).any
   (fun s=>decide ((2,upgradedSpawn)∈s.returned))=true:=by decide
 rw[any_eq_true] at hreturned
 obtain ⟨s,hrun,hmem⟩:=hreturned
 obtain ⟨release,hone⟩:=
  (returned_process_of_one_release hrun (of_decide_eq_true hmem)).1 [packRelease "2.0"] rfl
 have hrelease:release = "2.0" :=some.inj (hone.recorded.symm)
 exact ⟨s,hrun,of_decide_eq_true hmem,hrelease ▸ hone⟩
end GridFleet.AppiumManager
