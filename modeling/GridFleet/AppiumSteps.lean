import GridFleet.AppiumManager
namespace GridFleet.AppiumManager
open AgentPacks

inductive Began (s:State)(actor:Actor)(launch:LaunchSpec):State→Prop where
 | refused (outcome:Outcome):Began s actor launch (conclude s actor outcome)
 | awaits {release:String}{worker:Option Worker}
   (hresolve:s.packs.resolvePackWorker launch.packId launch.packRelease=some (release,worker)):
   Began s actor launch (awaitHooks s actor ⟨launch,release,worker⟩)

lemma began_resolveStart (s:State)(actor:Actor)(launch:LaunchSpec)(portInRange:Bool):
 Began s actor launch (resolveStart s actor launch portInRange):=by
 unfold resolveStart
 split
 · exact .refused _
 · split
   · exact .refused _
   · split
     · exact .refused _
     · rename_i hresolve
       split
       · exact .refused _
       · exact .awaits hresolve

inductive Entered (s:State)(actor:Actor)(call:Resolving)(spec:LaunchSpec):State→Prop where
 | refused (outcome:Outcome):Entered s actor call spec (conclude s actor outcome)
 | failed:Entered s actor call spec (conclude (recordSpec s spec) actor .failed)
 | checks {worker:Option Worker}{env:RuntimeEnv}{stamp:String}
   (hport:running s spec.port=false)
   (htarget:servedElsewhere s spec.port spec.target=false)
   (hresolve:s.packs.resolvePackWorker spec.packId call.launch.packRelease =
    some (call.release,worker))
   (hruntime:s.packs.runtimes.get spec.packId=some (env,stamp)):
   Entered s actor call spec (takeLock (recordSpec s spec) actor
    (.checkingPort ⟨spec,env,call.worker,call.launch.packRelease,s.packs.desired⟩))

lemma entered_launchLocked (s:State)(actor:Actor)(call:Resolving)(spec:LaunchSpec):
 Entered s actor call spec (launchLocked s actor call spec):=by
 unfold launchLocked
 split
 · exact .refused _
 · rename_i hfree
   simp only[Bool.or_eq_true,not_or,Bool.not_eq_true] at hfree
   split
   · exact .refused _
   · rename_i release worker hresolve
     split
     · exact .refused _
     · rename_i hsame
       simp only[ne_eq,Bool.or_eq_true,decide_eq_true_eq,not_or,not_not] at hsame
       rw[hsame.1] at hresolve
       split
       · exact .failed
       · rename_i hruntime
         exact .checks hfree.1 hfree.2 hresolve hruntime

def Resolves (s:State)(call:Resolving):Actor→Prop
 | .convergence=>s.conv=.starting call
 | .restart port=>s.restarts.get port=some (.starting call)
def forgetStop (s:State)(port:Port):State:=
 {s with stopped:=s.stopped.filter (· ≠ port)}

inductive Transition (s:State):Label→State→Prop where
 | pack {label:Packs.PassLabel}{q:Packs}
   (hpass:s.packs.passStep (retainedPackWorkerKeys s) label=some q):
   Transition s (.pack label) {s with packs:=q}
 | start {launch:LaunchSpec}{portInRange:Bool}{t:State}
   (hbegan:Began (forgetStop s launch.port) .convergence {launch with capReleases:=[]} t):
   Transition s (.start launch portInRange) t
 | stop (port:Port):Transition s (.stop port) {s with conv:=.stopWaiting port}
 | reconfigure (port:Port)(stopPending:Bool):
   Transition s (.reconfigure port stopPending) (setStopPending s port stopPending)
 | crash (child:ChildId):
   Transition s (.crash child) (updateChild s child fun row=>{row with alive:=false})
 | watchSchedules {port:Port}{child:ChildId}(hwatch:s.watch.get port=some child)
   (htracked:s.procs.get port=some child)(hdead:isAlive s child=false):
   Transition s (.watchResumes port)
    {s with watch:=s.watch.pop port,restarts:=s.restarts.set port .scheduled}
 | watchEnds {label:Label}(port:Port):Transition s label {s with watch:=s.watch.pop port}
 | restartEnds {label:Label}(port:Port):
   Transition s label {s with restarts:=s.restarts.pop port}
 | restartBacksOff {label:Label}{port:Port}(hphase:s.restarts.get port=some .scheduled):
   Transition s label {s with restarts:=s.restarts.set port .backoff}
 | restartStarts {port:Port}{spec:LaunchSpec}{t:State}
   (hphase:s.restarts.get port=some .backoff)(hspec:s.specs.get port=some spec)
   (hbegan:Began (forgetStop s spec.port) (.restart port) spec t):
   Transition s (.restartWakes port) t
 | hookFails {actor:Actor}(call:Resolving)(hcall:Resolves s call actor):
   Transition s (.hookFails actor) (conclude s actor .failed)
 | acquire {actor:Actor}(call:Resolving){resolvedTarget:String}{t:State}
   (hfree:s.holder=none)(hcall:Resolves s call actor)
   (hentered:Entered (cancelRestart s actor call.launch.port) actor call
    (launchedSpec call resolvedTarget) t):
   Transition s (.acquire actor resolvedTarget) t
 | startFails {label:Label}{actor:Actor}{job:Spawn}{outcome:Outcome}
   (hholder:s.holder=some (actor,.checkingPort job)):
   Transition s label (conclude (release s) actor outcome)
 | spawn {actor:Actor}{job:Spawn}{child:ChildId}
   (hholder:s.holder=some (actor,.checkingPort job))(hfresh:s.children.get child=none):
   Transition s (.spawn child) (spawnChild s actor job child)
 | childReady {actor:Actor}{job:Spawn}{child:ChildId}
   (hholder:s.holder=some (actor,.waitingReady job child)):
   Transition s .childReady (conclude (registerChild (release s) job child) actor .ok)
 | childNotReady {actor:Actor}{job:Spawn}{child:ChildId}
   (hholder:s.holder=some (actor,.waitingReady job child)):
   Transition s .childNotReady {s with holder:=some (actor,.killing job child)}
 | childKilled {actor:Actor}{job:Spawn}{child:ChildId}
   (hholder:s.holder=some (actor,.killing job child))(hdead:isAlive s child=false):
   Transition s .childKilled (conclude (release s) actor .failed)
 | stopAcquires {port:Port}(hfree:s.holder=none)(hconv:s.conv=.stopWaiting port):
   Transition s .stopAcquires (enterStop s port)
 | stopSignals {label:Label}{actor:Actor}{port:Port}{child:ChildId}
   (hholder:s.holder=some (actor,.deletingSessions port child)):
   Transition s label
    { updateChild s child fun row=>{row with signalled:=true} with
      holder:=some (actor,.terminating port child) }
 | stopRaises {label:Label}{actor:Actor}{port:Port}{child:ChildId}
   (hholder:s.holder=some (actor,.deletingSessions port child))
   (hdead:isAlive s child=false):Transition s label {release s with conv:=.idle}
 | stopSkips {label:Label}{actor:Actor}{port:Port}{child:ChildId}
   (hholder:s.holder=some (actor,.deletingSessions port child))
   (hdead:isAlive s child=false):
   Transition s label {s with holder:=some (actor,.terminating port child)}
 | stopReaps {actor:Actor}{port:Port}{child:ChildId}
   (hholder:s.holder=some (actor,.terminating port child))(hdead:isAlive s child=false):
   Transition s .stopReaps (finishStop s port)
 | stopReturns {port:Port}(hconv:s.conv=.postSession port):
   Transition s .stopReturns {s with conv:=.idle,stopped:=port::s.stopped}

lemma transition_of_step {s t:State}{label:Label}(hstep:step s label=some t):
 Transition s label t:=by
 cases label with simp only[step] at hstep
 | pack=>
  obtain ⟨q,hpass,rfl⟩:=Option.map_eq_some_iff.mp hstep
  exact .pack hpass
 | start _ portInRange=>
  split at hstep
  · cases hstep
    exact .start (began_resolveStart _ _ _ portInRange)
  · cases hstep
 | stop port=>
  split at hstep
  · cases hstep
    exact .stop port
  · cases hstep
 | reconfigure port stopPending=>
  split at hstep
  · cases hstep
    exact .reconfigure port stopPending
  · cases hstep
 | crash child=>
  split at hstep
  · cases hstep
    exact .crash child
  · cases hstep
 | watchResumes port=>
  split at hstep
  · cases hstep
  rename_i child hwatch
  split at hstep
  · cases hstep
  rename_i hdead
  split at hstep
  · rename_i hcrashed
    cases hstep
    exact .watchSchedules hwatch hcrashed.1 (Bool.eq_false_iff.mpr hdead)
  · cases hstep
    exact .watchEnds port
 | restartAttempt port canRetry=>
  split at hstep
  · rename_i hphase
    split at hstep
    · cases hstep
      exact .restartEnds port
    · cases hstep
      exact .restartBacksOff hphase
  · cases hstep
 | restartWakes port=>
  split at hstep
  · rename_i hphase
    split at hstep
    · cases hstep
      exact .restartEnds port
    · split at hstep
      · cases hstep
        exact .restartEnds port
      · rename_i spec hspec
        cases hstep
        exact .restartStarts hphase hspec (began_resolveStart _ _ _ true)
  · cases hstep
 | hookFails actor=>
  cases actor with dsimp only at hstep
  | convergence=>
   split at hstep
   · rename_i call hconv
     cases hstep
     exact .hookFails call hconv
   · cases hstep
  | restart port=>
   split at hstep
   · rename_i call hphase
     cases hstep
     exact .hookFails call hphase
   · cases hstep
 | acquire actor resolvedTarget=>
  cases actor with dsimp only at hstep
  | convergence=>
   split at hstep
   · rename_i call hfree hconv
     cases hstep
     exact .acquire call hfree hconv (entered_launchLocked _ _ _ _)
   · cases hstep
  | restart port=>
   split at hstep
   · rename_i call hfree hphase
     cases hstep
     exact .acquire call hfree hphase (entered_launchLocked _ _ _ _)
   · cases hstep
 | portOccupied | spawnFails=>
  split at hstep
  · rename_i hholder
    cases hstep
    exact .startFails hholder
  · cases hstep
 | spawn child=>
  split at hstep
  · rename_i hholder hfresh
    cases hstep
    exact .spawn hholder hfresh
  · cases hstep
 | childReady=>
  split at hstep
  · rename_i hholder
    cases hstep
    exact .childReady hholder
  · cases hstep
 | childNotReady=>
  split at hstep
  · rename_i hholder
    cases hstep
    exact .childNotReady hholder
  · cases hstep
 | childKilled=>
  split at hstep
  · rename_i hholder
    split at hstep
    · cases hstep
    rename_i hdead
    cases hstep
    exact .childKilled hholder (Bool.eq_false_iff.mpr hdead)
  · cases hstep
 | stopAcquires=>
  split at hstep
  · rename_i hfree hconv
    cases hstep
    exact .stopAcquires hfree hconv
  · cases hstep
 | stopSignals transportClosed=>
  split at hstep
  · rename_i hholder
    split at hstep
    · cases hstep
      exact .stopSignals hholder
    · rename_i hdead
      split at hstep
      · cases hstep
        exact .stopRaises hholder (Bool.eq_false_iff.mpr hdead)
      · cases hstep
        exact .stopSkips hholder (Bool.eq_false_iff.mpr hdead)
  · cases hstep
 | stopReaps=>
  split at hstep
  · rename_i hholder
    split at hstep
    · cases hstep
    rename_i hdead
    cases hstep
    exact .stopReaps hholder (Bool.eq_false_iff.mpr hdead)
  · cases hstep
 | stopReturns=>
  split at hstep
  · rename_i hconv
    cases hstep
    exact .stopReturns hconv
  · cases hstep
end GridFleet.AppiumManager
