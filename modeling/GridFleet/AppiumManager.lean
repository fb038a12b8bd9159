import GridFleet.AgentPacks
import GridFleet.Interleaving
/-! The Appium process manager of an agent: the convergence loop, one watch task for each tracked child
and one auto-restart task for each crashed port. A step is what one task does between two awaits;
cancelling a task removes it. -/
namespace GridFleet.AppiumManager
open AgentPacks

abbrev Port:=ℕ
abbrev ChildId:=ℕ

/-- What is kept of a start for an auto-restart. `capReleases` are the releases whose adapters have
written into the capabilities. -/
structure LaunchSpec where
 port:Port
 connectionTarget:String
 platformId:String
 packId:String
 packRelease:Option String
 stopPending:Bool
 hostResolution:Bool
 capReleases:List String
 deriving DecidableEq

def LaunchSpec.target (spec:LaunchSpec):String×String:=(spec.connectionTarget,spec.platformId)

structure Child where
 port:Port
 target:String×String
 /-- The return code is not set. -/
 alive:Bool
 ready:Bool
 signalled:Bool

structure Info where
 pid:ChildId
 target:String×String

/-- What a spawn is made from, with the release its caller asked for and the desired list it began
under. -/
structure Spawn where
 spec:LaunchSpec
 env:RuntimeEnv
 worker:Option Worker
 requestedRelease:Option String
 desired:Option (List DesiredPack)
 deriving DecidableEq

inductive Actor where
 | convergence
 | restart (port:Port)
 deriving DecidableEq

inductive Stage where
 | checkingPort (job:Spawn)
 | waitingReady (job:Spawn)(child:ChildId)
 | killing (job:Spawn)(child:ChildId)
 | deletingSessions (port:Port)(child:ChildId)
 | terminating (port:Port)(child:ChildId)

namespace Stage

def port:Stage→Port
 | checkingPort job | waitingReady job _ | killing job _=>job.spec.port
 | deletingSessions port _ | terminating port _=>port
def job:Stage→Option Spawn
 | checkingPort job | waitingReady job _ | killing job _=>some job
 | deletingSessions _ _ | terminating _ _=>none
def child:Stage→Option ChildId
 | checkingPort _=>none
 | waitingReady _ child | killing _ child | deletingSessions _ child | terminating _ child=>some child
end Stage

/-- A start before it has the lock: the hooks of `worker` may be running. -/
structure Resolving where
 launch:LaunchSpec
 release:String
 worker:Option Worker
 deriving DecidableEq

inductive ConvPhase where
 | idle
 | starting (call:Resolving)
 | stopWaiting (port:Port)
 | holding
 | postSession (port:Port)
 deriving DecidableEq

inductive RestartPhase where
 | scheduled
 | backoff
 | starting (call:Resolving)
 | holding
 deriving DecidableEq

structure State where
 packs:Packs
 children:Dict ChildId Child
 procs:Dict Port ChildId
 info:Dict Port Info
 specs:Dict Port LaunchSpec
 watch:Dict Port ChildId
 restarts:Dict Port RestartPhase
 stopPendingPorts:List Port
 intentionalStopPorts:List Port
 holder:Option (Actor×Stage)
 conv:ConvPhase
 /-- The processes that starts have returned, with what they were spawned from. -/
 returned:List (ChildId×Spawn)
 /-- Ports whose last stop has returned and that no start has been called for since. -/
 stopped:List Port

def init:State where
 packs:=Packs.init
 children:=Dict.empty
 procs:=Dict.empty
 info:=Dict.empty
 specs:=Dict.empty
 watch:=Dict.empty
 restarts:=Dict.empty
 stopPendingPorts:=[]
 intentionalStopPorts:=[]
 holder:=none
 conv:=.idle
 returned:=[]
 stopped:=[]

def isAlive (s:State)(child:ChildId):Bool:=(s.children.get child).any Child.alive

/-- `port in self._appium_procs and self._appium_procs[port].returncode is None`. -/
def running (s:State)(port:Port):Bool:=(s.procs.get port).any (isAlive s)

/-- `_running_info_for_target`, over `list_running`. -/
def servedElsewhere (s:State)(port:Port)(target:String×String):Bool:=
 s.info.entries.any fun e=>e.1≠port&&e.2.target=target&&running s e.1

def retainedPackWorkerKeys (s:State):List (String×String):=
 s.specs.entries.filterMap fun e=>e.2.packRelease.map fun release=>(e.2.packId,release)

/-- The bookkeeping of the port and its watch task; who calls it deals with the restart task. -/
def forgetPort (s:State)(port:Port):State:=
 { s with
   watch:=s.watch.pop port
   procs:=s.procs.pop port
   info:=s.info.pop port
   specs:=s.specs.pop port }

inductive Outcome where
 | ok | alreadyRunning | portOccupied | deferred | failed

/-- An auto-restart gives its port up when it is refused, leaves the retry to the convergence loop when
it is deferred, and tries again after any other failure. -/
def conclude (s:State)(actor:Actor)(outcome:Outcome):State:=
 match actor with
 | .convergence=>{s with conv:=.idle}
 | .restart port=>
  match outcome with
  | .ok | .deferred=>{s with restarts:=s.restarts.pop port}
  | .alreadyRunning | .portOccupied=>{forgetPort s port with restarts:=s.restarts.pop port}
  | .failed=>{s with restarts:=s.restarts.set port .scheduled}

def awaitHooks (s:State)(actor:Actor)(call:Resolving):State:=
 match actor with
 | .convergence=>{s with conv:=.starting call}
 | .restart port=>{s with restarts:=s.restarts.set port (.starting call)}

/-- `start` up to its first await. The configured port range does not change, so a port that is
started again is in it again. -/
def resolveStart (s:State)(actor:Actor)(launch:LaunchSpec)(portInRange:Bool):State:=
 if running s launch.port then conclude s actor .alreadyRunning
 else if launch.packId = "" || launch.platformId = "" || !portInRange then conclude s actor .failed
 else
  match s.packs.resolvePackWorker launch.packId launch.packRelease with
  | none=>conclude s actor .deferred
  | some (release,worker)=>
   if launch.hostResolution&&!adapterSupports worker "lifecycle_action" then
    conclude s actor .deferred
   else
    awaitHooks s actor ⟨launch,release,worker⟩

def beginStart (s:State)(actor:Actor)(launch:LaunchSpec)(portInRange:Bool):State:=
 resolveStart {s with stopped:=s.stopped.filter (· ≠ launch.port)} actor launch portInRange
def cancelRestart (s:State)(actor:Actor)(port:Port):State:=
 if actor=.restart port then s else {s with restarts:=s.restarts.pop port}

def launchedSpec (call:Resolving)(resolvedTarget:String):LaunchSpec:=
 { call.launch with
   connectionTarget:=
    if call.launch.hostResolution then resolvedTarget else call.launch.connectionTarget
   packRelease:=some call.release
   capReleases:=call.launch.capReleases ++
    (call.worker.filter fun w=>w.supportedHooks.contains "pre_session").toList.map Worker.release }

def recordSpec (s:State)(spec:LaunchSpec):State:=
 { s with
   specs:=s.specs.set spec.port spec
   intentionalStopPorts:=s.intentionalStopPorts.filter (· ≠ spec.port)
   stopPendingPorts:=
    if spec.stopPending then spec.port::s.stopPendingPorts
    else s.stopPendingPorts.filter (· ≠ spec.port) }

def takeLock (s:State)(actor:Actor)(stage:Stage):State:=
 match actor with
 | .convergence=>{s with holder:=some (actor,stage),conv:=.holding}
 | .restart port=>
  {s with holder:=some (actor,stage),restarts:=s.restarts.set port .holding}

/-- `start` from the lock to the next await: nothing runs in between. -/
def launchLocked (s:State)(actor:Actor)(call:Resolving)(spec:LaunchSpec):State:=
 if running s spec.port||servedElsewhere s spec.port spec.target then
  conclude s actor .alreadyRunning
 else
  match s.packs.resolvePackWorker spec.packId call.launch.packRelease with
  | none=>conclude s actor .deferred
  | some (release,worker)=>
   if release≠call.release||worker.isNone != call.worker.isNone then conclude s actor .deferred
   else
    match s.packs.runtimes.get spec.packId with
    | none=>conclude (recordSpec s spec) actor .failed
    | some (env,_)=>
     takeLock (recordSpec s spec) actor
      (.checkingPort ⟨spec,env,call.worker,call.launch.packRelease,s.packs.desired⟩)

def enterStart (s:State)(actor:Actor)(call:Resolving)(resolvedTarget:String):State:=
 launchLocked (cancelRestart s actor call.launch.port) actor call (launchedSpec call resolvedTarget)
def updateChild (s:State)(child:ChildId)(f:Child→Child):State:=
 {s with children:=s.children.map fun c row=>if c=child then f row else row}
def release (s:State):State:={s with holder:=none}
def spawnChild (s:State)(actor:Actor)(job:Spawn)(child:ChildId):State:=
 { s with
   children:=s.children.set child ⟨job.spec.port,job.spec.target,true,false,false⟩
   holder:=some (actor,.waitingReady job child) }

def registerChild (s:State)(job:Spawn)(child:ChildId):State:=
 { updateChild s child fun row=>{row with ready:=true} with
   procs:=s.procs.set job.spec.port child
   watch:=s.watch.set job.spec.port child
   info:=s.info.set job.spec.port ⟨child,job.spec.target⟩
   stopPendingPorts:=
    if job.spec.stopPending then job.spec.port::s.stopPendingPorts else s.stopPendingPorts
   returned:=(child,job)::s.returned }

def finishStop (s:State)(port:Port):State:=
 { s with
   intentionalStopPorts:=s.intentionalStopPorts.filter (· ≠ port)
   holder:=none
   conv:=.postSession port }

/-- `stop` takes the port off the books before it ends the child. -/
def takeOff (s:State)(port:Port):State:=
 { forgetPort s port with
   restarts:=s.restarts.pop port
   intentionalStopPorts:=port::s.intentionalStopPorts }

/-- `stop` from the lock to its next await. -/
def enterStop (s:State)(port:Port):State:=
 match s.procs.get port with
 | some child=>
  if isAlive s child then takeLock (takeOff s port) .convergence (.deletingSessions port child)
  else finishStop (takeOff s port) port
 | none=>finishStop (takeOff s port) port

def setStopPending (s:State)(port:Port)(stopPending:Bool):State:=
 { s with
   specs:=s.specs.map fun p spec=>if p=port then {spec with stopPending:=stopPending} else spec
   stopPendingPorts:=
    if stopPending then port::s.stopPendingPorts else s.stopPendingPorts.filter (· ≠ port) }

inductive Label where
 | pack (label:Packs.PassLabel)
 | start (launch:LaunchSpec)(portInRange:Bool)
 | stop (port:Port)
 | reconfigure (port:Port)(stopPending:Bool)
 | crash (child:ChildId)
 | watchResumes (port:Port)
 | restartAttempt (port:Port)(canRetry:Bool)
 | restartWakes (port:Port)
 | hookFails (actor:Actor)
 | acquire (actor:Actor)(resolvedTarget:String)
 | portOccupied
 | spawn (child:ChildId)
 | spawnFails
 | childReady
 | childNotReady
 | childKilled
 | stopAcquires
 | stopSignals (transportClosed:Bool)
 | stopReaps
 | stopReturns

def step (s:State):Label→Option State
 | .pack label=>
  (s.packs.passStep (retainedPackWorkerKeys s) label).map fun packs=>{s with packs:=packs}
 | .start launch portInRange=>
  if s.conv=.idle then
   some (beginStart s .convergence {launch with capReleases:=[]} portInRange)
  else none
 | .stop port=>if s.conv=.idle then some {s with conv:=.stopWaiting port} else none
 | .reconfigure port stopPending=>
  if s.conv=.idle∧(s.info.get port).isSome then some (setStopPending s port stopPending) else none
 | .crash child=>
  if isAlive s child then some (updateChild s child fun row=>{row with alive:=false}) else none
 | .watchResumes port=>
  match s.watch.get port with
  | none=>none
  | some child=>
   if isAlive s child then none
   else if s.procs.get port=some child∧port ∉ s.intentionalStopPorts∧
     s.restarts.get port=none then
    some {s with watch:=s.watch.pop port,restarts:=s.restarts.set port .scheduled}
   else some {s with watch:=s.watch.pop port}
 | .restartAttempt port canRetry=>
  if s.restarts.get port=some .scheduled then
   if port∈s.intentionalStopPorts∨port∈s.stopPendingPorts∨canRetry=false then
    some {s with restarts:=s.restarts.pop port}
   else some {s with restarts:=s.restarts.set port .backoff}
  else none
 | .restartWakes port=>
  if s.restarts.get port=some .backoff then
   if port∈s.intentionalStopPorts∨port∈s.stopPendingPorts then
    some {s with restarts:=s.restarts.pop port}
   else
    match s.specs.get port with
    | none=>some {s with restarts:=s.restarts.pop port}
    | some spec=>some (beginStart s (.restart port) spec true)
  else none
 | .hookFails .convergence=>
  match s.conv with
  | .starting _=>some (conclude s .convergence .failed)
  | _=>none
 | .hookFails (.restart port)=>
  match s.restarts.get port with
  | some (.starting _)=>some (conclude s (.restart port) .failed)
  | _=>none
 | .acquire .convergence resolvedTarget=>
  match s.holder,s.conv with
  | none,.starting call=>some (enterStart s .convergence call resolvedTarget)
  | _,_=>none
 | .acquire (.restart port) resolvedTarget=>
  match s.holder,s.restarts.get port with
  | none,some (.starting call)=>some (enterStart s (.restart port) call resolvedTarget)
  | _,_=>none
 | .portOccupied=>
  match s.holder with
  | some (actor,.checkingPort _)=>some (conclude (release s) actor .portOccupied)
  | _=>none
 | .spawn child=>
  match s.holder,s.children.get child with
  | some (actor,.checkingPort job),none=>some (spawnChild s actor job child)
  | _,_=>none
 | .spawnFails=>
  match s.holder with
  | some (actor,.checkingPort _)=>some (conclude (release s) actor .failed)
  | _=>none
 | .childReady=>
  match s.holder with
  | some (actor,.waitingReady job child)=>
   some (conclude (registerChild (release s) job child) actor .ok)
  | _=>none
 | .childNotReady=>
  match s.holder with
  | some (actor,.waitingReady job child)=>
   some {s with holder:=some (actor,.killing job child)}
  | _=>none
 | .childKilled=>
  match s.holder with
  | some (actor,.killing _ child)=>
   if isAlive s child then none else some (conclude (release s) actor .failed)
  | _=>none
 | .stopAcquires=>
  match s.holder,s.conv with
  | none,.stopWaiting port=>some (enterStop s port)
  | _,_=>none
 | .stopSignals transportClosed=>
  match s.holder with
  | some (actor,.deletingSessions port child)=>
   -- once the transport of a dead child is closed the signal raises, out of the lock and the call
   if isAlive s child then some
    { updateChild s child fun row=>{row with signalled:=true} with
      holder:=some (actor,.terminating port child) }
   else if transportClosed then some {release s with conv:=.idle}
   else some {s with holder:=some (actor,.terminating port child)}
  | _=>none
 | .stopReaps=>
  match s.holder with
  | some (_,.terminating port child)=>if isAlive s child then none else some (finishStop s port)
  | _=>none
 | .stopReturns=>
  match s.conv with
  | .postSession port=>some {s with conv:=.idle,stopped:=port::s.stopped}
  | _=>none
end GridFleet.AppiumManager
