import GridFleet.Dict
import Mathlib.Data.List.Sort
/-! One pass takes every desired spec to the process on its port and then stops what runs on no desired
port. A spec reads and writes the entry of its own port only. -/
namespace GridFleet.NodeStateLoop
open Dict List

abbrev Port:=ℕ
abbrev NodeId:=ℕ

structure Flags where
 acceptingNewSessions:Bool
 stopPending:Bool
 gridRunId:Option ℕ
 deriving DecidableEq

structure Launch where
 connectionTarget:String
 platformId:String
 realDevice:Bool
 requestsHostResolution:Bool
 flags:Flags

inductive DesiredState where
 | running
 | stopped
 | unsupported (name:String)

structure Spec where
 deviceId:NodeId
 desiredState:DesiredState
 port:Port
 flags:Flags
 restartRequestedAt:Option ℤ
 launch:Option Launch

structure Proc where
 deviceId:NodeId
 connectionTarget:String
 platformId:String
 startedAt:ℤ
 flags:Flags

inductive StopReason where
 | desiredStopped
 | needsRestart
 | orphan
 deriving DecidableEq

inductive Call where
 | stop (reason:StopReason)
 | start
 | reconfigure (flags:Flags)
 deriving DecidableEq

/-- What a start of the pass meets: the target the host resolves and the agent's clock once the process
is ready, or no process at all. -/
abbrev Host:=Spec→Option (String×ℤ)

def Launch.hostResolvesTarget (launch:Launch):Bool:=
 !launch.realDevice&&launch.requestsHostResolution
def targetChanged (launch:Launch)(found:Proc):Bool:=
 found.connectionTarget≠launch.connectionTarget||found.platformId≠launch.platformId
def needsRestart (watermark:Option ℤ)(launch:Launch)(found:Proc):Bool:=
 watermark.any (found.startedAt < ·)||
  (targetChanged launch found&&!launch.hostResolvesTarget)

def start (host:Host)(spec:Spec)(launch:Launch):Option Proc:=
 (host spec).map fun answer=>
  { deviceId:=spec.deviceId
    connectionTarget:=
     if launch.requestsHostResolution then answer.1 else launch.connectionTarget
    platformId:=launch.platformId
    startedAt:=answer.2
    flags:=launch.flags }

def convergeSpec (host:Host)(spec:Spec)(found:Option Proc):Option Proc×List Call:=
 match spec.desiredState,spec.launch,found with
 | .stopped,_,none=>(none,[])
 | .stopped,_,some _=>(none,[.stop .desiredStopped])
 | .unsupported _,_,found=>(found,[])
 | .running,none,found=>(found,[])
 | .running,some launch,none=>(start host spec launch,[.start])
 | .running,some launch,some proc=>
  if needsRestart spec.restartRequestedAt launch proc then
   (start host spec launch,[.stop .needsRestart,.start])
  else if proc.flags≠spec.flags then
   (some {proc with flags:=spec.flags},[.reconfigure spec.flags])
  else (some proc,[])

def put (running:Dict Port Proc)(port:Port):Option Proc→Dict Port Proc
 | none=>running.pop port
 | some proc=>running.set port proc
def convergeSpecs (host:Host):List Spec→Dict Port Proc→Dict Port Proc×List (Port×Call)
 | [],running=>(running,[])
 | spec::rest,running=>
  let now:=convergeSpec host spec (running.get spec.port)
  let later:=convergeSpecs host rest (put running spec.port now.1)
  (later.1,now.2.map (spec.port,·)++later.2)
def orphans (desired:List Spec)(running:Dict Port Proc):List Port:=
 (running.keys.filter fun port=>port ∉ desired.map Spec.port).insertionSort (· ≤ ·)
def runOnce (host:Host)(desired:List Spec)(running:Dict Port Proc):Dict Port Proc×List (Port×Call):=
 let converged:=convergeSpecs host desired running
 ((orphans desired converged.1).foldl Dict.pop converged.1,
  converged.2++(orphans desired converged.1).map (·,Call.stop .orphan))
def callsOn (port:Port)(calls:List (Port×Call)):List Call:=
 (calls.filter fun call=>call.1=port).map Prod.snd

section
variable {host:Host}{specs:List Spec}{running:Dict Port Proc}{spec:Spec}{port:Port}

lemma get_put (port other:Port)(proc:Option Proc):
 (put running port proc).get other=if other=port then proc else running.get other:=by
 cases proc <;> simp[put,get_pop,get_set]
lemma callsOn_append (a b:List (Port×Call)):callsOn port (a++b)=callsOn port a++callsOn port b:=by
 simp[callsOn]
lemma callsOn_map (other:Port)(calls:List Call):
 callsOn port (calls.map (other,·))=if other=port then calls else []:=by
 induction calls <;> simp_all [callsOn]
 split <;> simp_all
lemma convergeSpecs_of_notMem (h:port ∉ specs.map Spec.port):
 (convergeSpecs host specs running).1.get port=running.get port∧
  callsOn port (convergeSpecs host specs running).2=[]:=by
 induction specs generalizing running with
 | nil=>exact ⟨rfl,rfl⟩
 | cons first rest ih=>
  obtain ⟨hne,hrest⟩:=not_or.mp (mt mem_cons.mpr h)
  simp[convergeSpecs,ih hrest,get_put,hne,callsOn_append,callsOn_map,Ne.symm hne]
lemma convergeSpecs_of_mem (hports:(specs.map Spec.port).Nodup)(hmem:spec∈specs):
 (convergeSpecs host specs running).1.get spec.port =
   (convergeSpec host spec (running.get spec.port)).1∧
  callsOn spec.port (convergeSpecs host specs running).2 =
   (convergeSpec host spec (running.get spec.port)).2:=by
 induction specs generalizing running with
 | nil=>cases hmem
 | cons first rest ih=>
  obtain ⟨hnew,hrest⟩:=nodup_cons.mp hports
  rcases mem_cons.mp hmem with rfl|hmem
  · simp[convergeSpecs,convergeSpecs_of_notMem hnew,get_put,callsOn_append,callsOn_map]
  · have hne:first.port≠spec.port:=fun heq=>hnew (heq ▸ mem_map_of_mem hmem)
    simp[convergeSpecs,ih hrest hmem,get_put,hne.symm,callsOn_append,callsOn_map,hne]
lemma get_foldl_pop (ports:List Port):
 (ports.foldl Dict.pop running).get port=if port∈ports then none else running.get port:=by
 induction ports generalizing running with
 | nil=>rfl
 | cons first rest ih=>
  rw[foldl_cons,ih,get_pop]
  by_cases hfirst:port=first <;> by_cases hrest:port∈rest <;> simp[hfirst,hrest]
lemma mem_orphans:port∈orphans specs running↔
 (∃proc,running.get port=some proc)∧port ∉ specs.map Spec.port:=by
 simp[orphans,Dict.mem_keys]
lemma runOnce_of_mem (host:Host)(running:Dict Port Proc)
 (hports:(specs.map Spec.port).Nodup)(hmem:spec∈specs):
 (runOnce host specs running).1.get spec.port = (convergeSpec host spec (running.get spec.port)).1∧
  callsOn spec.port (runOnce host specs running).2 =
   (convergeSpec host spec (running.get spec.port)).2:=by
 have hkept (running:Dict Port Proc):spec.port ∉ orphans specs running:=
  fun horphan=>(mem_orphans.mp horphan).2 (mem_map_of_mem hmem)
 have hnone (running:Dict Port Proc):
   callsOn spec.port ((orphans specs running).map (·,Call.stop .orphan))=[]:=by
  simp only[callsOn,map_eq_nil_iff,filter_eq_nil_iff,forall_mem_map]
  intro port horphan heq
  exact hkept running (decide_eq_true_eq.mp heq ▸ horphan)
 simp[runOnce,get_foldl_pop,hkept,callsOn_append,hnone,convergeSpecs_of_mem hports hmem]
lemma runOnce_of_notMem (h:port ∉ specs.map Spec.port):
 (runOnce host specs running).1.get port=none:=by
 cases hget:(convergeSpecs host specs running).1.get port with
 | none=>simp[runOnce,get_foldl_pop,hget]
 | some proc=>
  have horphan:=mem_orphans.mpr ⟨⟨proc,hget⟩,h⟩
  simp[runOnce,get_foldl_pop,horphan]
end

def Placed (desired:List Spec)(port:Port)(proc:Proc):Prop:=
 ∃spec∈desired,spec.port=port∧(spec.desiredState=.running∨spec.launch=none)∧
  (spec.desiredState=.running→spec.launch.isSome→proc.deviceId=spec.deviceId)

/-- The pass keeps the process of the spec's own device and ends that of any other. -/
def Settled (spec:Spec)(launch:Launch)(found:Proc):Prop:=
 match spec.desiredState with
 | .running=>found.deviceId=spec.deviceId∨needsRestart spec.restartRequestedAt launch found
 | .stopped=>True
 | .unsupported _=>False

lemma deviceId_start {host:Host}{spec:Spec}{launch:Launch}{proc:Proc}
 (h:start host spec launch=some proc):proc.deviceId=spec.deviceId:=by
 obtain ⟨answer,-,rfl⟩:=Option.map_eq_some_iff.mp h
 rfl
lemma convergeSpec_placed (host:Host)(spec:Spec)(found:Option Proc):
 (∀proc,(convergeSpec host spec found).1=some proc→(spec.desiredState=.running∨spec.launch=none)∧
    (spec.desiredState=.running→spec.launch.isSome→proc.deviceId=spec.deviceId))↔
  ∀launch proc,spec.launch=some launch→found=some proc→Settled spec launch proc:=by
 cases hlaunch:spec.launch with
 | none=>simp
 | some launch=>
  cases hstate:spec.desiredState with
  | stopped | unsupported=>cases found <;> simp[convergeSpec,Settled,hstate,hlaunch]
  | running=>
   have hstart:=fun proc=>@deviceId_start host spec launch proc
   cases found with
   | none=>simpa[convergeSpec,hstate,hlaunch] using hstart
   | some proc=>
    by_cases hrestart:needsRestart spec.restartRequestedAt launch proc
    · simpa[convergeSpec,Settled,hstate,hlaunch,hrestart] using hstart
    · by_cases hflags:proc.flags=spec.flags <;>
       simp[convergeSpec,Settled,hstate,hlaunch,hrestart,hflags]

theorem runOnce_gives_ports_iff (host:Host) (desired:List Spec) (running:Dict Port Proc)
 (hports:(desired.map Spec.port).Nodup):
 (∀port proc,(runOnce host desired running).1.get port=some proc→Placed desired port proc)↔
  ∀spec∈desired,∀launch found,spec.launch=some launch→
   running.get spec.port=some found→ Settled spec launch found:=by
 constructor
 · intro h spec hmem
   apply (convergeSpec_placed host spec _).mp
   intro proc hproc
   obtain ⟨other,hother,hport,hplaced⟩:=
    h spec.port proc ((runOnce_of_mem host running hports hmem).1.trans hproc)
   rwa [inj_on_of_nodup_map hports hother hmem hport] at hplaced
 · intro h port proc hget
   by_cases hport:port∈desired.map Spec.port
   · obtain ⟨spec,hmem,rfl⟩:=mem_map.mp hport
     rw[(runOnce_of_mem host running hports hmem).1] at hget
     exact ⟨spec,hmem,rfl,(convergeSpec_placed host spec _).mpr (h spec hmem) proc hget⟩
   · rw[runOnce_of_notMem hport] at hget
     cases hget

def emulatorLaunch:Launch:=⟨"Pixel_6", "android",false,true,⟨true,false,none⟩⟩
def emulatorProc (deviceId:NodeId):Dict Port Proc:=
 .ofList [(4723,⟨deviceId, "emulator-5554", "android",5,emulatorLaunch.flags⟩)]
def emulatorSpec:Spec:=⟨1,.running,4723,emulatorLaunch.flags,none,some emulatorLaunch⟩

theorem own_emulator_keeps_port:(∀port proc,
 (runOnce (fun _=>none) [emulatorSpec] (emulatorProc 1)).1.get port=some proc→
  Placed [emulatorSpec] port proc)↔∀spec∈[emulatorSpec],∀launch found,
   spec.launch=some launch→(emulatorProc 1).get spec.port=some found→
   Settled spec launch found:=
 runOnce_gives_ports_iff _ _ _ (nodup_singleton _)

/-- Device 2 was deleted and its port recycled: its emulator goes on serving device 1. -/
theorem recycled_port_keeps_process:∃proc,
 (runOnce (fun _=>none) [emulatorSpec] (emulatorProc 2)).1.get 4723=some proc∧
 proc.deviceId=2:=
 ⟨_,rfl,rfl⟩

structure Pass where
 host:Host
 desired:List Spec

def runPasses:List Pass→Dict Port Proc→Dict Port Proc×List (Port×Call)
 | [],running=>(running,[])
 | pass::rest,running=>
  let now:=runOnce pass.host pass.desired running
  let later:=runPasses rest now.1
  (later.1,now.2++later.2)
def restartsOn (port:Port)(calls:List (Port×Call)):ℕ:=
 (callsOn port calls).count (.stop .needsRestart)

lemma restartsOn_append (port:Port)(a b:List (Port×Call)):
 restartsOn port (a++b)=restartsOn port a+restartsOn port b:=by
 simp[restartsOn,callsOn_append]

section
variable (pass:Pass)(port:Port)(launch:Launch)(watermark:ℤ)

/-- The pass desires the node of the port running, with this launch payload and watermark. -/
def Pass.Keeps:Prop:=
 (pass.desired.map Spec.port).Nodup∧∃spec∈pass.desired,spec.port=port∧
  spec.desiredState=.running∧spec.launch=some launch∧spec.restartRequestedAt=some watermark

/-- A process the pass starts there is stamped no earlier than the watermark, and a real device whose
target the host resolves gets the target it is launched with. -/
def Pass.Disarms:Prop:=
 ∀spec∈pass.desired,spec.port=port→∀answer,pass.host spec=some answer→
  watermark≤answer.2∧(launch.realDevice→launch.requestsHostResolution→
   answer.1=launch.connectionTarget)

def Disarmed (proc:Option Proc):Prop:=
 ∀found,proc=some found→needsRestart (some watermark) launch found=false

variable {pass port launch watermark}{spec:Spec}

lemma disarmed_start {host:Host}(h:∀answer,host spec=some answer→watermark≤answer.2∧
  (launch.realDevice→launch.requestsHostResolution→answer.1=launch.connectionTarget)):
 Disarmed launch watermark (start host spec launch):=by
 intro found hfound
 obtain ⟨answer,hanswer,rfl⟩:=Option.map_eq_some_iff.mp hfound
 obtain ⟨hclock,htarget⟩:=h answer hanswer
 simp only[needsRestart,targetChanged,Launch.hostResolvesTarget]
 cases hreal:launch.realDevice <;> cases hresolves:launch.requestsHostResolution <;>
  simp_all
lemma runOnce_restarts (hkeeps:pass.Keeps port launch watermark)
 (hdisarms:pass.Disarms port launch watermark)(running:Dict Port Proc):
 Disarmed launch watermark ((runOnce pass.host pass.desired running).1.get port)∧
  restartsOn port (runOnce pass.host pass.desired running).2≤1∧
  (Disarmed launch watermark (running.get port)→
   restartsOn port (runOnce pass.host pass.desired running).2=0):=by
 obtain ⟨hports,spec,hmem,rfl,hstate,hlaunch,hwatermark⟩:=hkeeps
 obtain ⟨hget,hcalls⟩:=runOnce_of_mem pass.host running hports hmem
 have hstart:=disarmed_start (hdisarms spec hmem rfl)
 rw[hget,restartsOn,hcalls]
 cases running.get spec.port with
 | none=>simpa[convergeSpec,hstate,hlaunch] using hstart
 | some proc=>
  cases hrestart:needsRestart (some watermark) launch proc with
  | true=>simpa[convergeSpec,hstate,hlaunch,hwatermark,hrestart,Disarmed] using hstart
  | false=>
   have hflags:needsRestart (some watermark) launch {proc with flags:=spec.flags}=false:=by
    simpa[needsRestart,targetChanged] using hrestart
   by_cases hsame:proc.flags=spec.flags <;>
    simp[convergeSpec,hstate,hlaunch,hwatermark,hrestart,hsame,Disarmed,hflags]
lemma runPasses_restarts {passes:List Pass}(running:Dict Port Proc)
 (h:∀pass∈passes,pass.Keeps port launch watermark∧pass.Disarms port launch watermark):
 restartsOn port (runPasses passes running).2≤1∧
  (Disarmed launch watermark (running.get port)→ restartsOn port (runPasses passes running).2=0)∧
  (passes≠[]∨Disarmed launch watermark (running.get port)→
   Disarmed launch watermark ((runPasses passes running).1.get port)):=by
 induction passes generalizing running with
 | nil=>simp[runPasses,restartsOn,callsOn]
 | cons pass rest ih=>
  obtain ⟨hkeeps,hdisarms⟩:=h pass mem_cons_self
  obtain ⟨hdisarmed,hone,hzero⟩:=runOnce_restarts hkeeps hdisarms running
  obtain ⟨-,hrest,hlast⟩:=ih (runOnce pass.host pass.desired running).1
   fun other hother=>h other (mem_cons_of_mem _ hother)
  simp only[runPasses,restartsOn_append,hrest hdisarmed,Nat.add_zero]
  exact ⟨hone,hzero,fun _=>hlast (.inr hdisarmed)⟩

theorem watermark_restarts_once (port:Port) (launch:Launch) (watermark:ℤ) (passes:List Pass)
 (running:Dict Port Proc)
 (h:∀pass∈passes,pass.Keeps port launch watermark∧pass.Disarms port launch watermark):
 restartsOn port (runPasses passes running).2≤1∧
  ∀(further:Pass) (spec:Spec) (found:Proc),passes≠[]→(further.desired.map Spec.port).Nodup→
   spec∈further.desired→ spec.port=port→ spec.desiredState=.running→
   spec.launch=some launch→ spec.restartRequestedAt=some watermark→
   (runPasses passes running).1.get port=some found→ found.flags=spec.flags→
   callsOn port (runOnce further.host further.desired (runPasses passes running).1).2=[]:=by
 obtain ⟨hone,-,hdisarmed⟩:=runPasses_restarts running h
 refine ⟨hone,?_⟩
 rintro further spec found hpasses hports hmem rfl hstate hlaunch hwatermark hfound hflags
 rw[(runOnce_of_mem further.host _ hports hmem).2,hfound]
 simp[convergeSpec,hstate,hlaunch,hwatermark,hdisarmed (.inl hpasses) found hfound,hflags]
end

/-- One spec a pass, for device 1 on port 4723, with the target the host resolves and the agent's clock. -/
def passOf (launch:Launch)(watermark:Option ℤ)(answer:String×ℤ):Pass where
 host:=fun _=>some answer
 desired:=[⟨1,.running,4723,launch.flags,watermark,some launch⟩]

def phoneLaunch:Launch:=⟨"00008110", "ios",true,false,⟨true,false,none⟩⟩
def phoneProc (deviceId:NodeId)(startedAt:ℤ):Dict Port Proc:=
 .ofList [(4723,⟨deviceId, "00008110", "ios",startedAt,phoneLaunch.flags⟩)]

theorem phone_restarted_once:
 restartsOn 4723 (runPasses [passOf phoneLaunch (some 100) ("",101),
  passOf phoneLaunch (some 100) ("",106)] (phoneProc 1 80)).2≤1:=by
 refine (watermark_restarts_once 4723 phoneLaunch 100 _ _ ?_).1
 simp[Pass.Keeps,Pass.Disarms,passOf,phoneLaunch]

/-- The agent's clock is ten seconds behind: passes at 100 and 105 both restart the node. The third
pair of passes has a clock that is right, and a real device whose target the host resolves. -/
theorem watermark_restarts_again:
 restartsOn 4723 (runPasses [passOf phoneLaunch (some 100) ("",91),
  passOf phoneLaunch (some 100) ("",96)] (phoneProc 1 80)).2=2∧
 restartsOn 4723 (runPasses [passOf {phoneLaunch with requestsHostResolution:=true} (some 100)
   ("serial",101),passOf {phoneLaunch with requestsHostResolution:=true} (some 100)
   ("serial",106)] (phoneProc 1 80)).2=2:=by
 decide
end GridFleet.NodeStateLoop
