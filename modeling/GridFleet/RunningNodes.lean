import GridFleet.Interleaving
/-! A start writes the launch spec before it spawns and the process info once the process is ready; an
entry of a snapshot takes the release from the one and everything else from the other. This is one port
of the process manager: the checks of a start are in `AppiumManager`, the withheld crashes in
`RestartEvents`. -/
namespace GridFleet.RunningNodes
open Interleaving Option

abbrev Pid:=ℕ

structure LaunchSpec where
 connectionTarget:String
 platformId:String
 deviceId:Option ℕ
 packRelease:Option String

structure Info where
 pid:Pid
 connectionTarget:String
 platformId:String
 deviceId:Option ℕ
 startedAt:ℕ

structure Entry extends Info where
 packRelease:Option String
 observationCoalesced:Bool

structure State where
 /-- The return code of the tracked process is not set. -/
 alive:Bool
 info:Option Info
 spec:Option LaunchSpec
 /-- The start that holds the lock and waits for its process to become ready. -/
 starting:Option LaunchSpec
 /-- The first crash of the port is withheld and has not expired. -/
 withheld:Bool
 /-- The starts that have returned, with the process each one spawned and its time. -/
 started:List (Pid×ℕ×LaunchSpec)

def init:State:=⟨false,none,none,none,false,[]⟩

inductive Label where
 | launch (spec:LaunchSpec)
 | ready (pid:Pid)(startedAt:ℕ)
 | notReady
 | exits
 | withhold
 | release
 | forget

def infoOf (old:Option Info)(spec:LaunchSpec)(pid:Pid)(startedAt:ℕ):Info where
 pid:=pid
 connectionTarget:=spec.connectionTarget
 platformId:=spec.platformId
 -- a caller that omits the id does not null an existing one
 deviceId:=spec.deviceId.or (old.bind Info.deviceId)
 startedAt:=startedAt

/-- `launch` is a start under the lock and past its checks, of the convergence loop or of the port's
restart task; `forget` is a stop, or a restart task that gives its port up. -/
def step (s:State):Label→Option State
 | .launch spec=>
  if s.starting=none∧s.alive=false then
   some {s with spec:=some spec,starting:=some spec}
  else none
 | .ready pid startedAt=>
  s.starting.map fun spec=>
   { s with
     alive:=true
     info:=some (infoOf s.info spec pid startedAt)
     starting:=none
     started:=(pid,startedAt,spec)::s.started }
 | .notReady=>s.starting.map fun _=>{s with starting:=none}
 | .exits=>if s.alive then some {s with alive:=false} else none
 | .withhold=>
  if s.alive=false∧s.info.isSome then some {s with withheld:=true} else none
 | .release=>some {s with withheld:=false}
 | .forget=>
  if s.starting=none then
   some {s with alive:=false,info:=none,spec:=none,withheld:=false}
  else none

def processSnapshot (s:State):Option Entry:=
 if s.alive||s.withheld then
  s.info.map fun info=>⟨info,s.spec.bind LaunchSpec.packRelease,!s.alive⟩
 else none

/-- Every field of the entry is from the start that spawned its process. -/
def OneStart (s:State)(entry:Entry):Prop:=
 ∃spec,(entry.pid,entry.startedAt,spec)∈s.started∧
  entry.connectionTarget=spec.connectionTarget∧entry.platformId=spec.platformId∧
  entry.deviceId=spec.deviceId∧entry.packRelease=spec.packRelease

/-- A start names its device, and one that finds a dead process on the books is of the release that is
recorded there. -/
def Successive (s:State):Label→Prop
 | .launch spec=>spec.deviceId.isSome∧
   (s.info.isSome→s.spec.map LaunchSpec.packRelease=some spec.packRelease)
 | .ready _ _ | .notReady | .exits | .withhold | .release | .forget=>True

instance (s:State)(label:Label):Decidable (Successive s label):=by
 cases label <;> unfold Successive <;> infer_instance

structure Inv (s:State):Prop where
 starting:∀spec,s.starting=some spec→s.spec=some spec∧spec.deviceId.isSome
 entry:∀info,s.info=some info→
  OneStart s ⟨info,s.spec.bind LaunchSpec.packRelease,!s.alive⟩

lemma inv_step {s u:State}{label:Label}(h:Inv s)(hguard:Successive s label)
 (hstep:step s label=some u):Inv u:=by
 cases label with
 | launch spec=>
  obtain ⟨-,⟨⟩⟩:=ite_none_right_eq_some.mp hstep
  refine ⟨fun other hother=>?_,fun info hinfo=>?_⟩
  · cases hother
    exact ⟨rfl,hguard.1⟩
  · obtain ⟨first,hmem,hfields⟩:=h.entry info hinfo
    obtain ⟨old,hold,hsame⟩:=
     map_eq_some_iff.mp (hguard.2 (isSome_iff_exists.mpr ⟨info,hinfo⟩))
    simp only[hold,bind_some,hsame] at hfields
    exact ⟨first,hmem,hfields⟩
 | ready pid startedAt=>
  obtain ⟨spec,hstarting,rfl⟩:=map_eq_some_iff.mp hstep
  obtain ⟨hspec,hdevice⟩:=h.starting spec hstarting
  refine ⟨fun other hother=>(by cases hother),fun info hinfo=>?_⟩
  cases hinfo
  refine ⟨spec,List.mem_cons_self,rfl,rfl,?_,by simp[hspec]⟩
  obtain ⟨id,hid⟩:=isSome_iff_exists.mp hdevice
  simp[infoOf,hid]
 | notReady=>
  obtain ⟨-,-,rfl⟩:=map_eq_some_iff.mp hstep
  exact ⟨fun other hother=>(by cases hother),h.entry⟩
 | exits | withhold=>
  obtain ⟨-,⟨⟩⟩:=ite_none_right_eq_some.mp hstep
  exact ⟨h.starting,h.entry⟩
 | release=>
  cases hstep
  exact ⟨h.starting,h.entry⟩
 | forget=>
  obtain ⟨hidle,⟨⟩⟩:=ite_none_right_eq_some.mp hstep
  refine ⟨fun other hother=>?_,fun info hinfo=>(by cases hinfo)⟩
  cases hidle.symm.trans hother

theorem running_node_is_one_process (labels:List Label) (s:State)
 (hrun:run step init labels=some s) (hguard:Guarded Successive step init labels) (entry:Entry)
 (hentry:processSnapshot s=some entry):OneStart s entry:=by
 have hinv:Inv s:=run_invariant_guarded Inv (fun _ _ _ h hg hs=>inv_step h hg hs)
  ⟨fun _ h=>(by cases h),fun _ h=>(by cases h)⟩ hguard hrun
 obtain ⟨-,hentry⟩:=ite_none_right_eq_some.mp hentry
 obtain ⟨info,hinfo,rfl⟩:=map_eq_some_iff.mp hentry
 exact hinv.entry info hinfo

def release (name:String):LaunchSpec:=⟨"00008110", "ios",some 7,some name⟩

/-- The first crash is withheld while the restart of `name` waits for readiness. -/
def restarting (name:String):List Label:=
 [.launch (release "1.0"),.ready 31 5,.exits,.withhold,.launch (release name)]

theorem restarted_phone_is_one_process:∃s entry,run step init (restarting "1.0")=some s∧
 processSnapshot s=some entry∧OneStart s entry:=by
 have hguard:Guarded Successive step init (restarting "1.0"):=by decide
 exact ⟨_,_,rfl,rfl,running_node_is_one_process (restarting "1.0") _ rfl hguard _ rfl⟩

/-- The convergence loop takes the restart over: the dead process is reported under a release it was not
started from. -/
theorem crashed_phone_reports_next_release:∃s entry,
 run step init (restarting "2.0")=some s∧processSnapshot s=some entry∧
 entry.pid=31∧entry.packRelease=some "2.0" ∧ ¬OneStart s entry:=by
 refine ⟨_,_,rfl,rfl,rfl,rfl,?_⟩
 rintro ⟨spec,hmem,-,-,-,hrelease⟩
 cases List.mem_singleton.mp hmem
 exact absurd hrelease (by decide)
end GridFleet.RunningNodes
