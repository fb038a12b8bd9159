import GridFleet.Dict
/-! The pack loop of an agent publishes the desired list first, then installs runtimes, loads adapters
and reaps what is no longer wanted, with awaits in between. A node start binds to what the registries
hold at one moment, or is deferred. -/
namespace GridFleet.AgentPacks
open Dict Option

structure DesiredPlatform where
 id:String
 declaresLifecycle:Bool
 deriving DecidableEq

structure DesiredPack where
 id:String
 release:String
 tarballSha256:Option String
 platforms:List DesiredPlatform
 deriving DecidableEq

namespace DesiredPack

def key (pack:DesiredPack):String×String:=(pack.id,pack.release)
def hasTarball (pack:DesiredPack):Bool:=pack.tarballSha256.any (· ≠ "")
def hasAdapterPlatform (pack:DesiredPack):Bool:=!pack.platforms.isEmpty
def declaredAdapterHooks (pack:DesiredPack):List String:=
 if pack.platforms.any (·.declaresLifecycle) then ["lifecycle_action"] else []
end DesiredPack

/-- An installed runtime, with the pack release it was installed for. -/
structure RuntimeEnv where
 packId:String
 release:String
 runtimeId:String
 appiumBin:String
 deriving DecidableEq

structure Worker where
 id:ℕ
 packId:String
 release:String
 supportedHooks:List String
 deriving DecidableEq

def adapterSupports (worker:Option Worker)(hook:String):Bool:=
 worker.any fun w=>w.supportedHooks.contains hook

/-- Where the pack loop stands; each constructor is an await of `run_once`. -/
inductive Pass where
 | idle
 | installing (packs:List DesiredPack)
 | configuring (packs:List DesiredPack)(todo:List (DesiredPack×RuntimeEnv))
 | loading (packs:List DesiredPack)(pack:DesiredPack)(todo:List (DesiredPack×RuntimeEnv))
 | sweeping (packs:List DesiredPack)(keys:List (String×String))

/-- The packs that the pass has an environment for and has not come to yet. -/
def Pass.todo:Pass→List (DesiredPack×RuntimeEnv)
 | configuring _ todo | loading _ _ todo=>todo
 | idle | installing _ | sweeping _ _=>[]

structure Packs where
 desired:Option (List DesiredPack)
 runtimes:Dict String (RuntimeEnv×String)
 workers:Dict (String×String) Worker
 current:Dict String String
 adapterless:List (String×String)
 pass:Pass

namespace Packs

def init:Packs where
 desired:=none
 runtimes:=Dict.empty
 workers:=Dict.empty
 current:=Dict.empty
 adapterless:=[]
 pass:=.idle

def releaseForPack (p:Packs)(packId:String):Option String:=(p.runtimes.get packId).map Prod.snd
def getCurrent (p:Packs)(packId:String):Option Worker:=
 (p.current.get packId).bind fun release=>p.workers.get (packId,release)
def desiredPack (packs:List DesiredPack)(packId:String):Option DesiredPack:=
 packs.find? fun pack=>pack.id=packId

/-- The release and worker a start binds to; `none` defers it. -/
def resolvePackWorker (p:Packs)(packId:String)(requestedRelease:Option String):
 Option (String×Option Worker):=
 match p.desired with
 | none=>
  match p.getCurrent packId with
  | none=>none
  | some handle=>
   if requestedRelease.any (· ≠ handle.release) then none else some (handle.release,some handle)
 | some packs=>
  match desiredPack packs packId with
  | none=>none
  | some desired=>
   if requestedRelease.any (· ≠ desired.release) then none
   else if p.releaseForPack packId≠some desired.release then none
   else if !(desired.hasTarball&&desired.hasAdapterPlatform)||
     p.adapterless.contains (packId,desired.release) then
    if desired.declaredAdapterHooks.isEmpty then some (desired.release,none) else none
   else (p.workers.get (packId,desired.release)).map fun handle=>(desired.release,some handle)

inductive LoadResult where
 | failed
 | adapterless
 | loaded (id:ℕ)(supportedHooks:List String)

inductive PassLabel where
 | fetch (packs:List DesiredPack)
 | reconcile (installed:List (String×String×String))
 | setRuntime
 | load (result:LoadResult)
 | purge
 | reap
 | done
 | abort
 | rebuild

/-- A pack listed twice is configured as its last entry says. -/
def packById (packs:List DesiredPack):Dict String DesiredPack:=
 Dict.ofList (packs.map fun pack=>(pack.id,pack))

def envByPack (packs:List DesiredPack)(installed:List (String×String×String)):
 List (DesiredPack×RuntimeEnv):=
 (packById packs).entries.filterMap fun e=>
  (installed.find? fun entry=>entry.1=e.1).map fun entry=>
   (e.2,⟨e.2.id,e.2.release,entry.2.1,entry.2.2⟩)
def setForPack (p:Packs)(pack:DesiredPack)(env:RuntimeEnv):Packs:=
 {p with runtimes:=p.runtimes.set pack.id (env,pack.release)}

/-- A pack without tarball has nothing to load; a worker or a mark that exists is kept. -/
def loadAdapter (p:Packs)(pack:DesiredPack)(result:LoadResult):Packs:=
 if pack.hasAdapterPlatform&&(p.workers.get pack.key).isNone&&
   !p.adapterless.contains pack.key&&pack.hasTarball then
  match result with
  | .failed=>p
  | .adapterless=>{p with adapterless:=pack.key::p.adapterless}
  | .loaded id supportedHooks=>
   { p with
     workers:=p.workers.set pack.key ⟨id,pack.id,pack.release,supportedHooks⟩
     current:=p.current.set pack.id pack.release
     adapterless:=p.adapterless.filter (· ≠ pack.key) }
 else p

def removeWorker (p:Packs)(key:String×String):Packs:=
 { p with
   workers:=p.workers.pop key
   current:=if p.current.get key.1=some key.2 then p.current.pop key.1 else p.current
   adapterless:=p.adapterless.filter (· ≠ key) }
def desiredKeys (packs:List DesiredPack):List (String×String):=
 (packs.filter DesiredPack.hasAdapterPlatform).map DesiredPack.key

/-- `retained` are the releases that launch specs pin. -/
def passStep (p:Packs)(retained:List (String×String)):PassLabel→Option Packs
 | .fetch packs=>
  match p.pass with
  | .idle=>some {p with desired:=some packs,pass:=.installing packs}
  | _=>none
 | .reconcile installed=>
  match p.pass with
  | .installing packs=>some {p with pass:=.configuring packs (envByPack packs installed)}
  | _=>none
 | .setRuntime=>
  match p.pass with
  | .configuring packs ((pack,env)::todo)=>
   some {p.setForPack pack env with pass:=.loading packs pack todo}
  | _=>none
 | .load result=>
  match p.pass with
  | .loading packs pack todo=>some {p.loadAdapter pack result with pass:=.configuring packs todo}
  | _=>none
 | .purge=>
  match p.pass with
  | .configuring packs []=>some
   { p with
     runtimes:=p.runtimes.filter fun packId _=>packs.any fun pack=>pack.id=packId
     pass:=.sweeping packs (p.workers.keys.filter fun key=>
      !(desiredKeys packs).contains key&&!retained.contains key) }
  | _=>none
 | .reap=>
  match p.pass with
  | .sweeping packs (key::keys)=>some {p.removeWorker key with pass:=.sweeping packs keys}
  | _=>none
 | .done=>
  match p.pass with
  | .sweeping packs []=>some
   { p with
     adapterless:=p.adapterless.filter fun key=>(desiredKeys packs).contains key
     pass:=.idle }
  | _=>none
 | .abort=>some {p with pass:=.idle}
 | .rebuild=>some {p with desired:=none,pass:=.idle}

structure Stamped (p:Packs):Prop where
 runtimes:∀packId env release,p.runtimes.get packId=some (env,release)→
  env.packId=packId∧env.release=release
 workers:∀key worker,p.workers.get key=some worker→(worker.packId,worker.release)=key
 todo:∀e∈p.pass.todo,e.2.packId=e.1.id∧e.2.release=e.1.release

lemma stamped_init:Stamped init:=
 ⟨fun _ _ _ hget=>(by cases hget),fun _ _ hget=>(by cases hget),fun _ he=>(by cases he)⟩
lemma mem_envByPack {packs:List DesiredPack}{installed:List (String×String×String)}
 {e:DesiredPack×RuntimeEnv}(h:e∈envByPack packs installed):
 e.2.packId=e.1.id∧e.2.release=e.1.release:=by
 obtain ⟨entry,-,hmap⟩:=List.mem_filterMap.mp h
 obtain ⟨found,-,rfl⟩:=map_eq_some_iff.mp hmap
 exact ⟨rfl,rfl⟩

section
variable {p:Packs}

lemma Stamped.of_registries {q:Packs}(h:Stamped p)(hruntimes:q.runtimes=p.runtimes)
 (hworkers:q.workers=p.workers)
 (htodo:∀e∈q.pass.todo,e.2.packId=e.1.id∧e.2.release=e.1.release):Stamped q:=
 ⟨hruntimes ▸ h.runtimes,hworkers ▸ h.workers,htodo⟩
lemma Stamped.loadAdapter (h:Stamped p)(pack:DesiredPack)(result:LoadResult):
 ∀key worker,(p.loadAdapter pack result).workers.get key=some worker→
  (worker.packId,worker.release)=key:=by
 intro key worker hget
 unfold Packs.loadAdapter at hget
 split at hget
 · split at hget
   · exact h.workers key worker hget
   · exact h.workers key worker hget
   · rcases get_set_eq_some hget with ⟨rfl,rfl⟩|⟨-,hold⟩
     · rfl
     · exact h.workers key worker hold
 · exact h.workers key worker hget
lemma runtimes_loadAdapter (pack:DesiredPack)(result:LoadResult):
 (p.loadAdapter pack result).runtimes=p.runtimes:=by
 unfold Packs.loadAdapter
 split
 · split <;> rfl
 · rfl

lemma stamped_passStep {q:Packs}{retained:List (String×String)}{label:PassLabel}
 (h:Stamped p)(hstep:p.passStep retained label=some q):Stamped q:=by
 cases label with simp only[passStep] at hstep
 | fetch | done=>
  split at hstep
  · cases hstep
    exact h.of_registries rfl rfl fun e he=>(by cases he)
  · cases hstep
 | reconcile=>
  split at hstep
  · cases hstep
    exact h.of_registries rfl rfl fun e he=>mem_envByPack he
  · cases hstep
 | setRuntime=>
  split at hstep
  · rename_i packs pack env todo hpass
    cases hstep
    have htodo:∀e∈(pack,env)::todo,e.2.packId=e.1.id∧e.2.release=e.1.release:=by
     intro e he
     exact h.todo e (by rw[hpass];exact he)
    refine ⟨?_,h.workers,fun e he=>htodo e (List.mem_cons_of_mem _ he)⟩
    intro packId stored release hget
    rcases get_set_eq_some hget with ⟨rfl,heq⟩|⟨-,hold⟩
    · cases heq
      exact htodo (pack,env) List.mem_cons_self
    · exact h.runtimes packId stored release hold
  · cases hstep
 | load result=>
  split at hstep
  · rename_i packs pack todo hpass
    cases hstep
    refine ⟨?_,h.loadAdapter pack result,fun e he=>h.todo e (by rw[hpass];exact he)⟩
    intro packId env release hget
    exact h.runtimes packId env release (runtimes_loadAdapter pack result ▸ hget)
  · cases hstep
 | purge=>
  split at hstep
  · cases hstep
    refine ⟨?_,h.workers,fun e he=>(by cases he)⟩
    intro packId env release hget
    rw[Dict.get_filter] at hget
    exact h.runtimes packId env release (filter_eq_some_iff.mp hget).1
  · cases hstep
 | reap=>
  split at hstep
  · cases hstep
    refine ⟨h.runtimes,?_,fun e he=>(by cases he)⟩
    intro key worker hget
    exact h.workers key worker (get_pop_eq_some hget).2
  · cases hstep
 | abort | rebuild=>
  cases hstep
  exact h.of_registries rfl rfl fun e he=>(by cases he)

structure Resolved (p:Packs)(packId:String)(requested:Option String)(release:String)
  (worker:Option Worker):Prop where
 worker:∀w∈worker,w.packId=packId∧w.release=release
 requested:∀r∈requested,r=release
 desired:∀packs,p.desired=some packs→
  (desiredPack packs packId).map DesiredPack.release=some release∧
   p.releaseForPack packId=some release

lemma resolved_of_resolvePackWorker (h:Stamped p){packId release:String}
 {requested:Option String}{worker:Option Worker}
 (hresolve:p.resolvePackWorker packId requested=some (release,worker)):
 Resolved p packId requested release worker:=by
 unfold resolvePackWorker at hresolve
 split at hresolve
 · rename_i hunknown
   split at hresolve
   · cases hresolve
   rename_i handle hcurrent
   split at hresolve
   · cases hresolve
   rename_i hrequested
   cases hresolve
   obtain ⟨current,-,hget⟩:=bind_eq_some_iff.mp hcurrent
   have hkey:=h.workers _ _ hget
   refine ⟨?_,?_,?_⟩
   · rintro w hw
     cases hw
     exact ⟨(Prod.mk.inj hkey).1,rfl⟩
   · rintro r hr
     cases hr
     simpa using hrequested
   · intro packs hknown
     cases hunknown.symm.trans hknown
 · rename_i packs hknown
   split at hresolve
   · cases hresolve
   rename_i desired hdesired
   split at hresolve
   · cases hresolve
   rename_i hrequested
   split at hresolve
   · cases hresolve
   rename_i hruntime
   have hrequest:∀r∈requested,r=desired.release:=by
    rintro r hr
    cases hr
    simpa using hrequested
   have hlist:∀other,p.desired=some other→
     (desiredPack other packId).map DesiredPack.release=some desired.release∧
      p.releaseForPack packId=some desired.release:=by
    intro other hother
    cases hknown.symm.trans hother
    rw[hdesired]
    exact ⟨rfl,not_not.mp hruntime⟩
   split at hresolve
   · split at hresolve
     · cases hresolve
       exact ⟨fun w hw=>(by cases hw),hrequest,hlist⟩
     · cases hresolve
   · obtain ⟨handle,hget,heq⟩:=map_eq_some_iff.mp hresolve
     cases heq
     have hkey:=h.workers _ _ hget
     refine ⟨?_,hrequest,hlist⟩
     rintro w hw
     cases hw
     exact Prod.mk.inj hkey
end

lemma desired_loadAdapter (p:Packs)(pack:DesiredPack)(result:LoadResult):
 (p.loadAdapter pack result).desired=p.desired:=by
 unfold loadAdapter
 split
 · split <;> rfl
 · rfl

lemma desired_passStep {p q:Packs}{retained:List (String×String)}{label:PassLabel}
 (hlabel:label ≠ .rebuild)(hstep:p.passStep retained label=some q):
 q.desired=p.desired∨q.desired≠none:=by
 cases label with simp only[passStep] at hstep
 | fetch packs=>
  split at hstep
  · cases hstep
    exact .inr (some_ne_none packs)
  · cases hstep
 | load result=>
  split at hstep
  · cases hstep
    exact .inl (desired_loadAdapter p _ result)
  · cases hstep
 | reconcile | setRuntime | purge | reap | done=>
  split at hstep
  · cases hstep
    exact .inl rfl
  · cases hstep
 | abort=>
  cases hstep
  exact .inl rfl
 | rebuild=>exact absurd rfl hlabel

def Unfetched (p:Packs):Prop:=
 p.desired=none→p.pass=.idle∧∀key,p.workers.get key=none

lemma unfetched_init:Unfetched init:=fun _=>⟨rfl,fun _=>rfl⟩
lemma unfetched_passStep {p q:Packs}{retained:List (String×String)}{label:PassLabel}
 (h:Unfetched p)(hlabel:label ≠ .rebuild)(hstep:p.passStep retained label=some q):Unfetched q:=by
 intro hq
 have hnone:p.desired=none:=by
  rcases desired_passStep hlabel hstep with hsame|hknown
  · exact hsame.symm.trans hq
  · exact absurd hq hknown
 obtain ⟨hidle,hworkers⟩:=h hnone
 -- an idle loop has only the fetch and the abort before it
 cases label with
 | fetch=>
  simp only[passStep,hidle,some.injEq] at hstep
  cases (congrArg Packs.desired hstep).trans hq
 | abort=>
  cases hstep
  exact ⟨rfl,hworkers⟩
 | rebuild=>exact absurd rfl hlabel
 | reconcile | setRuntime | load | purge | reap | done=>simp[passStep,hidle] at hstep
lemma resolvePackWorker_of_unfetched {p:Packs}(h:Unfetched p)(hnone:p.desired=none)
 (packId:String)(requested:Option String):p.resolvePackWorker packId requested=none:=by
 have hcurrent:p.getCurrent packId=none:=by
  simp[getCurrent,(h hnone).2]
 simp[resolvePackWorker,hnone,hcurrent]
end Packs
end GridFleet.AgentPacks
