import GridFleet.AppiumSteps
/-! Spawns are serialised by the start lock, so a live child is the tracked process of its port or in
the hands of the call that holds the lock. An auto-restart that drops its port may only exist while
the tracked child of the port is dead. -/
namespace GridFleet.AppiumManager
open Dict (get_map_eq_some get_map get_pop_eq_some get_pop get_pop_of_ne get_set_eq_some get_set_of_ne get_pop_self get_set_self)

variable {s t:State}{port:Port}{child:ChildId}{actor:Actor}{stage:Stage}
 {target:String×String}

lemma isAlive_eq_true:isAlive s child↔∃row,s.children.get child=some row∧row.alive:=by
 simp[isAlive,Option.any_eq_true]

def Serves (s:State)(port:Port)(target:String×String):Prop:=
 ∃child row,s.procs.get port=some child∧s.children.get child=some row∧
  row.alive∧row.target=target

lemma running_eq_false:running s port=false↔∀target,¬Serves s port target:=by
 rw[Bool.eq_false_iff,Ne,running,Option.any_eq_true]
 constructor
 · rintro hidle target ⟨child,row,hproc,hrow,halive,-⟩
   exact hidle ⟨child,hproc,isAlive_eq_true.mpr ⟨row,hrow,halive⟩⟩
 · rintro hidle ⟨child,hproc,halive⟩
   obtain ⟨row,hrow,hrowAlive⟩:=isAlive_eq_true.mp halive
   exact hidle row.target ⟨child,row,hproc,hrow,hrowAlive,rfl⟩
lemma running_eq_false_of_imp (hserves:∀target,Serves t port target→Serves s port target)
 (hidle:running s port=false):running t port=false:=
 running_eq_false.mpr fun target h=>running_eq_false.mp hidle target (hserves target h)
lemma running_of_tracked_dead (hproc:s.procs.get port=some child)
 (hdead:isAlive s child=false):running s port=false:=by
 simp[running,hproc,hdead]
lemma not_serves_of_servedElsewhere (h:servedElsewhere s port target=false){other:Port}
 {info:Info}(hinfo:s.info.get other=some info)(hother:other≠port)
 (htarget:info.target=target):running s other=false:=by
 have hentry:=List.any_eq_false.mp h (other,info) (Dict.get_eq_some_iff.mp hinfo)
 simpa[hother,htarget] using hentry

structure Aged (old row:Child):Prop where
 port:row.port=old.port
 target:row.target=old.target
 ready:row.ready=old.ready
 alive:row.alive→ old.alive
 signalled:old.signalled→ row.signalled

lemma Aged.refl (row:Child):Aged row row:=⟨rfl,rfl,rfl,id,id⟩

structure Ages (d e:Dict ChildId Child):Prop where
 back:∀child row,e.get child=some row→∃old,d.get child=some old∧Aged old row
 forth:∀child old,d.get child=some old→∃row,e.get child=some row∧Aged old row

lemma Ages.refl (d:Dict ChildId Child):Ages d d:=
 ⟨fun _ row hrow=>⟨row,hrow,.refl row⟩,fun _ row hrow=>⟨row,hrow,.refl row⟩⟩
lemma ages_updateChild {f:Child→Child}(hf:∀row,Aged row (f row)):
 Ages s.children (updateChild s child f).children:=by
 have hrow:∀c row,Aged row (if c=child then f row else row):=by
  intro c row
  split
  · exact hf row
  · exact .refl row
 constructor
 · intro c row hget
   obtain ⟨old,hold,rfl⟩:=get_map_eq_some hget
   exact ⟨old,hold,hrow c old⟩
 · intro c old hold
   refine ⟨_,?_,hrow c old⟩
   rw[updateChild,get_map,hold,Option.map_some]

def Stage.Fits (row:Child):Stage→Prop
 | .checkingPort _ | .deletingSessions _ _=>True
 | .waitingReady job _ | .killing job _=>row.ready=false∧row.target=job.spec.target
 | .terminating _ _=>row.alive→ row.signalled

lemma Stage.Fits.of_aged {old row:Child}(h:stage.Fits old)(haged:Aged old row):stage.Fits row:=by
 cases stage with
 | checkingPort | deletingSessions=>exact trivial
 | waitingReady | killing=>exact ⟨haged.ready.trans h.1,haged.target.trans h.2⟩
 | terminating=>exact fun halive=>haged.signalled (h (haged.alive halive))

/-- A stop of the port has returned, or is about to. -/
def Quiet (s:State)(port:Port):Prop:=port∈s.stopped∨s.conv=.postSession port

structure Holding (s:State)(actor:Actor)(stage:Stage):Prop where
 held:∀child,stage.child=some child→
  ∃row,s.children.get child=some row∧row.port=stage.port∧stage.Fits row
 starting:∀job,stage.job=some job→
  running s stage.port=false∧∀port,¬Serves s port job.spec.target
 stopping:stage.job=none→
  actor=.convergence∧s.procs.get stage.port=none∧s.watch.get stage.port=none
 restart:∀port,actor=.restart port→stage.port=port
 convergence:actor=.convergence→s.restarts.get stage.port=none
 notQuiet:¬Quiet s stage.port

structure Addressed (s:State):Prop where
 specs:∀port spec,s.specs.get port=some spec→spec.port=port
 restarts:∀port call,s.restarts.get port=some (.starting call)→call.launch.port=port
 conv:∀call,s.conv=.starting call→call.launch.port ∉ s.stopped

structure Bookkeeping (s:State):Prop where
 tracked:∀child row,s.children.get child=some row→ row.alive→
  s.procs.get row.port=some child∨
   ∃actor stage,s.holder=some (actor,stage)∧stage.child=some child
 listed:∀port child,s.procs.get port=some child→∃row info,
  s.children.get child=some row∧s.info.get port=some info∧
   row.port=port∧info.target=row.target
 distinct:∀port other target,Serves s port target→Serves s other target→port=other
 restarting:∀port phase,s.restarts.get port=some phase→ running s port=false
 quiet:∀port,Quiet s port→
  s.procs.get port=none∧s.watch.get port=none∧s.restarts.get port=none
 addressed:Addressed s
 holding:∀actor stage,s.holder=some (actor,stage)→Holding s actor stage

lemma bookkeeping_init:Bookkeeping init where
 tracked _ _ hrow:=by cases hrow
 listed _ _ hproc:=by cases hproc
 distinct:=by
  rintro port other target ⟨child,row,hproc,-⟩
  cases hproc
 restarting _ _ hphase:=by cases hphase
 quiet:=by
  rintro port (hmem|hconv)
  · cases hmem
  · cases hconv
 addressed:=
  ⟨fun _ _ hspec=>(by cases hspec),fun _ _ hcall=>(by cases hcall),fun _ hconv=>(by cases hconv)⟩
 holding _ _ hholder:=by cases hholder

structure Shrinks (s t:State):Prop where
 children:Ages s.children t.children
 procs:∀port child,t.procs.get port=some child→
  s.procs.get port=some child∧t.info.get port=s.info.get port
 watch:∀port,s.watch.get port=none→t.watch.get port=none
 restarts:∀port phase,t.restarts.get port=some phase→s.restarts.get port=some phase
 quiet:∀port,Quiet t port→Quiet s port

lemma Shrinks.refl (s:State):Shrinks s s:=
 ⟨.refl _,fun _ _ hproc=>⟨hproc,rfl⟩,fun _ h=>h,fun _ _ h=>h,fun _ h=>h⟩

section
variable (hshrinks:Shrinks s t)

include hshrinks

lemma Shrinks.procs_none (hnone:s.procs.get port=none):t.procs.get port=none:=by
 cases hproc:t.procs.get port with
 | none=>rfl
 | some child=>cases hnone.symm.trans (hshrinks.procs port child hproc).1
lemma Shrinks.restarts_none (hnone:s.restarts.get port=none):t.restarts.get port=none:=by
 cases hphase:t.restarts.get port with
 | none=>rfl
 | some phase=>cases hnone.symm.trans (hshrinks.restarts port phase hphase)
lemma Shrinks.serves (h:Serves t port target):Serves s port target:=by
 obtain ⟨child,row,hproc,hrow,halive,htarget⟩:=h
 obtain ⟨old,hold,haged⟩:=hshrinks.children.back child row hrow
 exact ⟨child,old,(hshrinks.procs port child hproc).1,hold,haged.alive halive,
  haged.target.symm.trans htarget⟩
lemma Shrinks.running (h:running s port=false):running t port=false:=
 running_eq_false_of_imp (fun _=>hshrinks.serves) h
lemma Holding.of_shrinks (h:Holding s actor stage):Holding t actor stage where
 held child hchild:=by
  obtain ⟨old,hold,hport,hfits⟩:=h.held child hchild
  obtain ⟨row,hrow,haged⟩:=hshrinks.children.forth child old hold
  exact ⟨row,hrow,haged.port.trans hport,hfits.of_aged haged⟩
 starting job hjob:=by
  obtain ⟨hidle,hserves⟩:=h.starting job hjob
  exact ⟨hshrinks.running hidle,fun port hport=>hserves port (hshrinks.serves hport)⟩
 stopping hjob:=by
  obtain ⟨hactor,hproc,hwatch⟩:=h.stopping hjob
  exact ⟨hactor,hshrinks.procs_none hproc,hshrinks.watch _ hwatch⟩
 restart:=h.restart
 convergence hactor:=hshrinks.restarts_none (h.convergence hactor)
 notQuiet hquiet:=h.notQuiet (hshrinks.quiet _ hquiet)

/-- Only who has a live child in hand and who holds the lock is left to say. -/
lemma Bookkeeping.of_shrinks (h:Bookkeeping s)(haddressed:Addressed t)
 (htracked:∀child row,t.children.get child=some row→ row.alive→t.procs.get row.port=some child∨
   ∃actor stage,t.holder=some (actor,stage)∧stage.child=some child)
 (hholding:∀actor stage,t.holder=some (actor,stage)→Holding t actor stage):Bookkeeping t where
 tracked:=htracked
 listed port child hproc:=by
  obtain ⟨hold,hinfo⟩:=hshrinks.procs port child hproc
  obtain ⟨old,info,holdRow,holdInfo,hport,htarget⟩:=h.listed port child hold
  obtain ⟨row,hrow,haged⟩:=hshrinks.children.forth child old holdRow
  exact ⟨row,info,hrow,hinfo.trans holdInfo,haged.port.trans hport,
   htarget.trans haged.target.symm⟩
 distinct port other target hport hother:=
  h.distinct port other target (hshrinks.serves hport) (hshrinks.serves hother)
 restarting port phase hphase:=
  hshrinks.running (h.restarting port phase (hshrinks.restarts port phase hphase))
 quiet port hquiet:=by
  obtain ⟨hproc,hwatch,hrestart⟩:=h.quiet port (hshrinks.quiet port hquiet)
  exact ⟨hshrinks.procs_none hproc,hshrinks.watch port hwatch,hshrinks.restarts_none hrestart⟩
 addressed:=haddressed
 holding:=hholding

lemma Bookkeeping.of_shrinks_same (h:Bookkeeping s)(haddressed:Addressed t)
 (hholder:t.holder=s.holder)(hkept:∀port,t.procs.get port=s.procs.get port∨running s port=false):
 Bookkeeping t:=by
 refine h.of_shrinks hshrinks haddressed ?_ ?_
 · intro child row hrow halive
   obtain ⟨old,hold,haged⟩:=hshrinks.children.back child row hrow
   rw[hholder,haged.port]
   rcases h.tracked child old hold (haged.alive halive) with hproc|hheld
   · rcases hkept old.port with hsame|hidle
     · exact .inl (hsame.trans hproc)
     · have hserves:Serves s old.port old.target:=⟨child,old,hproc,hold,haged.alive halive,rfl⟩
       exact absurd hserves (running_eq_false.mp hidle old.target)
   · exact .inr hheld
 · intro actor stage hheld
   exact (h.holding actor stage (hholder.symm.trans hheld)).of_shrinks hshrinks
end

section
variable (h:Bookkeeping s)
include h

lemma Bookkeeping.popRestart (port:Port):Bookkeeping {s with restarts:=s.restarts.pop port}:=by
 refine h.of_shrinks_same ?_ ?_ rfl fun _=>.inl rfl
 · exact {Shrinks.refl s with restarts:=fun _ _ hphase=>(get_pop_eq_some hphase).2}
 · exact { h.addressed with
    restarts:=fun p call hphase=>h.addressed.restarts p call (get_pop_eq_some hphase).2 }
lemma Bookkeeping.popWatch (port:Port):Bookkeeping {s with watch:=s.watch.pop port}:=by
 refine h.of_shrinks_same ?_ {h.addressed with} rfl fun _=>.inl rfl
 refine {Shrinks.refl s with watch:=fun p hnone=>?_}
 rw[get_pop,hnone,ite_self]
lemma Bookkeeping.setConv {conv:ConvPhase}(hquiet:∀port,conv ≠ .postSession port)
 (hcall:∀call,conv=.starting call→call.launch.port ∉ s.stopped):Bookkeeping {s with conv:=conv}:=by
 refine h.of_shrinks_same ?_ {h.addressed with conv:=hcall} rfl fun _=>.inl rfl
 exact {Shrinks.refl s with quiet:=fun p hp=>.inl (hp.resolve_right (hquiet p))}
lemma Bookkeeping.convIdle:Bookkeeping {s with conv:=.idle}:=
 h.setConv (fun _ hconv=>(by cases hconv)) (fun _ hconv=>(by cases hconv))
lemma Bookkeeping.stopForgotten (port:Port):Bookkeeping (forgetStop s port):=by
 have hmem:∀p,p∈s.stopped.filter (· ≠ port)→p∈s.stopped:=fun p hp=>
  (List.mem_filter.mp hp).1
 refine h.of_shrinks_same ?_ ?_ rfl fun _=>.inl rfl
 · exact {Shrinks.refl s with quiet:=fun p hp=>hp.imp_left (hmem p)}
 · exact { h.addressed with
    conv:=fun call hcall hp=>h.addressed.conv call hcall (hmem _ hp) }
end

lemma shrinks_forgetPort (s:State)(port:Port):Shrinks s (forgetPort s port) where
 children:=.refl _
 procs p child hproc:=by
  obtain ⟨hne,hold⟩:=get_pop_eq_some hproc
  exact ⟨hold,get_pop_of_ne s.info hne⟩
 watch p hnone:=by rw[forgetPort,get_pop,hnone,ite_self]
 restarts _ _ hphase:=hphase
 quiet _ hquiet:=hquiet
lemma Addressed.portForgotten (h:Addressed s)(port:Port):Addressed (forgetPort s port):=
 {h with specs:=fun p spec hspec=>h.specs p spec (get_pop_eq_some hspec).2}

section
variable (h:Bookkeeping s)
include h

lemma Bookkeeping.portForgotten (hidle:running s port=false):Bookkeeping (forgetPort s port):=by
 refine h.of_shrinks_same (shrinks_forgetPort s port) (h.addressed.portForgotten port) rfl fun p=>?_
 by_cases hp:p=port
 · exact .inr (hp ▸ hidle)
 · exact .inl (get_pop_of_ne s.procs hp)
lemma Bookkeeping.setSpecs {specs:Dict Port LaunchSpec}
 (hspecs:∀port spec,specs.get port=some spec→spec.port=port)(intentional pending:List Port):
 Bookkeeping { s with specs:=specs,intentionalStopPorts:=intentional,stopPendingPorts:=pending }:=
 h.of_shrinks_same {Shrinks.refl s with} {h.addressed with specs:=hspecs} rfl fun _=>.inl rfl
lemma Bookkeeping.specRecorded (spec:LaunchSpec):Bookkeeping (recordSpec s spec):=
 h.setSpecs (Dict.forall_get_set rfl h.addressed.specs) _ _

lemma Bookkeeping.stopPendingSet (port:Port)(stopPending:Bool):
 Bookkeeping (setStopPending s port stopPending):=by
 refine h.setSpecs ?_ _ _
 intro p stored hget
 obtain ⟨old,hold,rfl⟩:=get_map_eq_some hget
 have hport:=h.addressed.specs p old hold
 split <;> exact hport
lemma Bookkeeping.childUpdated (child:ChildId){f:Child→Child}(hf:∀row,Aged row (f row)):Bookkeeping (updateChild s child f):=
 h.of_shrinks_same {Shrinks.refl s with children:=ages_updateChild hf} {h.addressed with} rfl
  fun _=>.inl rfl
lemma Bookkeeping.setHolder (hholding:Holding s actor stage)
 (hhands:∀actor' stage' child,s.holder=some (actor',stage')→stage'.child=some child→
  stage.child=some child):Bookkeeping {s with holder:=some (actor,stage)}:=by
 refine h.of_shrinks {Shrinks.refl s with} {h.addressed with} ?_ ?_
 · intro child row hrow halive
   refine (h.tracked child row hrow halive).imp_right ?_
   rintro ⟨actor',stage',hholder,hchild⟩
   exact ⟨actor,stage,rfl,hhands actor' stage' child hholder hchild⟩
 · intro actor' stage' hholder
   cases hholder
   exact {hholding with}
lemma Bookkeeping.released (hholder:s.holder=some (actor,stage))
 (hdead:∀child,stage.child=some child→isAlive s child=false):Bookkeeping (release s):=by
 refine h.of_shrinks {Shrinks.refl s with} {h.addressed with} ?_ ?_
 · intro child row hrow halive
   rcases h.tracked child row hrow halive with hproc|⟨actor',stage',hholds,hchild⟩
   · exact .inl hproc
   · cases hholder.symm.trans hholds
     have hlive:isAlive s child:=isAlive_eq_true.mpr ⟨row,hrow,halive⟩
     cases hlive.symm.trans (hdead child hchild)
 · intro actor' stage' hholds
   cases hholds
end

structure Restartable (s:State)(port:Port):Prop where
 dead:running s port=false
 free:∀stage,s.holder=some (.convergence,stage)→stage.port≠port
 notQuiet:¬Quiet s port

lemma Bookkeeping.restartable (h:Bookkeeping s){phase:RestartPhase}
 (hphase:s.restarts.get port=some phase):Restartable s port where
 dead:=h.restarting port phase hphase
 free stage hholder hport:=by
  have hnone:=(h.holding _ _ hholder).convergence rfl
  rw[hport] at hnone
  cases hnone.symm.trans hphase
 notQuiet hquiet:=by cases (h.quiet port hquiet).2.2.symm.trans hphase
lemma Holding.restartable (h:Holding s (.restart port) stage):Restartable (release s) port where
 dead:=by
  cases hjob:stage.job with
  | none=>cases (h.stopping hjob).1
  | some job=>exact h.restart port rfl ▸ (h.starting job hjob).1
 free _ hholder:=by cases hholder
 notQuiet hquiet:=h.notQuiet (by rw[h.restart port rfl];exact hquiet)
lemma Bookkeeping.setRestart (h:Bookkeeping s)(hport:Restartable s port){phase:RestartPhase}
 (hphase:∀call,phase=.starting call→call.launch.port=port):
 Bookkeeping {s with restarts:=s.restarts.set port phase}:=
 { h with
  restarting:=Dict.forall_get_set hport.dead h.restarting
  quiet p hquiet:=by
   obtain ⟨hproc,hwatch,hrestart⟩:=h.quiet p hquiet
   refine ⟨hproc,hwatch,?_⟩
   have hne:p≠port:=fun heq=>hport.notQuiet (heq ▸ hquiet)
   rw[get_set_of_ne _ _ hne,hrestart]
  addressed:={ h.addressed with
   restarts:=fun p call hget=>by
    rcases get_set_eq_some hget with ⟨rfl,heq⟩|⟨-,hold⟩
    · exact hphase call heq.symm
    · exact h.addressed.restarts p call hold }
  holding actor stage hholder:={ h.holding actor stage hholder with
   convergence:=fun hactor=>by
    have hne:stage.port≠port:=hport.free stage (hactor ▸ hholder)
    exact (get_set_of_ne _ _ hne).trans ((h.holding actor stage hholder).convergence hactor) } }
lemma Bookkeeping.concluded (h:Bookkeeping s)
 (hactor:∀port,actor=.restart port→Restartable s port)(outcome:Outcome):
 Bookkeeping (conclude s actor outcome):=by
 cases actor with
 | convergence=>exact h.convIdle
 | restart port=>
  have hport:=hactor port rfl
  cases outcome with
  | ok | deferred=>exact h.popRestart port
  | alreadyRunning | portOccupied=>exact (h.portForgotten hport.dead).popRestart port
  | failed=>exact h.setRestart hport fun _ heq=>(by cases heq)
lemma Bookkeeping.began (h:Bookkeeping s){launch:LaunchSpec}
 (hactor:∀port,actor=.restart port→Restartable s port∧launch.port=port)
 (hstopped:launch.port ∉ s.stopped)(hbegan:Began s actor launch t):Bookkeeping t:=by
 cases hbegan with
 | refused outcome=>exact h.concluded (fun port hport=>(hactor port hport).1) outcome
 | awaits=>
  cases actor with
  | convergence=>
   refine h.setConv (fun _ hconv=>(by cases hconv)) fun call hcall=>?_
   cases hcall
   exact hstopped
  | restart port=>
   obtain ⟨hport,haddress⟩:=hactor port rfl
   refine h.setRestart hport fun call hcall=>?_
   cases hcall
   exact haddress
lemma notMem_stopped_forgetStop (s:State)(port:Port):port ∉ (forgetStop s port).stopped:=by
 simp[forgetStop]
lemma Restartable.stopForgotten (h:Restartable s port)(other:Port):
 Restartable (forgetStop s other) port:=
 { h with
  notQuiet hquiet:=h.notQuiet (hquiet.imp_left fun hmem=>(List.mem_filter.mp hmem).1) }

variable {job:Spawn}

section
variable (h:Bookkeeping s)
include h

lemma Bookkeeping.lockTaken (hfree:s.holder=none)
 (hport:running s job.spec.port=false)(htarget:∀port,¬Serves s port job.spec.target)
 (hquiet:¬Quiet s job.spec.port)(hconv:actor=.convergence→s.restarts.get job.spec.port=none)
 (hrestart:∀port,actor=.restart port→job.spec.port=port):
 Bookkeeping (takeLock s actor (.checkingPort job)):=by
 have hholding:Holding s actor (.checkingPort job):=
  { held:=fun _ hchild=>(by cases hchild)
    starting:=fun other hother=>(by cases hother;exact ⟨hport,htarget⟩)
    stopping:=fun hjob=>(by cases hjob)
    restart:=hrestart
    convergence:=hconv
    notQuiet:=hquiet }
 cases actor with
 | convergence=>
  have hheld:=h.setHolder hholding fun _ _ _ hholder=>(by cases hfree.symm.trans hholder)
  exact hheld.setConv (fun _ hconv=>(by cases hconv)) (fun _ hconv=>(by cases hconv))
 | restart port=>
  have haddress:job.spec.port=port:=hrestart port rfl
  have hheld:=h.setHolder hholding fun _ _ _ hholder=>(by cases hfree.symm.trans hholder)
  refine hheld.setRestart ⟨haddress ▸ hport,?_,haddress ▸ hquiet⟩ fun _ heq=>(by cases heq)
  intro stage hholder
  cases hholder
lemma Bookkeeping.not_serves (hport:running s port=false)
 (htarget:servedElsewhere s port target=false)(other:Port):¬Serves s other target:=by
 rintro ⟨child,row,hproc,hrow,halive,rfl⟩
 have hserves:Serves s other row.target:=⟨child,row,hproc,hrow,halive,rfl⟩
 by_cases hother:other=port
 · exact running_eq_false.mp hport row.target (hother ▸ hserves)
 · obtain ⟨row',info,hrow',hinfo,-,hlisted⟩:=h.listed other child hproc
   cases hrow.symm.trans hrow'
   have hidle:=not_serves_of_servedElsewhere htarget hinfo hother hlisted
   exact running_eq_false.mp hidle row.target hserves
lemma Bookkeeping.entered (hfree:s.holder=none){call:Resolving}
 {spec:LaunchSpec}(hactor:∀port,actor=.restart port→Restartable s port∧spec.port=port)
 (hquiet:¬Quiet s spec.port)(hconv:actor=.convergence→s.restarts.get spec.port=none)
 (hentered:Entered s actor call spec t):Bookkeeping t:=by
 cases hentered with
 | refused outcome=>exact h.concluded (fun port hport=>(hactor port hport).1) outcome
 | failed=>
  refine (h.specRecorded spec).concluded (fun port hport=>?_) .failed
  exact {(hactor port hport).1 with}
 | checks hport htarget=>
  exact (h.specRecorded spec).lockTaken hfree hport (h.not_serves hport htarget) hquiet hconv
   fun port heq=>(hactor port heq).2
lemma Bookkeeping.acquired (hfree:s.holder=none){call:Resolving}
 (hcall:Resolves s call actor){resolvedTarget:String}
 (hentered:Entered (cancelRestart s actor call.launch.port) actor call
  (launchedSpec call resolvedTarget) t):Bookkeeping t:=by
 cases actor with
 | convergence=>
  have hcancel:cancelRestart s .convergence call.launch.port =
    {s with restarts:=s.restarts.pop call.launch.port}:=if_neg fun heq=>(by cases heq)
  rw[hcancel] at hentered
  refine (h.popRestart call.launch.port).entered hfree ?_ ?_ ?_ hentered
  · intro port heq
    cases heq
  · rintro (hmem|hconv)
    · exact h.addressed.conv call hcall hmem
    · cases hcall.symm.trans hconv
  · exact fun _=>get_pop_self _ _
 | restart port=>
  have hport:call.launch.port=port:=h.addressed.restarts port call hcall
  have hself:=h.restartable hcall
  rw[cancelRestart,if_pos (by rw[hport])] at hentered
  refine h.entered hfree (fun p heq=>?_) ?_ (fun heq=>(by cases heq)) hentered
  · cases heq
    exact ⟨hself,hport⟩
  · exact fun hquiet=>hself.notQuiet (hport ▸ hquiet)

lemma Bookkeeping.spawned (hholder:s.holder=some (actor,.checkingPort job))
 (hfresh:s.children.get child=none):Bookkeeping (spawnChild s actor job child):=by
 have hold:∀c row,s.children.get c=some row→
   (spawnChild s actor job child).children.get c=some row:=by
  intro c row hrow
  have hne:c≠child:=fun heq=>(by cases hfresh.symm.trans (heq ▸ hrow))
  exact (get_set_of_ne _ _ hne).trans hrow
 have hserves:∀p served,Serves (spawnChild s actor job child) p served→Serves s p served:=by
  rintro p served ⟨c,row,hproc,hrow,halive,htarget⟩
  obtain ⟨old,info,hget,-⟩:=h.listed p c hproc
  cases hrow.symm.trans (hold c old hget)
  exact ⟨c,row,hproc,hget,halive,htarget⟩
 have hchecking:=h.holding actor _ hholder
 constructor
 case tracked=>
  intro c row hrow halive
  rcases get_set_eq_some hrow with ⟨rfl,-⟩|⟨-,hget⟩
  · exact .inr ⟨actor,.waitingReady job c,rfl,rfl⟩
  · rcases h.tracked c row hget halive with hproc|⟨actor',stage',hholds,hchild⟩
    · exact .inl hproc
    · cases hholder.symm.trans hholds
      cases hchild
 case listed=>
  intro p c hproc
  obtain ⟨row,info,hrow,hlisted⟩:=h.listed p c hproc
  exact ⟨row,info,hold c row hrow,hlisted⟩
 case distinct=>
  intro p q served hp hq
  exact h.distinct p q served (hserves p served hp) (hserves q served hq)
 case restarting=>
  intro p phase hphase
  exact running_eq_false_of_imp (hserves p) (h.restarting p phase hphase)
 case quiet=>exact h.quiet
 case addressed=>exact {h.addressed with}
 case holding=>
  intro actor' stage' hholds
  cases hholds
  obtain ⟨hidle,hfree⟩:=hchecking.starting job rfl
  exact
   { held:=fun c hchild=>by
      cases hchild
      exact ⟨_,get_set_self _ _ _,rfl,rfl,rfl⟩
     starting:=fun other hother=>by
      cases hother
      exact ⟨running_eq_false_of_imp (hserves _) hidle,fun p hp=>hfree p (hserves p _ hp)⟩
     stopping:=fun hjob=>(by cases hjob)
     restart:=hchecking.restart
     convergence:=hchecking.convergence
     notQuiet:=hchecking.notQuiet }
end

lemma serves_registerChild (hserves:Serves (registerChild (release s) job child) port target)
 (hrow:∀row,s.children.get child=some row→ row.target=job.spec.target):
 (port=job.spec.port∧target=job.spec.target)∨(port≠job.spec.port∧Serves s port target):=by
 obtain ⟨c,row,hproc,hget,halive,rfl⟩:=hserves
 obtain ⟨old,hold,rfl⟩:=get_map_eq_some hget
 rcases get_set_eq_some hproc with ⟨rfl,rfl⟩|⟨hne,hprocOld⟩
 · rw[if_pos rfl]
   exact .inl ⟨rfl,hrow old hold⟩
 · refine .inr ⟨hne,c,old,hprocOld,hold,?_⟩
   split at halive <;> exact ⟨halive,by simp[*]⟩

lemma Bookkeeping.registered (h:Bookkeeping s)
 (hholder:s.holder=some (actor,.waitingReady job child))
 (hrestart:s.restarts.get job.spec.port=none):Bookkeeping (registerChild (release s) job child):=by
 have hwaiting:=h.holding actor _ hholder
 obtain ⟨own,hown,hownPort,-,hownTarget⟩:=hwaiting.held child rfl
 obtain ⟨hidle,hfree⟩:=hwaiting.starting job rfl
 have hnotQuiet:¬Quiet s job.spec.port:=hwaiting.notQuiet
 have hserves:∀p served,Serves (registerChild (release s) job child) p served→
   (p=job.spec.port∧served=job.spec.target)∨(p≠job.spec.port∧Serves s p served):=
  fun p served hp=>serves_registerChild hp fun row hrow=>by
   cases hown.symm.trans hrow
   exact hownTarget
 have hrows:∀c row,s.children.get c=some row→∃row',
   (registerChild (release s) job child).children.get c=some row'∧row'.port=row.port∧
    row'.target=row.target:=by
  intro c row hrow
  refine ⟨_,(get_map _ _ _).trans (congrArg _ hrow),?_⟩
  split <;> exact ⟨rfl,rfl⟩
 constructor
 case tracked=>
  intro c row hrow halive
  obtain ⟨old,hold,rfl⟩:=get_map_eq_some hrow
  by_cases hc:c=child
  · subst hc
    cases hown.symm.trans hold
    rw[if_pos rfl]
    exact .inl (hownPort ▸ get_set_self _ _ _)
  · rw[if_neg hc] at halive ⊢
    rcases h.tracked c old hold halive with hproc|⟨actor',stage',hholds,hchild⟩
    · have hne:old.port≠job.spec.port:=by
       intro heq
       rw[heq] at hproc
       exact running_eq_false.mp hidle old.target ⟨c,old,hproc,hold,halive,rfl⟩
      exact .inl ((get_set_of_ne _ _ hne).trans hproc)
    · cases hholder.symm.trans hholds
      cases hchild
      exact absurd rfl hc
 case listed=>
  intro p c hproc
  rcases get_set_eq_some hproc with ⟨rfl,rfl⟩|⟨hne,hold⟩
  · obtain ⟨row',hrow',hport',htarget'⟩:=hrows c own hown
    exact ⟨row',_,hrow',get_set_self _ _ _,hport'.trans hownPort,
     (htarget'.trans hownTarget).symm⟩
  · obtain ⟨row,info,hrow,hinfo,hport,htarget⟩:=h.listed p c hold
    obtain ⟨row',hrow',hport',htarget'⟩:=hrows c row hrow
    exact ⟨row',info,hrow',(get_set_of_ne _ _ hne).trans hinfo,hport'.trans hport,
     htarget.trans htarget'.symm⟩
 case distinct=>
  intro p q served hp hq
  rcases hserves p served hp with ⟨rfl,rfl⟩|⟨-,hp'⟩
  · rcases hserves q _ hq with ⟨rfl,-⟩|⟨-,hq'⟩
    · rfl
    · exact absurd hq' (hfree q)
  · rcases hserves q served hq with ⟨-,rfl⟩|⟨-,hq'⟩
    · exact absurd hp' (hfree p)
    · exact h.distinct p q served hp' hq'
 case restarting=>
  intro p phase hphase
  have hne:p≠job.spec.port:=by
   rintro rfl
   cases hrestart.symm.trans hphase
  refine running_eq_false_of_imp (fun served hp=>?_) (h.restarting p phase hphase)
  exact ((hserves p served hp).resolve_left fun hpair=>hne hpair.1).2
 case quiet=>
  intro p hquiet
  have hne:p≠job.spec.port:=fun heq=>hnotQuiet (heq ▸ hquiet)
  obtain ⟨hproc,hwatch,hnone⟩:=h.quiet p hquiet
  exact ⟨(get_set_of_ne _ _ hne).trans hproc,(get_set_of_ne _ _ hne).trans hwatch,hnone⟩
 case addressed=>exact {h.addressed with}
 case holding=>
  intro actor' stage' hholds
  cases hholds

lemma Bookkeeping.childReady (h:Bookkeeping s)
 (hholder:s.holder=some (actor,.waitingReady job child)):
 Bookkeeping (conclude (registerChild (release s) job child) actor .ok):=by
 have hwaiting:=h.holding actor _ hholder
 cases actor with
 | convergence=>exact (h.registered hholder (hwaiting.convergence rfl)).convIdle
 | restart port=>
  have hport:job.spec.port=port:=hwaiting.restart port rfl
  -- the restart task leaves the table in the step in which its child enters it
  exact (h.popRestart port).registered hholder (hport ▸ get_pop_self _ _)
lemma Bookkeeping.finished (h:Bookkeeping s)(hholder:s.holder=none)
 (hproc:s.procs.get port=none)(hwatch:s.watch.get port=none)
 (hrestart:s.restarts.get port=none):Bookkeeping (finishStop s port):=by
 constructor
 case tracked=>
  intro c row hrow halive
  rcases h.tracked c row hrow halive with hget|⟨actor',stage',hholds,-⟩
  · exact .inl hget
  · cases hholder.symm.trans hholds
 case listed=>exact h.listed
 case distinct=>exact h.distinct
 case restarting=>exact h.restarting
 case quiet=>
  rintro p (hmem|hconv)
  · exact h.quiet p (.inl hmem)
  · cases hconv
    exact ⟨hproc,hwatch,hrestart⟩
 case addressed=>exact {h.addressed with conv:=fun call hconv=>(by cases hconv)}
 case holding=>
  intro actor' stage' hholds
  cases hholds
lemma shrinks_takeOff (s:State)(port:Port):Shrinks s (takeOff s port):=
 { shrinks_forgetPort s port with
   restarts:=fun _ _ hphase=>(get_pop_eq_some hphase).2 }
lemma Addressed.takenOff (h:Addressed s)(port:Port):Addressed (takeOff s port):=
 { h.portForgotten port with
   restarts:=fun p call hphase=>h.restarts p call (get_pop_eq_some hphase).2 }

section
variable (h:Bookkeeping s)
include h

lemma Bookkeeping.takeOff_dead (hfree:s.holder=none)(hidle:running s port=false):Bookkeeping (finishStop (takeOff s port) port):=by
 have hoff:Bookkeeping (takeOff s port):=by
  refine h.of_shrinks_same (shrinks_takeOff s port) (h.addressed.takenOff port) rfl fun p=>?_
  by_cases hp:p=port
  · exact .inr (hp ▸ hidle)
  · exact .inl (get_pop_of_ne s.procs hp)
 exact hoff.finished hfree (get_pop_self _ _) (get_pop_self _ _) (get_pop_self _ _)

lemma Bookkeeping.takeOff_live (hfree:s.holder=none)(hproc:s.procs.get port=some child):
 Bookkeeping (takeLock (takeOff s port) .convergence (.deletingSessions port child)):=by
 have hshrinks:Shrinks s
   (takeLock (takeOff s port) .convergence (.deletingSessions port child)):=
  { shrinks_takeOff s port with
    quiet:=fun p hquiet=>.inl (hquiet.resolve_right fun hconv=>(by cases hconv)) }
 obtain ⟨own,-,hown,-,hownPort,-⟩:=h.listed port child hproc
 refine h.of_shrinks hshrinks ?_ ?_ ?_
 · exact {h.addressed.takenOff port with conv:=fun call hconv=>(by cases hconv)}
 · intro c row hrow halive
   rcases h.tracked c row hrow halive with hget|⟨actor',stage',hholds,-⟩
   · by_cases hp:row.port=port
     · cases hproc.symm.trans (hp ▸ hget)
       exact .inr ⟨.convergence,.deletingSessions port child,rfl,rfl⟩
     · exact .inl ((get_pop_of_ne _ hp).trans hget)
   · cases hfree.symm.trans hholds
 · intro actor' stage' hholds
   cases hholds
   exact
    { held:=fun c hchild=>by
       cases hchild
       exact ⟨own,hown,hownPort,trivial⟩
      starting:=fun job hjob=>(by cases hjob)
      stopping:=fun _=>⟨rfl,get_pop_self _ _,get_pop_self _ _⟩
      restart:=fun p hp=>(by cases hp)
      convergence:=fun _=>get_pop_self _ _
      notQuiet:=fun hquiet=>by
       cases (h.quiet port (hshrinks.quiet port hquiet)).1.symm.trans hproc }

lemma Bookkeeping.stopEntered (hfree:s.holder=none)(port:Port):Bookkeeping (enterStop s port):=by
 unfold enterStop
 split
 · rename_i child hproc
   split
   · exact h.takeOff_live hfree hproc
   · rename_i hdead
     exact h.takeOff_dead hfree (running_of_tracked_dead hproc (Bool.eq_false_iff.mpr hdead))
 · rename_i hproc
   exact h.takeOff_dead hfree (by simp[running,hproc])
lemma Bookkeeping.signalled (hholder:s.holder=some (actor,.deletingSessions port child)):
 Bookkeeping { updateChild s child fun row=>{row with signalled:=true} with
  holder:=some (actor,.terminating port child) }:=by
 have hupdated:=h.childUpdated child (f:=fun row=>{row with signalled:=true}) fun row=>
  ⟨rfl,rfl,rfl,id,fun _=>rfl⟩
 have hdeleting:=hupdated.holding actor _ hholder
 refine hupdated.setHolder {hdeleting with held:=fun c hchild=>?_} ?_
 · cases hchild
   obtain ⟨row,hrow,hport,-⟩:=hdeleting.held child rfl
   obtain ⟨old,-,rfl⟩:=get_map_eq_some hrow
   refine ⟨_,hrow,hport,fun _=>?_⟩
   rw[if_pos rfl]
 · intro actor' stage' c hholds hchild
   cases hholder.symm.trans hholds
   exact hchild
lemma Bookkeeping.skipped (hholder:s.holder=some (actor,.deletingSessions port child))
 (hdead:isAlive s child=false):Bookkeeping {s with holder:=some (actor,.terminating port child)}:=by
 have hdeleting:=h.holding actor _ hholder
 refine h.setHolder {hdeleting with held:=fun c hchild=>?_} ?_
 · cases hchild
   obtain ⟨row,hrow,hport,-⟩:=hdeleting.held child rfl
   refine ⟨row,hrow,hport,fun halive=>?_⟩
   cases (isAlive_eq_true.mpr ⟨row,hrow,halive⟩).symm.trans hdead
 · intro actor' stage' c hholds hchild
   cases hholder.symm.trans hholds
   exact hchild
lemma Bookkeeping.reaped
 (hholder:s.holder=some (actor,.terminating port child))(hdead:isAlive s child=false):
 Bookkeeping (finishStop s port):=by
 have hterminating:=h.holding actor _ hholder
 obtain ⟨hactor,hproc,hwatch⟩:=hterminating.stopping rfl
 have hreleased:Bookkeeping (release s):=h.released hholder fun c hchild=>by
  cases hchild
  exact hdead
 exact hreleased.finished rfl hproc hwatch (hterminating.convergence hactor)
end
end GridFleet.AppiumManager
