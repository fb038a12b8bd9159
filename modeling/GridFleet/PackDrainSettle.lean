import GridFleet.PackDrain
namespace GridFleet.PackDrain
open Dict List Option
open SessionLifecycle (TxId isLive isOpen ended)
open ReservationGate (isTerminal reservationActive)
open RowLocks

variable {s:State}{t t':Tables}{w w':Writes}{p:PackId}{tx:TxId}

def RunLive (t:Tables)(run:RunId):Prop:=
 ∃row,t.runs.get run=some row∧isTerminal row.state=false

lemma isTerminal_ending (ending:Ending):isTerminal ending.state:=by
 cases ending with
 | complete=>rfl
 | teardown kind=>cases kind <;> rfl

variable {id:RowId}{run:RunId}

lemma liveOn_view:LiveOn (w.view t) p id↔w.sessions.get id=none∧LiveOn t p id:=
 exists_get_overlay fun _ _ h=>by simp[isLive,isOpen,ended] at h
lemma heldOn_view:HeldOn (w.view t) p id run↔w.reservations.get id=none∧HeldOn t p id run:=
 exists_get_overlay fun _ _ h=>by simp[reservationActive,released] at h
lemma runLive_view:RunLive (w.view t) run↔w.runs.get run=none∧RunLive t run:=
 exists_get_overlay fun _ _ h=>by simp[isTerminal_ending] at h
lemma noNewWork_view:NoNewWork p t (w.view t):=
 ⟨fun _ h=>(liveOn_view.mp h).2,fun _ _ h=>(heldOn_view.mp h).2⟩

/-- What the settle check counts: live sessions, and reservations of runs that are not over. -/
def Clear (t:Tables)(p:PackId):Prop:=
 (∀id,¬LiveOn t p id)∧∀id run,HeldOn t p id run→¬RunLive t run

lemma clear_of_isIdle (h:isIdle (countActiveWorkForPack t p)):Clear t p:=by
 simp only[isIdle,countActiveWorkForPack,Bool.and_eq_true,decide_eq_true_eq,
  length_eq_zero_iff] at h
 obtain ⟨hruns,hsessions⟩:=h
 constructor
 · rintro id ⟨row,hget,hlive,hon⟩
   have hmem:(id,row)∈t.sessions.entries.filter fun e=>
     isLive e.2&&e.2.deviceId.any (onPack t p):=
    mem_filter.mpr ⟨get_eq_some_iff.mp hget,by simp only[hlive,hon,Bool.and_self]⟩
   rw[hsessions] at hmem
   cases hmem
 · rintro id run ⟨res,hres,hactive,hon,rfl⟩ ⟨row,hget,hstate⟩
   have hmem:res.runId∈runsWithReservations t p:=by
    refine List.mem_map.mpr ⟨(res.runId,row),mem_filter.mpr
     ⟨get_eq_some_iff.mp hget,?_⟩,rfl⟩
    simp only[hstate,Bool.not_false,Bool.true_and]
    exact List.any_eq_true.mpr ⟨(id,res),get_eq_some_iff.mp hres,by simp[hactive,hon]⟩
   have hunion:res.runId∈runsWithReservations t p ∪ runsWithRequirements t p:=
    mem_union_iff.mpr (.inl hmem)
   rw[hruns] at hunion
   cases hunion

structure Extends (w w':Writes):Prop where
 sessions:∀id,w'.sessions.get id=none→w.sessions.get id=none
 runs:∀run,w'.runs.get run=none→w.runs.get run=none
 reservations:∀id,w'.reservations.get id=none→w.reservations.get id=none

lemma Extends.refl (w:Writes):Extends w w:=⟨fun _ h=>h,fun _ h=>h,fun _ h=>h⟩
lemma Clear.extend (h:Clear (w.view t) p)(hext:Extends w w'):Clear (w'.view t) p:=by
 constructor
 · intro id hlive
   obtain ⟨hnone,hon⟩:=liveOn_view.mp hlive
   exact h.1 id (liveOn_view.mpr ⟨hext.sessions id hnone,hon⟩)
 · intro id run hheld hrun
   obtain ⟨hnone,hon⟩:=heldOn_view.mp hheld
   obtain ⟨hopen,hstate⟩:=runLive_view.mp hrun
   exact h.2 id run (heldOn_view.mpr ⟨hext.reservations id hnone,hon⟩)
    (runLive_view.mpr ⟨hext.runs run hopen,hstate⟩)

/-- An active reservation of a device belongs to a run that is not over. -/
def Held (t:Tables):Prop:=∀p id run,HeldOn t p id run→RunLive t run

lemma Clear.idle (h:Clear t p)(hheld:Held t):Idle t p:=
 ⟨h.1,fun id run hon=>h.2 id run hon (hheld p id run hon)⟩

/-- Work that others commit elsewhere does not disturb what a transaction has counted. -/
lemma Clear.commit (h:Clear (w.view t) p)(hheld:Held t)(hwork:NoNewWork p t t'):
 Clear (w.view t') p:=by
 constructor
 · intro id hlive
   obtain ⟨hnone,hon⟩:=liveOn_view.mp hlive
   exact h.1 id (liveOn_view.mpr ⟨hnone,hwork.1 id hon⟩)
 · intro id run hon hrun
   obtain ⟨hnone,hon⟩:=heldOn_view.mp hon
   have hold:=hwork.2 id run hon
   exact h.2 id run (heldOn_view.mpr ⟨hnone,hold⟩)
    (runLive_view.mpr ⟨(runLive_view.mp hrun).1,hheld p id run hold⟩)

def Statement.counts:Statement→Option PackId
 | .drainSettled pack _ | .drainRecheck pack _=>some pack
 | _=>none
def Statement.releases:Statement→Option RunId
 | .releaseDevices run _=>some run
 | _=>none
def Granted (s:State)(tx:TxId)(locks locks':List (Row×Mode)):Prop:=
 ∀l∈locks',l∈locks∨grantable Tx.locks s.txs tx l.1 l.2

/-- The active reservations of the run that are not among the released ones. -/
def Unreleased (t:Tables)(w:Writes)(run:RunId):Prop:=
 ∃p id,HeldOn t p id run∧w.reservations.get id=none

structure Executed (s:State)(tx:TxId)(locks:List (Row×Mode))(w:Writes)
  (statement:Statement)(progress:Progress):Prop where
 granted:Granted s tx locks progress.locks
 kept:locks ⊆ progress.locks
 counts:∀st∈progress.first,∀pack,st.counts=some pack→
  (.pack pack,.update)∈progress.locks
 packs:∀pack state,progress.writes.packs.get pack=some state→
  w.packs.get pack=some state∨(.pack pack,.update)∈progress.locks
 changed:Extends w progress.writes
 runs:∀run ending,progress.writes.runs.get run=some ending→
  w.runs.get run=some ending∨((s.tables.runs.get run).isSome∧
   ∃st∈progress.first,st.releases=some run)
 releases:∀run,statement.releases=some run→¬Unreleased s.tables progress.writes run
 settled:∀pack∈progress.writes.settled,pack∈w.settled∨
  (∃otherwise,statement=.drainRecheck pack otherwise)∧Clear (w.view s.tables) pack

variable {locks l:List (Row×Mode)}{statement:Statement}{first:List Statement}
 {progress:Progress}

lemma granted_refl:Granted s tx locks locks:=fun _ h=>.inl h
lemma acquire_spec {row:Row}{mode:Mode}(h:acquire s tx locks row mode=some l):
 Granted s tx locks l∧locks ⊆ l∧(row,mode)∈l:=by
 unfold acquire at h
 split at h
 · rename_i hgrant
   obtain rfl:=some.inj h
   refine ⟨fun held hmem=>?_,subset_cons_self _ _,mem_cons_self⟩
   rcases mem_cons.mp hmem with rfl|hold
   · exact .inr hgrant
   · exact .inl hold
 · cases h

section
variable (hgranted:Granted s tx locks l)(hkept:locks ⊆ l)
include hgranted hkept

lemma Executed.keep (hfirst:∀st∈first,∀pack,st.counts=some pack→(.pack pack,.update)∈l)
 (hstatement:∀run,statement.releases=some run→¬Unreleased s.tables w run):
 Executed s tx locks w statement ⟨l,first,w⟩ where
 granted:=hgranted
 kept:=hkept
 counts:=hfirst
 packs _ _ h:=.inl h
 changed:=.refl w
 runs _ _ h:=.inl h
 releases:=hstatement
 settled _ h:=.inl h
lemma Executed.next (hfirst:∀st∈first,st.counts=none)(hstatement:statement.releases=none):
 Executed s tx locks w statement ⟨l,first,w⟩:=by
 refine .keep hgranted hkept (fun st hst pack hpack=>?_) fun run hrun=>?_
 · rw[hfirst st hst] at hpack
   cases hpack
 · rw[hstatement] at hrun
   cases hrun
lemma Executed.done (hstatement:statement.releases=none):Executed s tx locks w statement ⟨l,[],w⟩:=
 .next hgranted hkept (fun st hst=>by cases hst) hstatement
lemma Executed.counting {st:Statement}(hlock:(.pack p,.update)∈l)(hst:st.counts=some p)
 (hstatement:statement.releases=none):Executed s tx locks w statement ⟨l,[st],w⟩:=by
 refine .keep hgranted hkept (fun st' hst' pack hpack=>?_) fun run hrun=>?_
 · obtain rfl:=mem_singleton.mp hst'
   obtain rfl:=some.inj (hst.symm.trans hpack)
   exact hlock
 · rw[hstatement] at hrun
   cases hrun

lemma Executed.closing
 (hfirst:∀st∈first,st.counts=none)(hstatement:statement.releases=none)(id:RowId)
 (status:SessionStatus)(now:Instant):
 Executed s tx locks w statement ⟨l,first,closing w id status now⟩ where
 granted:=hgranted
 kept:=hkept
 counts st hst pack hpack:=by rw[hfirst st hst] at hpack;cases hpack
 packs _ _ h:=.inl h
 changed:=by
  refine ⟨fun id' hnone=>?_,fun _ h=>h,fun _ h=>h⟩
  simp only[PackDrain.closing,get_set] at hnone
  split at hnone
  · cases hnone
  · exact hnone
 runs _ _ h:=.inl h
 releases run hrun:=by rw[hstatement] at hrun;cases hrun
 settled _ h:=.inl h
end

lemma get_releasing {ids:List RowId}{release:Instant×Option String}:
 (releasing w ids release).reservations.get id =
  if id∈ids then some release else w.reservations.get id:=by
 unfold releasing
 induction ids generalizing w with
 | nil=>simp
 | cons head ids ih=>
  have h:=@ih {w with reservations:=w.reservations.set head release}
  simp only[foldl_cons,mem_cons] at h ⊢
  rw[h,get_set]
  by_cases hmem:id∈ids <;> simp[hmem]
lemma Executed.releasing {ids:List RowId}{release:Instant×Option String}
 (hfirst:∀st∈first,st.counts=none)(hstatement:∀run,statement.releases=some run→
  ¬Unreleased s.tables (releasing w ids release) run):
 Executed s tx locks w statement ⟨locks,first,releasing w ids release⟩ where
 granted:=granted_refl
 kept:=List.Subset.refl _
 counts st hst pack hpack:=by rw[hfirst st hst] at hpack;cases hpack
 packs _ _ h:=.inl h
 changed:=by
  refine ⟨fun _ h=>h,fun _ h=>h,fun id hnone=>?_⟩
  rw[get_releasing] at hnone
  split at hnone
  · cases hnone
  · exact hnone
 runs _ _ h:=.inl h
 releases:=hstatement
 settled _ h:=.inl h
lemma Executed.movingPack (hgranted:Granted s tx locks l)(hkept:locks ⊆ l)
 (hlock:(.pack p,.update)∈l)(hstatement:statement.releases=none)(state:PackState):
 Executed s tx locks w statement ⟨l,[],movingPack w p state⟩ where
 granted:=hgranted
 kept:=hkept
 counts st hst:=by cases hst
 packs:=forall_get_set (.inr hlock) fun _ _ hold=>.inl hold
 changed:=⟨fun _ h=>h,fun _ h=>h,fun _ h=>h⟩
 runs _ _ h:=.inl h
 releases run hrun:=by rw[hstatement] at hrun;cases hrun
 settled _ h:=.inl h
lemma Executed.unsettled (hlock:(.pack p,.update)∈locks)
 (hstatement:statement.releases=none)(otherwise:Option PackState):
 Executed s tx locks w statement ⟨locks,[],unsettled w p otherwise⟩:=by
 cases otherwise with
 | none=>
  exact .done granted_refl (List.Subset.refl _) hstatement
 | some state=>exact .movingPack granted_refl (List.Subset.refl _) hlock hstatement state
lemma Executed.settling {otherwise:Option PackState}(hlock:(.pack p,.update)∈locks)
 (hidle:isIdle (countActiveWorkForPack (w.view s.tables) p)):
 Executed s tx locks w (.drainRecheck p otherwise) ⟨locks,[],settling w p⟩ where
 granted:=granted_refl
 kept:=List.Subset.refl _
 counts st hst:=by cases hst
 packs:=forall_get_set (.inr hlock) fun _ _ hold=>.inl hold
 changed:=⟨fun _ h=>h,fun _ h=>h,fun _ h=>h⟩
 runs _ _ h:=.inl h
 releases run hrun:=by cases hrun
 settled pack hpack:=by
  rcases mem_cons.mp hpack with rfl|hold
  · exact .inr ⟨⟨otherwise,rfl⟩,clear_of_isIdle hidle⟩
  · exact .inl hold
lemma Executed.endRun {ending:Ending}{now:Instant}(hrun:(s.tables.runs.get run).isSome):
 Executed s tx locks w (.endRun run ending now)
  ⟨locks,[.closeRunSessions run ending.closeSessionIds now,.releaseDevices run now],
   {w with runs:=w.runs.set run ending}⟩ where
 granted:=granted_refl
 kept:=List.Subset.refl _
 counts:=by simp[Statement.counts]
 packs _ _ h:=.inl h
 changed:=by
  refine ⟨fun _ h=>h,fun run' hnone=>?_,fun _ h=>h⟩
  simp only[get_set] at hnone
  split at hnone
  · cases hnone
  · exact hnone
 runs:=forall_get_set (.inr ⟨hrun,.releaseDevices run now,by simp,rfl⟩)
  fun _ _ hold=>.inl hold
 releases run' h:=by cases h
 settled _ h:=.inl h
lemma mem_releasable (h:HeldOn (w.view t) p id run):id∈releasable (w.view t) run:=by
 obtain ⟨res,hget,hactive,hon,hrun⟩:=h
 refine List.mem_map.mpr ⟨(id,res),mem_filter.mpr ⟨get_eq_some_iff.mp hget,?_⟩,rfl⟩
 have hdevice:((w.view t).devices.get res.deviceId).isSome:=by
  simp only[onPack,packOf,decide_eq_true_eq,map_eq_some_iff] at hon
  obtain ⟨row,hrow,-⟩:=hon
  simp[hrow]
 simp[hrun,hactive,hdevice]
lemma executed_releaseDevices {now:Instant}
 (h:exec s tx locks w (.releaseDevices run now)=some progress):
 Executed s tx locks w (.releaseDevices run now) progress:=by
 simp only[exec] at h
 split at h
 · rename_i hnone
   obtain rfl:=some.inj h
   refine .keep granted_refl (List.Subset.refl _) (fun st hst=>by cases hst) ?_
   rintro run' ⟨rfl⟩ ⟨p,id,hon,hopen⟩
   have hmem:=mem_releasable (heldOn_view.mpr ⟨hopen,hon⟩)
   rw[hnone] at hmem
   cases hmem
 · obtain rfl:=some.inj h
   refine .releasing (fun st hst=>?_) ?_
   · obtain ⟨pack,-,rfl⟩:=List.mem_map.mp hst
     rfl
   · rintro run' ⟨rfl⟩ ⟨p,id,hon,hopen⟩
     rw[get_releasing] at hopen
     split at hopen
     · cases hopen
     · rename_i hnot
       exact hnot (mem_releasable (heldOn_view.mpr ⟨hopen,hon⟩))

lemma executed_of_exec (hcounts:∀pack,statement.counts=some pack→(.pack pack,.update)∈locks)
 (h:exec s tx locks w statement=some progress):Executed s tx locks w statement progress:=by
 have hself:locks ⊆ locks:=List.Subset.refl _
 cases statement with
 | lockDevice=>
  simp only[exec,map_eq_some_iff] at h
  obtain ⟨l,hl,rfl⟩:=h
  obtain ⟨hgranted,hkept,-⟩:=acquire_spec hl
  exact .done hgranted hkept rfl
 | closeRunningSession id now=>
  simp only[exec,map_eq_some_iff] at h
  obtain ⟨row,-,rfl⟩:=h
  split <;> exact .next granted_refl hself (by simp[Statement.counts]) rfl
 | closeRunningSessionLocked=>
  simp only[exec,map_eq_some_iff] at h
  obtain ⟨l,hl,rfl⟩:=h
  obtain ⟨hgranted,hkept,-⟩:=acquire_spec hl
  split
  · exact .done hgranted hkept rfl
  · split
    · refine .closing hgranted hkept (fun st hst=>?_) rfl _ _ _
      obtain ⟨pack,-,rfl⟩:=map_eq_some_iff.mp (mem_toList.mp hst)
      rfl
    · exact .done hgranted hkept rfl
 | terminalizeSessionWithoutDevice | failPending=>
  simp only[exec,map_eq_some_iff] at h
  obtain ⟨l,hl,rfl⟩:=h
  obtain ⟨hgranted,hkept,-⟩:=acquire_spec hl
  split
  · exact .done hgranted hkept rfl
  · split
    · exact .closing hgranted hkept (fun st hst=>by cases hst) rfl _ _ _
    · exact .done hgranted hkept rfl
 | fail id now=>
  simp only[exec,some.injEq] at h
  subst h
  split
  · exact .done granted_refl hself rfl
  · refine .next granted_refl hself (fun st hst=>?_) rfl
    rcases mem_append.mp hst with hdevice|hpending
    · obtain ⟨device,-,rfl⟩:=map_eq_some_iff.mp (mem_toList.mp hdevice)
      rfl
    · obtain rfl:=mem_singleton.mp hpending
      rfl
 | releaseLocked=>
  simp only[exec,some.injEq] at h
  subst h
  exact .releasing (fun st hst=>by cases hst) fun run hrun=>by cases hrun
 | lockRun run ending now=>
  simp only[exec,bind_eq_some_iff] at h
  obtain ⟨l,hl,h⟩:=h
  obtain ⟨hgranted,hkept,-⟩:=acquire_spec hl
  have hstop:Executed s tx locks w (.lockRun run ending now) ⟨l,[],w⟩:=
   .done hgranted hkept rfl
  split at h
  · split at h
    · obtain rfl:=some.inj h
      refine .next hgranted hkept (fun st hst=>?_) rfl
      rcases mem_append.mp hst with hdevice|hend
      · obtain ⟨device,-,rfl⟩:=List.mem_map.mp hdevice
        rfl
      · obtain rfl:=mem_singleton.mp hend
        rfl
    · split at h
      · cases h
      · obtain rfl:=some.inj h
        exact hstop
  · cases h
  · obtain rfl:=some.inj h
    exact hstop
 | endRun run=>
  simp only[exec,map_eq_some_iff] at h
  obtain ⟨row,hrow,rfl⟩:=h
  have hsome:((w.view s.tables).runs.get run).isSome:=by rw[hrow];rfl
  exact .endRun (isSome_overlay.symm.trans hsome)
 | closeRunSessions run closeSessionIds now=>
  simp only[exec,some.injEq] at h
  subst h
  refine .next granted_refl hself (fun st hst=>?_) rfl
  obtain ⟨e,-,rfl⟩:=List.mem_map.mp hst
  rfl
 | releaseDevices=>exact executed_releaseDevices h
 | completeDrainIfDraining pack=>
  simp only[exec] at h
  split at h
  · obtain rfl:=some.inj h
    exact .next granted_refl hself (by simp[Statement.counts]) rfl
  · obtain rfl:=some.inj h
    exact .done granted_refl hself rfl
 | tryCompleteDrain=>
  simp only[exec,bind_eq_some_iff,map_eq_some_iff] at h
  obtain ⟨l,hl,state,-,rfl⟩:=h
  obtain ⟨hgranted,hkept,hlock⟩:=acquire_spec hl
  split
  · exact .counting hgranted hkept hlock rfl rfl
  · exact .done hgranted hkept rfl
 | drainSettled pack otherwise=>
  have hlock:=hcounts pack rfl
  simp only[exec] at h
  split at h
  · obtain rfl:=some.inj h
    exact .counting granted_refl hself hlock rfl rfl
  · obtain rfl:=some.inj h
    exact .unsettled hlock rfl otherwise
 | drainRecheck pack otherwise=>
  have hlock:=hcounts pack rfl
  simp only[exec] at h
  split at h
  · rename_i hidle
    obtain rfl:=some.inj h
    exact .settling hlock hidle
  · obtain rfl:=some.inj h
    exact .unsettled hlock rfl otherwise
 | completeDrainingPacks=>
  simp only[exec,some.injEq] at h
  subst h
  refine .next granted_refl hself (fun st hst=>?_) rfl
  obtain ⟨id,-,rfl⟩:=List.mem_map.mp hst
  rfl
 | transitionPack _ target=>
  simp only[exec,bind_eq_some_iff] at h
  obtain ⟨l,hl,current,-,h⟩:=h
  obtain ⟨hgranted,hkept,hlock⟩:=acquire_spec hl
  split at h
  · obtain rfl:=some.inj h
    exact .counting hgranted hkept hlock rfl rfl
  · split at h
    · obtain rfl:=some.inj h
      exact .movingPack hgranted hkept hlock rfl target
    · cases h
end GridFleet.PackDrain
