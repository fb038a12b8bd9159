import GridFleet.PackDrainSettle
import Mathlib.Data.List.Dedup
namespace GridFleet.PackDrain
open Dict List Option
open SessionLifecycle (TxId isLive)
open ReservationGate (Ticket)
open Readiness (Catalog)
open RowLocks

variable {s u:State}{t t':Tables}{w:Writes}{p:PackId}{tx:TxId}{x x':Tx}
 {label:Label}{locks:List (Row×Mode)}

def RunStage.devices:RunStage→List DeviceId
 | .packs | .candidates _=>[]
 | .selected picked _=>picked
 | .locked ready=>ready
 | .inserted _ reservations=>reservations.map fun e=>e.2.deviceId

/-- A run creation past its pack check: it holds the packs, they are enabled, and every device it takes
is of one of them. -/
structure RunOk (t:Tables)(locks:List (Row×Mode))(requirements:List DeviceRequirement)
  (stage:RunStage):Prop where
 shared:∀req∈requirements,
  (.pack req.packId,.share)∈locks∧packState t req.packId=some .enabled
 devices:∀d∈stage.devices,∃req∈requirements,packOf t d=some req.packId
 runs:∀run reservations,stage=.inserted run reservations→∀e∈reservations,e.2.runId=run

structure ProgramOk (t:Tables)(locks:List (Row×Mode))(rest:List Statement)(w:Writes):
  Prop where
 counts:∀st∈rest,∀pack,st.counts=some pack→(.pack pack,.update)∈locks
 packs:∀pack state,w.packs.get pack=some state→(.pack pack,.update)∈locks
 runs:∀run ending,w.runs.get run=some ending→(t.runs.get run).isSome∧
  ((∃st∈rest,st.releases=some run)∨¬Unreleased t w run)

def WorkOk (t:Tables)(x:Tx):Prop:=
 match x.work with
 | .claim _ _=>True
 | .createRun requirements stage=>stage=.packs∨RunOk t x.locks requirements stage
 | .program rest w=>ProgramOk t x.locks rest w

inductive Move (s:State)(tx:TxId)(x:Tx):Label→Tx→Prop where
 | matched (ticket:Ticket)(devices:List DeviceId)(hwork:x.work=.claim ticket .matching):
   Move s tx x (.matchPass tx devices) (matchPass s x.locks ticket devices)
 | narrowed (label:Label)(ticket:Ticket)(stage stage':ClaimStage)(locks:List (Row×Mode))
   (hwork:x.work=.claim ticket stage)(hdevices:stage'.devices ⊆ stage.devices)
   (hgranted:Granted s tx x.locks locks):Move s tx x label ⟨locks,.claim ticket stage'⟩
 | created (label:Label)(requirements:List DeviceRequirement)(stage stage':RunStage)
   (locks:List (Row×Mode))(hwork:x.work=.createRun requirements stage)
   (hgranted:Granted s tx x.locks locks)
   (hok:stage=.packs∨RunOk s.tables x.locks requirements stage→
    RunOk s.tables locks requirements stage'):
   Move s tx x label ⟨locks,.createRun requirements stage'⟩
 | executed (statement:Statement)(rest:List Statement)(w:Writes)(progress:Progress)
   (hwork:x.work=.program (statement::rest) w)
   (hexec:exec s tx x.locks w statement=some progress):
   Move s tx x (.exec tx) ⟨progress.locks,.program (progress.first++rest) progress.writes⟩

lemma packOf_of_matchesRequirement {d:DeviceId}{req:DeviceRequirement}
 (h:matchesRequirement t d req):packOf t d=some req.packId:=by
 unfold matchesRequirement at h
 unfold packOf
 cases hget:t.devices.get d with
 | none=>simp[hget] at h
 | some=>
  simp only[hget,any_some,Bool.and_eq_true,decide_eq_true_eq] at h
  simp[h.1.1]
lemma enabled_of_evaluateRunnable {pack:Option DriverPack}{platformId:String}
 (h:evaluateRunnable pack platformId=none):pack.map DriverPack.state=some .enabled:=by
 cases pack with
 | none=>cases h
 | some pack=>
  cases hstate:pack.state with
  | enabled=>rw[map_some,hstate]
  | draining | disabled=>simp[evaluateRunnable,hstate] at h

variable {requirements:List DeviceRequirement}{run:RunId}{id:RowId}

lemma move_sharePacks (hwork:x.work=.createRun requirements .packs)
 (h:sharePacks s tx x.locks requirements=some x'):Move s tx x label x':=by
 unfold sharePacks at h
 simp only[ite_none_right_eq_some,Bool.and_eq_true,List.all_eq_true,
  decide_eq_true_eq] at h
 obtain ⟨⟨hfree,hrunnable⟩,hx⟩:=h
 obtain rfl:=some.inj hx
 refine .created label requirements .packs _ _ hwork (fun l hl=>?_) fun _=>⟨?_,?_,?_⟩
 · rcases mem_append.mp hl with hnew|hold
   · obtain ⟨id,hid,rfl⟩:=List.mem_map.mp hnew
     exact .inr (hfree id hid)
   · exact .inl hold
 · intro req hreq
   refine ⟨mem_append_left _ (List.mem_map.mpr ⟨req.packId,?_,rfl⟩),
    enabled_of_evaluateRunnable (hrunnable req hreq)⟩
   rw[mem_insertionSort,mem_dedup]
   exact List.mem_map_of_mem hreq
 · intro d hd
   cases hd
 · intro run reservations heq
   cases heq
lemma move_selectDevices {packs:Catalog}{devices:List DeviceId}
 (hwork:x.work=.createRun requirements (.candidates packs)):
 Move s tx x label (selectDevices s x.locks requirements packs devices):=by
 refine .created label requirements _ _ _ hwork granted_refl ?_
 rintro (hnone|hok)
 · cases hnone
 · refine ⟨hok.shared,fun d hd=>?_,fun run reservations heq=>by cases heq⟩
   have hmatch:=(mem_filter.mp hd).2
   simp only[Bool.and_eq_true,List.any_eq_true] at hmatch
   obtain ⟨⟨⟨req,hreq,hreqd⟩,-⟩,-⟩:=hmatch
   exact ⟨req,hreq,packOf_of_matchesRequirement hreqd⟩
lemma move_lockSelected {packs:Catalog}{picked holding:List DeviceId}
 (hwork:x.work=.createRun requirements (.selected picked packs)):
 Move s tx x label (lockSelected s tx x.locks requirements picked packs holding):=by
 refine .created label requirements _ _ _ hwork (fun l hl=>?_) ?_
 · rcases mem_append.mp hl with hnew|hold
   · obtain ⟨d,hd,rfl⟩:=List.mem_map.mp hnew
     have hfree:=(mem_filter.mp hd).2
     simp only[Bool.and_eq_true] at hfree
     exact .inr hfree.2
   · exact .inl hold
 · rintro (hnone|hok)
   · cases hnone
   · refine ⟨fun req hreq=>?_,fun d hd=>?_,fun run reservations heq=>by cases heq⟩
     · obtain ⟨hlock,henabled⟩:=hok.shared req hreq
       exact ⟨mem_append_right _ hlock,henabled⟩
     · exact hok.devices d (mem_of_mem_filter (mem_of_mem_filter hd))
lemma move_insertRun {ready kept:List DeviceId}{firstId:RowId}{now:Instant}
 (hwork:x.work=.createRun requirements (.locked ready))
 (h:insertRun x.locks requirements ready run kept firstId now=some x'):Move s tx x label x':=by
 unfold insertRun at h
 split at h
 · rename_i hkept
   obtain rfl:=some.inj h
   refine .created label requirements _ _ _ hwork granted_refl ?_
   rintro (hnone|hok)
   · cases hnone
   · refine ⟨hok.shared,fun d hd=>?_,?_⟩
     · obtain ⟨e,he,rfl⟩:=List.mem_map.mp hd
       obtain ⟨e',he',rfl⟩:=List.mem_map.mp he
       exact hok.devices _ (hkept.2 _ (fst_mem_of_mem_zipIdx he'))
     · rintro run' reservations ⟨⟩ e he
       obtain ⟨e',-,rfl⟩:=List.mem_map.mp he
       rfl
 · cases h

lemma move_cases (h:move s label tx x=some x')(hlabel:label.tx=some tx):Move s tx x label x':=by
 obtain ⟨locks,work⟩:=x
 unfold move at h
 split at h
 · obtain rfl:=some.inj h
   obtain rfl:=some.inj hlabel
   rename_i hwork
   exact .matched _ _ hwork
 · rename_i hwork
   unfold lockCandidate at h
   split at h
   · obtain ⟨l,hl,rfl⟩:=map_eq_some_iff.mp h
     exact .narrowed _ _ _ _ l hwork (List.Subset.refl _) (acquire_spec hl).1
   · obtain rfl:=some.inj h
     exact .narrowed _ _ _ _ locks hwork (subset_cons_self _ _) granted_refl
 · rename_i hwork
   obtain rfl:=some.inj h
   unfold recheck
   split
   · exact .narrowed _ _ _ _ locks hwork (by simp[ClaimStage.devices]) granted_refl
   · exact .narrowed _ _ _ _ locks hwork (subset_cons_self _ _) granted_refl
 · rename_i hwork
   exact move_sharePacks hwork h
 · rename_i hwork
   obtain rfl:=some.inj h
   exact move_selectDevices hwork
 · rename_i hwork
   obtain rfl:=some.inj h
   exact move_lockSelected hwork
 · rename_i hwork
   exact move_insertRun hwork h
 · rename_i hwork
   obtain ⟨progress,hexec,rfl⟩:=map_eq_some_iff.mp h
   obtain rfl:=some.inj hlabel
   exact .executed _ _ _ progress hwork hexec
 · cases h

inductive Transition (s:State):Label→State→Prop where
 | begun (operation:Operation):Transition s (.begin operation)
   {s with txs:=s.txs.set s.nextTx ⟨[],operation.work⟩,nextTx:=s.nextTx+1}
 | moved (label:Label)(tx:TxId)(x x':Tx)(hx:s.txs.get tx=some x)
   (hmove:Move s tx x label x'):Transition s label {s with txs:=s.txs.set tx x'}
 | committed (tx:TxId)(x:Tx)(t:Tables)(hx:s.txs.get tx=some x)
   (hcommit:commit s.tables x.work=some t):
   Transition s (.commit tx) {s with tables:=t,txs:=s.txs.pop tx}
 | rolledBack (tx:TxId):Transition s (.rollback tx) {s with txs:=s.txs.pop tx}
 | touched (device:DeviceId)(row:Device)(hpack:packOf s.tables device=some row.packId):
   Transition s (.touchDevice device row)
    { s with tables:={s.tables with devices:=s.tables.devices.set device row} }

lemma transition_of_step (h:step s label=some u):Transition s label u:=by
 unfold step at h
 split at h
 · obtain rfl:=some.inj h
   exact .begun _
 · obtain ⟨x,hx,hmap⟩:=bind_eq_some_iff.mp h
   obtain ⟨t,ht,rfl⟩:=map_eq_some_iff.mp hmap
   exact .committed _ x t hx ht
 · obtain ⟨x,-,rfl⟩:=map_eq_some_iff.mp h
   exact .rolledBack _
 · split at h
   · rename_i hpack
     obtain rfl:=some.inj h
     exact .touched _ _ hpack.1
   · cases h
 · obtain ⟨tx,htx,hbind⟩:=bind_eq_some_iff.mp h
   obtain ⟨x,hx,hmap⟩:=bind_eq_some_iff.mp hbind
   obtain ⟨x',hmove,rfl⟩:=map_eq_some_iff.mp hmap
   exact .moved _ tx x x' hx (move_cases hmove htx)

section
variable (hpack:∀d,packOf t' d=packOf t d)
include hpack

lemma onPack_congr:onPack t' p=onPack t p:=by
 funext d
 simp only[onPack,hpack]
lemma liveOn_congr (hsessions:t'.sessions.get id=t.sessions.get id):LiveOn t' p id↔LiveOn t p id:=by
 simp only[LiveOn,onPack_congr hpack,hsessions]
lemma heldOn_congr (hreservations:t'.reservations.get id=t.reservations.get id):
 HeldOn t' p id run↔HeldOn t p id run:=by
 simp only[HeldOn,onPack_congr hpack,hreservations]
lemma claims_congr:claims t' x p=claims t x p:=by
 simp only[claims,onPack_congr hpack]
end

lemma packOf_touch {device:DeviceId}{row:Device}(h:packOf t device=some row.packId)
 (d:DeviceId):packOf {t with devices:=t.devices.set device row} d=packOf t d:=by
 simp only[packOf,get_set]
 split
 · rename_i heq
   rw[heq]
   exact h.symm
 · rfl

/-- What commits keep: packs of devices, runs, and reservations but for those of fresh runs. -/
structure Later (t t':Tables):Prop where
 packOf:∀d,packOf t' d=packOf t d
 runs:∀run,(t.runs.get run).isSome→(t'.runs.get run).isSome
 heldOn:∀p id run,HeldOn t' p id run→HeldOn t p id run∨t.runs.get run=none

lemma heldOn_createRun {r:RunId}{reservations:List (RowId×DeviceReservation)}(h:HeldOn { t with
  runs:=t.runs.set run ⟨.preparing,requirements⟩
  reservations:=reservations.foldl (fun d e=>d.set e.1 e.2) t.reservations } p id r):
 HeldOn t p id r∨∃e∈reservations,onPack t p e.2.deviceId∧e.2.runId=r:=by
 obtain ⟨res,hget,hactive,hon,hrun⟩:=h
 rcases mem_of_get_foldl_set hget with hmem|hold
 · exact .inr ⟨(id,res),hmem,hon,hrun⟩
 · exact .inl ⟨res,hold,hactive,hon,hrun⟩

inductive Committable (t:Tables):Work→Tables→Prop where
 | claimed (ticket:Ticket)(session:Session)(hfresh:t.sessions.get session.id=none):
   Committable t (.claim ticket (.inserted session))
    {t with sessions:=t.sessions.set session.id session}
 | declined (ticket:Ticket)(packs:Catalog):Committable t (.claim ticket (.candidates [] packs)) t
 | created (requirements:List DeviceRequirement)(run:RunId)
   (reservations:List (RowId×DeviceReservation))(hfresh:t.runs.get run=none):
   Committable t (.createRun requirements (.inserted run reservations)) { t with
    runs:=t.runs.set run ⟨.preparing,requirements⟩
    reservations:=reservations.foldl (fun d e=>d.set e.1 e.2) t.reservations }
 | finished (w:Writes):Committable t (.program [] w) (w.view t)

lemma committable_of_commit {work:Work}(h:commit t work=some t'):Committable t work t':=by
 unfold commit at h
 split at h
 · split at h
   · rename_i hfresh
     obtain rfl:=some.inj h
     exact .claimed _ _ hfresh
   · cases h
 · obtain rfl:=some.inj h
   exact .declined _ _
 · split at h
   · rename_i hfresh
     obtain rfl:=some.inj h
     exact .created _ _ _ hfresh.1
   · cases h
 · obtain rfl:=some.inj h
   exact .finished _
 all_goals cases h
lemma later_commit (hok:WorkOk t x)(h:Committable t x.work t'):Later t t':=by
 obtain ⟨locks,work⟩:=x
 cases h with
 | claimed | declined=>exact ⟨fun _=>rfl,fun _ h=>h,fun _ _ _ h=>.inl h⟩
 | created requirements run reservations hfresh=>
  have hok:RunOk t locks requirements (.inserted run reservations):=
   hok.resolve_left fun heq=>by cases heq
  refine ⟨fun _=>rfl,fun r hr=>?_,fun p id r hon=>?_⟩
  · rw[get_set]
    split
    · rfl
    · exact hr
  · rcases heldOn_createRun hon with hold|⟨e,he,-,hrun⟩
    · exact .inl hold
    · rw[←hrun,hok.runs run reservations rfl e he]
      exact .inr hfresh
 | finished=>
  exact ⟨fun _=>rfl,fun r hr=>by rw[Writes.view,isSome_overlay];exact hr,
   fun p id r hon=>.inl (heldOn_view.mp hon).2⟩
lemma packState_commit (hok:WorkOk t x)(h:Committable t x.work t')
 (hlock:(.pack p,.update) ∉ x.locks):packState t' p=packState t p:=by
 obtain ⟨locks,work⟩:=x
 cases h with
 | claimed | declined | created=>rfl
 | finished w=>
  have hnone:w.packs.get p=none:=by
   cases hget:w.packs.get p with
   | none=>rfl
   | some state=>exact absurd (hok.packs p state hget) hlock
  simp only[packState,Writes.view,overlay,Dict.get_map,hnone,map_none,
   getD_none,Option.map_id']
lemma WorkOk.later (hok:WorkOk t x)(hlater:Later t t')
 (hpacks:∀p,(.pack p,.share)∈x.locks→packState t' p=packState t p):WorkOk t' x:=by
 obtain ⟨locks,work⟩:=x
 cases work with
 | claim=>trivial
 | createRun=>
  refine hok.imp id fun hrun=>⟨fun req hreq=>?_,fun d hd=>?_,hrun.runs⟩
  · obtain ⟨hlock,henabled⟩:=hrun.shared req hreq
    exact ⟨hlock,(hpacks _ hlock).trans henabled⟩
  · obtain ⟨req,hreq,hpack⟩:=hrun.devices d hd
    exact ⟨req,hreq,(hlater.packOf d).trans hpack⟩
 | program=>
  refine ⟨hok.counts,hok.packs,fun run ending hending=>?_⟩
  obtain ⟨hrun,hreleases⟩:=hok.runs run ending hending
  refine ⟨hlater.runs run hrun,hreleases.imp id fun hall=>?_⟩
  rintro ⟨p,id,hon,hopen⟩
  rcases hlater.heldOn p id run hon with hold|hfresh
  · exact hall ⟨p,id,hold,hopen⟩
  · rw[hfresh] at hrun
    cases hrun
lemma held_commit (hheld:Held t)(hok:WorkOk t x)(h:Committable t x.work t'):Held t':=by
 obtain ⟨locks,work⟩:=x
 cases h with
 | claimed | declined=>exact hheld
 | created requirements run reservations hfresh=>
  have hok:RunOk t locks requirements (.inserted run reservations):=
   hok.resolve_left fun heq=>by cases heq
  intro p id r hon
  rcases heldOn_createRun hon with hold|⟨e,he,-,hrun⟩
  · obtain ⟨row,hrow,hstate⟩:=hheld p id r hold
    have hne:r≠run:=fun heq=>by rw[heq,hfresh] at hrow;cases hrow
    exact ⟨row,(get_set_of_ne _ _ hne).trans hrow,hstate⟩
  · rw[←hrun,hok.runs run reservations rfl e he]
    exact ⟨⟨.preparing,requirements⟩,get_set_self _ _ _,rfl⟩
 | finished w=>
  intro p id r hon
  obtain ⟨hopen,hold⟩:=heldOn_view.mp hon
  refine runLive_view.mpr ⟨?_,hheld p id r hold⟩
  cases hending:w.runs.get r with
  | none=>rfl
  | some ending=>
   rcases (hok.runs r ending hending).2 with ⟨st,hst,-⟩|hall
   · cases hst
   · exact absurd ⟨p,id,hold,hopen⟩ hall

structure Inv (s:State):Prop where
 locks:Compatible Tx.locks s.txs
 started:∀tx x,s.txs.get tx=some x→tx<s.nextTx
 held:Held s.tables
 works:∀tx x,s.txs.get tx=some x→WorkOk s.tables x

lemma inv_init (packs:Dict PackId DriverPack)(devices:Dict DeviceId Device):
 Inv (init packs devices) where
 locks:=compatible_empty
 started _ _ h:=by cases h
 held:=by
  rintro p id run ⟨res,hget,-⟩
  cases hget
 works _ _ h:=by cases h
lemma workOk_begun (operation:Operation):WorkOk t ⟨[],operation.work⟩:=by
 have hprogram:∀rest:List Statement,(∀st∈rest,st.counts=none)→
   ProgramOk t [] rest .none:=by
  intro rest hrest
  refine ⟨fun st hst pack hpack=>?_,fun pack state h=>(by cases h),
   fun run ending h=>(by cases h)⟩
  rw[hrest st hst] at hpack
  cases hpack
 cases operation with
 | allocate=>trivial
 | createRun=>exact .inl rfl
 | transition | completeDrainingPacksOnce | closeSession | finalizePreemption | failAllocation
 | endRun | releaseReservation=>exact hprogram _ (by simp[Statement.counts])
lemma ProgramOk.executed {statement:Statement}{rest:List Statement}{progress:Progress}
 (hok:ProgramOk s.tables locks (statement::rest) w)(hexec:Executed s tx locks w statement progress):
 ProgramOk s.tables progress.locks (progress.first++rest) progress.writes where
 counts st hst pack hpack:=by
  rcases mem_append.mp hst with hfirst|hrest
  · exact hexec.counts st hfirst pack hpack
  · exact hexec.kept (hok.counts st (mem_cons_of_mem _ hrest) pack hpack)
 packs pack state h:=by
  rcases hexec.packs pack state h with hold|hlock
  · exact hexec.kept (hok.packs pack state hold)
  · exact hlock
 runs run ending h:=by
  rcases hexec.runs run ending h with hold|⟨hrun,st,hst,hreleases⟩
  · obtain ⟨hrun,hreleases⟩:=hok.runs run ending hold
    refine ⟨hrun,?_⟩
    rcases hreleases with ⟨st,hst,hreleases⟩|hall
    · rcases mem_cons.mp hst with rfl|hrest
      · exact .inr (hexec.releases run hreleases)
      · exact .inl ⟨st,mem_append_right _ hrest,hreleases⟩
    · refine .inr ?_
      rintro ⟨p,id,hon,hopen⟩
      exact hall ⟨p,id,hon,hexec.changed.reservations id hopen⟩
  · exact ⟨hrun,.inl ⟨st,mem_append_left _ hst,hreleases⟩⟩
lemma Move.spec (hok:WorkOk s.tables x)(h:Move s tx x label x'):
 Granted s tx x.locks x'.locks∧WorkOk s.tables x':=by
 obtain ⟨locks,work⟩:=x
 cases h with
 | matched=>exact ⟨granted_refl,trivial⟩
 | narrowed _ _ _ _ _ _ _ hgranted=>exact ⟨hgranted,trivial⟩
 | created _ _ _ _ _ hwork hgranted hstage=>
  obtain rfl:work=_:=hwork
  exact ⟨hgranted,.inr (hstage hok)⟩
 | executed statement _ _ _ hwork hexec=>
  obtain rfl:work=_:=hwork
  have hexecuted:=executed_of_exec (hok.counts statement mem_cons_self) hexec
  exact ⟨hexecuted.granted,ProgramOk.executed hok hexecuted⟩

lemma inv_step (hinv:Inv s)(hstep:step s label=some u):Inv u:=by
 cases transition_of_step hstep with
 | begun operation=>
  refine ⟨hinv.locks.set fun l hl=>(by cases hl),?_,hinv.held,
   forall_get_set (workOk_begun operation) hinv.works⟩
  exact forall_get_set (Nat.lt_succ_self _) fun tx x hx=>Nat.lt_succ_of_lt (hinv.started tx x hx)
 | moved _ tx x _ hx hmove=>
  obtain ⟨hgranted,hok⟩:=hmove.spec (hinv.works tx x hx)
  refine ⟨hinv.locks.set fun l hl=>?_,forall_get_set (hinv.started _ x hx) hinv.started,
   hinv.held,forall_get_set hok hinv.works⟩
  exact (hgranted l hl).imp (fun hold=>⟨x,hx,hold⟩) id
 | committed tx x _ hx hcommit=>
  have hok:=hinv.works tx x hx
  have hcan:=committable_of_commit hcommit
  refine ⟨hinv.locks.pop tx,fun tx' y hy=>hinv.started tx' y (get_pop_eq_some hy).2,
   held_commit hinv.held hok hcan,fun tx' y hy=>?_⟩
  obtain ⟨hne,hold⟩:=get_pop_eq_some hy
  refine (hinv.works tx' y hold).later (later_commit hok hcan) fun p hshare=>?_
  exact packState_commit hok hcan fun hupdate=>
   hinv.locks tx tx' x y hx hold hne.symm _ _ hupdate hshare
 | rolledBack tx=>
  exact ⟨hinv.locks.pop tx,fun tx' y hy=>hinv.started tx' y (get_pop_eq_some hy).2,
   hinv.held,fun tx' y hy=>hinv.works tx' y (get_pop_eq_some hy).2⟩
 | touched device row hpack=>
  have hsame:=packOf_touch hpack
  have hheld:∀p id run,HeldOn {s.tables with devices:=s.tables.devices.set device row}
    p id run→HeldOn s.tables p id run:=fun p id run=>(heldOn_congr hsame rfl).mp
  refine ⟨hinv.locks,hinv.started,fun p id run hon=>hinv.held p id run (hheld p id run hon),
   fun tx x hx=>?_⟩
  exact (hinv.works tx x hx).later ⟨hsame,fun _ h=>h,fun p id run hon=>
   .inl (hheld p id run hon)⟩ fun _ _=>rfl
end GridFleet.PackDrain
