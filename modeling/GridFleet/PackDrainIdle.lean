import GridFleet.PackDrainInvariant
/-! A grid claim neither locks the pack row nor reads the pack's state, so a drain cannot see it coming. In
runs whose matching passes keep to enabled packs, and whose settle checks meet no claim in hand, a
settled pack stays idle. -/
namespace GridFleet.PackDrain
open Dict List Option
open SessionLifecycle (TxId isLive)
open ReservationGate (Ticket)
open Readiness (FieldSchema)
open Interleaving (run Guarded run_invariant_guarded)
open RowLocks

variable {s u:State}{t t':Tables}{p:PackId}{tx n:TxId}{x:Tx}{label:Label}

/-- No transaction from `n` on has a device of the pack in hand. -/
def Unclaimed (n:TxId)(s:State)(p:PackId):Prop:=
 ∀tx x,n≤tx→s.txs.get tx=some x→claims s.tables x p=false

/-- The pack is out of service, or a pack transaction holds its row. -/
def Shut (s:State)(p:PackId):Prop:=
 OutOfService s.tables p∨∃tx x,s.txs.get tx=some x∧(.pack p,.update)∈x.locks

lemma claims_begun (operation:Operation):claims t ⟨[],operation.work⟩ p=false:=by
 cases operation <;> rfl
lemma claims_matchPass {ticket:Ticket}{devices:List DeviceId}{locks:List (Row×Mode)}
 (hshut:Shut s p)(hguard:Screened s (.matchPass tx devices)):
 claims s.tables (matchPass s locks ticket devices) p=false:=by
 refine List.any_eq_false.mpr fun d hd hon=>?_
 have hpack:packOf s.tables d=some p:=by simpa[onPack] using hon
 obtain ⟨henabled,hfree⟩:=hguard d (mem_of_mem_filter hd) p (by simp[hpack])
 rcases hshut with ⟨state,hstate,hne⟩|⟨tx',y,hy,hlock⟩
 · exact hne (some.inj (hstate.symm.trans henabled))
 · exact hfree (tx',y) (get_eq_some_iff.mp hy) hlock
lemma claims_of_subset {ticket:Ticket}{stage stage':ClaimStage}{locks locks':List (Row×Mode)}
 (h:claims t ⟨locks,.claim ticket stage⟩ p=false)(hsub:stage'.devices ⊆ stage.devices):
 claims t ⟨locks',.claim ticket stage'⟩ p=false:=
 List.any_eq_false.mpr fun d hd=>List.any_eq_false.mp h d (hsub hd)

lemma Unclaimed.step (h:Unclaimed n s p)(hinv:Inv s)(hshut:Shut s p)
 (hguard:Screened s label)(hstep:step s label=some u):Unclaimed n u p:=by
 intro tx' y hn hy
 cases transition_of_step hstep with
 | begun operation=>
  rcases get_set_eq_some hy with ⟨-,rfl⟩|⟨-,hold⟩
  · exact claims_begun operation
  · exact h tx' y hn hold
 | moved _ _ x _ hx hmove=>
  rcases get_set_eq_some hy with ⟨rfl,rfl⟩|⟨-,hold⟩
  · have hclaims:=h tx' x hn hx
    obtain ⟨locks,work⟩:=x
    cases hmove with
    | matched ticket devices=>
     have hmatched:=@claims_matchPass s p tx' ticket devices locks hshut hguard
     exact hmatched
    | narrowed _ _ _ _ _ hwork hdevices=>
     obtain rfl:work=_:=hwork
     exact claims_of_subset hclaims hdevices
    | created | executed=>rfl
  · exact h tx' y hn hold
 | committed tx x _ hx hcommit=>
  have hlater:=later_commit (hinv.works tx x hx) (committable_of_commit hcommit)
  rw[claims_congr hlater.packOf]
  exact h tx' y hn (get_pop_eq_some hy).2
 | rolledBack=>exact h tx' y hn (get_pop_eq_some hy).2
 | touched _ _ hpack=>
  rw[claims_congr (packOf_touch hpack)]
  exact h tx' y hn hy

/-- A commit brings no work to a pack that is out of service or locked by another transaction, unless
it is a claim of one of its devices. -/
lemma noNewWork_commit (hinv:Inv s)(hx:s.txs.get tx=some x)
 (hcommit:commit s.tables x.work=some t)(hclaims:claims s.tables x p=false)
 (hshut:OutOfService s.tables p∨∃tx' y,tx'≠tx∧s.txs.get tx'=some y∧(.pack p,.update)∈y.locks):
 NoNewWork p s.tables t:=by
 have hok:=hinv.works tx x hx
 have hcompatible:=hinv.locks
 have hcan:=committable_of_commit hcommit
 obtain ⟨locks,work⟩:=x
 cases hcan with
 | claimed=>
  refine ⟨fun id hlive=>?_,fun _ _ hon=>hon⟩
  obtain ⟨row,hget,hrow,hon⟩:=hlive
  rcases get_set_eq_some hget with ⟨rfl,rfl⟩|⟨-,hold⟩
  · cases hd:row.deviceId with
    | none=>simp[hd] at hon
    | some d=>
     have hdp:onPack s.tables p d:=by simpa[hd,onPack,packOf] using hon
     have hmem:d∈ClaimStage.devices (.inserted row):=mem_toList.mpr hd
     exact absurd hdp (List.any_eq_false.mp hclaims d hmem)
  · exact ⟨row,hold,hrow,hon⟩
 | declined=>exact ⟨fun _ hlive=>hlive,fun _ _ hon=>hon⟩
 | created requirements run reservations=>
  refine ⟨fun _ hlive=>hlive,fun id r hon=>?_⟩
  rcases heldOn_createRun hon with hold|⟨e,he,hdevice,-⟩
  · exact hold
  · have hok:RunOk s.tables locks requirements (.inserted run reservations):=
     hok.resolve_left fun heq=>by cases heq
    have hpack:packOf s.tables e.2.deviceId=some p:=by simpa[onPack] using hdevice
    obtain ⟨req,hreq,hreqpack⟩:=hok.devices e.2.deviceId (List.mem_map_of_mem he)
    obtain rfl:p=req.packId:=some.inj (hpack.symm.trans hreqpack)
    obtain ⟨hshare,henabled⟩:=hok.shared req hreq
    rcases hshut with ⟨state,hstate,hne⟩|⟨tx',y,hne,hy,hupdate⟩
    · exact absurd (some.inj (hstate.symm.trans henabled)) hne
    · exact absurd hshare (hcompatible tx' tx y _ hy hx hne _ _ hupdate)
 | finished=>exact noNewWork_view

lemma noNewWork_touch {device:DeviceId}{row:Device}(h:packOf t device=some row.packId):
 NoNewWork p t {t with devices:=t.devices.set device row}:=
 ⟨fun _=>(liveOn_congr (packOf_touch h) rfl).mp,fun _ _=>(heldOn_congr (packOf_touch h) rfl).mp⟩

/-- What a transaction has found idle stays so until it commits. -/
def SettledOk (s:State):Prop:=
 ∀tx locks rest w,s.txs.get tx=some ⟨locks,.program rest w⟩→∀p∈w.settled,
  (.pack p,.update)∈locks∧Clear (w.view s.tables) p∧Unclaimed 0 s p

lemma settledOk_begun {operation:Operation}{rest:List Statement}{w:Writes}
 (h:operation.work=.program rest w):w.settled=[]:=by
 cases operation <;> cases h <;> rfl
lemma unclaimed_of_screened {locks:List (Row×Mode)}{rest:List Statement}{w:Writes}
 {otherwise:Option PackState}
 (hx:s.txs.get tx=some ⟨locks,.program (.drainRecheck p otherwise::rest) w⟩)
 (hguard:Screened s (.exec tx)):Unclaimed 0 s p:=by
 intro tx' y _ hy
 refine hguard p ?_ (tx',y) (get_eq_some_iff.mp hy)
 simp[hx,rechecked]

lemma settledOk_step (h:SettledOk s)(hinv:Inv s)(hguard:Screened s label)
 (hstep:step s label=some u):SettledOk u:=by
 -- a pack that was settled before keeps its lock holder, so no claim of it may start
 have hkeep:∀tx x,s.txs.get tx=some x→∀p,(.pack p,.update)∈x.locks→
   Unclaimed 0 s p→Unclaimed 0 u p:=
  fun tx x hx p hlock hclaims=>hclaims.step hinv (.inr ⟨tx,x,hx,hlock⟩) hguard hstep
 intro tx' locks rest w hy p hp
 cases transition_of_step hstep with
 | begun=>
  rcases get_set_eq_some hy with ⟨-,heq⟩|⟨-,hold⟩
  · rw[settledOk_begun (congrArg Tx.work heq).symm] at hp
    cases hp
  · obtain ⟨hlock,hclear,hclaims⟩:=h tx' locks rest w hold p hp
    exact ⟨hlock,hclear,hkeep tx' _ hold p hlock hclaims⟩
 | moved _ _ x _ hx hmove=>
  rcases get_set_eq_some hy with ⟨rfl,heq⟩|⟨-,hold⟩
  · have hok:=hinv.works tx' x hx
    obtain ⟨locks',work⟩:=x
    cases hmove with
    | matched | narrowed | created=>cases heq
    | executed statement _ w' _ hwork hexec=>
     obtain rfl:work=_:=hwork
     cases heq
     have hcounts:=hok.counts statement mem_cons_self
     have hexecuted:=executed_of_exec hcounts hexec
     rcases hexecuted.settled p hp with hold|⟨⟨otherwise,rfl⟩,hclear⟩
     · obtain ⟨hlock,hclear,hclaims⟩:=h tx' locks' _ w' hx p hold
       exact ⟨hexecuted.kept hlock,hclear.extend hexecuted.changed,
        hkeep tx' _ hx p hlock hclaims⟩
     · have hlock:=hcounts p rfl
       exact ⟨hexecuted.kept hlock,hclear.extend hexecuted.changed,
        hkeep tx' _ hx p hlock (unclaimed_of_screened hx hguard)⟩
  · obtain ⟨hlock,hclear,hclaims⟩:=h tx' locks rest w hold p hp
    exact ⟨hlock,hclear,hkeep tx' _ hold p hlock hclaims⟩
 | committed tx x _ hx hcommit=>
  obtain ⟨hne,hold⟩:=get_pop_eq_some hy
  obtain ⟨hlock,hclear,hclaims⟩:=h tx' locks rest w hold p hp
  have hwork:=noNewWork_commit hinv hx hcommit (hclaims tx x (Nat.zero_le _) hx)
   (.inr ⟨tx',_,hne,hold,hlock⟩)
  exact ⟨hlock,hclear.commit hinv.held hwork,hkeep tx' _ hold p hlock hclaims⟩
 | rolledBack=>
  obtain ⟨-,hold⟩:=get_pop_eq_some hy
  obtain ⟨hlock,hclear,hclaims⟩:=h tx' locks rest w hold p hp
  exact ⟨hlock,hclear,hkeep tx' _ hold p hlock hclaims⟩
 | touched _ _ hpack=>
  obtain ⟨hlock,hclear,hclaims⟩:=h tx' locks rest w hy p hp
  exact ⟨hlock,hclear.commit hinv.held (noNewWork_touch hpack),hkeep tx' _ hy p hlock hclaims⟩

lemma idle_of_settles (hinv:Inv s)(hsettled:SettledOk s)(h:Settles s tx p)
 (hstep:step s (.commit tx)=some u):Idle u.tables p∧Unclaimed 0 u p:=by
 obtain ⟨locks,rest,w,hx,hp⟩:=h
 obtain ⟨hlock,hclear,hclaims⟩:=hsettled tx locks rest w hx p hp
 have hinv':=inv_step hinv hstep
 have hscreened:Screened s (.commit tx):=trivial
 refine ⟨?_,hclaims.step hinv (.inr ⟨tx,_,hx,hlock⟩) hscreened hstep⟩
 simp only[step,hx,bind_some,map_eq_some_iff] at hstep
 obtain ⟨t,hcommit,rfl⟩:=hstep
 cases committable_of_commit hcommit
 exact hclear.idle hinv'.held
lemma idle_step (hinv:Inv s)(hidle:Idle s.tables p)(hclaims:Unclaimed 0 s p)
 (hout:OutOfService s.tables p)(hstep:step s label=some u):Idle u.tables p:=by
 have hkeep:∀{t},NoNewWork p s.tables t→Idle t p:=fun hwork=>
  ⟨fun id hlive=>hidle.1 id (hwork.1 id hlive),fun id r hon=>hidle.2 id r (hwork.2 id r hon)⟩
 cases transition_of_step hstep with
 | begun | moved | rolledBack=>exact hidle
 | committed tx x _ hx hcommit=>
  exact hkeep (noNewWork_commit hinv hx hcommit (hclaims tx x (Nat.zero_le _) hx) (.inl hout))
 | touched _ _ hpack=>exact hkeep (noNewWork_touch hpack)
lemma reachable_ok {packs:Dict PackId DriverPack}{devices:Dict DeviceId Device}
 {labels:List Label}(hrun:run step (init packs devices) labels=some s)
 (hguard:Guarded Screened step (init packs devices) labels):Inv s∧SettledOk s:=by
 refine run_invariant_guarded (fun s=>Inv s∧SettledOk s) ?_ ⟨inv_init packs devices,?_⟩ hguard
  hrun
 · rintro s label u ⟨hinv,hsettled⟩ hscreened hstep
   exact ⟨inv_step hinv hstep,settledOk_step hsettled hinv hscreened hstep⟩
 · intro tx locks rest w hget
   cases hget

/-- Once a pack is out of service no later transaction brings work to its devices, and a settled pack
is idle from the commit that disables it, both until the pack is enabled again. -/
theorem drained_pack_has_no_work_of_screened (packs:Dict PackId DriverPack)
 (devices:Dict DeviceId Device) (before:List Label) (s:State)
 (hrun:run step (init packs devices) before=some s)
 (hguard:Guarded Screened step (init packs devices) before) (p:PackId):
 (∀after u tx v,OutOfService s.tables p→ run step s after=some u→
  Guarded (fun w label=>Screened w label∧OutOfService w.tables p) step s after→
  OutOfService u.tables p→ s.nextTx≤tx→ step u (.commit tx)=some v→
  NoNewWork p u.tables v.tables)∧
 ∀tx u after v,Settles s tx p→ step s (.commit tx)=some u→ run step u after=some v→
  Guarded (fun w label=>Screened w label∧OutOfService w.tables p) step u after→
  Idle v.tables p:=by
 obtain ⟨hinv,hsettled⟩:=reachable_ok hrun hguard
 constructor
 · intro after u tx v _ hafter hscreened hout htx hcommit
   have hstart:Unclaimed s.nextTx s p:=fun tx x hn hx=>
    absurd (hinv.started tx x hx) (Nat.not_lt.mpr hn)
   obtain ⟨hinv',hclaims⟩:=run_invariant_guarded (fun w=>Inv w∧Unclaimed s.nextTx w p)
    (fun w label w' h hg hstep=>
     ⟨inv_step h.1 hstep,h.2.step h.1 (.inl hg.2) hg.1 hstep⟩) ⟨hinv,hstart⟩ hscreened hafter
   simp only[step,bind_eq_some_iff,map_eq_some_iff] at hcommit
   obtain ⟨x,hx,t,ht,rfl⟩:=hcommit
   exact noNewWork_commit hinv' hx ht (hclaims tx x htx hx) (.inl hout)
 · intro tx u after v hsettles hcommit hafter hscreened
   obtain ⟨hidle,hclaims⟩:=idle_of_settles hinv hsettled hsettles hcommit
   have hend:=run_invariant_guarded (fun w=>Inv w∧Unclaimed 0 w p∧Idle w.tables p)
    (fun w label w' h hg hstep=>⟨inv_step h.1 hstep,h.2.1.step h.1 (.inl hg.2) hg.1 hstep,
     idle_step h.1 h.2.2 h.2.1 hg.2 hstep⟩)
    ⟨inv_step hinv hcommit,hclaims,hidle⟩ hscreened hafter
   exact hend.2.2

def uiautomator2:PackId:= "appium-uiautomator2"
def onePack:Dict PackId DriverPack:=
 Dict.ofList [(uiautomator2,⟨⟨some "2.1.0",[⟨"2.1.0",[⟨"android_mobile",[],.empty⟩]⟩]⟩,.enabled⟩)]

def oneDevice:Dict DeviceId Device:=Dict.ofList [(1,emulator)]

/-- The session of a client keeps the pack draining; its close finds the pack idle. -/
def claimedThenDrained:List Label:=
 [.begin (.allocate ⟨1,none,none⟩),.matchPass 0 [1],.lockCandidate 0 true,
  .recheck 0 true 10 "alloc-10",.commit 0,
  .begin (.transition uiautomator2 .disabled),.exec 1,.exec 1,.commit 1,
  .begin (.closeSession 10 5),.exec 2,.exec 2,.exec 2,.exec 2,.exec 2,.exec 2,.exec 2]

def drained:State:=(run step (init onePack oneDevice) claimedThenDrained).getD (init onePack oneDevice)

theorem drained_pack_has_no_work_of_screened_closed:∃u,
 run step (init onePack oneDevice) claimedThenDrained=some drained∧
 packState drained.tables uiautomator2=some .draining∧step drained (.commit 2)=some u∧
 packState u.tables uiautomator2=some .disabled∧Idle u.tables uiautomator2:=by
 have hrun:run step (init onePack oneDevice) claimedThenDrained=some drained:=rfl
 have hguard:Guarded Screened step (init onePack oneDevice) claimedThenDrained:=by decide
 have hsettles:Settles drained 2 uiautomator2:=⟨_,_,_,rfl,by decide⟩
 have hall:=drained_pack_has_no_work_of_screened onePack oneDevice claimedThenDrained drained hrun
  hguard uiautomator2
 exact ⟨_,hrun,rfl,rfl,rfl,hall.2 2 _ [] _ hsettles rfl rfl trivial⟩

/-- The operator disables an idle pack; the settle check disables it at once. -/
def disabledAtOnce:List Label:=
 [.begin (.transition uiautomator2 .disabled),.exec 0,.exec 0,.exec 0]

/-- A ticket that is polled only afterwards is still given the device. -/
def claimedAfterwards:List Label:=
 [.begin (.allocate ⟨1,none,none⟩),.matchPass 1 [1],.lockCandidate 1 true,
  .recheck 1 true 10 "alloc-10",.commit 1]

def settledPack:State:=(run step (init onePack oneDevice) disabledAtOnce).getD (init onePack oneDevice)

theorem claim_on_disabled_pack:∃u v,
 run step (init onePack oneDevice) disabledAtOnce=some settledPack∧
 Settles settledPack 0 uiautomator2∧step settledPack (.commit 0)=some u∧
 packState u.tables uiautomator2=some .disabled∧u.txs.entries=[]∧u.nextTx=1∧
 run step u claimedAfterwards=some v∧packState v.tables uiautomator2=some .disabled∧
 LiveOn v.tables uiautomator2 10∧¬NoNewWork uiautomator2 u.tables v.tables∧
 ¬Idle v.tables uiautomator2:=by
 refine ⟨_,_,rfl,⟨_,_,_,rfl,by decide⟩,rfl,rfl,rfl,rfl,rfl,rfl,?_⟩
 have hlive:LiveOn ((run step (init onePack oneDevice) (disabledAtOnce ++ .commit 0 ::
   claimedAfterwards)).getD (init onePack oneDevice)).tables uiautomator2 10:=
  ⟨_,rfl,rfl,rfl⟩
 refine ⟨hlive,fun hwork=>?_,fun hidle=>hidle.1 10 hlive⟩
 obtain ⟨row,hget,-⟩:=hwork.1 10 hlive
 cases hget

/-- The settle check counts runs that are not over. That overlooks no reservation, screened or not: one in
force belongs to such a run, so a pack with nothing to count is idle. -/
theorem settle_count_overlooks_no_reservation (packs:Dict PackId DriverPack)
 (devices:Dict DeviceId Device) (labels:List Label) (s:State)
 (hrun:run step (init packs devices) labels=some s) (p:PackId):
 (∀id r,HeldOn s.tables p id r→ RunLive s.tables r)∧
 (isIdle (countActiveWorkForPack s.tables p)→Idle s.tables p):=by
 have hinv:Inv s:=Interleaving.run_invariant Inv (fun _ _ _=>inv_step) (inv_init packs devices) hrun
 exact ⟨hinv.held p,fun hcount=>(clear_of_isIdle hcount).idle hinv.held⟩

theorem settle_count_overlooks_no_reservation_closed:∃u,
 run step (init onePack oneDevice) (claimedThenDrained ++ [.commit 2])=some u∧
 isIdle (countActiveWorkForPack u.tables uiautomator2)∧Idle u.tables uiautomator2:=by
 refine ⟨_,rfl,by decide,?_⟩
 exact (settle_count_overlooks_no_reservation onePack oneDevice (claimedThenDrained ++ [.commit 2]) _ rfl
  uiautomator2).2 (by decide)
end GridFleet.PackDrain
