import GridFleet.CreateSessionClaims
/-! `cancel_ticket` knows one ticket. Once it has completed, that ticket waits no more and no row claimed
with it is pending. A request that polls on under another ticket is out of its reach. -/
namespace GridFleet.CreateSession
open Dict Option Interleaving
open SessionLifecycle (isLive isLiveStatus isOpen ended)

/-- A claimed ticket is gone and names one row, and only open rows are pending. -/
structure TablesOk (t:Tables):Prop where
 gone:∀k row id,t.rows.get k=some row→ row.ticketId=some id→t.tickets.get id=none
 single:∀k k' row row' id,t.rows.get k=some row→t.rows.get k'=some row'→
  row.ticketId=some id→ row'.ticketId=some id→k=k'
 pendingOpen:∀k row,t.rows.get k=some row→ row.status=.pending→isOpen row.toSession

variable {t t':Tables}{row row':Row}{s s':State}{T:TicketId}{label:Label}

lemma TablesOk.setRow (h:TablesOk t){id:RowId}
 (hget:t.rows.get id=some row)(hticket:row'.ticketId=row.ticketId)
 (hpending:row'.status ≠ .pending):TablesOk {t with rows:=t.rows.set id row'}:=by
 have hold:∀k r,(t.rows.set id row').get k=some r→
   ∃r',t.rows.get k=some r'∧r'.ticketId=r.ticketId:=
  forall_get_set ⟨row,hget,hticket.symm⟩ fun _ r hr=>⟨r,hr,rfl⟩
 constructor
 · intro k r t' hr ht'
   obtain ⟨r',hr',hsame⟩:=hold k r hr
   exact h.gone k r' t' hr' (hsame.trans ht')
 · intro k k' r₁ r₂ t' hr₁ hr₂ ht₁ ht₂
   obtain ⟨r₁',hr₁',hsame₁⟩:=hold k r₁ hr₁
   obtain ⟨r₂',hr₂',hsame₂⟩:=hold k' r₂ hr₂
   exact h.single k k' r₁' r₂' t' hr₁' hr₂' (hsame₁.trans ht₁) (hsame₂.trans ht₂)
 · exact forall_get_set (fun hstatus=>absurd hstatus hpending) h.pendingOpen

lemma tablesOk_effect (h:TablesOk t)(heffect:Effect t t'):TablesOk t':=by
 cases heffect with
 | none=>exact h
 | @retire id ticket status hget hstatus=>
  refine ⟨?_,h.single,h.pendingOpen⟩
  intro k row id' hrow hid
  have hgone:=h.gone k row id' hrow hid
  have hne:id'≠id:=by
   rintro rfl
   rw[hget] at hgone
   cases hgone
  exact (get_set_of_ne _ _ hne).trans hgone
 | close hget hticket _ hstatus=>exact h.setRow hget hticket hstatus
 | promote hget=>exact h.setRow hget rfl nofun
 | @claim ticketId ticket id row hticket hwaiting hnew hrow hpending hopen=>
  have hunclaimed:∀k r,t.rows.get k=some r→ r.ticketId≠some ticketId:=by
   intro k r hr ht
   have hgone:=h.gone k r ticketId hr ht
   rw[hticket] at hgone
   cases hgone
  constructor
  · intro k r id' hr hid
    rcases get_set_eq_some hr with ⟨-,rfl⟩|⟨-,hold⟩
    · rw[hrow] at hid
      cases hid
      exact get_pop_self _ _
    · have hne:id'≠ticketId:=fun heq=>hunclaimed k r hold (heq ▸ hid)
      exact (get_pop_of_ne _ hne).trans (h.gone k r id' hold hid)
  · intro k k' r r' id' hr hr' hid hid'
    rcases get_set_eq_some hr with ⟨rfl,rfl⟩|⟨-,hold⟩ <;>
     rcases get_set_eq_some hr' with ⟨rfl,rfl⟩|⟨-,hold'⟩
    · rfl
    · exact absurd (hid'.trans (hid.symm.trans hrow)) (hunclaimed k' r' hold')
    · exact absurd (hid.trans (hid'.symm.trans hrow)) (hunclaimed k r hold)
    · exact h.single k k' r r' id' hold hold' hid hid'
  · exact forall_get_set (fun _=>hopen) h.pendingOpen

lemma tablesOk_mint {r:RequestId}{ticket:Ticket}{fresh:TicketId}
 (h:TablesOk s.tables)(hfresh:isFresh s fresh):TablesOk (mint s r ticket fresh).tables:=by
 obtain ⟨-,-,hrows,-,-⟩:=notMem_of_isFresh hfresh
 refine ⟨?_,h.single,h.pendingOpen⟩
 intro k row id hrow hid
 have hne:id≠fresh:=by
  rintro rfl
  exact hrows k row hrow hid
 exact (get_set_of_ne _ _ hne).trans (h.gone k row id hrow hid)

def NotWaiting (T:TicketId)(t:Tables):Prop:=
 ∀ticket,t.tickets.get T=some ticket→ticket.status ≠ .waiting

/-- The ticket can be claimed no more and no row claimed with it can be promoted. -/
def Sealed (T:TicketId)(t:Tables):Prop:=
 NotWaiting T t∧∀k row,t.rows.get k=some row→ row.ticketId=some T→ row.status ≠ .pending

lemma notWaiting_effect (h:NotWaiting T t)(heffect:Effect t t'):NotWaiting T t':=by
 cases heffect with
 | none=>exact h
 | retire _ hstatus=>
  intro ticket' hget'
  rcases get_set_eq_some hget' with ⟨-,rfl⟩|⟨-,hold⟩
  · exact hstatus
  · exact h ticket' hold
 | close | promote=>exact h
 | claim=>
  intro ticket' hget'
  exact h ticket' (get_pop_eq_some hget').2
lemma sealed_effect (h:Sealed T t)(heffect:Effect t t'):Sealed T t':=by
 refine ⟨notWaiting_effect h.1 heffect,?_⟩
 intro k row hrow hT
 cases heffect with
 | none | retire=>exact h.2 k row hrow hT
 | close _ _ _ hstatus=>exact forall_get_set (fun _=>hstatus) h.2 k row hrow hT
 | promote=>exact forall_get_set (fun _=>nofun) h.2 k row hrow hT
 | claim hticket hwaiting _ hclaimed=>
  rcases get_set_eq_some hrow with ⟨-,rfl⟩|⟨-,hold⟩
  · rw[hclaimed] at hT
    cases hT
    exact absurd hwaiting (h.1 _ hticket)
  · exact h.2 k row hold hT
lemma running_effect (h:Sealed T t)(heffect:Effect t t')
 {k:RowId}(hrow:t'.rows.get k=some row')(hT:row'.ticketId=some T)(hrunning:row'.status=.running):
 ∃row,t.rows.get k=some row∧row.ticketId=some T∧row.status=.running:=by
 cases heffect with
 | none | retire=>exact ⟨row',hrow,hT,hrunning⟩
 | close hget hticket _ _ hkept=>
  rcases get_set_eq_some hrow with ⟨rfl,rfl⟩|⟨-,hold⟩
  · exact ⟨_,hget,hticket.symm.trans hT,hkept hrunning⟩
  · exact ⟨row',hold,hT,hrunning⟩
 | promote hget hpending=>
  rcases get_set_eq_some hrow with ⟨rfl,rfl⟩|⟨-,hold⟩
  · exact absurd hpending (h.2 _ _ hget hT)
  · exact ⟨row',hold,hT,hrunning⟩
 | claim _ _ _ _ hpending=>
  rcases get_set_eq_some hrow with ⟨-,rfl⟩|⟨-,hold⟩
  · rw[hpending] at hrunning
    cases hrunning
  · exact ⟨row',hold,hT,hrunning⟩
lemma get_fail_pending {rows:Dict RowId Row}{id k:RowId}{message:String}{now:Instant}
 (hget:(fail rows id message now).get k=some row)(hpending:row.status=.pending):
 k≠id∧rows.get k=some row:=by
 unfold fail at hget
 split at hget
 · rename_i live hlive
   split at hget
   · rcases get_set_eq_some hget with ⟨-,rfl⟩|hold
     · cases hpending
     · exact hold
   · rename_i hstatus
     refine ⟨?_,hget⟩
     rintro rfl
     rw[hlive] at hget
     cases hget
     exact hstatus hpending
 · rename_i hnone
   refine ⟨?_,hget⟩
   rintro rfl
   rw[hnone] at hget
   cases hget
lemma isLive_of_pending (hpending:row.status=.pending)
 (hopen:isOpen row.toSession):isLive row.toSession:=by
 rw[isLive,hopen,isLiveStatus,hpending]
 rfl
lemma sealed_prepareInterruptedSession (hok:TablesOk t)
 (hwaiting:NotWaiting T t)(liveTarget:Option String)(now:Instant):
 Sealed T {t with rows:=(prepareInterruptedSession t.rows T liveTarget now).1}:=by
 refine ⟨hwaiting,?_⟩
 intro k row hrow hT hpending
 unfold prepareInterruptedSession at hrow
 split at hrow
 · rename_i id live hfind
   have hget:t.rows.get id=some live:=get_eq_some_iff.mpr (List.mem_of_find?_eq_some hfind)
   have hlive:live.ticketId=some T∧isLive live.toSession:=by
    simpa using List.find?_some hfind
   split at hrow
   · obtain ⟨hne,hold⟩:=get_fail_pending hrow hpending
     exact hne (hok.single k id row live T hold hget hT hlive.1)
   · rename_i hstatus
     cases hok.single k id row live T hrow hget hT hlive.1
     rw[hget] at hrow
     cases hrow
     exact hstatus hpending
 · rename_i hfind
   have hmem:=get_eq_some_iff.mp hrow
   have hlive:=isLive_of_pending hpending (hok.pendingOpen k row hrow hpending)
   have hmissed:=List.find?_eq_none.mp hfind (k,row) hmem
   simp[hT,hlive] at hmissed

def CancelOk (t:Tables)(x:Cancel):Prop:=
 match x.stage with
 | .interrupted=>NotWaiting x.ticket t
 | .endInterrupted _ | .done=>Sealed x.ticket t

lemma cancelOk_effect {x:Cancel}(h:CancelOk t x)(heffect:Effect t t'):CancelOk t' x:=by
 obtain ⟨T,stage⟩:=x
 cases stage with
 | interrupted=>exact notWaiting_effect h heffect
 | endInterrupted | done=>exact sealed_effect h heffect
lemma cancelOk_mint {r:RequestId}{ticket:Ticket}{fresh:TicketId}{x:Cancel}
 (h:CancelOk s.tables x)(hne:x.ticket≠fresh):CancelOk (mint s r ticket fresh).tables x:=by
 have hkept:NotWaiting x.ticket s.tables→NotWaiting x.ticket (mint s r ticket fresh).tables:=by
  intro hwaiting ticket' hget
  exact hwaiting ticket' ((get_set_of_ne _ _ hne).symm.trans hget)
 obtain ⟨T,stage⟩:=x
 cases stage with
 | interrupted=>exact hkept h
 | endInterrupted | done=>exact ⟨hkept h.1,h.2⟩
lemma cancelOk_cancelTicket (hok:TablesOk t)(id:TicketId):
 CancelOk (cancelTicket t id).1 (cancelTicket t id).2:=by
 unfold cancelTicket
 cases hget:t.tickets.get id with
 | none=>
  intro ticket hget'
  rw[hget] at hget'
  cases hget'
 | some ticket=>
  dsimp only
  split
  · refine ⟨?_,?_⟩
    · intro ticket' hget'
      cases (get_set_self _ _ _).symm.trans hget'
      nofun
    · intro k row hrow hid
      have hgone:=hok.gone k row id hrow hid
      rw[hget] at hgone
      cases hgone
  · rename_i hstatus
    intro ticket' hget'
    rw[hget] at hget'
    cases hget'
    exact hstatus
lemma cancelOk_actCancel {x x':Cancel}{action:CancelAction}(hok:TablesOk t)
 (h:CancelOk t x)(hact:actCancel t x action=some (t',x')):CancelOk t' x':=by
 obtain ⟨T,stage⟩:=x
 cases action with
 | interrupted liveTarget now=>
  cases stage with
  | interrupted=>
   cases hact
   have hsealed:=sealed_prepareInterruptedSession hok h liveTarget now
   unfold CancelOk
   dsimp only
   cases (prepareInterruptedSession t.rows T liveTarget now).2 with
   | none | some=>exact hsealed
  | endInterrupted | done=>cases hact
 | endInterrupted=>
  cases stage with
  | interrupted | done=>cases hact
  | endInterrupted=>
   cases hact
   exact sealed_effect h (effect_markEnded _ _ _)

structure Inv (s:State):Prop where
 tables:TablesOk s.tables
 drawn:Drawn s
 cancels:∀c x,s.cancels.get c=some x→CancelOk s.tables x

lemma inv_init:Inv init:=by
 refine ⟨⟨?_,?_,?_⟩,drawn_init,?_⟩
 · intro k row id hrow
   cases hrow
 · intro k k' row row' id hrow
   cases hrow
 · intro k row hrow
   cases hrow
 · intro c x hx
   cases hx
lemma inv_step (h:Inv s)(hstep:step s label=some s'):Inv s':=by
 have hdrawn:=drawn_step h.drawn hstep
 cases transition_of_step hstep with
 | begin=>exact ⟨h.tables,hdrawn,h.cancels⟩
 | request _ heffect | other heffect=>
  exact ⟨tablesOk_effect h.tables heffect,hdrawn,
   fun c x hx=>cancelOk_effect (h.cancels c x hx) heffect⟩
 | mint _ _ hfresh heffect=>
  refine ⟨tablesOk_effect (tablesOk_mint h.tables hfresh) heffect,hdrawn,?_⟩
  intro c x hx
  obtain ⟨-,-,-,-,hcancels⟩:=notMem_of_isFresh hfresh
  exact cancelOk_effect (cancelOk_mint (h.cancels c x hx) (hcancels c x hx)) heffect
 | cancelTicket=>
  exact ⟨tablesOk_effect h.tables (effect_cancelTicket _),hdrawn,
   forall_get_set (cancelOk_cancelTicket h.tables _)
    fun c x hx=>cancelOk_effect (h.cancels c x hx) (effect_cancelTicket _)⟩
 | cancel hget hact=>
  have heffect:=(effect_actCancel hact).1
  exact ⟨tablesOk_effect h.tables heffect,hdrawn,
   forall_get_set (cancelOk_actCancel h.tables (h.cancels _ _ hget) hact)
    fun c x hx=>cancelOk_effect (h.cancels c x hx) heffect⟩

/-- The rows a request has: those of the ticket it resumed and those of a ticket drawn for it. -/
def OnBehalf (s:State)(r:RequestId)(T:TicketId)(row:Row):Prop:=
 row.ticketId=some T∨∃t,row.ticketId=some t∧s.minted.get t=some r

/-- The condition on a step: a poll of the request finds its ticket still in the queue table. -/
def findsTicket (r:RequestId)(s:State):Label→Bool
 | .poll r' _ _ _=>
  r'≠r||(s.requests.get r).any fun q=>(findTicket s.tables q.ticketId).isSome
 | _=>true

lemma undrawn_step {r:RequestId}(h:∀t,s.minted.get t≠some r)(hfinds:findsTicket r s label)
 (hstep:step s label=some s'):∀t,s'.minted.get t≠some r:=by
 cases transition_of_step hstep with
 | @mint r' q q' now fresh allocation ticket tables hget hgone hfresh heffect hpayload hticket=>
  intro t hminted
  rcases get_set_eq_some hminted with ⟨-,rfl⟩|⟨-,hold⟩
  · simp[findsTicket,hget,hgone] at hfinds
  · exact h t hold
 | begin | request | cancelTicket | cancel | other=>exact h
lemma done_step {c:CancelId}(h:s.cancels.get c=some ⟨T,.done⟩)(hstep:step s label=some s'):
 s'.cancels.get c=some ⟨T,.done⟩:=by
 cases transition_of_step hstep with
 | begin | request | mint=>exact h
 | @cancelTicket c' id hnew=>
  have hne:c≠c':=by
   rintro rfl
   rw[hnew] at h
   cases h
  exact (get_set_of_ne _ _ hne).trans h
 | @cancel _ c' x x' action t hget hact=>
  have hne:c≠c':=by
   rintro rfl
   rw[h] at hget
   cases hget
   cases action <;> cases hact
  exact (get_set_of_ne _ _ hne).trans h
 | other=>exact h
lemma running_step {c:CancelId}(h:Inv s)
 (hdone:s.cancels.get c=some ⟨T,.done⟩)(hstep:step s label=some s'){k:RowId}
 (hrow:s'.tables.rows.get k=some row')(hT:row'.ticketId=some T)(hrunning:row'.status=.running):
 ∃row,s.tables.rows.get k=some row∧row.ticketId=some T∧row.status=.running:=by
 have hok:=h.cancels c _ hdone
 rcases group_step h.drawn hstep T with ⟨heffect,-⟩ |
   ⟨r,q,now,fresh,allocation,ticket,-,-,-,hfresh,heffect,-⟩
 · exact running_effect hok heffect hrow hT hrunning
 · have hne:T≠fresh:=(notMem_of_isFresh hfresh).2.2.2.2 c _ hdone
   exact running_effect (T:=T) (cancelOk_mint hok hne) heffect hrow hT hrunning

/-- Once a cancellation of the ticket the request polls under has completed, and as long as its polls find
their ticket in the queue table, no row of the request turns to running. -/
theorem cancellation_is_final (r:RequestId) (T:TicketId) (c:CancelId) (q:Request)
 (before:List Label) (s:State) (hbefore:run step init before=some s)
 (hget:s.requests.get r=some q) (hresumed:q.payload.ticket=some T)
 (hticket:q.ticketId=some T) (hdone:s.cancels.get c=some ⟨T,.done⟩)
 (after:List Label) (s':State)
 (hfinds:Interleaving.Guarded (fun s label=>findsTicket r s label=true) step s after)
 (hafter:run step s after=some s'):
 ∀k row',s'.tables.rows.get k=some row'→OnBehalf s' r T row'→ row'.status=.running→
  ∃row,s.tables.rows.get k=some row∧row.status=.running:=by
 have hinv:Inv s:=run_invariant Inv (fun _ _ _=>inv_step) inv_init hbefore
 have hundrawn:∀t,s.minted.get t≠some r:=by
  intro t hminted
  obtain ⟨q',hget',hleft⟩:=hinv.drawn t r hminted
  rw[hget] at hget'
  cases hget'
  exact hleft (hticket.trans hresumed.symm)
 -- carried along the run: the seal, that no ticket is drawn for the request, and where the running
 -- rows of the ticket come from
 let Kept:State→Prop:=fun u=>Inv u∧u.cancels.get c=some ⟨T,.done⟩∧
  (∀t,u.minted.get t≠some r)∧
  ∀k row',u.tables.rows.get k=some row'→ row'.ticketId=some T→ row'.status=.running→
   ∃row,s.tables.rows.get k=some row∧row.status=.running
 have hkept:Kept s':=by
  refine run_invariant_guarded Kept ?_ ⟨hinv,hdone,hundrawn,?_⟩ hfinds hafter
  · rintro u label u' ⟨hu,hudone,hudrawn,hrows⟩ hguard hstep
    refine ⟨inv_step hu hstep,done_step hudone hstep,undrawn_step hudrawn hguard hstep,?_⟩
    intro k row' hrow hT hrunning
    obtain ⟨row,hrow,hT,hrunning⟩:=running_step hu hudone hstep hrow hT hrunning
    exact hrows k row hrow hT hrunning
  · exact fun k row' hrow _ hrunning=>⟨row',hrow,hrunning⟩
 intro k row' hrow hbehalf hrunning
 rcases hbehalf with hT|⟨t,-,hminted⟩
 · exact hkept.2.2.2 k row' hrow hT hrunning
 · exact absurd hminted (hkept.2.2.1 t)

/-- Request 2 resumes ticket 51 and claims device 7. -/
def resumedOnce:List Label:=
 queuedClient ++
  [.createSession 2 ⟨some 51,none⟩ 26000 none,.act 2 (.interrupted none 26000),
   .poll 2 26000 52 (.claimed 7 "http://10.0.0.7:4723" 100 "alloc-1" none)]

/-- The cancellation fails its pending row while Appium is still creating the session. -/
def cancelDuringCreate:List Label:=
 resumedOnce++[.cancelTicket 1 51,.actCancel 1 (.interrupted none 27000)]

def createdTooLate:List Label:=
 [.act 2 (.reply (.response 200 "" (some (.obj [("sessionId",.str "appium-1")])))),
  .act 2 (.promote false)]
def rowStatus (s:State)(k:RowId):Option SessionStatus:=
 (s.tables.rows.get k).map fun row=>row.status

theorem cancellation_is_final_cancelDuringCreate:
 ∃s q s',run step init cancelDuringCreate=some s∧s.requests.get 2=some q∧
  s.cancels.get 1=some ⟨51,.done⟩∧run step s createdTooLate=some s'∧
  rowStatus s' 100=some .error∧
  ∀k row',s'.tables.rows.get k=some row'→OnBehalf s' 2 51 row'→ row'.status=.running→
   ∃row,s.tables.rows.get k=some row∧row.status=.running:=by
 have hseen:(run step init cancelDuringCreate).map
   (fun s=>((s.requests.get 2).map fun q=>(q.payload.ticket,q.ticketId),s.cancels.get 1)) =
    some (some (some 51,some 51),some ⟨51,.done⟩):=by rfl
 obtain ⟨s,hrun,hs⟩:=map_eq_some_iff.mp hseen
 obtain ⟨hrequest,hdone⟩:=Prod.mk.inj hs
 obtain ⟨q,hget,hq⟩:=map_eq_some_iff.mp hrequest
 obtain ⟨hresumed,hticket⟩:=Prod.mk.inj hq
 have hlater:((run step init cancelDuringCreate).bind fun s=>
   run step s createdTooLate).map (fun s'=>rowStatus s' 100)=some (some .error):=by
  rfl
 rw[hrun,bind_some] at hlater
 obtain ⟨s',hafter,hstatus⟩:=map_eq_some_iff.mp hlater
 have hfinds:Interleaving.Guarded (fun s label=>findsTicket 2 s label=true) step s
   createdTooLate:=
  ⟨rfl,fun _ _=>⟨rfl,fun _ _=>trivial⟩⟩
 exact ⟨s,q,s',hrun,hget,hdone,hafter,hstatus,
  cancellation_is_final 2 51 1 q cancelDuringCreate s hrun hget hresumed hticket hdone createdTooLate
   s' hfinds hafter⟩

/-- The first target is unreachable, so the request goes on under ticket 52 and claims device 8. The
cancellation of ticket 51 then finds neither the ticket nor a row claimed with it. -/
def cancelAfterRetry:List Label:=
 resumedOnce ++
  [.act 2 (.reply (.transportError "refused")),.act 2 (.fail 27000),.act 2 (.markDown 27000),
   .poll 2 27000 52 (.claimed 8 "http://10.0.0.8:4723" 101 "alloc-2" none),
   .cancelTicket 1 51,.actCancel 1 (.interrupted none 28000)]

theorem cancelAfterRetry_promoted:
 ∃s s',run step init cancelAfterRetry=some s∧
  (s.requests.get 2).map (fun q=>q.payload.ticket)=some (some 51)∧
  s.cancels.get 1=some ⟨51,.done⟩∧rowStatus s 101=some .pending∧
  s.minted.get 52=some 2∧run step s createdTooLate=some s'∧
  (s'.tables.rows.get 101).map (fun row=>(row.ticketId,row.status))=some (some 52,.running):=by
 have hseen:(run step init cancelAfterRetry).map
   (fun s=>((s.requests.get 2).map fun q=>q.payload.ticket,s.cancels.get 1,rowStatus s 101,
    s.minted.get 52)) =
    some (some (some 51),some ⟨51,.done⟩,some .pending,some 2):=by rfl
 obtain ⟨s,hrun,hs⟩:=map_eq_some_iff.mp hseen
 obtain ⟨hrequest,hs⟩:=Prod.mk.inj hs
 obtain ⟨hdone,hs⟩:=Prod.mk.inj hs
 obtain ⟨hpending,hminted⟩:=Prod.mk.inj hs
 have hlater:((run step init cancelAfterRetry).bind fun s=>
   run step s createdTooLate).map
    (fun s'=>(s'.tables.rows.get 101).map fun row=>(row.ticketId,row.status)) =
    some (some (some 52,.running)):=by rfl
 rw[hrun,bind_some] at hlater
 obtain ⟨s',hafter,hstatus⟩:=map_eq_some_iff.mp hlater
 exact ⟨s,s',hrun,hrequest,hdone,hpending,hminted,hafter,hstatus⟩

/-- What becomes of a row: it keeps its ticket, is pending only if it was, and open only if it was. -/
def Row.Succeeds (row' row:Row):Prop:=
 row'.ticketId=row.ticketId∧(row'.status=.pending→ row.status=.pending)∧
  (isOpen row'.toSession→isOpen row.toSession)

lemma succeeds_set {rows:Dict RowId Row}{k i:RowId}(hrow:rows.get k=some row)
 (h:k=i→ row'.Succeeds row):∃r,(rows.set i row').get k=some r∧r.Succeeds row:=by
 by_cases hk:k=i
 · subst hk
   exact ⟨row',get_set_self _ _ _,h rfl⟩
 · exact ⟨row,(get_set_of_ne _ _ hk).trans hrow,rfl,id,id⟩
lemma succeeds_effect {k:RowId}(hok:TablesOk t)(heffect:Effect t t')
 (hrow:t.rows.get k=some row):∃r,t'.rows.get k=some r∧r.Succeeds row:=by
 cases heffect with
 | none | retire=>exact ⟨row,hrow,rfl,id,id⟩
 | close hget hticket hended hstatus=>
  refine succeeds_set hrow ?_
  rintro rfl
  cases hget.symm.trans hrow
  exact ⟨hticket,fun h=>absurd h hstatus,fun h=>nomatch hended.symm.trans h⟩
 | promote hget hpending=>
  refine succeeds_set hrow ?_
  rintro rfl
  cases hget.symm.trans hrow
  exact ⟨rfl,fun _=>hpending,fun _=>hok.pendingOpen _ _ hget hpending⟩
 | claim _ _ hnew=>
  refine succeeds_set hrow ?_
  rintro rfl
  cases hnew.symm.trans hrow
lemma succeeds_step {k:RowId}(h:Inv s)(hstep:step s label=some s')
 (hrow:s.tables.rows.get k=some row):∃r,s'.tables.rows.get k=some r∧r.Succeeds row:=by
 cases transition_of_step hstep with
 | begin=>exact ⟨row,hrow,rfl,id,id⟩
 | request _ heffect | other heffect=>exact succeeds_effect h.tables heffect hrow
 | mint _ _ hfresh heffect=>exact succeeds_effect (tablesOk_mint h.tables hfresh) heffect hrow
 | cancelTicket=>exact succeeds_effect h.tables (effect_cancelTicket _) hrow
 | cancel _ hact=>exact succeeds_effect h.tables (effect_actCancel hact).1 hrow

/-- A claim is for good: in every later state the ticket is out of the queue and no other row has it, and
the row is still there, not pending again once settled and not open again once ended. -/
theorem claimed_ticket_final (before after:List Label) (s s':State) (k:RowId) (row:Row) (T:TicketId)
 (hbefore:run step init before=some s) (hrow:s.tables.rows.get k=some row)
 (hT:row.ticketId=some T) (hafter:run step s after=some s'):
 s'.tables.tickets.get T=none∧
  (∀k' other,s'.tables.rows.get k'=some other→ other.ticketId=some T→ k'=k)∧
  ∃row',s'.tables.rows.get k=some row'∧row'.Succeeds row:=by
 have hinv:Inv s:=run_invariant Inv (fun _ _ _=>inv_step) inv_init hbefore
 let Kept:State→Prop:=fun u=>Inv u∧∃r,u.tables.rows.get k=some r∧r.Succeeds row
 have hkept:Kept s':=by
  refine run_invariant Kept ?_ ⟨hinv,row,hrow,rfl,id,id⟩ hafter
  rintro u label u' ⟨hu,r,hr,hticket,hpending,hopen⟩ hstep
  obtain ⟨r',hr',hticket',hpending',hopen'⟩:=succeeds_step hu hstep hr
  exact ⟨inv_step hu hstep,r',hr',hticket'.trans hticket,hpending∘hpending',hopen∘hopen'⟩
 obtain ⟨hinv',row',hrow',hsucceeds⟩:=hkept
 have hT':row'.ticketId=some T:=hsucceeds.1.trans hT
 exact ⟨hinv'.tables.gone k row' T hrow' hT',
  fun k' other hother hid=>hinv'.tables.single k' k other row' T hother hrow' hid hT',
  row',hrow',hsucceeds⟩

theorem claimed_ticket_final_cancelDuringCreate:
 ∃s s' row,run step init cancelDuringCreate=some s∧s.tables.rows.get 100=some row∧
  run step s createdTooLate=some s'∧s'.tables.tickets.get 51=none∧
  ∃row',s'.tables.rows.get 100=some row'∧row'.Succeeds row:=by
 have hseen:((run step init cancelDuringCreate).bind fun s=>(run step s createdTooLate).map
   fun _=>(s.tables.rows.get 100).map fun row=>row.ticketId)=some (some (some 51)):=by rfl
 obtain ⟨s,hrun,hs⟩:=bind_eq_some_iff.mp hseen
 obtain ⟨s',hafter,hs⟩:=map_eq_some_iff.mp hs
 obtain ⟨row,hrow,hT⟩:=map_eq_some_iff.mp hs
 obtain ⟨hgone,-,hkept⟩:=
  claimed_ticket_final cancelDuringCreate createdTooLate s s' 100 row 51 hrun hrow hT hafter
 exact ⟨s,s',row,hrun,hrow,hafter,hgone,hkept⟩
end GridFleet.CreateSession
