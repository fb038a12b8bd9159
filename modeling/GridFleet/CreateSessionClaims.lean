import GridFleet.CreateSession
/-! Every transaction changes at most one ticket or one row, apart from a claim, which trades its ticket
for a row. A poll whose ticket is gone draws a new one first. -/
namespace GridFleet.CreateSession
open Dict Option Interleaving
open SessionLifecycle (isLive isLiveStatus isOpen ended terminalStatus)

inductive Effect (t:Tables):Tables→Prop where
 | none:Effect t t
 | retire {id:TicketId}{ticket:Ticket}{status:QueueStatus}
   (hget:t.tickets.get id=some ticket)(hstatus:status ≠ .waiting):
   Effect t { t with tickets:=t.tickets.set id {ticket with status:=status} }
 | close {id:RowId}{row row':Row}(hget:t.rows.get id=some row)
   (hticket:row'.ticketId=row.ticketId)(hended:isOpen row'.toSession=false)
   (hstatus:row'.status ≠ .pending)(hrunning:row'.status=.running→ row.status=.running):
   Effect t {t with rows:=t.rows.set id row'}
 | promote {id:RowId}{row:Row}{sessionId:String}(hget:t.rows.get id=some row)
   (hpending:row.status=.pending):
   Effect t { t with rows:=t.rows.set id {row with sessionId:=sessionId,status:=.running} }
 | claim {ticketId:TicketId}{ticket:Ticket}{id:RowId}{row:Row}
   (hticket:t.tickets.get ticketId=some ticket)(hwaiting:ticket.status=.waiting)
   (hnew:t.rows.get id=Option.none)(hrow:row.ticketId=some ticketId)
   (hpending:row.status=.pending)(hopen:isOpen row.toSession):
   Effect t ⟨t.tickets.pop ticketId,t.rows.set id row⟩

section
variable {t:Tables}

lemma effect_fail (id:RowId)(message:String)(now:Instant):
 Effect t {t with rows:=fail t.rows id message now}:=by
 unfold fail
 cases hget:t.rows.get id with
 | none=>exact .none
 | some=>
  dsimp only
  split
  · exact .close hget rfl rfl nofun nofun
  · exact .none
lemma closed_spec (row:Row)(run:Option RunOutcome)(now:Instant):
 (closed row run now).ticketId=row.ticketId∧isOpen (closed row run now).toSession=false∧
  (closed row run now).status=terminalStatus (run.map RunOutcome.state):=by
 unfold closed
 cases run with
 | none=>exact ⟨rfl,rfl,rfl⟩
 | some=>
  dsimp only
  split <;> exact ⟨rfl,rfl,rfl⟩
lemma terminalStatus_cases (run:Option RunState):
 terminalStatus run=.error∨terminalStatus run=.passed:=by
 unfold terminalStatus
 split <;> simp
lemma effect_markEnded (appiumSessionId:String)(run:Option RunOutcome)(now:Instant):
 Effect t {t with rows:=markEnded t.rows appiumSessionId run now}:=by
 unfold markEnded
 split
 · rename_i id row hfind
   obtain ⟨hticket,hended,hstatus⟩:=closed_spec row run now
   refine .close (get_eq_some_iff.mpr (List.mem_of_find?_eq_some hfind)) hticket hended ?_ ?_
   · rw[hstatus]
     rcases terminalStatus_cases (run.map RunOutcome.state) with h|h <;> rw[h] <;> nofun
   · rw[hstatus]
     rcases terminalStatus_cases (run.map RunOutcome.state) with h|h <;> rw[h] <;> nofun
 · exact .none
lemma effect_finalizePreemption (victim:RowId)(now:Instant):
 Effect t {t with rows:=finalizePreemption t.rows victim now}:=by
 unfold finalizePreemption
 cases hget:t.rows.get victim with
 | none=>exact .none
 | some=>
  dsimp only
  split
  · exact .close hget rfl rfl nofun nofun
  · exact .none
lemma effect_prepareInterruptedSession (ticketId:TicketId)(liveTarget:Option String)(now:Instant):
 Effect t {t with rows:=(prepareInterruptedSession t.rows ticketId liveTarget now).1}:=by
 unfold prepareInterruptedSession
 split
 · split
   · exact effect_fail _ _ _
   · exact .none
 · exact .none
lemma effect_promoteToRunning {id:RowId}{sessionId:String}{registered:Bool}
 {rows:Dict RowId Row}(hpromote:promoteToRunning t.rows id sessionId registered=some rows):
 Effect t {t with rows:=rows}:=by
 obtain ⟨row,hget,hrow⟩:=bind_eq_some_iff.mp hpromote
 dsimp only at hrow
 split at hrow
 · rename_i hpending
   cases hrow
   rw[Bool.and_eq_true,decide_eq_true_eq] at hpending
   exact .promote hget hpending.1
 · cases hrow

variable {t':Tables}

lemma act_spec {q q':Request}{action:Action}(hact:act t q action=some (t',q')):
 Effect t t'∧q'.payload=q.payload∧q'.ticketId=q.ticketId:=by
 cases action with rw[act] at hact
 | interrupted=>
  split at hact
  · cases hact
    exact ⟨effect_prepareInterruptedSession _ _ _,rfl,rfl⟩
  · cases hact
 | endInterrupted=>
  split at hact
  · cases hact
    exact ⟨effect_markEnded _ _ _,rfl,rfl⟩
  · cases hact
 | reply=>
  split at hact
  · split at hact <;> cases hact <;> exact ⟨.none,rfl,rfl⟩
  · cases hact
 | fail=>
  split at hact
  · cases hact
    refine ⟨effect_fail _ _ _,?_,?_⟩ <;> split <;> rfl
  · cases hact
 | promote registered=>
  split at hact
  · split at hact
    · rename_i hpromote
      cases hact
      exact ⟨effect_promoteToRunning hpromote,rfl,rfl⟩
    · cases hact
      exact ⟨.none,rfl,rfl⟩
  · cases hact
 | markDown=>
  split at hact
  · dsimp only at hact
    split at hact <;> cases hact <;> exact ⟨.none,rfl,rfl⟩
  · cases hact
 | unallocated=>
  split at hact
  · split at hact
    · cases hact
      exact ⟨.none,rfl,rfl⟩
    · split at hact
      · cases hact
        exact ⟨.none,rfl,rfl⟩
      · split at hact <;> cases hact <;> exact ⟨.none,rfl,rfl⟩
  · cases hact
 | preempt=>
  split at hact
  · cases hact
    exact ⟨effect_finalizePreemption _ _,rfl,rfl⟩
  · cases hact
 | abort=>
  split at hact
  · cases hact
  · cases hact
    exact ⟨.none,rfl,rfl⟩

lemma pollTicket_spec {q q':Request}{id:TicketId}{ticket:Ticket}{allocation:Allocation}
 (hget:t.tickets.get id=some ticket)(hpoll:pollTicket t q id ticket allocation=some (t',q')):
 Effect t t'∧q'.payload=q.payload∧q'.ticketId=some id:=by
 unfold pollTicket at hpoll
 dsimp only at hpoll
 split at hpoll
 · cases hpoll
   exact ⟨.none,rfl,rfl⟩
 · cases hpoll
   exact ⟨.none,rfl,rfl⟩
 · cases hpoll
   exact ⟨.retire hget nofun,rfl,rfl⟩
 · cases hpoll
   exact ⟨.none,rfl,rfl⟩
 · rename_i hwaiting
   split at hpoll
   · rename_i hfree
     cases hpoll
     exact ⟨.claim hget hwaiting hfree.2.1 rfl rfl rfl,rfl,rfl⟩
   · cases hpoll
lemma effect_cancelTicket (id:TicketId):Effect t (cancelTicket t id).1:=by
 unfold cancelTicket
 cases hget:t.tickets.get id with
 | none=>exact .none
 | some=>
  dsimp only
  split
  · exact .retire hget nofun
  · exact .none
lemma effect_actCancel {c c':Cancel}{action:CancelAction}(hact:actCancel t c action=some (t',c')):
 Effect t t'∧c'.ticket=c.ticket:=by
 cases action with
 | interrupted=>
  rw[actCancel] at hact
  split at hact
  · cases hact
    exact ⟨effect_prepareInterruptedSession _ _ _,rfl⟩
  · cases hact
 | endInterrupted=>
  rw[actCancel] at hact
  split at hact
  · cases hact
    exact ⟨effect_markEnded _ _ _,rfl⟩
  · cases hact
end

inductive Transition (s:State):Label→State→Prop where
 | begin {r:RequestId}{payload:Payload}{now:ℕ}{budget:Option ℕ}
   (hnew:s.requests.get r=none):
   Transition s (.createSession r payload now budget)
    {s with requests:=s.requests.set r (createSession payload now budget)}
 | request {label:Label}{r:RequestId}{q q':Request}{t:Tables}
   (hget:s.requests.get r=some q)(heffect:Effect s.tables t)
   (hpayload:q'.payload=q.payload)(hticket:q'.ticketId=q.ticketId):
   Transition s label (s.withRequest r (t,q'))
 | mint {r:RequestId}{q q':Request}{now:ℕ}{fresh:TicketId}{allocation:Allocation}
   {ticket:Ticket}{t:Tables}(hget:s.requests.get r=some q)
   (hgone:findTicket s.tables q.ticketId=none)(hfresh:isFresh s fresh)
   (heffect:Effect (mint s r ticket fresh).tables t)
   (hpayload:q'.payload=q.payload)(hticket:q'.ticketId=some fresh):
   Transition s (.poll r now fresh allocation) ((mint s r ticket fresh).withRequest r (t,q'))
 | cancelTicket {c:CancelId}{id:TicketId}(hnew:s.cancels.get c=none):
   Transition s (.cancelTicket c id) (s.withCancel c (cancelTicket s.tables id))
 | cancel {label:Label}{c:CancelId}{x x':Cancel}{action:CancelAction}{t:Tables}
   (hget:s.cancels.get c=some x)(hact:actCancel s.tables x action=some (t,x')):
   Transition s label (s.withCancel c (t,x'))
 | other {label:Label}{t:Tables}(heffect:Effect s.tables t):
   Transition s label {s with tables:=t}

variable {ticket:Ticket}{fresh T:TicketId}{q:Request}{r:RequestId}{s s':State}{label:Label}
 {F G:Set TicketId}

lemma findTicket_eq_some {t:Tables}{id:Option TicketId}{found:TicketId}
 (hfind:findTicket t id=some (found,ticket)):id=some found∧t.tickets.get found=some ticket:=by
 obtain ⟨id',rfl,hget⟩:=bind_eq_some_iff.mp hfind
 obtain ⟨ticket',hget,heq⟩:=map_eq_some_iff.mp hget
 cases heq
 exact ⟨rfl,hget⟩
lemma transition_poll {now:ℕ}{allocation:Allocation}(hget:s.requests.get r=some q)
 (hpoll:poll s r q now fresh allocation=some s'):Transition s (.poll r now fresh allocation) s':=by
 unfold poll at hpoll
 split at hpoll
 · cases hpoll
   exact .request hget .none rfl rfl
 · split at hpoll
   · rename_i id ticket hfind
     obtain ⟨hid,hticket⟩:=findTicket_eq_some hfind
     obtain ⟨⟨t,q'⟩,hresult,rfl⟩:=map_eq_some_iff.mp hpoll
     obtain ⟨heffect,hpayload,hkept⟩:=pollTicket_spec hticket hresult
     exact .request hget heffect hpayload (hkept.trans hid.symm)
   · rename_i hgone
     dsimp only at hpoll
     split at hpoll
     · rename_i hfresh
       obtain ⟨⟨t,q'⟩,hresult,rfl⟩:=map_eq_some_iff.mp hpoll
       obtain ⟨heffect,hpayload,hticket⟩:=pollTicket_spec (get_set_self _ _ _) hresult
       exact .mint hget hgone hfresh heffect hpayload hticket
     · cases hpoll

lemma transition_of_step (hstep:step s label=some s'):Transition s label s':=by
 cases label with
 | createSession r payload now budget=>
  rw[step] at hstep
  split at hstep
  · rename_i hnew
    cases hstep
    exact .begin hnew
  · cases hstep
 | poll=>
  obtain ⟨q,hget,hpoll⟩:=bind_eq_some_iff.mp hstep
  split at hpoll
  · exact transition_poll hget hpoll
  · cases hpoll
 | act=>
  obtain ⟨q,hget,hmap⟩:=bind_eq_some_iff.mp hstep
  obtain ⟨⟨t,q'⟩,hact,rfl⟩:=map_eq_some_iff.mp hmap
  obtain ⟨heffect,hpayload,hticket⟩:=act_spec hact
  exact .request hget heffect hpayload hticket
 | cancelTicket c id=>
  rw[step] at hstep
  split at hstep
  · rename_i hnew
    cases hstep
    exact .cancelTicket hnew
  · cases hstep
 | actCancel=>
  obtain ⟨x,hget,hmap⟩:=bind_eq_some_iff.mp hstep
  obtain ⟨⟨t,x'⟩,hact,rfl⟩:=map_eq_some_iff.mp hmap
  exact .cancel hget hact
 | expire=>
  obtain ⟨ticket,hget,hexpire⟩:=bind_eq_some_iff.mp hstep
  split at hexpire
  · cases hexpire
    exact .other (.retire hget (by decide))
  · cases hexpire
 | close id status now=>
  obtain ⟨row,hget,hclose⟩:=bind_eq_some_iff.mp hstep
  split at hclose
  · rename_i hstatus
    cases hclose
    exact .other (.close hget rfl rfl hstatus.2.2 fun h=>absurd h hstatus.2.1)
  · cases hclose

/-- A request that has drawn a ticket has left the one it came with. -/
def Drawn (s:State):Prop:=
 ∀t r,s.minted.get t=some r→∃q,s.requests.get r=some q∧q.ticketId≠q.payload.ticket

lemma notMem_of_isFresh {id:TicketId}(hfresh:isFresh s id):
 s.tables.tickets.get id=none∧s.minted.get id=none∧
  (∀k row,s.tables.rows.get k=some row→ row.ticketId≠some id)∧
  (∀r q,s.requests.get r=some q→q.payload.ticket≠some id∧q.ticketId≠some id)∧
  ∀c x,s.cancels.get c=some x→x.ticket≠id:=by
 simp only[isFresh,Bool.and_eq_true,isNone_iff_eq_none,List.all_eq_true,Prod.forall,
  decide_eq_true_eq,←get_eq_some_iff] at hfresh
 obtain ⟨⟨⟨⟨htickets,hminted⟩,hrows⟩,hrequests⟩,hcancels⟩:=hfresh
 exact ⟨htickets,hminted,hrows,hrequests,hcancels⟩

/-- The ticket a request group shares, and those drawn for one of its requests. -/
def InGroup (s:State)(T t:TicketId):Prop:=
 t=T∨∃r q,s.minted.get t=some r∧s.requests.get r=some q∧q.payload.ticket=some T

def inGroup (s:State)(T t:TicketId):Bool:=
 t=T||(s.minted.get t).any fun r=>(s.requests.get r).any fun q=>q.payload.ticket=some T

lemma inGroup_iff {t:TicketId}:inGroup s T t↔InGroup s T t:=by
 simp[inGroup,InGroup,any_eq_true]
lemma drawn_withRequest {q':Request}{t:Tables}(h:Drawn s)(hget:s.requests.get r=some q)
 (hpayload:q'.payload=q.payload)(hticket:q'.ticketId=q.ticketId):Drawn (s.withRequest r (t,q')):=by
 intro id r' hminted
 obtain ⟨p,hp,hleft⟩:=h id r' hminted
 by_cases hr:r'=r
 · rw[hr,hget] at hp
   cases hp
   refine ⟨q',?_,?_⟩
   · rw[hr]
     exact get_set_self _ _ _
   · rw[hpayload,hticket]
     exact hleft
 · exact ⟨p,(get_set_of_ne _ _ hr).trans hp,hleft⟩
lemma drawn_step (h:Drawn s)(hstep:step s label=some s'):Drawn s':=by
 cases transition_of_step hstep with
 | @begin r payload now budget hnew=>
  intro id r' hminted
  obtain ⟨p,hp,hleft⟩:=h id r' hminted
  have hr:r'≠r:=by
   rintro rfl
   rw[hnew] at hp
   cases hp
  exact ⟨p,(get_set_of_ne _ _ hr).trans hp,hleft⟩
 | request hget _ hpayload hticket=>exact drawn_withRequest h hget hpayload hticket
 | @mint r q q' now fresh allocation ticket t hget hgone hfresh heffect hpayload hticket=>
  intro id r' hminted
  by_cases hr:r'=r
  · refine ⟨q',?_,?_⟩
    · rw[hr]
      exact get_set_self _ _ _
    · obtain ⟨-,-,-,hrequests,-⟩:=notMem_of_isFresh hfresh
      rw[hticket,hpayload]
      exact (hrequests r q hget).1.symm
  · rcases get_set_eq_some hminted with ⟨-,hsame⟩|⟨-,hold⟩
    · exact absurd hsame hr
    · obtain ⟨p,hp,hleft⟩:=h id r' hold
      exact ⟨p,(get_set_of_ne _ _ hr).trans hp,hleft⟩
 | cancelTicket | cancel | other=>exact h
lemma payload_of_withRequest {r':RequestId}{q' p:Request}{t:Tables}
 (hget:s.requests.get r=some q)(hpayload:q'.payload=q.payload)
 (hp:(s.withRequest r (t,q')).requests.get r'=some p):
 ∃p',s.requests.get r'=some p'∧p'.payload=p.payload:=by
 rcases get_set_eq_some hp with ⟨rfl,rfl⟩|⟨-,hold⟩
 · exact ⟨q,hget,hpayload.symm⟩
 · exact ⟨p,hold,rfl⟩

lemma group_step (h:Drawn s)(hstep:step s label=some s')(T:TicketId):
 (Effect s.tables s'.tables∧∀t,InGroup s' T t→InGroup s T t)∨
  ∃r q now fresh allocation ticket,label=.poll r now fresh allocation∧
   s.requests.get r=some q∧findTicket s.tables q.ticketId=none∧isFresh s fresh∧
   Effect (mint s r ticket fresh).tables s'.tables∧
   ∀t,InGroup s' T t→InGroup s T t∨(t=fresh∧q.payload.ticket=some T):=by
 cases transition_of_step hstep with
 | @begin r payload now budget hnew=>
  refine .inl ⟨.none,?_⟩
  rintro t (rfl|⟨r',p,hminted,hp,hT⟩)
  · exact .inl rfl
  · obtain ⟨p',hp',-⟩:=h t r' hminted
    have hr:r'≠r:=by
     rintro rfl
     rw[hnew] at hp'
     cases hp'
    exact .inr ⟨r',p,hminted,(get_set_of_ne _ _ hr).symm.trans hp,hT⟩
 | request hget heffect hpayload=>
  refine .inl ⟨heffect,?_⟩
  rintro t (rfl|⟨r',p,hminted,hp,hT⟩)
  · exact .inl rfl
  · obtain ⟨p',hp',hsame⟩:=payload_of_withRequest hget hpayload hp
    exact .inr ⟨r',p',hminted,hp',hsame ▸ hT⟩
 | @mint r q q' now fresh allocation ticket tables hget hgone hfresh heffect hpayload hticket=>
  refine .inr ⟨r,q,now,fresh,allocation,ticket,rfl,hget,hgone,hfresh,heffect,?_⟩
  rintro t (rfl|⟨r',p,hminted,hp,hT⟩)
  · exact .inl (.inl rfl)
  · rcases get_set_eq_some hminted with ⟨rfl,rfl⟩|⟨-,hold⟩
    · cases (get_set_self _ _ _).symm.trans hp
      exact .inr ⟨rfl,hpayload ▸ hT⟩
    · obtain ⟨p',hp',hsame⟩:=payload_of_withRequest hget hpayload hp
      exact .inl (.inr ⟨r',p',hold,hp',hsame ▸ hT⟩)
 | cancelTicket=>exact .inl ⟨effect_cancelTicket _,fun _ ht=>ht⟩
 | cancel _ hact=>exact .inl ⟨(effect_actCancel hact).1,fun _ ht=>ht⟩
 | other heffect=>exact .inl ⟨heffect,fun _ ht=>ht⟩

/-! A waiting ticket is the right to claim one device and a live row is the claimed device, so the
tickets and rows of a group can only grow in number by drawing a ticket. -/

def holders (t:Tables)(F:Set TicketId):Set (TicketId ⊕ RowId):=fun x=>
 match x with
 | .inl id=>id∈F∧∃ticket,t.tickets.get id=some ticket∧ticket.status=.waiting
 | .inr k=>∃row id,t.rows.get k=some row∧isLive row.toSession∧
   row.ticketId=some id∧id∈F

lemma holders_mono {t:Tables}(h:F ⊆ G):holders t F ⊆ holders t G:=by
 rintro (id|k) hx
 · exact ⟨h hx.1,hx.2⟩
 · obtain ⟨row,id,hget,hlive,hid,hF⟩:=hx
   exact ⟨row,id,hget,hlive,hid,h hF⟩
lemma isLive_of_isOpen_eq_false {row:Row}(h:isOpen row.toSession=false):
 isLive row.toSession=false:=by
 rw[isLive,h,Bool.and_false]

/-- A step on the tables adds no holder, except that a claim replaces its ticket. -/
lemma holders_effect {t t':Tables}(h:Effect t t')(F:Set TicketId):holders t' F ⊆ holders t F∨
  ∃id k,Sum.inl id∈holders t F∧holders t' F ⊆ insert (.inr k) (holders t F \ {.inl id}):=by
 cases h with
 | none=>exact .inl (Set.Subset.refl _)
 | @retire id ticket status hget hstatus=>
  refine .inl ?_
  rintro (id'|k) hx
  · obtain ⟨hF,ticket',hget',hwaiting⟩:=hx
    rcases get_set_eq_some hget' with ⟨-,rfl⟩|⟨-,hold⟩
    · exact absurd hwaiting hstatus
    · exact ⟨hF,ticket',hold,hwaiting⟩
  · exact hx
 | @close id row row' hget hticket hended hstatus hrunning=>
  refine .inl ?_
  rintro (id'|k) hx
  · exact hx
  · obtain ⟨r,id',hr,hlive,hid,hF⟩:=hx
    rcases get_set_eq_some hr with ⟨-,rfl⟩|⟨-,hold⟩
    · rw[isLive_of_isOpen_eq_false hended] at hlive
      cases hlive
    · exact ⟨r,id',hold,hlive,hid,hF⟩
 | @promote id row sessionId hget hpending=>
  refine .inl ?_
  rintro (id'|k) hx
  · exact hx
  · obtain ⟨r,id',hr,hlive,hid,hF⟩:=hx
    rcases get_set_eq_some hr with ⟨rfl,rfl⟩|⟨-,hold⟩
    · refine ⟨row,id',hget,?_,hid,hF⟩
      have hopen:isOpen row.toSession:=(Bool.and_eq_true _ _ ▸ hlive).2
      rw[isLive,hopen,isLiveStatus,hpending]
      rfl
    · exact ⟨r,id',hold,hlive,hid,hF⟩
 | @claim ticketId ticket id row hticket hwaiting hnew hrow hpending hopen=>
  have htickets:∀id',Sum.inl id'∈holders ⟨t.tickets.pop ticketId,t.rows.set id row⟩ F→
    id'≠ticketId∧Sum.inl id'∈holders t F:=by
   rintro id' ⟨hF,ticket',hget,hwaiting'⟩
   obtain ⟨hne,hold⟩:=get_pop_eq_some hget
   exact ⟨hne,hF,ticket',hold,hwaiting'⟩
  have hrows:∀k,Sum.inr k∈holders ⟨t.tickets.pop ticketId,t.rows.set id row⟩ F→
    (k=id∧ticketId∈F)∨Sum.inr k∈holders t F:=by
   rintro k ⟨r,id',hr,hlive,hid,hF⟩
   rcases get_set_eq_some hr with ⟨hk,rfl⟩|⟨-,hold⟩
   · rw[hrow] at hid
     cases hid
     exact .inl ⟨hk,hF⟩
   · exact .inr ⟨r,id',hold,hlive,hid,hF⟩
  by_cases hF:ticketId∈F
  · refine .inr ⟨ticketId,id,⟨hF,ticket,hticket,hwaiting⟩,?_⟩
    rintro (id'|k) hx
    · obtain ⟨hne,hold⟩:=htickets id' hx
      exact .inr ⟨hold,fun h=>hne (Sum.inl.inj h)⟩
    · rcases hrows k hx with ⟨hk,-⟩|hold
      · exact .inl (congrArg Sum.inr hk)
      · exact .inr ⟨hold,Sum.inr_ne_inl⟩
  · refine .inl ?_
    rintro (id'|k) hx
    · exact (htickets id' hx).2
    · exact (hrows k hx).resolve_left fun h=>hF h.2

lemma subsingleton_effect {t t':Tables}(h:Effect t t')(hone:(holders t F).Subsingleton):
 (holders t' F).Subsingleton:=by
 rcases holders_effect h F with hsub|⟨id,k,hid,hsub⟩
 · exact hone.anti hsub
 · have hrest:holders t F \ {.inl id}=∅:=by
    rw[Set.sdiff_eq_empty]
    intro x hx
    exact hone hx hid
   rw[hrest,insert_empty_eq] at hsub
   exact Set.subsingleton_singleton.anti hsub

def quiet (s:State)(T:TicketId):Bool:=
 (s.tables.tickets.entries.all fun e=>!(e.2.status=.waiting&&inGroup s T e.1))&&
  s.tables.rows.entries.all fun e=>!(isLive e.2.toSession&&e.2.ticketId.any (inGroup s T))

/-- The condition on a step: a ticket is drawn for a request of the group only while no other ticket of
the group waits and no row of it is live. -/
def drawsAlone (T:TicketId)(s:State):Label→Bool
 | .poll r _ _ _=>
  match s.requests.get r with
  | some q=>q.payload.ticket≠some T||(findTicket s.tables q.ticketId).isSome||quiet s T
  | none=>true
 | _=>true

lemma holders_eq_empty_of_quiet (h:quiet s T):holders s.tables {t | InGroup s T t}=∅:=by
 simp only[quiet,Bool.and_eq_true,List.all_eq_true,Prod.forall,Bool.not_eq_true',
  Bool.and_eq_false_iff,←get_eq_some_iff] at h
 rw[Set.eq_empty_iff_forall_notMem]
 rintro (id|k) hx
 · obtain ⟨hgroup,ticket,hget,hwaiting⟩:=hx
   rcases h.1 id ticket hget with h|h
   · exact absurd hwaiting (of_decide_eq_false h)
   · rw[inGroup_iff.mpr hgroup] at h
     cases h
 · obtain ⟨row,id,hget,hlive,hid,hgroup⟩:=hx
   rcases h.2 k row hget with h|h
   · rw[hlive] at h
     cases h
   · rw[hid,any_some,inGroup_iff.mpr hgroup] at h
     cases h

/-- A ticket nobody has seen belongs to no group that holds anything. -/
lemma holders_eq_empty_of_isFresh (hfresh:isFresh s T):holders s.tables {t | InGroup s T t}=∅:=by
 obtain ⟨htickets,-,hrows,hrequests,-⟩:=notMem_of_isFresh hfresh
 have honly:∀t,InGroup s T t→t=T:=by
  rintro t (rfl|⟨r,q,-,hget,hT⟩)
  · rfl
  · exact absurd hT (hrequests r q hget).1
 rw[Set.eq_empty_iff_forall_notMem]
 rintro (id|k) hx
 · obtain ⟨hgroup,ticket,hget,-⟩:=hx
   rw[honly id hgroup,htickets] at hget
   cases hget
 · obtain ⟨row,id,hget,-,hid,hgroup⟩:=hx
   rw[honly id hgroup] at hid
   exact hrows k row hget hid

lemma holders_mint (hfresh:isFresh s fresh)(hsub:F ⊆ insert fresh G):
 holders (mint s r ticket fresh).tables F ⊆ {x | x=.inl fresh∧fresh∈F} ∪ holders s.tables G:=by
 obtain ⟨-,-,hrows,-,-⟩:=notMem_of_isFresh hfresh
 rintro (id|k) hx
 · obtain ⟨hF,ticket',hget,hwaiting⟩:=hx
   rcases get_set_eq_some hget with ⟨rfl,-⟩|⟨hne,hold⟩
   · exact .inl ⟨rfl,hF⟩
   · exact .inr ⟨(hsub hF).resolve_left hne,ticket',hold,hwaiting⟩
 · obtain ⟨row,id,hget,hlive,hid,hF⟩:=hx
   have hne:id≠fresh:=by
    rintro rfl
    exact hrows k row hget hid
   exact .inr ⟨row,id,hget,hlive,hid,(hsub hF).resolve_left hne⟩
lemma subsingleton_mint (hfresh:isFresh s fresh)(hsub:F ⊆ insert fresh G)
 (hone:(holders s.tables G).Subsingleton)(hquiet:fresh∈F→holders s.tables G=∅):
 (holders (mint s r ticket fresh).tables F).Subsingleton:=by
 have hmint:holders (mint s r ticket fresh).tables F ⊆
   {x | x=.inl fresh∧fresh∈F} ∪ holders s.tables G:=holders_mint hfresh hsub
 by_cases hF:fresh∈F
 · rw[hquiet hF,Set.union_empty] at hmint
   exact (Set.subsingleton_singleton (a:=Sum.inl fresh)).anti (hmint.trans fun _ hx=>hx.1)
 · refine hone.anti (hmint.trans (Set.union_subset ?_ (Set.Subset.refl _)))
   exact fun _ hx=>absurd hx.2 hF

def OneHolder (T:TicketId)(s:State):Prop:=(holders s.tables {t | InGroup s T t}).Subsingleton

lemma oneHolder_step (hdrawn:Drawn s)(hone:OneHolder T s)(halone:drawsAlone T s label)
 (hstep:step s label=some s'):OneHolder T s':=by
 rcases group_step hdrawn hstep T with ⟨heffect,hgroup⟩ |
   ⟨r,q,now,fresh,allocation,ticket,rfl,hget,hgone,hfresh,heffect,hgroup⟩
 · exact (subsingleton_effect heffect hone).anti (holders_mono hgroup)
 · refine subsingleton_effect heffect (subsingleton_mint hfresh ?_ hone ?_)
   · intro t ht
     rcases hgroup t ht with h|⟨rfl,-⟩
     · exact .inr h
     · exact .inl rfl
   · intro hmem
     rcases hgroup fresh hmem with (rfl|⟨r',q',hminted,-⟩)|⟨-,hT⟩
     · exact holders_eq_empty_of_isFresh hfresh
     · rw[(notMem_of_isFresh hfresh).2.1] at hminted
       cases hminted
     · refine holders_eq_empty_of_quiet ?_
       simpa[drawsAlone,hget,hgone,hT] using halone

def liveClaims (s:State)(T:TicketId):List RowId:=
 (s.tables.rows.filter fun _ row=>isLive row.toSession&&row.ticketId.any (inGroup s T)).keys

lemma OneHolder.liveClaims_length (hone:OneHolder T s):(liveClaims s T).length≤1:=by
 have hholder:∀k∈liveClaims s T,Sum.inr k∈holders s.tables {t | InGroup s T t}:=by
  intro k hk
  obtain ⟨row,hrow⟩:=mem_keys.mp hk
  rw[Dict.get_filter,filter_eq_some_iff,Bool.and_eq_true,any_eq_true] at hrow
  obtain ⟨hget,hlive,id,hid,hgroup⟩:=hrow
  exact ⟨row,id,hget,hlive,hid,inGroup_iff.mp hgroup⟩
 refine length_le_one (Dict.nodup _) ?_
 intro a ha b hb
 exact Sum.inr.inj (hone (hholder a ha) (hholder b hb))
lemma drawn_init:Drawn init:=by
 intro t r hminted
 cases hminted

/-- As long as tickets are drawn for the requests that carry a ticket only while the group holds no other
one and no live row, they have at most one live session row between them. -/
theorem one_claim_per_ticket (T:TicketId) (labels:List Label) (s:State)
 (halone:Interleaving.Guarded (fun s label=>drawsAlone T s label=true) step init labels)
 (hrun:run step init labels=some s):(liveClaims s T).length≤1:=by
 have hinit:OneHolder T init:=by
  rintro (id|k) hx
  · obtain ⟨-,ticket,hget,-⟩:=hx
    cases hget
  · obtain ⟨row,id,hget,-⟩:=hx
    cases hget
 have hinv:Drawn s∧OneHolder T s:=
  run_invariant_guarded (fun s=>Drawn s∧OneHolder T s)
   (fun _ _ _ h hguard hstep=>⟨drawn_step h.1 hstep,oneHolder_step h.1 h.2 hguard hstep⟩)
   ⟨drawn_init,hinit⟩ halone hrun
 exact hinv.2.liveClaims_length

def queuedClient:List Label:=
 [.createSession 1 ⟨none,none⟩ 0 none,.poll 1 0 51 .noMatch,.act 1 (.unallocated 25000 25000 none)]

/-- Two requests resume ticket 51, and the first claims device 7. -/
def resumedTwice:List Label:=
 queuedClient ++
  [.createSession 2 ⟨some 51,none⟩ 26000 none,.createSession 3 ⟨some 51,none⟩ 26000 none,
   .act 2 (.interrupted none 26000),.act 3 (.interrupted none 26000),
   .poll 2 26000 52 (.claimed 7 "http://10.0.0.7:4723" 100 "alloc-1" none)]

/-- The node of the device is unreachable, so the row is failed before another ticket is drawn; the second
request has not polled. -/
def retriedClaim:List Label:=
 resumedTwice ++
  [.act 2 (.reply (.transportError "refused")),.act 2 (.fail 27000),.act 2 (.markDown 27000),
   .poll 2 27000 52 (.claimed 8 "http://10.0.0.8:4723" 101 "alloc-2" none)]

theorem one_claim_per_ticket_retriedClaim:
 ∃s,run step init retriedClaim=some s∧liveClaims s 51=[101]∧
  (liveClaims s 51).length≤1:=by
 have hseen:(run step init retriedClaim).map (fun s=>liveClaims s 51)=some [101]:=by
  rfl
 obtain ⟨s,hrun,hs⟩:=map_eq_some_iff.mp hseen
 exact ⟨s,hrun,hs,one_claim_per_ticket 51 retriedClaim s (by decide) hrun⟩

/-- Both are past their clean-up when the first one claims: the second finds the ticket gone, draws another
and claims a second device. -/
def racedPolls:List Label:=
 resumedTwice++[.poll 3 26000 53 (.claimed 8 "http://10.0.0.8:4723" 101 "alloc-2" none)]

theorem racedPolls_claim_twice:
 (run step init racedPolls).map (fun s=>liveClaims s 51)=some [101,100]:=by
 rfl
end GridFleet.CreateSession
