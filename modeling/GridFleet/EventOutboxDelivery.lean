import GridFleet.EventOutboxBus
import GridFleet.Interleaving
/-! A poll owes a dispatch to every row that was committed when it began. `PollOk` says, wherever another
task can run, which part of that debt is paid and where the rest is held: in the ids of the gap lookup
below the frontier, in the scan above it. -/
namespace GridFleet.EventOutbox
open Interleaving List

/-- What the debt of a poll depends on, apart from where the poll stands. -/
structure View where
 rows:List ℕ
 committed:List ℕ
 frontier:ℕ
 seed:ℕ
 begun:List ℕ
 retiredBefore:List ℕ
 lookupFailed:Bool

def State.view (s:State):View where
 rows:=s.bus.rows
 committed:=s.committed
 frontier:=s.bus.frontier
 seed:=s.seed
 begun:=s.poll.begun
 retiredBefore:=s.poll.retiredBefore
 lookupFailed:=s.poll.lookupFailed

/-- Each row of `begun` up to the frontier was dispatched, retired earlier, or is in `held`. -/
def BelowPaid (v:View)(held:List ℕ):Prop:=
 ∀row∈v.begun,v.seed<row→ row≤v.frontier→
  row∈v.rows∨row∈v.retiredBefore∨row∈held

def LookupPaid (v:View):Prop:=v.lookupFailed=false→BelowPaid v []

/-- The scan up to its cursor; `extra` are rows of the current page still to be hydrated. -/
structure ScanOk (v:View)(scan:Scan)(extra:List ℕ):Prop where
 lookup:LookupPaid v
 cursor:v.frontier ≤ scan.cursor
 observed:∀row∈scan.observed,row∈v.rows∨row∈scan.pending∨row∈extra
 held:∀row,row∈scan.pending∨row∈extra→ row∈v.committed∧v.frontier<row
 above:∀row∈v.begun,v.frontier<row→ row ≤ scan.cursor→ row∈scan.observed

structure PageOk (v:View)(cursor:ℕ)(ids:List ℕ):Prop where
 committed:∀row∈ids,row∈v.committed∧cursor<row
 last:cursor ≤ ids.getLastD cursor
 complete:∀row∈v.begun,cursor<row→
  ids.length<pollScanChunkSize∨row ≤ ids.getLastD cursor→ row∈ids

def PollOk (v:View):Phase→Prop
 | .idle=>True
 | .lookup gapIds=>BelowPaid v gapIds
 | .lookupSeen _ rows _=>BelowPaid v rows∧∀row∈rows,row∈v.committed
 | .scanStart=>LookupPaid v
 | .page scan=>ScanOk v scan []
 | .pageSeen scan ids _=>ScanOk v scan []∧PageOk v scan.cursor ids
 | .hydrate scan ids extra _ | .hydrateSeen scan ids extra _=>
  ScanOk v scan extra∧PageOk v scan.cursor ids∧∀row∈ids,row∈scan.observed
 | .closing scan _=>
  ScanOk v scan []∧∀row∈v.begun,v.frontier<row→ row∈scan.observed

/-- Rows commit and are dispatched under a poll's feet; the frontier and the seed stand still. -/
structure View.Le (v w:View):Prop where
 rows:∀row∈v.rows,row∈w.rows
 committed:∀row∈v.committed,row∈w.committed
 frontier:w.frontier=v.frontier
 seed:w.seed=v.seed
 begun:w.begun=v.begun
 retiredBefore:w.retiredBefore=v.retiredBefore
 lookupFailed:w.lookupFailed=v.lookupFailed

lemma View.Le.refl (v:View):v.Le v:=
 ⟨fun _ h=>h,fun _ h=>h,rfl,rfl,rfl,rfl,rfl⟩

section
variable {v w:View}

lemma BelowPaid.mono (hvw:v.Le w){held:List ℕ}(h:BelowPaid v held):BelowPaid w held:=by
 intro row hrow hseed hfrontier
 rw[hvw.begun] at hrow
 rw[hvw.seed] at hseed
 rw[hvw.frontier] at hfrontier
 rw[hvw.retiredBefore]
 exact (h row hrow hseed hfrontier).imp_left (hvw.rows row)
lemma ScanOk.mono (hvw:v.Le w){scan:Scan}{extra:List ℕ}(h:ScanOk v scan extra):
 ScanOk w scan extra where
 lookup:=fun hok=>(h.lookup (hvw.lookupFailed ▸ hok)).mono hvw
 cursor:=hvw.frontier ▸ h.cursor
 observed:=fun row hrow=>(h.observed row hrow).imp_left (hvw.rows row)
 held:=fun row hrow=>⟨hvw.committed row (h.held row hrow).1,hvw.frontier ▸ (h.held row hrow).2⟩
 above:=fun row hrow hlow=>h.above row (hvw.begun ▸ hrow) (hvw.frontier ▸ hlow)
lemma PageOk.mono (hvw:v.Le w){cursor:ℕ}{ids:List ℕ}(h:PageOk v cursor ids):
 PageOk w cursor ids where
 committed:=fun row hrow=>⟨hvw.committed row (h.committed row hrow).1,(h.committed row hrow).2⟩
 last:=h.last
 complete:=fun row hrow=>h.complete row (hvw.begun ▸ hrow)
lemma PollOk.mono (hvw:v.Le w){phase:Phase}(h:PollOk v phase):PollOk w phase:=by
 cases phase with
 | idle=>trivial
 | lookup=>exact BelowPaid.mono hvw h
 | lookupSeen=>
  exact ⟨h.1.mono hvw,fun row hrow=>hvw.committed row (h.2 row hrow)⟩
 | scanStart=>exact fun hok=>BelowPaid.mono hvw (h (hvw.lookupFailed ▸ hok))
 | page=>exact ScanOk.mono hvw h
 | pageSeen=>exact ⟨h.1.mono hvw,h.2.mono hvw⟩
 | hydrate | hydrateSeen=>exact ⟨h.1.mono hvw,h.2.1.mono hvw,h.2.2⟩
 | closing=>
  exact ⟨h.1.mono hvw,fun row hrow hlow=>h.2 row (hvw.begun ▸ hrow) (hvw.frontier ▸ hlow)⟩
end

section
variable {v:View}{scan:Scan}{ids extra:List ℕ}

lemma PageOk.scanPage (hbegun:∀row∈v.begun,row∈v.committed)(cursor:ℕ):
 PageOk v cursor (scanPage v.committed cursor) where
 committed:=fun _ hrow=>KeysetPage.mem_of_mem_page hrow
 last:=KeysetPage.cursor_le_last ..
 complete:=fun row hrow hcursor hreach=>
  hreach.elim (KeysetPage.mem_page_of_short (hbegun row hrow) hcursor)
   (KeysetPage.mem_page_of_le_last (hbegun row hrow) hcursor)
lemma ScanOk.pageDone (h:ScanOk v scan [])(hpage:PageOk v scan.cursor ids)
 (hids:∀row∈ids,row∈scan.observed)(now:ℕ):PollOk v (pageDone now scan ids):=by
 have hnext:ScanOk v {scan with cursor:=ids.getLastD scan.cursor} []:=
  { h with
    cursor:=h.cursor.trans hpage.last
    above:=fun row hrow hlow hhigh=>by
     by_cases hcursor:row ≤ scan.cursor
     · exact h.above row hrow hlow hcursor
     · exact hids row (hpage.complete row hrow (Nat.lt_of_not_le hcursor) (.inr hhigh)) }
 unfold EventOutbox.pageDone
 by_cases hshort:ids.length<pollScanChunkSize
 · rw[if_pos hshort]
   refine ⟨hnext,fun row hrow hlow=>?_⟩
   by_cases hcursor:row ≤ scan.cursor
   · exact h.above row hrow hlow hcursor
   · exact hids row (hpage.complete row hrow (Nat.lt_of_not_le hcursor) (.inl hshort))
 · rw[if_neg hshort]
   exact hnext
lemma ScanOk.pageSeen (h:ScanOk v scan [])(hpage:PageOk v scan.cursor ids)
 (hsplit:∀row∈ids,row∈v.rows∨row∈extra)(hextra:∀row∈extra,row∈ids):
 ScanOk v {scan with observed:=ids++scan.observed} extra:=
 { h with
  observed:=fun row hrow=>by
   rcases mem_append.mp hrow with hrow|hrow
   · exact (hsplit row hrow).imp_right .inr
   · exact (h.observed row hrow).imp_right (Or.imp_right fun hnil=>absurd hnil not_mem_nil)
  held:=fun row hrow=>by
   rcases hrow with hrow|hrow
   · exact h.held row (.inl hrow)
   · obtain ⟨hcommitted,hcursor⟩:=hpage.committed row (hextra row hrow)
     exact ⟨hcommitted,h.cursor.trans_lt hcursor⟩
  above:=fun row hrow hlow hhigh=>mem_append_right _ (h.above row hrow hlow hhigh) }
lemma ScanOk.hydrated (h:ScanOk v scan extra):ScanOk v {scan with pending:=scan.pending++extra} []:=
 { h with
  observed:=fun row hrow=>by
   rcases h.observed row hrow with hrow|hrow|hrow
   · exact .inl hrow
   · exact .inr (.inl (mem_append_left _ hrow))
   · exact .inr (.inl (mem_append_right _ hrow))
  held:=fun row hrow=>by
   rcases hrow with hrow|hrow
   · exact h.held row (mem_append.mp hrow)
   · cases hrow }
end

structure Delivery (s:State):Prop where
 busOk:BusOk s.bus
 rowsCommitted:∀row∈s.bus.rows,row∈s.committed
 loadedCommitted:∀row∈s.loaded,row∈s.committed
 covered:∀row,s.seed<row→ row ≤ s.bus.frontier→
  row∈s.bus.rows∨row∈s.bus.pendingGaps.keys∨row∈s.retiredRows
 gapLogNodup:(s.bus.gapLog.map Prod.fst).Nodup
 gapLogBelow:∀row∈s.bus.gapLog.map Prod.fst,row ≤ s.bus.frontier
 retired:∀r∈s.retired,r.row ∉ r.lookup∧r.firstSeen+gapRetirement≤r.retiredAt∧
  (r.row,r.firstSeen)∈s.bus.gapLog
 begun:∀row∈s.poll.begun,row∈s.committed
 poll:PollOk s.view s.poll.phase
 successes:∀p∈s.successes,∀row∈p.1,s.seed<row→ row∈s.bus.rows∨row∈p.2
 notStarted:s.startup ≠ .started→
  s.poll.phase=.idle∧s.bus.gapLog=[]∧s.successes=[]∧s.bus.frontier=0

lemma delivery_boot (now assigned:ℕ)(inFlight committed:List ℕ):
 Delivery (boot now assigned inFlight committed) where
 busOk:=⟨fun _ _ h=>(by cases h),fun _ _ h=>(by cases h)⟩
 rowsCommitted:=fun _ h=>(by cases h)
 loadedCommitted:=fun _ h=>(by cases h)
 covered:=fun row hseed hfrontier=>absurd hfrontier (Nat.not_le_of_lt hseed)
 gapLogNodup:=nodup_nil
 gapLogBelow:=fun _ h=>(by cases h)
 retired:=fun _ h=>(by cases h)
 begun:=fun _ h=>(by cases h)
 poll:=trivial
 successes:=fun _ h=>(by cases h)
 notStarted:=fun _=>⟨rfl,rfl,rfl,rfl⟩

section
variable {s:State}

section
variable (h:Delivery s)
include h

/-- A step of another task: rows are dispatched and committed, gaps leave only by a dispatch. -/
lemma Delivery.interfere {t:State}(hok:BusOk t.bus)(hle:s.view.Le t.view)
 (hcommitted:∀row∈t.bus.rows,row∈t.committed)(hloaded:∀row∈t.loaded,row∈t.committed)
 (hgaps:∀row∈s.bus.pendingGaps.keys,row∈t.bus.pendingGaps.keys∨row∈t.bus.rows)
 (hgapLog:t.bus.gapLog=s.bus.gapLog)(hretired:t.retired=s.retired)
 (hpoll:t.poll=s.poll)(hsuccesses:t.successes=s.successes)
 (hstartup:t.startup ≠ .started→s.startup ≠ .started):Delivery t where
 busOk:=hok
 rowsCommitted:=hcommitted
 loadedCommitted:=hloaded
 covered:=by
  intro row hseed hfrontier
  change t.view.seed<row at hseed
  change row≤t.view.frontier at hfrontier
  rw[hle.seed] at hseed
  rw[hle.frontier] at hfrontier
  unfold State.retiredRows
  rw[hretired]
  rcases h.covered row hseed hfrontier with hrow|hrow|hrow
  · exact .inl (hle.rows row hrow)
  · exact (hgaps row hrow).elim (fun hg=>.inr (.inl hg)) .inl
  · exact .inr (.inr hrow)
 gapLogNodup:=hgapLog ▸ h.gapLogNodup
 gapLogBelow:=by
  intro row hrow
  rw[hgapLog] at hrow
  exact (h.gapLogBelow row hrow).trans_eq hle.frontier.symm
 retired:=by
  rw[hretired,hgapLog]
  exact h.retired
 begun:=by
  rw[hpoll]
  exact fun row hrow=>hle.committed row (h.begun row hrow)
 poll:=by
  rw[hpoll]
  exact h.poll.mono hle
 successes:=by
  rw[hsuccesses]
  intro p hp row hrow hseed
  change t.view.seed<row at hseed
  rw[hle.seed] at hseed
  exact (h.successes p hp row hrow hseed).imp_left (hle.rows row)
 notStarted:=by
  intro hstart
  rw[hpoll,hgapLog,hsuccesses]
  obtain ⟨hphase,hlog,hsucc,hfrontier⟩:=h.notStarted (hstartup hstart)
  exact ⟨hphase,hlog,hsucc,hle.frontier.trans hfrontier⟩

lemma Delivery.setPoll {poll:Poll}(hphase:s.poll.phase ≠ .idle)
 (hbegun:poll.begun=s.poll.begun)(hpoll:PollOk (State.view {s with poll:=poll}) poll.phase):
 Delivery {s with poll:=poll}:=
 { h with
  begun:=hbegun ▸ h.begun
  poll:=hpoll
  notStarted:=fun hstart=>absurd (h.notStarted hstart).1 hphase }
lemma Delivery.start {latest:ℕ}(hstartup:s.startup ≠ .started):Delivery (start s latest):=by
 obtain ⟨hphase,hlog,hsucc,-⟩:=h.notStarted hstartup
 have hok:BusOk {s.bus with frontier:=latest}:=⟨h.busOk.dispatched,h.busOk.recorded⟩
 refine
  { h with
    busOk:=pruneDispatchedRowIds_ok s.now hok
    covered:=fun row hseed hfrontier=>absurd hfrontier (Nat.not_le_of_lt hseed)
    gapLogBelow:=?_
    poll:=?_
    successes:=?_
    notStarted:=fun hne=>absurd rfl hne }
 · intro row hrow
   change row∈s.bus.gapLog.map Prod.fst at hrow
   rw[hlog] at hrow
   cases hrow
 · change PollOk _ s.poll.phase
   rw[hphase]
   trivial
 · intro p hp
   change p∈s.successes at hp
   rw[hsucc] at hp
   cases hp
lemma Delivery.pollBegin (hstarted:s.startup=.started):Delivery (pollBegin s):=
 { h with
  begun:=fun _ hrow=>hrow
  poll:=by
   unfold EventOutbox.pollBegin
   by_cases hgaps:s.bus.pendingGaps.keys=[]
   · simp only[hgaps,if_true]
     intro _ row _ hseed hfrontier
     have hrow:=h.covered row hseed hfrontier
     rw[hgaps] at hrow
     tauto
   · simp only[hgaps,if_false]
     intro row _ hseed hfrontier
     rw[mem_insertionSort]
     have hrow:=h.covered row hseed hfrontier
     tauto
  notStarted:=fun hne=>absurd hstarted hne }

lemma Delivery.lookupReturns {gapIds rows:List ℕ}{readAt:ℕ}
 (hphase:s.poll.phase=.lookupSeen gapIds rows readAt):Delivery (lookupReturns s gapIds rows):=by
 have hr:=retireGaps_spec s.now rows gapIds (s.bus,s.retired)
 have hd:=dispatchNewRows_spec s.now (hr.ok h.busOk) rows
 have hpoll:=h.poll
 rw[hphase] at hpoll
 obtain ⟨hpaid,hfound⟩:=hpoll
 have hrows:∀row,row∈(EventOutbox.lookupReturns s gapIds rows).bus.rows↔row∈rows∨row∈s.bus.rows:=by
  intro row
  refine (hd.rows row).trans (or_congr_right ?_)
  unfold Bus.rows
  rw[hr.log]
 have hfrontier:(EventOutbox.lookupReturns s gapIds rows).bus.frontier=s.bus.frontier:=
  hd.frontier.trans hr.frontier
 have hgapLog:(EventOutbox.lookupReturns s gapIds rows).bus.gapLog=s.bus.gapLog:=hd.gapLog.trans hr.gapLog
 refine
  { h with
    busOk:=hd.ok
    rowsCommitted:=fun row hrow=>((hrows row).mp hrow).elim (hfound row) (h.rowsCommitted row)
    covered:=?_
    gapLogNodup:=hgapLog ▸ h.gapLogNodup
    gapLogBelow:=?_
    retired:=?_
    poll:=?_
    successes:=?_
    notStarted:=fun hne=>absurd (h.notStarted hne).1 (by simp[hphase]) }
 · intro row hseed hhigh
   rw[hfrontier] at hhigh
   rcases h.covered row hseed hhigh with hrow|hrow|hrow
   · exact .inl ((hrows row).mpr (.inr hrow))
   · rcases hr.moves row hrow with hrow|hrow
     · exact (hd.gaps row hrow).elim (fun hg=>.inr (.inl hg)) .inl
     · exact .inr (.inr hrow)
   · obtain ⟨r,hr',rfl⟩:=mem_map.mp hrow
     exact .inr (.inr (mem_map.mpr ⟨r,hr.keeps r hr',rfl⟩))
 · intro row hrow
   rw[hgapLog] at hrow
   rw[hfrontier]
   exact h.gapLogBelow row hrow
 · intro r hr'
   rw[hgapLog]
   rcases hr.sound h.busOk r hr' with hold|⟨hlookup,hmissed,hage,hlogged⟩
   · exact h.retired r hold
   · exact ⟨hlookup ▸ hmissed,hage,hlogged⟩
 · intro _ row hrow hseed hhigh
   change row≤(EventOutbox.lookupReturns s gapIds rows).bus.frontier at hhigh
   rw[hfrontier] at hhigh
   rcases hpaid row hrow hseed hhigh with hrow|hrow|hrow
   · exact .inl ((hrows row).mpr (.inr hrow))
   · exact .inr (.inl hrow)
   · exact .inl ((hrows row).mpr (.inl hrow))
 · intro p hp row hrow hseed
   exact (h.successes p hp row hrow hseed).imp_left fun hin=>(hrows row).mpr (.inr hin)

lemma Delivery.scanCloses {scan:Scan}{issued:ℕ}(hphase:s.poll.phase=.closing scan issued):Delivery (scanCloses s scan):=by
 have hp:=promote_spec s.now scan h.busOk
 have hpoll:=h.poll
 rw[hphase] at hpoll
 obtain ⟨hscan,hfull⟩:=hpoll
 have hobserved:∀row∈scan.observed,row∈(s.bus.promote s.now scan).rows:=by
  intro row hrow
  rcases hscan.observed row hrow with hrow|hrow|hrow
  · exact (hp.rows row).mpr (.inr hrow)
  · exact (hp.rows row).mpr (.inl hrow)
  · cases hrow
 refine
  { h with
    busOk:=hp.ok
    rowsCommitted:=?_
    covered:=?_
    gapLogNodup:=?_
    gapLogBelow:=?_
    retired:=fun r hr=>⟨(h.retired r hr).1,(h.retired r hr).2.1,hp.kept _ (h.retired r hr).2.2⟩
    poll:=trivial
    successes:=?_
    notStarted:=fun hne=>absurd (h.notStarted hne).1 (by simp[hphase]) }
 · intro row hrow
   rcases (hp.rows row).mp hrow with hrow|hrow
   · exact (hscan.held row (.inl hrow)).1
   · exact h.rowsCommitted row hrow
 · intro row hseed hhigh
   by_cases hold:row ≤ s.bus.frontier
   · rcases h.covered row hseed hold with hrow|hrow|hrow
     · exact .inl ((hp.rows row).mpr (.inr hrow))
     · exact (hp.gaps row hrow).elim (fun hg=>.inr (.inl hg)) .inl
     · exact .inr (.inr hrow)
   · rcases hp.covers row (Nat.lt_of_not_le hold) hhigh with hrow|hrow|hrow
     · exact .inl (hobserved row hrow)
     · exact .inl hrow
     · exact .inr (.inl hrow)
 · obtain ⟨new,hnodup,hrange,hperm⟩:=hp.gapLog
   refine hperm.nodup_iff.mpr (nodup_append'.mpr ⟨hnodup,h.gapLogNodup,fun row hnew hold=>?_⟩)
   exact absurd (h.gapLogBelow row hold) (Nat.not_le_of_lt (hrange row hnew).1)
 · obtain ⟨new,-,hrange,hperm⟩:=hp.gapLog
   intro row hrow
   rcases mem_append.mp (hperm.mem_iff.mp hrow) with hnew|hold
   · exact (hrange row hnew).2
   · exact (h.gapLogBelow row hold).trans hscan.cursor
 · intro p hmem row hrow hseed
   change p∈(if s.poll.lookupFailed then s.successes else _) at hmem
   have hcons:p∈s.successes∨
     s.poll.lookupFailed=false∧p=(s.poll.begun,s.poll.retiredBefore):=by
    split at hmem
    · exact .inl hmem
    · rcases mem_cons.mp hmem with hmem|hmem
      · exact .inr ⟨Bool.eq_false_iff.mpr ‹_›,hmem⟩
      · exact .inl hmem
   rcases hcons with hmem|⟨hlookup,rfl⟩
   · exact (h.successes p hmem row hrow hseed).imp_left fun hin=>(hp.rows row).mpr (.inr hin)
   · by_cases hold:row ≤ s.bus.frontier
     · rcases hscan.lookup hlookup row hrow hseed hold with hrow|hrow|hrow
       · exact .inl ((hp.rows row).mpr (.inr hrow))
       · exact .inr hrow
       · cases hrow
     · exact .inl (hobserved row (hfull row hrow (Nat.lt_of_not_le hold)))
end
end

lemma Delivery.pageReturns {s:State}(h:Delivery s){scan:Scan}{ids:List ℕ}{readAt:ℕ}
 (hphase:s.poll.phase=.pageSeen scan ids readAt):Delivery (pageReturns s scan ids):=by
 have hpoll:=h.poll
 rw[hphase] at hpoll
 obtain ⟨hscan,hpage⟩:=hpoll
 have hbusy:s.poll.phase ≠ .idle:=by simp[hphase]
 have hids:∀row∈ids,row∈ids++scan.observed:=fun row hrow=>mem_append_left _ hrow
 have hsplit:∀row∈ids,row∈s.bus.rows∨row∈ids.filter (· ∉ s.bus.dispatchedRowIds.keys):=by
  intro row hrow
  by_cases hk:row∈s.bus.dispatchedRowIds.keys
  · exact .inl (h.busOk.rows_of_keys hk)
  · exact .inr (mem_filter.mpr ⟨hrow,decide_eq_true hk⟩)
 have hseen:=hscan.pageSeen hpage hsplit fun row hrow=>(mem_filter.mp hrow).1
 unfold EventOutbox.pageReturns
 dsimp only
 split
 · rename_i hnil
   refine h.setPoll hbusy rfl ⟨hscan,fun row hrow hlow=>?_⟩
   by_cases hcursor:row ≤ scan.cursor
   · exact hscan.above row hrow hlow hcursor
   · have hin:=hpage.complete row hrow (Nat.lt_of_not_le hcursor) (.inl (by simp[hnil,pollScanChunkSize]))
     simp[hnil] at hin
 · split
   · rename_i hnone
     rw[hnone] at hseen
     exact h.setPoll hbusy rfl (hseen.pageDone hpage hids s.now)
   · exact h.setPoll hbusy rfl ⟨hseen,hpage,hids⟩

lemma delivery_step {s s':State}{a:Label}(h:Delivery s)(hstep:step s a=some s'):Delivery s':=by
 have hpoll:=h.poll
 cases transition_of_step hstep with
 | tick | takeId | rollback=>
  exact h.interfere h.busOk (.refl _) h.rowsCommitted h.loadedCommitted (fun _ hg=>.inl hg)
   rfl rfl rfl rfl id
 | commit=>
  exact h.interfere h.busOk 
   ⟨fun _ hx=>hx,fun _ hx=>mem_cons_of_mem _ hx,rfl,rfl,rfl,rfl,rfl⟩
   (fun x hx=>mem_cons_of_mem _ (h.rowsCommitted x hx))
   (fun x hx=>mem_cons_of_mem _ (h.loadedCommitted x hx)) (fun _ hg=>.inl hg)
   rfl rfl rfl rfl id
 | seedRead hstartup=>
  exact h.interfere h.busOk (.refl _) h.rowsCommitted h.loadedCommitted (fun _ hg=>.inl hg)
   rfl rfl rfl rfl fun _=>by simp[hstartup]
 | start _ _ hstartup=>exact h.start (by simp[hstartup])
 | load _ hrow=>
  refine h.interfere h.busOk (.refl _) h.rowsCommitted ?_ (fun _ hg=>.inl hg) rfl rfl rfl rfl id
  intro x hx
  rcases mem_cons.mp hx with rfl|hx
  · exact hrow
  · exact h.loadedCommitted x hx
 | lose=>
  exact h.interfere h.busOk (.refl _) h.rowsCommitted
   (fun x hx=>h.loadedCommitted x (mem_of_mem_erase hx)) (fun _ hg=>.inl hg)
   rfl rfl rfl rfl id
 | deliver row hrow=>
  have hd:=dispatchRow_spec s.now h.busOk row
  refine h.interfere hd.ok 
   ⟨fun x hx=>(hd.rows x).mpr (.inr hx),fun _ hx=>hx,hd.frontier,rfl,rfl,rfl,rfl⟩ ?_ (fun x hx=>h.loadedCommitted x (mem_of_mem_erase hx)) hd.gaps hd.gapLog rfl rfl rfl id
  intro x hx
  rcases (hd.rows x).mp hx with hx|hx
  · rw[mem_singleton.mp hx]
    exact h.loadedCommitted row hrow
  · exact h.rowsCommitted x hx
 | pollBegin _ hstarted=>exact h.pollBegin hstarted
 | lookupRead _ hphase=>
  rw[hphase] at hpoll
  refine h.setPoll (by simp[hphase]) rfl ⟨fun row hrow hseed hhigh=>?_,fun row hrow=>?_⟩
  · have hheld:=hpoll row hrow hseed hhigh
    refine hheld.imp_right (Or.imp_right fun hin=>?_)
    exact mem_filter.mpr ⟨hin,decide_eq_true (h.begun row hrow)⟩
  · exact of_decide_eq_true (mem_filter.mp hrow).2
 | lookupReturns _ _ _ hphase=>exact h.lookupReturns hphase
 | lookupFails hbusy=>exact h.setPoll hbusy rfl fun hok=>by cases hok
 | scanBegin hphase=>
  rw[hphase] at hpoll
  refine h.setPoll (by simp[hphase]) rfl ?_
  exact ⟨hpoll,le_rfl,fun _ hrow=>(by cases hrow),by simp,
   fun row _ hlow hhigh=>absurd hhigh (Nat.not_le_of_lt hlow)⟩
 | pageRead scan hphase=>
  rw[hphase] at hpoll
  refine h.setPoll (by simp[hphase]) rfl ⟨?_,?_⟩
  · exact {hpoll with}
  · exact PageOk.scanPage h.begun scan.cursor
 | pageReturns _ _ _ hphase=>exact h.pageReturns hphase
 | hydrateRead _ _ undispatched _ hphase=>
  rw[hphase] at hpoll
  obtain ⟨hscan,hpage,hids⟩:=hpoll
  have hall:undispatched.filter (· ∈ s.committed)=undispatched:=by
   refine filter_eq_self.mpr fun row hrow=>decide_eq_true ?_
   exact (hscan.held row (.inr hrow)).1
  rw[hall]
  exact h.setPoll (by simp[hphase]) rfl ⟨hscan,hpage,hids⟩
 | hydrateReturns _ _ _ _ hphase=>
  rw[hphase] at hpoll
  obtain ⟨hscan,hpage,hids⟩:=hpoll
  exact h.setPoll (by simp[hphase]) rfl (hscan.hydrated.pageDone hpage hids s.now)
 | scanFails hbusy=>exact h.setPoll hbusy rfl trivial
 | scanCloses _ _ hphase=>exact h.scanCloses hphase

lemma delivery_run {now assigned:ℕ}{inFlight committed:List ℕ}{labels:List Label}
 {s:State}(hrun:run step (boot now assigned inFlight committed) labels=some s):Delivery s:=
 run_invariant Delivery (fun _ _ _ h hstep=>delivery_step h hstep)
  (delivery_boot now assigned inFlight committed) hrun
lemma frontier_step {s s':State}{a:Label}(h:Delivery s)(hstep:step s a=some s'):
 s.bus.frontier ≤ s'.bus.frontier:=by
 cases transition_of_step hstep with
 | start _ _ hstartup=>
  obtain ⟨-,-,-,hzero⟩:=h.notStarted (by simp[hstartup])
  exact hzero.trans_le (Nat.zero_le _)
 | deliver row=>exact (dispatchRow_spec s.now h.busOk row).frontier.ge
 | lookupReturns gapIds rows=>
  have hr:=retireGaps_spec s.now rows gapIds (s.bus,s.retired)
  exact ((dispatchNewRows_spec s.now (hr.ok h.busOk) rows).frontier.trans hr.frontier).ge
 | pageReturns=>
  unfold EventOutbox.pageReturns
  dsimp only
  split
  · exact le_rfl
  · split <;> exact le_rfl
 | scanCloses _ _ hphase=>
  have hpoll:=h.poll
  rw[hphase] at hpoll
  exact hpoll.1.cursor
 | _=>exact le_rfl
lemma frontier_run {labels:List Label}{s t:State}(h:Delivery s)
 (hrun:run step s labels=some t):s.bus.frontier≤t.bus.frontier:=
 run_related Delivery (fun s t=>s.bus.frontier≤t.bus.frontier) (fun _=>le_rfl)
  (fun _ _ _=>le_trans) (fun _ _ _ h hstep=>⟨delivery_step h hstep,frontier_step h hstep⟩) h hrun
end GridFleet.EventOutbox
