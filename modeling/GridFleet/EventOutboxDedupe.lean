import GridFleet.EventOutboxDelivery
/-! Pruning forgets a dispatch only once the frontier has passed its row. Gaps never hold a dispatched
row, and a late notification is excluded by the guard on deliveries. -/
namespace GridFleet.EventOutbox
open Interleaving Dict List Option

/-- The listener hands a row over less than `dedupeGrace` after the row was dispatched. -/
def PromptDelivery (s:State):Label→Prop
 | .deliver row=>∀e∈s.bus.log,e.1=row→s.now<e.2+dedupeGrace
 | _=>True

/-- `start` applies its seed less than `dedupeGrace` after the seed was read. -/
def PromptStart (s:State):Label→Prop
 | .start=>
  match s.startup with
  | .seeding _ readAt=>s.now<readAt+dedupeGrace
  | _=>True
 | _=>True

instance (s:State)(a:Label):Decidable (PromptDelivery s a):=by
 unfold PromptDelivery
 split <;> infer_instance

instance (s:State)(a:Label):Decidable (PromptStart s a):=by
 unfold PromptStart
 split
 · split <;> infer_instance
 · infer_instance

/-- Each logged dispatch is still in the dedupe map unless `gone` says it may be forgotten. -/
def Remembers (gone:ℕ→ℕ→Prop)(b:Bus):Prop:=
 ∀row at_,(row,at_)∈b.log→b.dispatchedRowIds.get row=some at_∨gone row at_

/-- Once each: no row twice in the log, and no logged row among the gaps. -/
structure Once (gone:ℕ→ℕ→Prop)(b:Bus):Prop where
 nodup:b.rows.Nodup
 gaps:∀row∈b.rows,row ∉ b.pendingGaps.keys
 remembers:Remembers gone b

section
variable {gone:ℕ→ℕ→Prop}{b:Bus}

lemma Once.imp {gone':ℕ→ℕ→Prop}(h:Once gone b)
 (himp:∀row at_,(row,at_)∈b.log→ gone row at_→ gone' row at_):Once gone' b:=
 ⟨h.nodup,h.gaps,fun row at_ hlog=>(h.remembers row at_ hlog).imp_right (himp row at_ hlog)⟩

variable {row:ℕ}

lemma Once.notMem_rows (h:Once gone b)(hrow:∀at_,(row,at_)∈b.log→¬gone row at_)
 (hnew:b.dispatchedRowIds.get row=none):row ∉ b.rows:=by
 intro hmem
 obtain ⟨⟨x,at_⟩,hlog,rfl⟩:=List.mem_map.mp hmem
 rcases h.remembers x at_ hlog with hget|hgone
 · rw[hnew] at hget
   cases hget
 · exact hrow at_ hlog hgone
lemma Once.dispatchRow (h:Once gone b)(now:ℕ)(hrow:∀at_,(row,at_)∈b.log→¬gone row at_):
 Once gone (b.dispatchRow now row):=by
 unfold Bus.dispatchRow
 split
 · exact h
 · rename_i hnew
   have hfresh:=h.notMem_rows hrow hnew
   refine ⟨nodup_cons.mpr ⟨hfresh,h.nodup⟩,fun x hx hgap=>?_,fun x at_ hlog=>?_⟩
   · obtain ⟨hne,hgap⟩:=mem_keys_pop.mp hgap
     rcases mem_cons.mp hx with hx|hx
     · exact hne hx
     · exact h.gaps x hx hgap
   · rcases mem_cons.mp hlog with heq|hlog
     · cases heq
       exact .inl (get_set_self ..)
     · have hne:x≠row:=by
        intro heq
        exact hfresh (heq ▸ List.mem_map.mpr ⟨(x,at_),hlog,rfl⟩)
       rw[get_set_of_ne _ _ hne]
       exact h.remembers x at_ hlog
lemma mem_log_dispatchRow {now:ℕ}{e:ℕ×ℕ}(he:e∈(b.dispatchRow now row).log):e∈b.log∨e=(row,now):=by
 unfold Bus.dispatchRow at he
 split at he
 · exact .inl he
 · exact (mem_cons.mp he).symm
lemma mem_log_dispatchNewRows {now:ℕ}{rows:List ℕ}{e:ℕ×ℕ}
 (he:e∈(b.dispatchNewRows now rows).log):e∈b.log∨e.2=now:=by
 unfold Bus.dispatchNewRows at he
 induction rows generalizing b with
 | nil=>exact .inl he
 | cons _ _ ih=>
  rcases ih he with he|he
  · rcases mem_log_dispatchRow he with he|rfl
    · exact .inl he
    · exact .inr rfl
  · exact .inr he

section
variable (h:Once gone b)
include h

lemma Once.dispatchNewRows {rows:List ℕ}(now:ℕ)(hrows:∀row∈rows,∀at_,¬gone row at_):Once gone (b.dispatchNewRows now rows):=by
 unfold Bus.dispatchNewRows
 induction rows generalizing b with
 | nil=>exact h
 | cons row _ ih=>
  refine ih (h.dispatchRow now fun at_ _=>hrows row mem_cons_self at_) ?_
  exact fun x hx=>hrows x (mem_cons_of_mem _ hx)
lemma Once.recordGaps (now:ℕ)(observed:List ℕ){ids:List ℕ}(hids:∀row∈ids,∀at_,¬gone row at_):
 Once gone (ids.foldl (Bus.recordGap now observed) b):=by
 have hr:=recordGaps_spec b now observed ids
 refine ⟨?_,fun x hx hgap=>?_,fun x at_ hlog=>?_⟩
 · unfold Bus.rows
   rw[hr.log]
   exact h.nodup
 · unfold Bus.rows at hx
   rw[hr.log] at hx
   rcases hr.only x hgap with hgap|⟨hin,hnew⟩
   · exact h.gaps x hx hgap
   · have hnone:b.dispatchedRowIds.get x=none:=by
      refine eq_none_iff_forall_ne_some.mpr fun at_ hat=>?_
      exact hnew (Dict.mem_keys.mpr ⟨at_,hat⟩)
     exact h.notMem_rows (fun at_ _=>hids x hin at_) hnone hx
 · rw[hr.log] at hlog
   rw[hr.dispatched]
   exact h.remembers x at_ hlog
lemma Once.prune (now:ℕ)(hold:∀row at_,(row,at_)∈b.log→at_+dedupeGrace≤now→ gone row at_):
 Once gone (b.pruneDispatchedRowIds now):=by
 refine ⟨h.nodup,h.gaps,fun row at_ hlog=>?_⟩
 by_cases hkeep:now<at_+dedupeGrace
 · refine (h.remembers row at_ hlog).imp_left fun hget=>?_
   change (b.dispatchedRowIds.filter _).get row=some at_
   rw[Dict.get_filter,filter_eq_some_iff]
   exact ⟨hget,decide_eq_true hkeep⟩
 · exact .inr (hold row at_ hlog (Nat.le_of_not_lt hkeep))
lemma Once.withFrontier (frontier:ℕ):Once gone {b with frontier:=frontier}:=
 ⟨h.nodup,h.gaps,h.remembers⟩
lemma Once.retireGaps (now:ℕ)(gapIds lookup:List ℕ)(retired:List Retirement):
 Once gone (retireGaps now gapIds lookup (b,retired)).1:=by
 have hr:=retireGaps_spec now lookup gapIds (b,retired)
 refine ⟨?_,fun x hx hgap=>?_,fun x at_ hlog=>?_⟩
 · unfold Bus.rows
   rw[hr.log]
   exact h.nodup
 · unfold Bus.rows at hx
   rw[hr.log] at hx
   exact h.gaps x hx (hr.shrinks x hgap)
 · rw[hr.log] at hlog
   rw[hr.dispatched]
   exact h.remembers x at_ hlog
end
end

def Phase.lookupIds:Phase→List ℕ
 | .lookup gapIds=>gapIds
 | .lookupSeen _ rows _=>rows
 | _=>[]

lemma notMem_lookupIds_pageDone {now row:ℕ}{scan:Scan}{ids:List ℕ}:
 row ∉ (pageDone now scan ids).lookupIds:=by
 unfold pageDone
 split <;> exact not_mem_nil

/-- A dispatch the bus may have forgotten: old, passed by the frontier, not being looked up. -/
def Gone (s:State)(row at_:ℕ):Prop:=
 row ≤ s.bus.frontier∧at_+dedupeGrace ≤ s.now∧row ∉ s.poll.phase.lookupIds

/-- Dispatches of rows above `top` are no older than `since`. -/
def RecentAbove (log:List (ℕ×ℕ))(top since:ℕ):Prop:=
 ∀row at_,(row,at_)∈log→top<row→since≤at_

/-- From its last page to its promotion a scan takes at most three statements. -/
def TimesOk (log:List (ℕ×ℕ))(now pageReadAt:ℕ):Phase→Prop
 | .pageSeen scan ids readAt=>readAt=pageReadAt∧pageReadAt≤now∧
  (ids.length<pollScanChunkSize→RecentAbove log (ids.getLastD scan.cursor) pageReadAt)
 | .hydrate scan ids _ issued | .hydrateSeen scan ids _ issued=>
  issued≤pageReadAt+pollStatementTimeout∧pageReadAt≤now∧
  (ids.length<pollScanChunkSize→RecentAbove log (ids.getLastD scan.cursor) pageReadAt)
 | .closing scan issued=>
  issued≤pageReadAt+2*pollStatementTimeout∧pageReadAt≤now∧
  RecentAbove log scan.cursor pageReadAt
 | _=>True

lemma RecentAbove.mono {log log':List (ℕ×ℕ)}{top since now:ℕ}(h:RecentAbove log top since)
 (hsince:since≤now)(hlog:∀e∈log',e∈log∨now≤e.2):RecentAbove log' top since:=by
 intro row at_ he htop
 rcases hlog _ he with he|he
 · exact h row at_ he htop
 · exact hsince.trans he
lemma TimesOk.mono {log log':List (ℕ×ℕ)}{now now' pageReadAt:ℕ}{phase:Phase}
 (h:TimesOk log now pageReadAt phase)(hnow:now≤now')
 (hlog:∀e∈log',e∈log∨now≤e.2):TimesOk log' now' pageReadAt phase:=by
 cases phase with
 | pageSeen | hydrate | hydrateSeen=>
  exact ⟨h.1,h.2.1.trans hnow,fun hshort=>(h.2.2 hshort).mono h.2.1 hlog⟩
 | closing=>exact ⟨h.1,h.2.1.trans hnow,h.2.2.mono h.2.1 hlog⟩
 | _=>trivial
lemma TimesOk.pageDone {log:List (ℕ×ℕ)}{now pageReadAt:ℕ}{scan:Scan}{ids:List ℕ}
 (htime:now≤pageReadAt+2*pollStatementTimeout)(hread:pageReadAt≤now)
 (hlast:ids.length<pollScanChunkSize→RecentAbove log (ids.getLastD scan.cursor) pageReadAt):
 TimesOk log now pageReadAt (pageDone now scan ids):=by
 unfold EventOutbox.pageDone
 by_cases hshort:ids.length<pollScanChunkSize
 · rw[if_pos hshort]
   exact ⟨htime,hread,hlast hshort⟩
 · rw[if_neg hshort]
   trivial

structure Dedupe (s:State):Prop where
 once:Once (Gone s) s.bus
 times:TimesOk s.bus.log s.now s.poll.pageReadAt s.poll.phase
 seeding:∀latest readAt,s.startup=.seeding latest readAt→
  readAt ≤ s.now∧RecentAbove s.bus.log latest readAt

lemma dedupe_boot (now assigned:ℕ)(inFlight committed:List ℕ):
 Dedupe (boot now assigned inFlight committed) where
 once:=⟨nodup_nil,fun _ h=>(by cases h),fun _ _ h=>(by cases h)⟩
 times:=trivial
 seeding:=fun _ _ h=>(by cases h)

section
variable {s:State}

lemma Dedupe.frame (h:Dedupe s){t:State}(hbus:t.bus=s.bus)(hnow:s.now≤t.now)
 (hlookup:∀row∈t.poll.phase.lookupIds,row∈s.poll.phase.lookupIds)
 (htimes:TimesOk s.bus.log t.now t.poll.pageReadAt t.poll.phase)
 (hstartup:t.startup=s.startup):Dedupe t where
 once:=by
  rw[hbus]
  refine h.once.imp fun row at_ _ hgone=>⟨hbus ▸ hgone.1,hgone.2.1.trans hnow,fun hin=>?_⟩
  exact hgone.2.2 (hlookup row hin)
 times:=hbus ▸ htimes
 seeding:=by
  rw[hbus,hstartup]
  exact fun latest readAt heq=>⟨(h.seeding latest readAt heq).1.trans hnow,(h.seeding latest readAt heq).2⟩
lemma le_foldr_max {rows:List ℕ}{row:ℕ}(h:row∈rows):row≤rows.foldr max 0:=by
 induction rows with
 | nil=>cases h
 | cons _ _ ih=>
  rw[foldr_cons]
  rcases mem_cons.mp h with rfl|h
  · exact le_max_left ..
  · exact (ih h).trans (le_max_right ..)
lemma Dedupe.seedRead (h:Dedupe s)(hd:Delivery s):
 Dedupe {s with startup:=.seeding (s.committed.foldr max 0) s.now} where
 once:=h.once
 times:=h.times
 seeding:=by
  intro latest readAt heq
  cases heq
  refine ⟨le_rfl,fun row at_ hlog hlatest=>?_⟩
  have hcommitted:=hd.rowsCommitted row (List.mem_map.mpr ⟨(row,at_),hlog,rfl⟩)
  exact absurd (le_foldr_max hcommitted) (Nat.not_le_of_lt hlatest)

variable {readAt:ℕ}

lemma Dedupe.start (h:Dedupe s)(hd:Delivery s){latest:ℕ}
 (hstartup:s.startup=.seeding latest readAt)(hprompt:s.now<readAt+dedupeGrace):
 Dedupe (start s latest):=by
 obtain ⟨hphase,-,-,hzero⟩:=hd.notStarted (by simp[hstartup])
 have hlookup:s.poll.phase.lookupIds=[]:=by rw[hphase];rfl
 have hgone:Once (Gone (EventOutbox.start s latest)) s.bus:=by
  refine h.once.imp fun row at_ _ hgone=>⟨?_,hgone.2⟩
  exact (hgone.1.trans_eq hzero).trans (Nat.zero_le _)
 refine ⟨(hgone.withFrontier latest).prune s.now fun row at_ hlog hold=>⟨?_,hold,?_⟩,?_,?_⟩
 · by_contra hlatest
   have:=(h.seeding latest readAt hstartup).2 row at_ hlog (Nat.lt_of_not_le hlatest)
   omega
 · change row ∉ s.poll.phase.lookupIds
   rw[hlookup]
   exact not_mem_nil
 · exact h.times
 · intro _ _ heq
   cases heq
lemma Dedupe.deliver (h:Dedupe s){row:ℕ}
 (hprompt:∀at_,(row,at_)∈s.bus.log→s.now<at_+dedupeGrace)(hok:BusOk s.bus):
 Dedupe {s with loaded:=s.loaded.erase row,bus:=s.bus.dispatchRow s.now row}:=by
 have hlog:∀e∈(s.bus.dispatchRow s.now row).log,e∈s.bus.log∨s.now≤e.2:=by
  intro e he
  rcases mem_log_dispatchRow he with he|rfl
  · exact .inl he
  · exact .inr le_rfl
 refine ⟨?_,h.times.mono le_rfl hlog,fun latest readAt heq=>?_⟩
 · have hgone:Once (Gone s) (s.bus.dispatchRow s.now row):=
    h.once.dispatchRow s.now fun at_ hin hgone=>absurd hgone.2.1 (Nat.not_le_of_lt (hprompt at_ hin))
   refine hgone.imp fun x at_ _ hgone=>⟨?_,hgone.2⟩
   exact hgone.1.trans_eq (dispatchRow_spec s.now hok row).frontier.symm
 · obtain ⟨hread,hrecent⟩:=h.seeding latest readAt heq
   exact ⟨hread,hrecent.mono hread hlog⟩
lemma Dedupe.pollBegin (h:Dedupe s):Dedupe (pollBegin s):=by
 have hlookup:∀row∈(EventOutbox.pollBegin s).poll.phase.lookupIds,row∈s.bus.pendingGaps.keys:=by
  intro row hrow
  unfold EventOutbox.pollBegin at hrow
  by_cases hgaps:s.bus.pendingGaps.keys=[]
  · simp[hgaps,Phase.lookupIds] at hrow
  · simpa[hgaps,Phase.lookupIds] using hrow
 refine ⟨h.once.imp fun row at_ hlog hgone=>⟨hgone.1,hgone.2.1,fun hin=>?_⟩,?_,h.seeding⟩
 · exact h.once.gaps row (List.mem_map.mpr ⟨(row,at_),hlog,rfl⟩) (hlookup row hin)
 · unfold EventOutbox.pollBegin
   by_cases hgaps:s.bus.pendingGaps.keys=[]
   · simp only[hgaps,if_true]
     trivial
   · simp only[hgaps,if_false]
     trivial
lemma Delivery.started (h:Delivery s)(hbusy:s.poll.phase ≠ .idle):s.startup=.started:=by
 by_contra hne
 exact hbusy (h.notStarted hne).1
lemma Dedupe.lookupReturns (h:Dedupe s)(hd:Delivery s){gapIds rows:List ℕ}
 (hphase:s.poll.phase=.lookupSeen gapIds rows readAt):Dedupe (lookupReturns s gapIds rows):=by
 have honce:Once (Gone s) (EventOutbox.lookupReturns s gapIds rows).bus:=by
  refine (h.once.retireGaps s.now gapIds rows s.retired).dispatchNewRows s.now fun row hrow at_ hgone=>?_
  refine hgone.2.2 ?_
  rw[hphase]
  exact hrow
 have hfrontier:(EventOutbox.lookupReturns s gapIds rows).bus.frontier=s.bus.frontier:=by
  have hr:=retireGaps_spec s.now rows gapIds (s.bus,s.retired)
  exact (dispatchNewRows_spec s.now (hr.ok hd.busOk) rows).frontier.trans hr.frontier
 refine ⟨honce.imp fun row at_ _ hgone=>⟨?_,hgone.2.1,not_mem_nil⟩,trivial,?_⟩
 · exact hgone.1.trans_eq hfrontier.symm
 · intro latest readAt heq
   exact absurd (hd.started (by simp[hphase])) (by simp[show s.startup=_ from heq])

lemma Dedupe.scanCloses (h:Dedupe s)(hd:Delivery s){scan:Scan}{issued:ℕ}
 (hphase:s.poll.phase=.closing scan issued)(htime:s.now ≤ issued+pollStatementTimeout):
 Dedupe (scanCloses s scan):=by
 have hpoll:=hd.poll
 have htimes:=h.times
 rw[hphase] at hpoll htimes
 obtain ⟨hscan,-⟩:=hpoll
 obtain ⟨hissued,-,hrecent⟩:=htimes
 have hcursor:s.bus.frontier ≤ scan.cursor:=hscan.cursor
 have hdisp:Once (Gone s) (s.bus.dispatchNewRows s.now scan.pending):=
  h.once.dispatchNewRows s.now fun row hrow at_ hgone=>
   absurd hgone.1 (Nat.not_le_of_lt (hscan.held row (.inl hrow)).2)
 have hrec:Once (Gone s)
   ((s.bus.dispatchNewRows s.now scan.pending).recordNewGaps s.now scan.observed scan.cursor):=by
  refine hdisp.recordGaps s.now scan.observed fun row hrow at_ hgone=>?_
  rw[(dispatchNewRows_spec s.now hd.busOk scan.pending).frontier] at hrow
  exact absurd hgone.1 (Nat.not_le_of_lt (mem_newRange.mp hrow).1)
 have hgone:Once (Gone (EventOutbox.scanCloses s scan)) _:=hrec.imp fun row at_ _ hgone=>
  ⟨hgone.1.trans hcursor,hgone.2.1,not_mem_nil⟩
 refine ⟨(hgone.withFrontier scan.cursor).prune s.now fun row at_ hlog hold=>
  ⟨?_,hold,not_mem_nil⟩,trivial,?_⟩
 · -- The row is above the page that was read last, so its dispatch is younger than that page.
   change (row,at_)∈(Bus.recordNewGaps ..).log at hlog
   rw[Bus.recordNewGaps,(recordGaps_spec ..).log] at hlog
   by_contra hlow
   rcases mem_log_dispatchNewRows hlog with hlog|hlog
   · have hread:=hrecent row at_ hlog (Nat.lt_of_not_le hlow)
     simp only[dedupeGrace,pollStatementTimeout] at hold htime hissued
     omega
   · simp only[dedupeGrace] at hold hlog
     omega
 · intro latest readAt heq
   exact absurd (hd.started (by simp[hphase])) (by simp[show s.startup=_ from heq])

lemma Dedupe.pageReturns (h:Dedupe s){scan:Scan}{ids:List ℕ}
 (hphase:s.poll.phase=.pageSeen scan ids readAt)(htime:s.now≤readAt+pollStatementTimeout):
 Dedupe (pageReturns s scan ids):=by
 have htimes:=h.times
 rw[hphase] at htimes
 obtain ⟨rfl,hread,hlast⟩:=htimes
 have hdone:s.now ≤ s.poll.pageReadAt+2*pollStatementTimeout:=by omega
 unfold EventOutbox.pageReturns
 dsimp only
 split
 · rename_i hnil
   refine h.frame rfl le_rfl (fun _ hin=>by cases hin) ⟨hdone,hread,?_⟩ rfl
   have hrecent:=hlast (by simp[hnil,pollScanChunkSize])
   rwa [hnil,getLastD_nil] at hrecent
 · split
   · exact h.frame rfl le_rfl (fun _ hin=>absurd hin notMem_lookupIds_pageDone)
      (TimesOk.pageDone hdone hread hlast) rfl
   · exact h.frame rfl le_rfl (fun _ hin=>by cases hin) ⟨htime,hread,hlast⟩ rfl
end

lemma dedupe_step {s s':State}{a:Label}(hd:Delivery s)(h:Dedupe s)
 (hdelivery:PromptDelivery s a)(hstart:PromptStart s a)(hstep:step s a=some s'):Dedupe s':=by
 have htimes:=h.times
 cases transition_of_step hstep with
 | tick=>
  exact h.frame rfl (Nat.le_add_right ..) (fun _ hin=>hin)
   (h.times.mono (Nat.le_add_right ..) fun _ he=>.inl he) rfl
 | takeId | commit | rollback | load | lose=>exact h.frame rfl le_rfl (fun _ hin=>hin) h.times rfl
 | seedRead=>exact h.seedRead hd
 | start _ _ hstartup=>
  unfold PromptStart at hstart
  rw[hstartup] at hstart
  exact h.start hd hstartup hstart
 | deliver row=>exact h.deliver (fun at_ hlog=>hdelivery (row,at_) hlog rfl) hd.busOk
 | pollBegin=>exact h.pollBegin
 | lookupRead _ hphase=>
  refine h.frame rfl le_rfl (fun row hin=>?_) trivial rfl
  rw[hphase]
  exact (mem_filter.mp hin).1
 | lookupReturns _ _ _ hphase=>exact h.lookupReturns hd hphase
 | lookupFails | scanBegin | scanFails=>
  exact h.frame rfl le_rfl (fun _ hin=>by cases hin) trivial rfl
 | pageRead scan=>
  refine h.frame rfl le_rfl (fun _ hin=>by cases hin) ⟨rfl,le_rfl,fun hshort=>?_⟩ rfl
  intro row at_ hlog hlast
  have hcommitted:=hd.rowsCommitted row (List.mem_map.mpr ⟨(row,at_),hlog,rfl⟩)
  have hcursor:scan.cursor<row:=(KeysetPage.cursor_le_last ..).trans_lt hlast
  have hin:=KeysetPage.mem_page_of_short hcommitted hcursor hshort
  exact absurd (KeysetPage.le_last_of_mem_page hin) (Nat.not_le_of_lt hlast)
 | pageReturns _ _ _ hphase htime=>exact h.pageReturns hphase htime
 | hydrateRead _ _ _ _ hphase=>
  rw[hphase] at htimes
  exact h.frame rfl le_rfl (fun _ hin=>by cases hin) htimes rfl
 | hydrateReturns _ _ _ _ hphase=>
  rw[hphase] at htimes
  obtain ⟨hissued,hread,hlast⟩:=htimes
  have hdone:s.now ≤ s.poll.pageReadAt+2*pollStatementTimeout:=by omega
  exact h.frame rfl le_rfl (fun _ hin=>absurd hin notMem_lookupIds_pageDone)
   (TimesOk.pageDone hdone hread hlast) rfl
 | scanCloses _ _ hphase htime=>exact h.scanCloses hd hphase htime

def Prompt (s:State)(a:Label):Prop:=PromptDelivery s a∧PromptStart s a

instance (s:State)(a:Label):Decidable (Prompt s a):=inferInstanceAs (Decidable (_∧_))

section
variable {now assigned:ℕ}{inFlight committed:List ℕ}{labels:List Label}{s:State}

lemma dedupe_run (hrun:run step (boot now assigned inFlight committed) labels=some s)
 (hprompt:Guarded Prompt step (boot now assigned inFlight committed) labels):Dedupe s:=by
 have hboth:=run_invariant_guarded (fun s=>Delivery s∧Dedupe s)
  (fun s a u h hprompt hstep=>
   ⟨delivery_step h.1 hstep,dedupe_step h.1 h.2 hprompt.1 hprompt.2 hstep⟩)
  ⟨delivery_boot now assigned inFlight committed,dedupe_boot now assigned inFlight committed⟩
  hprompt hrun
 exact hboth.2

/-- A retired id was passed over by a lookup long after the only time it was recorded. -/
def RetiredLate (s:State)(row:ℕ):Prop:=
 ∃r∈s.retired,r.row=row∧row ∉ r.lookup∧r.firstSeen+gapRetirement≤r.retiredAt∧
  ∀at_,(row,at_)∈s.bus.gapLog↔at_=r.firstSeen

lemma Delivery.retiredLate (h:Delivery s){row:ℕ}(hrow:row∈s.retiredRows):RetiredLate s row:=by
 obtain ⟨r,hr,rfl⟩:=List.mem_map.mp hrow
 obtain ⟨hmissed,hage,hlogged⟩:=h.retired r hr
 refine ⟨r,hr,rfl,hmissed,hage,fun at_=>⟨fun hlog=>?_,fun heq=>heq ▸ hlogged⟩⟩
 exact congrArg Prod.snd (inj_on_of_nodup_map h.gapLogNodup hlog hlogged rfl)

variable (now assigned inFlight committed labels s) in
theorem outbox_delivers_once
 (hrun:run step (boot now assigned inFlight committed) labels=some s):
 (∀row,s.seed<row→ row ≤ s.bus.frontier→
  row∈s.bus.rows∨row∈s.bus.pendingGaps.keys∨RetiredLate s row)∧
 (∀p∈s.successes,∀row∈p.1,s.seed<row→ row∈s.bus.rows∨row∈p.2)∧
 (∀more t,run step s more=some t→ s.bus.frontier≤t.bus.frontier)∧
 (Guarded Prompt step (boot now assigned inFlight committed) labels→ s.bus.rows.Nodup):=by
 have hd:=delivery_run hrun
 refine ⟨fun row hseed hfrontier=>?_,hd.successes,fun more t hmore=>?_,fun hprompt=>?_⟩
 · exact (hd.covered row hseed hfrontier).imp_right (Or.imp_right hd.retiredLate)
 · exact frontier_run hd hmore
 · exact (dedupe_run hrun hprompt).once.nodup
end

def lateCommit:List Label:=
 [.seedRead,.start,.takeId,.takeId,.commit 2,.pollBegin,.scanBegin,.pageRead,.pageReturns,
  .hydrateRead,.hydrateReturns,.scanCloses,.commit 1,.pollBegin,.lookupRead,.lookupReturns,
  .scanBegin,.pageRead,.pageReturns,.scanCloses]

theorem outbox_delivers_once_lateCommit:∃s,run step (boot 0 0 [] []) lateCommit=some s∧
 (s.bus.frontier,s.bus.rows,s.successes)=(2,[1,2],[([1,2],[]),([2],[])])∧
 (∀row,s.seed<row→ row ≤ s.bus.frontier→
  row∈s.bus.rows∨row∈s.bus.pendingGaps.keys∨RetiredLate s row)∧
 (∀p∈s.successes,∀row∈p.1,s.seed<row→ row∈s.bus.rows∨row∈p.2)∧
 s.bus.rows.Nodup:=by
 have hseen:(run step (boot 0 0 [] []) lateCommit).map
   (fun s=>(s.bus.frontier,s.bus.rows,s.successes))=some (2,[1,2],[([1,2],[]),([2],[])]):=rfl
 obtain ⟨s,hrun,hs⟩:=map_eq_some_iff.mp hseen
 obtain ⟨hcovered,hsuccess,-,honce⟩:=outbox_delivers_once 0 0 [] [] lateCommit s hrun
 exact ⟨s,hrun,hs,hcovered,hsuccess,honce (by decide)⟩

/-- The seed read is answered after five minutes; row 1 is notified meanwhile. -/
def slowSeed:List Label:=
 [.seedRead,.takeId,.commit 1,.load 1,.deliver 1,.tick dedupeGrace,.start,.pollBegin,
  .scanBegin,.pageRead,.pageReturns,.hydrateRead,.hydrateReturns,.scanCloses]

theorem slowSeed_dispatches_twice:∃s,run step (boot 0 0 [] []) slowSeed=some s∧
 Guarded PromptDelivery step (boot 0 0 [] []) slowSeed∧s.bus.rows=[1,1]:=
 ⟨_,rfl,by decide,rfl⟩

/-- An id that was given out to a transaction that is over and did not commit. -/
def Discarded (s:State)(row:ℕ):Prop:=row ≤ s.assigned∧row ∉ s.inFlight∧row ∉ s.committed

lemma discarded_step {s s':State}{a:Label}{row:ℕ}(h:Discarded s row)(hstep:step s a=some s'):
 Discarded s' row:=by
 have ⟨hassigned,hflight,hcommitted⟩:=h
 cases transition_of_step hstep with
 | takeId=>
  have hne:row≠s.assigned+1:=by omega
  exact ⟨Nat.le_succ_of_le hassigned,not_mem_cons_of_ne_of_not_mem hne hflight,hcommitted⟩
 | commit other hrow=>
  have hne:row≠other:=fun heq=>hflight (heq ▸ hrow)
  exact ⟨hassigned,mt mem_of_mem_erase hflight,not_mem_cons_of_ne_of_not_mem hne hcommitted⟩
 | rollback=>exact ⟨hassigned,mt mem_of_mem_erase hflight,hcommitted⟩
 | pageReturns=>
  unfold EventOutbox.pageReturns
  dsimp only
  split_ifs <;> exact h
 | _=>exact h

/-- The event of a transaction that rolled back reaches no subscriber, whatever polls and lookups follow. -/
theorem discarded_row_never_dispatched (now assigned:ℕ) (inFlight committed:List ℕ) (before after:List Label)
 (s s':State) (row:ℕ) (hbefore:run step (boot now assigned inFlight committed) before=some s)
 (hrow:Discarded s row) (hafter:run step s after=some s'):row ∉ s'.bus.rows:=by
 have hdiscarded:Discarded s' row:=
  run_invariant (Discarded · row) (fun _ _ _=>discarded_step) hrow hafter
 have hdelivery:Delivery s':=
  run_invariant Delivery (fun _ _ _=>delivery_step) (delivery_run hbefore) hafter
 exact fun hmem=>hdiscarded.2.2 (hdelivery.rowsCommitted row hmem)

def rolledBack:List Label:=[.seedRead,.start,.takeId,.takeId,.rollback 1,.commit 2]

theorem discarded_row_never_dispatched_rolledBack:∃s s',
 run step (boot 0 0 [] []) rolledBack=some s∧run step s [.load 2,.deliver 2]=some s'∧
 s'.bus.rows=[2]∧1 ∉ s'.bus.rows:=by
 refine ⟨_,_,rfl,rfl,rfl,discarded_row_never_dispatched 0 0 [] [] rolledBack [.load 2,.deliver 2] _ _ 1
  rfl ?_ rfl⟩
 exact ⟨by decide,by decide,by decide⟩
end GridFleet.EventOutbox
