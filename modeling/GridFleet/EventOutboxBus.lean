import GridFleet.EventOutbox
namespace GridFleet.EventOutbox
open Dict List

structure BusOk (b:Bus):Prop where
 dispatched:∀row at_,b.dispatchedRowIds.get row=some at_→(row,at_)∈b.log
 recorded:∀row at_,b.pendingGaps.get row=some at_→(row,at_)∈b.gapLog

lemma BusOk.rows_of_keys {b:Bus}(h:BusOk b){row:ℕ}(hk:row∈b.dispatchedRowIds.keys):row∈b.rows:=by
 obtain ⟨at_,hat⟩:=Dict.mem_keys.mp hk
 exact mem_map.mpr ⟨(row,at_),h.dispatched row at_ hat,rfl⟩
lemma mem_keys_pop {d:Dict ℕ ℕ}{row x:ℕ}:x∈(d.pop row).keys↔x≠row∧x∈d.keys:=by
 simp only[Dict.mem_keys,get_pop]
 by_cases hx:x=row <;> simp[hx]
lemma mem_keys_set {d:Dict ℕ ℕ}{row at_ x:ℕ}:x∈(d.set row at_).keys↔x=row∨x∈d.keys:=by
 simp only[Dict.mem_keys,get_set]
 by_cases hx:x=row <;> simp[hx]

section
/-- Dispatching `rows` reaches each of them and touches neither frontier nor recordings. -/
structure Dispatches (rows:List ℕ)(b c:Bus):Prop where
 ok:BusOk c
 frontier:c.frontier=b.frontier
 gapLog:c.gapLog=b.gapLog
 rows:∀x,x∈c.rows↔x∈rows∨x∈b.rows
 gaps:∀x∈b.pendingGaps.keys,x∈c.pendingGaps.keys∨x∈c.rows
 onlyGaps:∀x∈c.pendingGaps.keys,x∈b.pendingGaps.keys

variable {b:Bus}(now:ℕ)

lemma dispatchRow_spec (h:BusOk b)(row:ℕ):Dispatches [row] b (b.dispatchRow now row):=by
 unfold Bus.dispatchRow
 split
 · rename_i at_ hat
   have hrow:row∈b.rows:=h.rows_of_keys (Dict.mem_keys.mpr ⟨at_,hat⟩)
   refine ⟨h,rfl,rfl,fun x=>?_,fun x hx=>.inl hx,fun x hx=>hx⟩
   constructor
   · exact .inr
   · rintro (hx|hx)
     · rw[mem_singleton.mp hx]
       exact hrow
     · exact hx
 · refine ⟨⟨forall_get_set mem_cons_self fun x at_ hx=>
     mem_cons_of_mem _ (h.dispatched x at_ hx),fun x at_ hx=>?_⟩,rfl,rfl,
    fun x=>by simp[Bus.rows],fun x hx=>?_,fun x hx=>(mem_keys_pop.mp hx).2⟩
   · exact h.recorded x at_ (get_pop_eq_some hx).2
   · by_cases hxr:x=row
     · exact .inr (by simp[Bus.rows,hxr])
     · exact .inl (mem_keys_pop.mpr ⟨hxr,hx⟩)
lemma dispatchNewRows_spec (h:BusOk b)(rows:List ℕ):
 Dispatches rows b (b.dispatchNewRows now rows):=by
 unfold Bus.dispatchNewRows
 induction rows generalizing b with
 | nil=>exact ⟨h,rfl,rfl,by simp,fun x hx=>.inl hx,fun x hx=>hx⟩
 | cons row rows ih=>
  have first:=dispatchRow_spec now h row
  have rest:=ih first.ok
  refine ⟨rest.ok,rest.frontier.trans first.frontier,rest.gapLog.trans first.gapLog,?_,?_,
   fun x hx=>first.onlyGaps x (rest.onlyGaps x hx)⟩
  · intro x
    rw[foldl_cons,rest.rows,first.rows,mem_singleton,mem_cons]
    tauto
  · intro x hx
    rcases first.gaps x hx with hx|hx
    · exact rest.gaps x hx
    · exact .inr ((rest.rows x).mpr (.inr hx))
end

section
variable (b:Bus)(now:ℕ)(observed:List ℕ)

/-- Recording the gaps among `ids` only adds to the gap map. -/
structure Records (observed ids:List ℕ)(b c:Bus):Prop where
 ok:BusOk b→BusOk c
 frontier:c.frontier=b.frontier
 dispatched:c.dispatchedRowIds=b.dispatchedRowIds
 log:c.log=b.log
 grows:∀x∈b.pendingGaps.keys,x∈c.pendingGaps.keys
 covers:∀x∈ids,x∈observed∨x∈b.dispatchedRowIds.keys∨x∈c.pendingGaps.keys
 only:∀x∈c.pendingGaps.keys,x∈b.pendingGaps.keys∨x∈ids∧x ∉ b.dispatchedRowIds.keys
 gapLog:∃new,new.Sublist ids∧(c.gapLog.map Prod.fst).Perm (new++b.gapLog.map Prod.fst)
 kept:∀g∈b.gapLog,g∈c.gapLog

lemma recordGap_spec (row:ℕ):Records observed [row] b (b.recordGap now observed row):=by
 unfold Bus.recordGap
 split
 · rename_i hskip
   exact ⟨id,rfl,rfl,rfl,fun _ hx=>hx,by simpa using hskip,fun x hx=>.inl hx,
    ⟨[],nil_sublist _,.refl _⟩,fun _ hg=>hg⟩
 · rename_i hnew
   refine ⟨fun h=>⟨h.dispatched,forall_get_set mem_cons_self fun x at_ hx=>
     mem_cons_of_mem _ (h.recorded x at_ hx)⟩,rfl,rfl,rfl,
    fun x hx=>mem_keys_set.mpr (.inr hx),fun x hx=>?_,fun x hx=>?_,
    ⟨[row],List.Sublist.refl _,.refl _⟩,fun g hg=>mem_cons_of_mem _ hg⟩
   · exact .inr (.inr (mem_keys_set.mpr (.inl (mem_singleton.mp hx))))
   · rcases mem_keys_set.mp hx with rfl|hx
     · exact .inr ⟨mem_singleton_self _,fun hk=>hnew (.inr (.inl hk))⟩
     · exact .inl hx

lemma recordGaps_spec (ids:List ℕ):
 Records observed ids b (ids.foldl (Bus.recordGap now observed) b):=by
 induction ids generalizing b with
 | nil=>exact ⟨id,rfl,rfl,rfl,fun _ hx=>hx,by simp,fun x hx=>.inl hx,
   ⟨[],.slnil,.refl _⟩,fun _ hg=>hg⟩
 | cons row _ ih=>
  have first:=recordGap_spec b now observed row
  have rest:=ih (b.recordGap now observed row)
  refine ⟨fun h=>rest.ok (first.ok h),rest.frontier.trans first.frontier,
   rest.dispatched.trans first.dispatched,rest.log.trans first.log,
   fun x hx=>rest.grows x (first.grows x hx),?_,?_,?_,
   fun g hg=>rest.kept g (first.kept g hg)⟩
  · intro x hx
    rcases mem_cons.mp hx with rfl|hx
    · rcases first.covers x (mem_singleton_self _) with hx|hx|hx
      · exact .inl hx
      · exact .inr (.inl hx)
      · exact .inr (.inr (rest.grows x hx))
    · have:=rest.covers x hx
      rwa [first.dispatched] at this
  · intro x hx
    rcases rest.only x hx with hx|⟨hx,hn⟩
    · rcases first.only x hx with hx|⟨hx,hn⟩
      · exact .inl hx
      · exact .inr ⟨mem_cons.mpr (.inl (mem_singleton.mp hx)),hn⟩
    · rw[first.dispatched] at hn
      exact .inr ⟨mem_cons_of_mem _ hx,hn⟩
  · obtain ⟨new,hnew,hperm⟩:=first.gapLog
    obtain ⟨more,hmore,hperm'⟩:=rest.gapLog
    refine ⟨new++more,hnew.append hmore,hperm'.trans ?_⟩
    calc (more++(b.recordGap now observed row).gapLog.map Prod.fst).Perm
          (more++(new++b.gapLog.map Prod.fst)):=hperm.append_left more
      _=(more++new)++b.gapLog.map Prod.fst:=(append_assoc ..).symm
      List.Perm _ ((new++more)++b.gapLog.map Prod.fst):=
       List.perm_append_comm.append_right _

lemma mem_newRange {frontier cursor x:ℕ}:
 x∈List.range' (frontier+1) (cursor-frontier)↔frontier<x∧x≤cursor:=by
 rw[mem_range'_1]
 omega
end

section
variable (now:ℕ)(lookup:List ℕ)

/-- Retiring only moves gaps the lookup did not see, once they are old enough. -/
structure Retires (now:ℕ)(lookup:List ℕ)(acc acc':Bus×List Retirement):Prop where
 ok:BusOk acc.1→BusOk acc'.1
 frontier:acc'.1.frontier=acc.1.frontier
 dispatched:acc'.1.dispatchedRowIds=acc.1.dispatchedRowIds
 log:acc'.1.log=acc.1.log
 gapLog:acc'.1.gapLog=acc.1.gapLog
 keeps:∀r∈acc.2,r∈acc'.2
 moves:∀x∈acc.1.pendingGaps.keys,
  x∈acc'.1.pendingGaps.keys∨x∈acc'.2.map Retirement.row
 shrinks:∀x∈acc'.1.pendingGaps.keys,x∈acc.1.pendingGaps.keys
 sound:BusOk acc.1→∀r∈acc'.2,r∈acc.2∨r.lookup=lookup∧r.row ∉ lookup∧
  r.firstSeen+gapRetirement≤r.retiredAt∧(r.row,r.firstSeen)∈acc.1.gapLog

lemma Retires.refl (acc:Bus×List Retirement):Retires now lookup acc acc:=
 ⟨id,rfl,rfl,rfl,rfl,fun _ h=>h,fun _ h=>.inl h,fun _ h=>h,fun _ _ h=>.inl h⟩

variable {now lookup} in
lemma Retires.trans {a c d:Bus×List Retirement}(h:Retires now lookup a c)
 (k:Retires now lookup c d):Retires now lookup a d:=by
 refine ⟨fun hok=>k.ok (h.ok hok),k.frontier.trans h.frontier,k.dispatched.trans h.dispatched,
  k.log.trans h.log,k.gapLog.trans h.gapLog,fun r hr=>k.keeps r (h.keeps r hr),?_,
  fun x hx=>h.shrinks x (k.shrinks x hx),?_⟩
 · intro x hx
   rcases h.moves x hx with hx|hx
   · exact k.moves x hx
   · obtain ⟨r,hr,rfl⟩:=mem_map.mp hx
     exact .inr (mem_map.mpr ⟨r,k.keeps r hr,rfl⟩)
 · intro hok r hr
   rcases k.sound (h.ok hok) r hr with hr|hr
   · exact h.sound hok r hr
   · rw[h.gapLog] at hr
     exact .inr hr

lemma retireGap_spec (acc:Bus×List Retirement)(gap:ℕ):
 Retires now lookup acc (retireGap now lookup acc gap):=by
 unfold retireGap
 split
 · exact .refl now lookup acc
 · rename_i hgap
   split
   · exact .refl now lookup acc
   · rename_i firstSeen hfirst
     split
     · exact .refl now lookup acc
     · rename_i hage
       refine ⟨fun hok=>⟨hok.dispatched,fun x at_ hx=>?_⟩,rfl,rfl,rfl,rfl,
        fun r hr=>mem_cons_of_mem _ hr,fun x hx=>?_,
        fun x hx=>(mem_keys_pop.mp hx).2,fun hok r hr=>?_⟩
       · exact hok.recorded x at_ (get_pop_eq_some hx).2
       · by_cases hxg:x=gap
         · exact .inr (by simp[hxg])
         · exact .inl (mem_keys_pop.mpr ⟨hxg,hx⟩)
       · rcases mem_cons.mp hr with rfl|hr
         · exact .inr ⟨rfl,hgap,Nat.le_of_not_lt hage,hok.recorded gap firstSeen hfirst⟩
         · exact .inl hr
lemma retireGaps_spec (gapIds:List ℕ)(acc:Bus×List Retirement):
 Retires now lookup acc (retireGaps now gapIds lookup acc):=by
 unfold retireGaps
 induction gapIds generalizing acc with
 | nil=>exact .refl now lookup acc
 | cons gap _ ih=>exact (retireGap_spec now lookup acc gap).trans (ih _)
end

lemma pruneDispatchedRowIds_ok {b:Bus}(now:ℕ)(h:BusOk b):BusOk (b.pruneDispatchedRowIds now):=by
 refine ⟨fun row at_ hget=>?_,h.recorded⟩
 change (b.dispatchedRowIds.filter _).get row=some at_ at hget
 rw[get_filter,Option.filter_eq_some_iff] at hget
 exact h.dispatched row at_ hget.1

section
variable {b:Bus}(now:ℕ)(scan:Scan)

/-- What a closed scan leaves: its rows dispatched, every other id it passed over a gap. -/
structure Promotes (scan:Scan)(b c:Bus):Prop where
 ok:BusOk c
 frontier:c.frontier=scan.cursor
 rows:∀x,x∈c.rows↔x∈scan.pending∨x∈b.rows
 gaps:∀x∈b.pendingGaps.keys,x∈c.pendingGaps.keys∨x∈c.rows
 covers:∀x,b.frontier<x→x ≤ scan.cursor→
  x∈scan.observed∨x∈c.rows∨x∈c.pendingGaps.keys
 gapLog:∃new,new.Nodup∧(∀x∈new,b.frontier<x∧x ≤ scan.cursor)∧
  (c.gapLog.map Prod.fst).Perm (new++b.gapLog.map Prod.fst)
 kept:∀g∈b.gapLog,g∈c.gapLog

lemma promote_spec (h:BusOk b):Promotes scan b (b.promote now scan):=by
 have hd:=dispatchNewRows_spec now h scan.pending
 have hr:=recordGaps_spec (b.dispatchNewRows now scan.pending) now scan.observed
  (List.range' ((b.dispatchNewRows now scan.pending).frontier+1)
   (scan.cursor-(b.dispatchNewRows now scan.pending).frontier))
 have hok:=pruneDispatchedRowIds_ok now (hr.ok hd.ok)
 have hrows:∀x,x∈(b.promote now scan).rows↔x∈(b.dispatchNewRows now scan.pending).rows:=by
  intro x
  rw[Bus.rows,Bus.rows,←hr.log]
  rfl
 refine ⟨⟨hok.dispatched,hok.recorded⟩,rfl,fun x=>(hrows x).trans (hd.rows x),?_,?_,?_,?_⟩
 · intro x hx
   rcases hd.gaps x hx with hx|hx
   · exact .inl (hr.grows x hx)
   · exact .inr ((hrows x).mpr hx)
 · intro x hlow hhigh
   have hx:=hr.covers x (mem_newRange.mpr ⟨hd.frontier ▸ hlow,hhigh⟩)
   rcases hx with hx|hx|hx
   · exact .inl hx
   · exact .inr (.inl ((hrows x).mpr (hd.ok.rows_of_keys hx)))
   · exact .inr (.inr hx)
 · obtain ⟨new,hsub,hperm⟩:=hr.gapLog
   refine ⟨new,hsub.nodup (nodup_range' ..),fun x hx=>?_,?_⟩
   · have:=mem_newRange.mp (hsub.subset hx)
     rwa [hd.frontier] at this
   · rw[hd.gapLog] at hperm
     exact hperm
 · intro g hg
   exact hr.kept g (hd.gapLog ▸ hg)
end
end GridFleet.EventOutbox
