import GridFleet.NodeConvergence
import Mathlib.Data.List.Pairwise
/-! A row looks its node up under three keys in turn. The keys of one row are no one else's, but an entry
can carry the target of one row and the port of another. -/
namespace GridFleet.ObservedMatching
open NodeConvergence Option

structure DistinctRows (rows:List DesiredRow):Prop where
 targets:(rows.map DesiredRow.connectionTarget).Nodup
 active:(rows.filterMap DesiredRow.activeConnectionTarget).Nodup
 ports:(rows.filterMap DesiredRow.port).Nodup

structure DistinctEntries (observed:List ObservedEntry):Prop where
 targets:(observed.map ObservedEntry.connectionTarget).Nodup
 ports:(observed.map ObservedEntry.port).Nodup

section
variable (observed:List ObservedEntry)(row:DesiredRow)

def Reported (target:String):Prop:=∃e∈observed,e.connectionTarget=target
def LiveReported:Prop:=∃target,row.activeConnectionTarget=some target∧Reported observed target

/-- The entry carries the target the row goes by: the live one if it is reported, else the registered one. -/
def OwnTarget (e:ObservedEntry):Prop:=
 row.activeConnectionTarget=some e.connectionTarget∨
  (¬LiveReported observed row∧row.connectionTarget=e.connectionTarget)

/-- The entry sits on the recorded port of a row none of whose targets is reported. -/
def OnlyPort (e:ObservedEntry):Prop:=
 ¬LiveReported observed row∧¬Reported observed row.connectionTarget∧row.port=some e.port

/-- No reported node carries the target of one row and the last key of another. -/
structure Exclusive (rows:List DesiredRow):Prop where
 target:∀row∈rows,∀other∈rows,row≠other→∀e∈observed,
  OwnTarget observed row e→¬OwnTarget observed other e
 port:∀row∈rows,∀other∈rows,row≠other→∀e∈observed,
  OwnTarget observed row e→¬OnlyPort observed other e
end

section
variable {observed:List ObservedEntry}{row:DesiredRow}{e:ObservedEntry}

section
variable (h:DistinctEntries observed)
include h

lemma observedByTarget_get_iff {target:String}:
 (observedByTarget observed).get target=some e↔e∈observed∧e.connectionTarget=target:=
 Dict.get_ofList_map_iff h.targets
lemma observedByPort_get_iff {port:ℕ}:
 (observedByPort observed).get port=some e↔e∈observed∧e.port=port:=
 Dict.get_ofList_map_iff h.ports
lemma observedByTarget_get_eq_none_iff {target:String}:
 (observedByTarget observed).get target=none↔¬Reported observed target:=by
 rw[eq_none_iff_forall_ne_some,Reported]
 push Not
 exact forall_congr' fun e=>by rw[Ne,observedByTarget_get_iff h,not_and]
lemma bind_active_eq_none_iff:
 row.activeConnectionTarget.bind (observedByTarget observed).get=none↔¬LiveReported observed row:=by
 rw[LiveReported]
 push Not
 cases row.activeConnectionTarget with
 | none=>simp
 | some=>simp[observedByTarget_get_eq_none_iff h]
lemma observedFor_eq_some_iff:
 observedFor observed row=some e↔e∈observed∧(OwnTarget observed row e∨OnlyPort observed row e):=by
 unfold observedFor matchObservedEntry
 rw[or_eq_some_iff,or_eq_some_iff,or_eq_none_iff,bind_active_eq_none_iff h,
  observedByTarget_get_eq_none_iff h,bind_eq_some_iff,bind_eq_some_iff]
 simp only[observedByTarget_get_iff h,observedByPort_get_iff h]
 constructor
 · rintro ((⟨target,hactive,hmem,rfl⟩|⟨hlive,hmem,htarget⟩)|⟨⟨hlive,hreported⟩,port,hport,hmem,rfl⟩)
   · exact ⟨hmem,.inl (.inl hactive)⟩
   · exact ⟨hmem,.inl (.inr ⟨hlive,htarget.symm⟩)⟩
   · exact ⟨hmem,.inr ⟨hlive,hreported,hport⟩⟩
 · rintro ⟨hmem,(hactive|⟨hlive,htarget⟩)|⟨hlive,hreported,hport⟩⟩
   · exact .inl (.inl ⟨_,hactive,hmem,rfl⟩)
   · exact .inl (.inr ⟨hlive,hmem,htarget.symm⟩)
   · exact .inr ⟨⟨hlive,hreported⟩,_,hport,hmem,rfl⟩
end
end

section
variable {rows:List DesiredRow}{observed:List ObservedEntry}

lemma eq_of_onlyPort (h:DistinctRows rows){row other:DesiredRow}(hrow:row∈rows)(hother:other∈rows)
 {e:ObservedEntry}(hport:OnlyPort observed row e)(hport':OnlyPort observed other e):row=other:=by
 have hpairs:=List.pairwise_filterMap.mp h.ports
 by_contra hne
 have hsymm:Std.Symm fun a b:DesiredRow=>∀p,a.port=some p→∀q,b.port=some q→p≠q:=
  ⟨fun a b hab p hp q hq=>(hab q hq p hp).symm⟩
 exact hpairs.forall hrow hother hne _ hport.2.2 _ hport'.2.2 rfl
lemma exclusive_of_settles_one (hobserved:DistinctEntries observed)
 (hone:∀row∈rows,∀other∈rows,row≠other→∀e,observedFor observed row=some e→
  observedFor observed other≠some e):Exclusive observed rows:=by
 constructor
 · intro row hrow other hother hne e he hown hown'
   exact hone row hrow other hother hne e ((observedFor_eq_some_iff hobserved).mpr ⟨he,.inl hown⟩)
    ((observedFor_eq_some_iff hobserved).mpr ⟨he,.inl hown'⟩)
 · intro row hrow other hother hne e he hown hport
   exact hone row hrow other hother hne e ((observedFor_eq_some_iff hobserved).mpr ⟨he,.inl hown⟩)
    ((observedFor_eq_some_iff hobserved).mpr ⟨he,.inr hport⟩)
lemma Exclusive.settles_one (hexclusive:Exclusive observed rows)(hrows:DistinctRows rows)
 (hobserved:DistinctEntries observed){row other:DesiredRow}(hrow:row∈rows)(hother:other∈rows)
 (hne:row≠other){e:ObservedEntry}(hmatch:observedFor observed row=some e):
 observedFor observed other≠some e:=by
 intro hmatch'
 obtain ⟨he,hkey⟩:=(observedFor_eq_some_iff hobserved).mp hmatch
 obtain ⟨-,hkey'⟩:=(observedFor_eq_some_iff hobserved).mp hmatch'
 rcases hkey with hown|hport
 · rcases hkey' with hown'|hport'
   · exact hexclusive.target row hrow other hother hne e he hown hown'
   · exact hexclusive.port row hrow other hother hne e he hown hport'
 · rcases hkey' with hown'|hport'
   · exact hexclusive.port other hother row hrow hne.symm e he hown' hport
   · exact hne (eq_of_onlyPort hrows hrow hother hport hport')
lemma match_of_recorded {backing:DeviceId→Bool}{row:DesiredRow}{port pid:Option ℕ}
 {details:NodeStartDetails}
 (hcommand:(row,.writeObserved (.running port pid details))∈hostCommands rows backing observed):
 row∈rows∧∃e,observedFor observed row=some e∧port=some e.port∧
  details.activeConnectionTarget=some e.connectionTarget:=by
 obtain ⟨hrow,hcommand⟩:=mem_hostCommands.mp hcommand
 cases commanded_of_rowCommand hcommand with
 | mark e _ _ hmatch=>exact ⟨hrow,e,hmatch,rfl,rfl⟩

/-- The keys being the rows' own, two rows share an entry exactly where it carries a key of both. -/
theorem settles_one_row_iff (hrows:DistinctRows rows) (hobserved:DistinctEntries observed):
 ((∀row∈rows,∀other∈rows,row≠other→∀e,observedFor observed row=some e→
   observedFor observed other≠some e)↔Exclusive observed rows)∧
  (Exclusive observed rows→∀backing,∀row∈rows,∀other,row≠other→∀e port pid details,
   observedFor observed row=some e→
   (other,NodeCommand.writeObserved (.running port pid details))∈hostCommands rows backing observed→
   port≠some e.port∧details.activeConnectionTarget≠some e.connectionTarget):=by
 refine ⟨⟨exclusive_of_settles_one hobserved,?_⟩,?_⟩
 · intro hexclusive row hrow other hother hne e hmatch
   exact hexclusive.settles_one hrows hobserved hrow hother hne hmatch
 · intro hexclusive backing row hrow other hne e port pid details hmatch hcommand
   obtain ⟨hother,e',hmatch',rfl,htarget⟩:=match_of_recorded hcommand
   have hdiffer:e'≠e:=by
    rintro rfl
    exact hexclusive.settles_one hrows hobserved hrow hother hne hmatch hmatch'
   have he:=((observedFor_eq_some_iff hobserved).mp hmatch).1
   have he':=((observedFor_eq_some_iff hobserved).mp hmatch').1
   rw[htarget]
   constructor
   · intro hport
     exact hdiffer (List.inj_on_of_nodup_map hobserved.ports he' he (some.inj hport))
   · intro hsame
     exact hdiffer (List.inj_on_of_nodup_map hobserved.targets he' he (some.inj hsame))
end

def repinnedRows:List DesiredRow:=
 [⟨0, "serial-a",.running,some 4723,some 4723,none,none,false,none,none,false⟩,
  ⟨1, "serial-b",.running,some 4724,some 4724,none,none,false,none,none,false⟩]
def oldProcess:ObservedEntry:=⟨4723,some 77, "serial-b",none,none⟩

/-- The process of device 1 settles both rows, and the pass records it on the node row of device 0. -/
theorem repinned_process_settles_two_rows:
 (DistinctRows repinnedRows∧DistinctEntries [oldProcess])∧
  (∀row∈repinnedRows,observedFor [oldProcess] row=some oldProcess)∧
  (hostCommands repinnedRows (fun _=>false) [oldProcess]).map (fun command=>(command.1.deviceId,command.2)) =
   [(0,.writeObserved (.running (some 4723) (some 77) ⟨some "serial-b",none,none⟩))]:=by
 refine ⟨⟨⟨by decide,by decide,by decide⟩,⟨by decide,by decide⟩⟩,by decide,by decide⟩

/-- Once the old process is gone from 4723, each row has its own node. -/
theorem repinned_processes_settle_own_rows:
 ((∀row∈repinnedRows,∀other∈repinnedRows,row≠other→∀e,
   observedFor [⟨4724,some 78, "serial-b",none,none⟩] row=some e→
   observedFor [⟨4724,some 78, "serial-b",none,none⟩] other≠some e)↔
  Exclusive [⟨4724,some 78, "serial-b",none,none⟩] repinnedRows)∧
 observedFor [⟨4724,some 78, "serial-b",none,none⟩] (repinnedRows.getLast (by decide)) =
  some ⟨4724,some 78, "serial-b",none,none⟩:=
 ⟨(settles_one_row_iff ⟨by decide,by decide,by decide⟩ ⟨by decide,by decide⟩).1,by decide⟩
end GridFleet.ObservedMatching
