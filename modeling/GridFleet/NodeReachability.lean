import GridFleet.Dict
import Mathlib.Data.List.Chain
namespace GridFleet.NodeReachability
open List

abbrev DeviceId:=ℕ

/-- A device of the fleet as one sweep finds it: `liveIds` is missing where the node did not
enumerate its sessions. -/
structure Candidate where
 deviceId:DeviceId
 desiredRunning:Bool
 target:Option String
 liveIds:Option (List String)
 transportError:Bool

structure Reachability where
 observed:List DeviceId
 unreachable:List DeviceId

def sync (devices:List Candidate):Reachability:=
 let candidates:=devices.filter fun c=>c.desiredRunning&&c.target.isSome
 ⟨candidates.map (·.deviceId),
  (candidates.filter fun c=>c.liveIds.isNone&&c.transportError).map (·.deviceId)⟩

/-- One fold: when, of what, with which window, and the devices whose row is gone or already says
failed when the verdict is to be recorded. -/
structure Sweep where
 now:ℕ
 windowSec:ℕ
 devices:List Candidate
 alreadyFailed:List DeviceId

abbrev Sweep.observed (s:Sweep):List DeviceId:=(sync s.devices).observed
abbrev Sweep.unreachable (s:Sweep):List DeviceId:=(sync s.devices).unreachable

/-- The stamps are read before the loop, so one device's write is not seen by the next. -/
def foldDevice (s:Sweep)(stamps:Dict DeviceId ℕ)(acc:Dict DeviceId ℕ×List DeviceId)(d:DeviceId):
 Dict DeviceId ℕ×List DeviceId:=
 if d∈s.unreachable then
  match stamps.get d with
  | none=>(acc.1.set d s.now,acc.2)
  | some since=>if since+s.windowSec ≤ s.now then (acc.1,acc.2++[d]) else acc
 else (acc.1.pop d,acc.2)

def foldNodeReachability (stamps:Dict DeviceId ℕ)(s:Sweep):Dict DeviceId ℕ×List DeviceId:=
 let (stamps,elapsed):=s.observed.foldl (foldDevice s stamps) (stamps,[])
 (stamps,elapsed.filter (· ∉ s.alreadyFailed))
def stampsAfter (sweeps:List Sweep):Dict DeviceId ℕ:=
 sweeps.foldl (fun stamps s=>(foldNodeReachability stamps s).1) .empty

variable {d:DeviceId}{s:Sweep}{sweeps:List Sweep}

lemma get_foldDevice (stamps:Dict DeviceId ℕ)(ds:List DeviceId)(acc:Dict DeviceId ℕ×List DeviceId)
 (hacc:acc.1.get d=stamps.get d∨acc.1.get d=(foldDevice s stamps (stamps,[]) d).1.get d):
 (ds.foldl (foldDevice s stamps) acc).1.get d=if d∈ds then (foldDevice s stamps (stamps,[]) d).1.get d else acc.1.get d:=by
 induction ds generalizing acc with
 | nil=>simp
 | cons e ds ih=>
  rw[foldl_cons,ih]
  all_goals grind[foldDevice,Dict.get_set,Dict.get_pop]
lemma mem_foldDevice (stamps:Dict DeviceId ℕ)(ds:List DeviceId)(acc:Dict DeviceId ℕ×List DeviceId)
 (h:d∈(ds.foldl (foldDevice s stamps) acc).2):d∈acc.2∨(d∈ds∧d∈s.unreachable∧
  ∃since,stamps.get d=some since∧since+s.windowSec ≤ s.now):=by
 induction ds generalizing acc with
 | nil=>exact .inl h
 | cons e ds ih=>
  have:=ih _ h
  grind[foldDevice]
lemma mem_observed (h:d∈s.unreachable):d∈s.observed:=
 map_subset _ (filter_subset_self _) h

/-- From a sweep at the given time on, every sweep observes the device and finds it unreachable. -/
def Window (d:DeviceId)(since:ℕ)(sweeps:List Sweep):Prop:=
 ∃older opening later,sweeps=older++opening::later∧opening.now=since∧
  ∀x∈opening::later,d∈x.observed∧d∈x.unreachable

lemma Window.extend {since:ℕ}(h:Window d since sweeps)(hun:d∈s.unreachable):
 Window d since (sweeps++[s]):=by
 obtain ⟨older,opening,later,rfl,hnow,hwindow⟩:=h
 refine ⟨older,opening,later++[s],by simp,hnow,?_⟩
 rw[←cons_append]
 exact forall_mem_append.mpr ⟨hwindow,forall_mem_singleton.mpr ⟨mem_observed hun,hun⟩⟩
lemma Window.last {since:ℕ}(h:Window d since sweeps):∃x∈sweeps.getLast?,d∈x.unreachable:=by
 obtain ⟨older,opening,later,rfl,-,hwindow⟩:=h
 have hmem:=getLast_mem (cons_ne_nil opening later)
 exact ⟨_,by simp[getLast?_eq_some_getLast],(hwindow _ hmem).2⟩

/-- The sweep after one that found the device unreachable observes it again. -/
def ObservedAgain (d:DeviceId)(sweeps:List Sweep):Prop:=
 sweeps.IsChain fun s s'=>d∈s.unreachable→d∈s'.observed

instance:Decidable (ObservedAgain d sweeps):=inferInstanceAs (Decidable (List.IsChain _ _))

lemma stampsAfter_concat:(stampsAfter (sweeps++[s])).get d=if d∈s.observed then
 (foldDevice s (stampsAfter sweeps) (stampsAfter sweeps,[]) d).1.get d else (stampsAfter sweeps).get d:=by
 rw[stampsAfter,foldl_append]
 exact get_foldDevice _ _ _ (.inl rfl)
lemma stamp_window {since:ℕ}(hagain:ObservedAgain d sweeps)
 (hstamp:(stampsAfter sweeps).get d=some since):Window d since sweeps:=by
 induction sweeps using List.reverseRecOn with
 | nil=>simp[stampsAfter] at hstamp
 | append_singleton sweeps s ih=>
  obtain ⟨hagain,-,hnext⟩:=isChain_append.mp hagain
  rw[stampsAfter_concat] at hstamp
  split at hstamp
  · unfold foldDevice at hstamp
    split at hstamp
    · rename_i hun
      split at hstamp
      · cases (Dict.get_set_self ..).symm.trans hstamp
        exact ⟨sweeps,s,[],rfl,rfl,forall_mem_singleton.mpr ⟨mem_observed hun,hun⟩⟩
      · have hkept:(stampsAfter sweeps).get d=some since:=by split at hstamp <;> exact hstamp
        exact (ih hagain hkept).extend hun
    · simp at hstamp
  · rename_i hnot
    obtain ⟨x,hx,hun⟩:=(ih hagain hstamp).last
    exact absurd (hnext x hx s rfl hun) hnot

/-- A verdict recorded by the last sweep rests on sweeps that all found the device unreachable, from
one that is a window old on. -/
theorem unreachable_verdict_window (hagain:ObservedAgain d (sweeps++[s]))
 (hrecorded:d∈(foldNodeReachability (stampsAfter sweeps) s).2):
 ∃since,since+s.windowSec ≤ s.now∧Window d since (sweeps++[s]):=by
 have helapsed:=(mem_filter.mp hrecorded).1
 rcases mem_foldDevice _ _ _ helapsed with hnil|⟨-,hun,since,hstamp,hold⟩
 · cases hnil
 · exact ⟨since,hold,(stamp_window (isChain_append.mp hagain).1 hstamp).extend hun⟩

def silent (now:ℕ)(desiredRunning:Bool):Sweep:=⟨now,60,[⟨1,desiredRunning,some "",none,true⟩],[]⟩

theorem unreachable_verdict_window_silent:
 ∃since,since+60≤60∧Window 1 since [silent 0 true,silent 30 true,silent 60 true]:=
 have hrecorded:1∈(foldNodeReachability (stampsAfter [silent 0 true,silent 30 true]) (silent 60 true)).2:=by
  decide
 unreachable_verdict_window (by decide) hrecorded

/-- The node is stopped between two sweeps, and the first miss after its start is recorded. -/
theorem verdict_after_stop:
 1∈(foldNodeReachability (stampsAfter [silent 0 true,silent 30 false]) (silent 60 true)).2∧
 ∀since,since+60≤60→¬Window 1 since [silent 0 true,silent 30 false,silent 60 true]:=by
 refine ⟨by decide,?_⟩
 rintro since hold ⟨older,opening,later,heq,rfl,hwindow⟩
 cases older with
 | nil=>
  cases heq
  exact absurd (hwindow (silent 30 false) (by simp)).1 (by decide)
 | cons _ older=>
  have hmem:opening∈[silent 30 false,silent 60 true]:=by simp[(List.cons.inj heq).2]
  rcases mem_pair.mp hmem with rfl|rfl <;> simp[silent] at hold
end GridFleet.NodeReachability
