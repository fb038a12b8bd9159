import Mathlib.Data.List.Basic
/-! The agent's status push loop. A push that is fenced out asks for a re-registration. -/
namespace GridFleet.StatusPushLoop

inductive Outcome where
 | accepted | bootFenceRejected | failed
 deriving DecidableEq

structure Loop where
 hooked:Bool
 reregisterMinInterval:ℕ
 fenceEpisodeActive:Bool
 lastFenceReregistration:Option ℕ

def requestReregistration (loop:Loop)(now:ℕ):Bool×Loop:=
 if loop.hooked=false∨loop.fenceEpisodeActive then (false,loop)
 else if ∃last∈loop.lastFenceReregistration,now<last+loop.reregisterMinInterval then (false,loop)
 -- both are stored before the hook runs, so a hook that raises has fired
 else (true,{loop with fenceEpisodeActive:=true,lastFenceReregistration:=some now})
def iterate (loop:Loop)(now:ℕ):Outcome→Bool×Loop
 | .accepted=>(false,{loop with fenceEpisodeActive:=false})
 | .bootFenceRejected=>requestReregistration loop now
 | .failed=>(false,loop)

/-- The instants at which the hook fires. -/
def runForever (loop:Loop):List (ℕ×Outcome)→List ℕ
 | []=>[]
 | (now,outcome)::pushes=>
  let next:=iterate loop now outcome
  if next.1 then now::runForever next.2 pushes else runForever next.2 pushes

lemma requestReregistration_cases (loop:Loop)(now:ℕ):requestReregistration loop now=(false,loop)∨
 requestReregistration loop now=
   (true,{loop with fenceEpisodeActive:=true,lastFenceReregistration:=some now})∧
  loop.fenceEpisodeActive=false∧
  ∀last∈loop.lastFenceReregistration,last+loop.reregisterMinInterval≤now:=by
 unfold requestReregistration
 split
 · exact .inl rfl
 · split
   · exact .inl rfl
   · grind

/-- Two re-registrations are a floor apart, and there is at most one for each accepted push and one more,
which an episode under way has used up. -/
theorem reregistrations_paced (loop:Loop) (pushes:List (ℕ×Outcome)):
 (runForever loop pushes).Pairwise (·+loop.reregisterMinInterval ≤ ·)∧
 (∀last∈loop.lastFenceReregistration,∀now∈runForever loop pushes,last+loop.reregisterMinInterval≤now)∧
 (runForever loop pushes).length+loop.fenceEpisodeActive.toNat ≤
  pushes.countP (fun push=>push.2=.accepted)+1:=by
 induction pushes generalizing loop with
 | nil=>
  have:=loop.fenceEpisodeActive.toNat_le
  simp[runForever,this]
 | cons push pushes ih=>
  obtain ⟨now,outcome⟩:=push
  cases outcome with
  | accepted=>
   obtain ⟨hapart,hlast,hcount⟩:=ih {loop with fenceEpisodeActive:=false}
   have:=loop.fenceEpisodeActive.toNat_le
   refine ⟨hapart,hlast,?_⟩
   simp[runForever,iterate] at hcount ⊢
   omega
  | failed=>simpa[runForever,iterate] using ih loop
  | bootFenceRejected=>
   rcases requestReregistration_cases loop now with hkept|⟨hfired,hidle,hfloor⟩
   · simpa[runForever,iterate,hkept] using ih loop
   · obtain ⟨hapart,hlast,hcount⟩:=
      ih {loop with fenceEpisodeActive:=true,lastFenceReregistration:=some now}
     simp only[runForever,iterate,hfired,if_true]
     refine ⟨List.pairwise_cons.mpr ⟨hlast now rfl,hapart⟩,?_,?_⟩
     · intro last hstored at_ hat
       have:=hfloor last hstored
       rcases List.mem_cons.mp hat with rfl|hlater
       · exact this
       · have:=hlast now rfl at_ hlater
         dsimp only at this
         omega
     · simp[hidle] at hcount ⊢
       omega
end GridFleet.StatusPushLoop
