import GridFleet.Interleaving
import Mathlib.Order.WellFounded
namespace GridFleet.Interleaving

variable {σ α:Type*}

structure InfiniteRun (step:σ→α→Option σ) where
 states:ℕ→σ
 labels:ℕ→α
 steps:∀n,step (states n) (labels n)=some (states (n+1))

def InfiniteRun.cons {step:σ→α→Option σ}(r:InfiniteRun step)(s:σ)(a:α)
 (h:step s a=some (r.states 0)):InfiniteRun step where
 states
  | 0=>s
  | n+1=>r.states n
 labels
  | 0=>a
  | n+1=>r.labels n
 steps
  | 0=>h
  | n+1=>r.steps n

lemma InfiniteRun.exists_append {step:σ→α→Option σ}{guard:σ→α→Prop}
 (r:InfiniteRun step)(hr:∀n,guard (r.states n) (r.labels n)){as:List α}{s:σ}
 (hguard:Guarded guard step s as)(hrun:run step s as=some (r.states 0)):
 ∃r':InfiniteRun step,(∀n,guard (r'.states n) (r'.labels n))∧
  (∀n≤as.length,run step s (as.take n)=some (r'.states n))∧(∀n<as.length,as[n]?=some (r'.labels n))∧
  ∀n,r'.states (as.length+n)=r.states n∧r'.labels (as.length+n)=r.labels n:=by
 induction as generalizing s with
 | nil=>
  cases hrun
  refine ⟨r,hr,?_,?_,?_⟩
  · intro n hn
    rw[Nat.le_zero.mp hn]
    rfl
  · intro n hn
    exact absurd hn (Nat.not_lt_zero n)
  · intro n
    rw[List.length_nil,Nat.zero_add]
    exact ⟨rfl,rfl⟩
 | cons a _ ih=>
  obtain ⟨u,hu,hrest⟩:=run_cons.mp hrun
  obtain ⟨r',hguard',hstates,hlabels,htail⟩:=ih (hguard.2 u hu) hrest
  have hu':u=r'.states 0:=by simpa[run] using hstates 0 (Nat.zero_le _)
  refine ⟨r'.cons s a (hu' ▸ hu),?_,?_,?_,?_⟩
  · rintro (_|n)
    · exact hguard.1
    · exact hguard' n
  · rintro (_|n) hn
    · rfl
    · rw[List.take_succ_cons,run_cons]
      exact ⟨u,hu,hstates n (Nat.le_of_succ_le_succ hn)⟩
  · rintro (_|n) hn
    · rfl
    · exact hlabels n (Nat.lt_of_succ_lt_succ hn)
  · intro n
    rw[List.length_cons,Nat.add_right_comm]
    exact htail n

section
variable {P Q:ℕ→Prop}{n m:ℕ}

/-- What holds at first and not in the end stops holding at some step. -/
lemma exists_last_holding (hn:Q n)(hle:n ≤ m)(hm:¬Q m):∃k,n≤k∧k < m∧Q k∧¬Q (k+1):=by
 induction m,hle using Nat.le_induction with
 | base=>exact absurd hn hm
 | succ m hle ih=>
  by_cases hlast:Q m
  · exact ⟨m,hle,Nat.lt_succ_self m,hlast,hm⟩
  · obtain ⟨k,hnk,hkm,hk⟩:=ih hlast
    exact ⟨k,hnk,Nat.lt_succ_of_lt hkm,hk⟩

lemma eventually_of_measure {μ:ℕ→ℕ}(hkeep:∀k ≥ n,¬P k→μ (k+1) ≤ μ k)
 (hdrop:∀k ≥ n,∃l ≥ k,P l∨μ (l+1)<μ l):∃k ≥ n,P k:=by
 by_contra hnever
 have hfails:∀k ≥ n,¬P k:=fun k hk hP=>hnever ⟨k,hk,hP⟩
 have hanti:Antitone fun i=>μ (n+i):=
  antitone_nat_of_succ_le fun i=>hkeep (n+i) (Nat.le_add_right n i) (hfails _ (Nat.le_add_right n i))
 -- Where the measure is least, it cannot drop any more.
 obtain ⟨i,-,hleast⟩:=WellFounded.has_min (measure fun i=>μ (n+i)).wf Set.univ ⟨0,trivial⟩
 obtain ⟨l,hl,hP|hlt⟩:=hdrop (n+i) (Nat.le_add_right n i)
 · exact hfails l (by omega) hP
 · obtain ⟨d,rfl⟩:=Nat.exists_eq_add_of_le hl
   have hmono:μ (n+(i+d)) ≤ μ (n+i):=hanti (Nat.le_add_right i d)
   refine hleast (i+d+1) trivial (?_:μ (n+(i+d+1))<μ (n+i))
   rw[Nat.add_assoc n i d] at hlt
   exact lt_of_lt_of_le hlt hmono
end
end GridFleet.Interleaving
