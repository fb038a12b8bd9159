import Mathlib.Data.List.Basic
/-! Runs of a labelled partial step function. A label carries every choice the environment makes at one
step, so a run is determined by its start and its labels, and a concrete run can be evaluated. -/
namespace GridFleet.Interleaving

variable {σ α:Type*}

/-- Execute the labels in order; `none` when some label is not enabled where it stands. -/
def run (step:σ→α→Option σ):σ→List α→Option σ
 | s,[]=>some s
 | s,a::as=>(step s a).bind fun u=>run step u as

def Guarded (guard:σ→α→Prop)(step:σ→α→Option σ):σ→List α→Prop
 | _,[]=>True
 | s,a::as=>guard s a∧∀u,step s a=some u→Guarded guard step u as

instance decidableGuarded {guard:σ→α→Prop} [∀s a,Decidable (guard s a)]
 {step:σ→α→Option σ}:(s:σ)→(as:List α)→Decidable (Guarded guard step s as)
 | _,[]=>isTrue trivial
 | s,a::as=>
  match hstep:step s a with
  | none=>decidable_of_iff (guard s a) (by simp [Guarded,hstep])
  | some u=>
   have:=(decidableGuarded u as:Decidable (Guarded guard step u as))
   decidable_of_iff (guard s a∧Guarded guard step u as) (by simp [Guarded,hstep])

variable {as:List α}{s v:σ}{step:σ→α→Option σ}

lemma guarded_of_forall {guard:α→Prop}(h:∀a∈as,guard a):Guarded (fun _ a=>guard a) step s as:=by
 induction as generalizing s with
 | nil=>exact trivial
 | cons a _ ih=>
  exact ⟨h a List.mem_cons_self,fun u _=>ih fun b hb=>h b (List.mem_cons_of_mem a hb)⟩
lemma run_cons {a:α}:run step s (a::as)=some v↔∃u,step s a=some u∧run step u as=some v:=by
 simp[run,Option.bind_eq_some_iff]
lemma run_invariant (I:σ→Prop)(hstep:∀s a u,I s→step s a=some u→I u)(hs:I s)
 (hrun:run step s as=some v):I v:=by
 induction as generalizing s with
 | nil=>
  cases hrun
  exact hs
 | cons a _ ih=>
  obtain ⟨u,hu,hrest⟩:=run_cons.mp hrun
  exact ih (hstep s a u hs hu) hrest

/-- The invariant rule for runs whose steps all meet a guard. -/
lemma run_invariant_guarded {guard:σ→α→Prop}(I:σ→Prop)
 (hstep:∀s a u,I s→ guard s a→step s a=some u→I u)(hs:I s)(hguard:Guarded guard step s as)
 (hrun:run step s as=some v):I v:=by
 induction as generalizing s with
 | nil=>
  cases hrun
  exact hs
 | cons a _ ih=>
  obtain ⟨u,hu,hrest⟩:=run_cons.mp hrun
  exact ih (hstep s a u hs hguard.1 hu) (hguard.2 u hu) hrest

/-- The invariant rule for what a state says about the labels that led to it. -/
lemma run_invariant_history {guard:σ→α→Prop}(I:List α→σ→Prop)
 (hstep:∀seen s a u,I seen s→ guard s a→step s a=some u→I (seen++[a]) u)(hs:I [] s)
 (hguard:Guarded guard step s as)(hrun:run step s as=some v):I as v:=by
 suffices h:∀seen,I seen s→I (seen++as) v from h [] hs
 clear hs
 induction as generalizing s with
 | nil=>
  intro seen hs
  cases hrun
  rwa [List.append_nil]
 | cons a as ih=>
  intro seen hs
  obtain ⟨u,hu,hrest⟩:=run_cons.mp hrun
  have hnext:=ih (hguard.2 u hu) hrest (seen++[a]) (hstep seen s a u hs hguard.1 hu)
  rwa [List.append_assoc] at hnext

/-- A preorder respected by every step from an invariant state relates the ends of a run. -/
lemma run_related (I:σ→Prop)(R:σ→σ→Prop)(hrefl:∀s,R s s)
 (htrans:∀s u v,R s u→R u v→R s v)(hstep:∀s a u,I s→step s a=some u→I u∧R s u)
 (hs:I s)(hrun:run step s as=some v):R s v:=by
 induction as generalizing s with
 | nil=>
  cases hrun
  exact hrefl _
 | cons a _ ih=>
  obtain ⟨u,hu,hrest⟩:=run_cons.mp hrun
  obtain ⟨hI,hR⟩:=hstep s a u hs hu
  exact htrans s u v hR (ih hI hrest)
end GridFleet.Interleaving
