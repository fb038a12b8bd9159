import Mathlib.Logic.Basic
namespace GridFleet

lemma bind_eq_ok {ε α β:Type*}{x:Except ε α}{f:α→Except ε β}{b:β}:
 x.bind f=.ok b↔∃a,x=.ok a∧f a=.ok b:=by
 cases x <;> simp[Except.bind]
end GridFleet
