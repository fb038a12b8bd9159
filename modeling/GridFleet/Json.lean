import Mathlib.Data.Int.Notation
import GridFleet.Dict
/-! JSON values. A float is its `repr`, so that equal floats have equal texts. -/
namespace GridFleet

inductive Json where
 | null
 | bool (value:Bool)
 | int (value:ℤ)
 | float (text:String)
 | str (value:String)
 | arr (items:List Json)
 | obj (fields:List (String×Json))

namespace Json

mutual

def decEq:(a b:Json)→Decidable (a=b)
 | .null,.null=>isTrue rfl
 | .bool a,.bool b=>decidable_of_iff (a=b) (by simp)
 | .int a,.int b=>decidable_of_iff (a=b) (by simp)
 | .float a,.float b=>decidable_of_iff (a=b) (by simp)
 | .str a,.str b=>decidable_of_iff (a=b) (by simp)
 | .arr a,.arr b=>
  have:=decEqItems a b
  decidable_of_iff (a=b) (by simp)
 | .obj a,.obj b=>
  have:=decEqFields a b
  decidable_of_iff (a=b) (by simp)
 | .null,.bool _ | .null,.int _ | .null,.float _ | .null,.str _ | .null,.arr _ | .null,.obj _
 | .bool _,.null | .bool _,.int _ | .bool _,.float _ | .bool _,.str _ | .bool _,.arr _
 | .bool _,.obj _ | .int _,.null | .int _,.bool _ | .int _,.float _ | .int _,.str _
 | .int _,.arr _ | .int _,.obj _ | .float _,.null | .float _,.bool _ | .float _,.int _
 | .float _,.str _ | .float _,.arr _ | .float _,.obj _ | .str _,.null | .str _,.bool _
 | .str _,.int _ | .str _,.float _ | .str _,.arr _ | .str _,.obj _ | .arr _,.null
 | .arr _,.bool _ | .arr _,.int _ | .arr _,.float _ | .arr _,.str _ | .arr _,.obj _
 | .obj _,.null | .obj _,.bool _ | .obj _,.int _ | .obj _,.float _ | .obj _,.str _
 | .obj _,.arr _=>isFalse (by simp)

def decEqItems:(a b:List Json)→Decidable (a=b)
 | [],[]=>isTrue rfl
 | a::as,b::bs=>
  have:=decEq a b
  have:=decEqItems as bs
  decidable_of_iff (a=b∧as=bs) (by simp)
 | [],_::_ | _::_,[]=>isFalse (by simp)

def decEqFields:(a b:List (String×Json))→Decidable (a=b)
 | [],[]=>isTrue rfl
 | (j,a)::as,(k,b)::bs=>
  have:=decEq a b
  have:=decEqFields as bs
  decidable_of_iff (j=k∧a=b∧as=bs) (by simp [and_assoc])
 | [],_::_ | _::_,[]=>isFalse (by simp)
end

instance:DecidableEq Json:=decEq
end Json

abbrev JsonObject:=Dict String Json
end GridFleet
