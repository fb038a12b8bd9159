import Mathlib.Data.List.Nodup
import Mathlib.Order.Lattice
/-! Three-valued logic over nullable columns. A row is selected when its predicate is true, so an unknown
predicate selects nothing, and an EXISTS is never unknown. -/
namespace GridFleet.Sql
open List

abbrev Truth:=Option Bool
def not:Truth→Truth
 | some b=>some !b
 | none=>none
def and:Truth→Truth→Truth
 | some false,_ | _,some false=>some false
 | some true,t | t,some true=>t
 | none,none=>none
def or:Truth→Truth→Truth
 | some true,_ | _,some true=>some true
 | some false,t | t,some false=>t
 | none,none=>none

def isNull {α:Type*}(x:Option α):Truth:=some x.isNone
def isNotNull {α:Type*}(x:Option α):Truth:=some x.isSome
def isTrue (t:Truth):Truth:=some (t == some true)
def isFalse (t:Truth):Truth:=some (t == some false)
def isNotFalse (t:Truth):Truth:=some (t != some false)
def eq {α:Type*} [DecidableEq α]:Option α→Option α→Truth
 | some a,some b=>some (decide (a=b))
 | _,_=>none
def ne {α:Type*} [DecidableEq α](a b:Option α):Truth:=not (eq a b)
def lt:Option ℕ→Option ℕ→Truth
 | some a,some b=>some (decide (a<b))
 | _,_=>none
def le:Option ℕ→Option ℕ→Truth
 | some a,some b=>some (decide (a≤b))
 | _,_=>none
def isIn {α:Type*} [DecidableEq α](x:Option α)(values:List α):Truth:=
 x.map fun a=>decide (a∈values)
def select {ρ:Type*}(rows:List ρ)(where_:ρ→Truth):List ρ:=
 rows.filter fun row=>where_ row == some true
def exists_ {ρ:Type*}(rows:List ρ)(where_:ρ→Truth):Truth:=
 some (rows.any fun row=>where_ row == some true)

def case {α:Type*}:List (Truth×α)→α→α
 | [],otherwise=>otherwise
 | (condition,value)::rest,otherwise=>
  if condition=some true then value else case rest otherwise

@[simp] lemma not_some (b:Bool):not (some b)=some !b:=rfl
@[simp] lemma and_some (a b:Bool):and (some a) (some b)=some (a&&b):=by
 cases a <;> cases b <;> rfl
@[simp] lemma or_some (a b:Bool):or (some a) (some b)=some (a||b):=by
 cases a <;> cases b <;> rfl

variable {α ρ:Type*}{rows:List ρ}

@[simp] lemma eq_some [DecidableEq α](a b:α):eq (some a) (some b)=some (decide (a=b)):=rfl
@[simp] lemma eq_none_left [DecidableEq α](b:Option α):eq none b=none:=rfl

/-- A nullable column against its own NULL test: the disjunction is never unknown. -/
lemma isNull_or_ne [DecidableEq α](x:Option α)(a:α):
 or (isNull x) (ne x (some a))=some (decide (x≠some a)):=by
 cases x with
 | none=>rfl
 | some=>simp[isNull,ne]

lemma isNull_or_lt (x:Option ℕ)(a:ℕ):or (isNull x) (lt (some a) x)=some (decide (∀b∈x,a<b)):=by
 cases x with
 | none=>simp[isNull,lt,or]
 | some=>simp[isNull,lt]
lemma and_eq_true_iff (s t:Truth):and s t=some true↔s=some true∧t=some true:=by
 rcases s with _|_|_ <;> rcases t with _|_|_ <;> decide
lemma eq_eq_true_iff [DecidableEq α](x:Option α)(a:α):eq x (some a)=some true↔x=some a:=by
 cases x <;> simp
lemma exists_eq {where_:ρ→Truth}{p:ρ→Bool}(h:∀row∈rows,where_ row=some true↔p row):
 exists_ rows where_=some (rows.any p):=by
 unfold exists_
 congr 1
 rw[Bool.eq_iff_iff,any_eq_true,any_eq_true]
 refine exists_congr fun row=>and_congr_right fun hmem=>?_
 rw[beq_iff_eq]
 exact h row hmem
lemma select_isEmpty (rows:List ρ)(where_:ρ→Truth):
 exists_ rows where_=some !(select rows where_).isEmpty:=by
 induction rows with
 | nil=>rfl
 | cons row _ ih=>
  simp only[exists_,select,any_cons,filter_cons,Option.some.injEq] at ih ⊢
  rw[ih]
  cases hw:where_ row == some true <;> simp
lemma mem_select {where_:ρ→Truth}{row:ρ}:row∈select rows where_↔row∈rows∧where_ row=some true:=by
 simp[select]

lemma find_eq_some_iff {κ:Type*} [DecidableEq κ]{key:ρ→κ}(hunique:(rows.map key).Nodup){k:κ}{row:ρ}:
 (rows.find? fun r=>decide (key r=k))=some row↔row∈rows∧key row=k:=by
 constructor
 · intro hfind
   exact ⟨mem_of_find?_eq_some hfind,by simpa using find?_some hfind⟩
 · rintro ⟨hmem,rfl⟩
   have hsome:(rows.find? fun r=>decide (key r=key row)).isSome:=by
    rw[find?_isSome]
    exact ⟨row,hmem,by simp⟩
   obtain ⟨found,hfind⟩:=Option.isSome_iff_exists.mp hsome
   have hkey:key found=key row:=by simpa using find?_some hfind
   rw[hfind,inj_on_of_nodup_map hunique (mem_of_find?_eq_some hfind) hmem hkey]

/-- Under a unique key, a correlated EXISTS looks at the one row carrying that key. -/
lemma any_of_unique_key {κ:Type*} [DecidableEq κ]{key:ρ→κ}(hunique:(rows.map key).Nodup)(k:κ)
 (p:ρ→Bool):(rows.any fun row=>decide (key row=k)&&p row) =
  (rows.find? fun row=>decide (key row=k)).any p:=by
 induction rows with
 | nil=>rfl
 | cons row rows ih=>
  rw[map_cons,nodup_cons] at hunique
  obtain ⟨hfresh,hrest⟩:=hunique
  by_cases hk:key row=k
  · have hothers:(rows.any fun row'=>decide (key row'=k)&&p row')=false:=by
     rw[any_eq_false]
     intro row' hmem hand
     rw[Bool.and_eq_true,decide_eq_true_eq] at hand
     exact hfresh (mem_map.mpr ⟨row',hmem,hand.1.trans hk.symm⟩)
    simp[hk,hothers]
  · simp[hk,ih hrest]
end GridFleet.Sql
