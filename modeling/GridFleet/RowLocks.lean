import GridFleet.Dict
/-! Open transactions hold shared and exclusive locks on rows until they end; what they have written is
laid over the committed rows for themselves alone. -/
namespace GridFleet.RowLocks
open Dict

inductive Mode where
 | share | update
 deriving DecidableEq

section
variable {τ ρ χ:Type*} [DecidableEq τ] [DecidableEq ρ](locks:χ→List (ρ×Mode))

/-- No other transaction holds the row in a mode that excludes `mode`. -/
def grantable (txs:Dict τ χ)(tx:τ)(row:ρ)(mode:Mode):Bool:=
 txs.entries.all fun e=>e.1=tx||
  (locks e.2).all fun held=>held.1≠row||(held.2=.share&&mode=.share)

/-- A row held exclusively is held by nobody else. -/
def Compatible (txs:Dict τ χ):Prop:=
 ∀a b x y,txs.get a=some x→txs.get b=some y→a≠b→
  ∀row mode,(row,Mode.update)∈locks x→(row,mode) ∉ locks y

variable {locks}{txs:Dict τ χ}{tx:τ}

lemma share_of_grantable {row:ρ}{mode held:Mode}
 (hgrant:grantable locks txs tx row mode){b:τ}{y:χ}(hy:txs.get b=some y)
 (hne:b≠tx)(hheld:(row,held)∈locks y):held=.share∧mode=.share:=by
 have hall:=List.all_eq_true.mp hgrant (b,y) (get_eq_some_iff.mp hy)
 simp only[hne,decide_false,Bool.false_or] at hall
 simpa using List.all_eq_true.mp hall (row,held) hheld

omit [DecidableEq ρ] in
lemma compatible_empty:Compatible locks (Dict.empty:Dict τ χ):=by
 intro a b x y hx
 cases hx

omit [DecidableEq ρ] in
lemma Compatible.pop (h:Compatible locks txs)(tx:τ):Compatible locks (txs.pop tx):=
 fun a b x y hx hy=>h a b x y (get_pop_eq_some hx).2 (get_pop_eq_some hy).2

lemma Compatible.set (h:Compatible locks txs){x:χ}
 (hlocks:∀l∈locks x,(∃old,txs.get tx=some old∧l∈locks old)∨
  grantable locks txs tx l.1 l.2):Compatible locks (txs.set tx x):=by
 intro a b y z hy hz hne row mode hupdate hheld
 rcases get_set_eq_some hy with ⟨rfl,rfl⟩|⟨hane,hyold⟩
 · rcases get_set_eq_some hz with ⟨rfl,rfl⟩|⟨hbne,hzold⟩
   · exact hne rfl
   · rcases hlocks _ hupdate with ⟨old,hold,hmem⟩|hgrant
     · exact h _ _ old z hold hzold hne row mode hmem hheld
     · cases (share_of_grantable hgrant hzold hbne hheld).2
 · rcases get_set_eq_some hz with ⟨rfl,rfl⟩|⟨-,hzold⟩
   · rcases hlocks _ hheld with ⟨old,hold,hmem⟩|hgrant
     · exact h a _ y old hyold hold hne row mode hupdate hmem
     · cases (share_of_grantable hgrant hyold hane hupdate).1
   · exact h a b y z hyold hzold hne row mode hupdate hheld
end

section
variable {κ ν δ:Type*} [DecidableEq κ]

/-- The rows as the transaction sees them that has made the changes. -/
def overlay (rows:Dict κ ν)(changes:Dict κ δ)(change:δ→ν→ν):Dict κ ν:=
 rows.map fun k row=>((changes.get k).map fun c=>change c row).getD row

/-- What no changed row has is read off the rows without a change. -/
lemma exists_get_overlay {rows:Dict κ ν}{changes:Dict κ δ}{change:δ→ν→ν}{k:κ}
 {P:ν→Prop}(hchanged:∀c row,¬P (change c row)):
 (∃row,(overlay rows changes change).get k=some row∧P row)↔
  changes.get k=none∧∃row,rows.get k=some row∧P row:=by
 rw[overlay,Dict.get_map]
 cases changes.get k with
 | none | some=>simp[hchanged]

lemma isSome_overlay {rows:Dict κ ν}{changes:Dict κ δ}{change:δ→ν→ν}{k:κ}:
 ((overlay rows changes change).get k).isSome=(rows.get k).isSome:=by
 rw[overlay,Dict.get_map,Option.isSome_map]
end
end GridFleet.RowLocks
