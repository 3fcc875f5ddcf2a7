import RecordQuery.Query.Connective
import RecordQuery.Query.Operand

/-!
# Filters

A filter compares one property of a record with a literal. Every filter names a property and has a
literal; the type of filters admits no other.

Results:
* `make_eq_ok_iff`: the filters that can be made are those with a name and a literal.
-/

namespace RecordQuery

/-- A comparison of a property with a literal, and how it joins the filters before it. -/
structure Filter where
  property : String
  operand : Operand
  value : String
  connective : Connective
  named : Text.isBlankText property = false
  value_ne : value ≠ ""
  deriving DecidableEq

namespace Filter

/-- The filter with these parts. -/
def make (property : String) (operand : Operand) (value : String) (connective : Connective) :
    Except ArgumentError Filter :=
  if named : Text.isBlankText property = false then
    if value_ne : value ≠ "" then .ok ⟨property, operand, value, connective, named, value_ne⟩
    else .error (.emptyFilterValue property)
  else .error .blankFilterProperty

theorem make_eq_ok_iff {property value : String} {operand : Operand} {connective : Connective}
    {f : Filter} :
    make property operand value connective = .ok f ↔
      f.property = property ∧ f.operand = operand ∧ f.value = value ∧
        f.connective = connective := by
  constructor
  · intro h
    rw [make] at h
    split at h
    · split at h
      · cases h; exact ⟨rfl, rfl, rfl, rfl⟩
      · cases h
    · cases h
  · rintro ⟨rfl, rfl, rfl, rfl⟩
    simp [make, f.named, f.value_ne]

theorem make_self (f : Filter) : make f.property f.operand f.value f.connective = .ok f :=
  make_eq_ok_iff.2 ⟨rfl, rfl, rfl, rfl⟩

end Filter

end RecordQuery
