import RecordQuery.Text.Lowercase

/-!
# Enumerations

An enumerated type has named constants in a fixed order. A constant is found by its name without
regard to the case of ASCII letters; of names that differ only so, the first counts.

Results:
* `constant?_eq_some_iff`: what the constant of a text is.
-/

namespace RecordQuery

/-- An enumerated type. -/
structure Enumeration where
  name : String
  variants : List String
  deriving DecidableEq, Repr

/-- A constant of an enumerated type: its place among the constants, and its name. -/
structure Constant where
  ordinal : Nat
  name : String
  deriving DecidableEq, Repr

namespace Enumeration

/-- The constant at a place. Beyond the last constant it has no name. -/
def constantAt (e : Enumeration) (ordinal : Nat) : Constant := ⟨ordinal, e.variants.getD ordinal ""⟩

/-- The first constant whose name a text spells. -/
def constant? (e : Enumeration) (s : String) : Option Constant :=
  (e.variants.findIdx? (Text.eqIgnoringCase · s)).map e.constantAt

theorem constant?_eq_some_iff {e : Enumeration} {s : String} {c : Constant} :
    e.constant? s = some c ↔
      c = e.constantAt c.ordinal ∧
        ∃ h : c.ordinal < e.variants.length,
          Text.eqIgnoringCase e.variants[c.ordinal] s = true ∧
            ∀ j, ∀ hj : j < c.ordinal, Text.eqIgnoringCase e.variants[j] s = false := by
  simp only [constant?, Option.map_eq_some_iff, List.findIdx?_eq_some_iff_getElem,
    Bool.not_eq_true]
  constructor
  · rintro ⟨i, ⟨h, hi, hlt⟩, rfl⟩
    exact ⟨rfl, h, hi, hlt⟩
  · rintro ⟨hc, h, hi, hlt⟩
    exact ⟨c.ordinal, ⟨h, hi, hlt⟩, hc.symm⟩

end Enumeration

end RecordQuery
