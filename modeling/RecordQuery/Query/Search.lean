import RecordQuery.Query.Filter

/-!
# Searches

A search looks for one term in several properties, each listed once. It stands for one filter per
property, all with the same operand, literal and connective.

Results:
* `nodup_eraseDups`: no property is listed twice.
* `map_property_expand`: a search expands to one filter per property, in order.
* `make_of_mem_expand`: every filter that a search expands to could have been made by itself.
-/

namespace RecordQuery

/-- A term to look for in several properties. -/
@[ext]
structure Search where
  term : String
  properties : List String
  operand : Operand
  connective : Connective
  term_ne : term ≠ ""
  named : ∀ p ∈ properties, Text.isBlankText p = false
  nodup : properties.Nodup

instance : DecidableEq Search := fun a b =>
  decidable_of_iff
    (a.term = b.term ∧ a.properties = b.properties ∧ a.operand = b.operand ∧
      a.connective = b.connective)
    Search.ext_iff.symm

theorem nodup_eraseDups {α : Type} [BEq α] [LawfulBEq α] (as : List α) : as.eraseDups.Nodup := by
  match as with
  | [] => simp
  | a :: as =>
    rw [List.eraseDups_cons, List.nodup_cons]
    refine ⟨?_, nodup_eraseDups _⟩
    simp
termination_by as.length
decreasing_by
  have := List.length_filter_le (fun b => !b == a) as
  simp only [List.length_cons]
  omega

namespace Search

/-- The search for a term in these properties, of which the repeated ones are dropped. It looks for
the term anywhere in a text, and one property that has it is enough. -/
def make (term : String) (properties : List String) : Except ArgumentError Search :=
  if term_ne : term ≠ "" then
    if named : ∀ p ∈ properties, Text.isBlankText p = false then
      .ok {
        term, properties := properties.eraseDups, operand := .contains, connective := .or, term_ne
        named := fun p hp => named p (List.mem_eraseDups.1 hp)
        nodup := nodup_eraseDups properties }
    else .error .blankSearchProperty
  else .error .emptySearchTerm

/-- A search that compares in another way. -/
def withOperand (s : Search) (operand : Operand) : Search := { s with operand }

/-- A search that joins its filters in another way. -/
def withConnective (s : Search) (connective : Connective) : Search := { s with connective }

/-- The filters that a search stands for. -/
def expand (s : Search) : List Filter :=
  s.properties.attach.map fun ⟨property, h⟩ =>
    ⟨property, s.operand, s.term, s.connective, s.named property h, s.term_ne⟩

theorem map_property_expand (s : Search) : s.expand.map Filter.property = s.properties := by
  simp [expand, List.map_map, Function.comp_def]

theorem make_of_mem_expand {s : Search} {f : Filter} (h : f ∈ s.expand) :
    Filter.make f.property s.operand s.term s.connective = .ok f := by
  obtain ⟨⟨property, hp⟩, -, rfl⟩ := List.mem_map.1 h
  exact Filter.make_self _

end Search

end RecordQuery
