import RecordQuery.Data.Value

/-!
# Records

A record holds values and nested records under the names of its members.
-/

namespace RecordQuery

/-- A record: the value under each name, null if there is none, and the nested record under each
name, if there is one. -/
inductive Record where
  | mk (value : String → Value) (nested : String → Option Record)

namespace Record

/-- The value under a name. -/
def value : Record → String → Value
  | mk value _ => value

/-- The nested record under a name. -/
def nested : Record → String → Option Record
  | mk _ nested => nested

/-- The record that names lead to, one nested in the other. -/
def descend? (r : Record) : List String → Option Record
  | [] => some r
  | name :: names => (r.nested name).bind (·.descend? names)

theorem descend?_append (r : Record) (names more : List String) :
    r.descend? (names ++ more) = (r.descend? names).bind (·.descend? more) := by
  induction names generalizing r with
  | nil => rfl
  | cons name names ih =>
    simp only [List.cons_append, descend?]
    cases r.nested name with
    | none => rfl
    | some s => exact ih s

end Record

end RecordQuery
