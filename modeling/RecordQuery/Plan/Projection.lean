import RecordQuery.Plan.Path

/-!
# Projections

A projection picks members of records and shows them as a JSON object, in which the members of
nested records stand in nested objects.
-/

namespace RecordQuery

/-- The members to show of a record. -/
structure Projection (κ : Type) where
  columns : List (Path (MemberType κ))

namespace Projection

variable {κ : Type}

/-- A path to a scalar member. Other members cannot be shown. -/
def column (catalog : Catalog κ) (schema : Schema κ) (path : String) :
    Except QueryError Column := do
  let p ← Path.resolve catalog schema path
  match p.type.scalar? with
  | some type => return p.withType type
  | none => throw (.schema (.unsupportedType (p.type.name catalog)))

/-- The projection to the members that paths lead to. A member that several paths lead to is shown
once. -/
def compile (catalog : Catalog κ) (schema : Schema κ) (paths : List String) :
    Except QueryError (Projection κ) := do
  let columns ← paths.mapM (column catalog schema)
  return ⟨columns.eraseDups.map fun c => c.withType (.scalar c.type)⟩

/-- The projection to the members whose names are those of the scalar members of a schema. -/
def allScalars (catalog : Catalog κ) (schema : Schema κ) : Projection κ where
  columns := (schema.members.filter (·.type.scalar?.isSome)).filterMap
    fun m => (Path.resolve catalog schema m.name).toOption

/-- The texts of the paths to the members that are shown. -/
def names (p : Projection κ) : List String := p.columns.map Path.text

/-- Whether the member at the end of a path is shown, where the path must be spelled as the schema
spells it. -/
def shows (p : Projection κ) (path : String) : Bool := p.names.contains path

/-- An object with a value at the end of a path of names. Nested objects are made as needed, in
place of whatever else stands there. -/
def insertAt (parents : List String) (leaf : String) (value : Json)
    (members : List (String × Json)) : List (String × Json) :=
  match parents with
  | [] => Json.insert leaf value members
  | name :: names =>
    let inner := ((Json.find? name members).map Json.members).getD []
    Json.insert name (.object (insertAt names leaf value inner)) members

/-- What is shown of a record. -/
def project (p : Projection κ) (r : Record) : Json :=
  .object (p.columns.foldl (fun ms c => insertAt c.parents c.leaf (c.read r).toJson ms) [])

end Projection

end RecordQuery
