import RecordQuery.Data.Record
import RecordQuery.Data.Schema

/-!
# Paths

A path leads from a record through nested records to a member. It is resolved against a schema,
which brings every name into the spelling of the schema and yields the type of the member.

Results:
* `read_under`: a path below a member reads from the nested record.
-/

namespace RecordQuery

/-- A path to a member: the names of the nested records on the way, the name of the member and its
type. -/
structure Path (τ : Type) where
  parents : List String
  leaf : String
  type : τ
  deriving DecidableEq, Repr

/-- A path to a scalar member. -/
abbrev Column := Path ScalarType

namespace Path

variable {τ κ : Type}

/-- The names along a path. -/
def segments (p : Path τ) : List String := p.parents ++ [p.leaf]

/-- A path with points between the names. -/
def text (p : Path τ) : String := ".".intercalate p.segments

/-- A path that starts one record further out. -/
def under (name : String) (p : Path τ) : Path τ := { p with parents := name :: p.parents }

/-- A path to the same member, seen as of another type. -/
def withType {σ : Type} (p : Path τ) (type : σ) : Path σ := ⟨p.parents, p.leaf, type⟩

/-- The value at the end of a path; null if a record on the way is missing. -/
def read (p : Path τ) (r : Record) : Value :=
  match r.descend? p.parents with
  | some s => s.value p.leaf
  | none => .null

/-! ## Resolving -/

/-- Why a type has no member for a segment. A segment without a name is a fault of the path, which
is quoted. -/
def noMember (path typeName segment : String) : QueryError :=
  let name := Text.trim segment
  if name = "" then .argument (.emptySegment path) else .schema (.memberNotFound name typeName)

/-- The member of a schema that a segment names. Blanks around a segment do not count. -/
def memberAt (path : String) (owner : Schema κ) (segment : String) :
    Except QueryError (Member κ) :=
  let name := Text.trim segment
  match if name = "" then none else owner.find? name with
  | some m => .ok m
  | none => .error (noMember path owner.name segment)

/-- Resolves segments against a schema, one after another: every segment but the last must name a
nested record. -/
def resolveFrom (catalog : Catalog κ) (path : String) (owner : Schema κ) (segment : String) :
    List String → Except QueryError (Path (MemberType κ))
  | [] => (memberAt path owner segment).map fun m => ⟨[], m.name, m.type⟩
  | next :: more => do
    let m ← memberAt path owner segment
    match m.type with
    | .object ref => (resolveFrom catalog path (catalog ref) next more).map (under m.name)
    | type => .error (noMember path (type.name catalog) next)

/-- The segments of a path, between its points. -/
def split (path : String) : List String := (path.toList.splitOn '.').map String.ofList

/-- Resolves a path against a schema. -/
def resolve (catalog : Catalog κ) (schema : Schema κ) (path : String) :
    Except QueryError (Path (MemberType κ)) :=
  if Text.isBlankText path then .error (.argument .blankPath)
  else
    match split path with
    | [] => .error (.argument .blankPath)
    | segment :: more => resolveFrom catalog path schema segment more

theorem read_under (name : String) (p : Path τ) (r : Record) :
    (p.under name).read r =
      match r.nested name with
      | some s => p.read s
      | none => .null := by
  simp only [read, under, Record.descend?]
  cases r.nested name with
  | none => rfl
  | some s => rfl

end Path

end RecordQuery
