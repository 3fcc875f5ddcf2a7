import RecordQuery.Data.Enumeration
import RecordQuery.Query.Operand

/-!
# Schemas

A schema names a type of records and lists its members, each name once, with their types. A member
is a scalar, a nested record of some schema, or of a type that queries know nothing of. Nested
schemas are found in a catalog, so schemas may refer to each other and to themselves.

Results:
* `find?_of_mem`: a member is found by its own name.
* `mem_add_iff`: adding a member replaces the one of its name.
-/

namespace RecordQuery

/-! ## Types of members -/

/-- The type of a scalar member. -/
inductive ScalarType where
  | text | int32 | int64 | float32 | float64 | decimal | bool | instant | date
  | enumeration (e : Enumeration)
  deriving DecidableEq, Repr

/-- What scalar types have in common as far as comparing goes. -/
inductive Category where
  | text | numeric | temporal | boolean | enumerated
  deriving DecidableEq, Repr

/-- The name of a category. -/
def Category.name : Category → String
  | text => "Text"
  | numeric => "Numeric"
  | temporal => "Temporal"
  | boolean => "Boolean"
  | enumerated => "Enumerated"

/-- The operands that members of a category can be compared by. -/
def Category.operands : Category → List Operand
  | text => [.equals, .notEquals, .contains, .startsWith, .endsWith]
  | numeric | temporal =>
    [.equals, .notEquals, .greater, .greaterOrEqual, .less, .lessOrEqual]
  | boolean | enumerated => [.equals, .notEquals]

namespace ScalarType

/-- The name of a scalar type. -/
def name : ScalarType → String
  | text => "text"
  | int32 => "i32"
  | int64 => "i64"
  | float32 => "f32"
  | float64 => "f64"
  | decimal => "decimal"
  | bool => "bool"
  | instant => "datetime"
  | date => "date"
  | enumeration e => e.name

/-- The category of a scalar type. -/
def category : ScalarType → Category
  | text => .text
  | int32 | int64 | float32 | float64 | decimal => .numeric
  | instant | date => .temporal
  | bool => .boolean
  | enumeration _ => .enumerated

end ScalarType

/-- The type of a member. Nested records are given by a reference to their schema. -/
inductive MemberType (κ : Type) where
  | scalar (t : ScalarType)
  | object (ref : κ)
  | unsupported (name : String)
  deriving DecidableEq, Repr

/-- The scalar type of a scalar member. -/
def MemberType.scalar? {κ : Type} : MemberType κ → Option ScalarType
  | scalar t => some t
  | _ => none

/-- The category of a scalar member. -/
def MemberType.category? {κ : Type} (t : MemberType κ) : Option Category :=
  t.scalar?.map ScalarType.category

/-- Whether rows can be ordered by members of a type, which are the scalar ones. -/
def MemberType.isOrderable {κ : Type} (t : MemberType κ) : Bool := t.category?.isSome

/-! ## Schemas -/

/-- A member of a type of records. -/
structure Member (κ : Type) where
  name : String
  type : MemberType κ
  deriving DecidableEq, Repr

/-- A type of records: its name and its members, each name once. -/
structure Schema (κ : Type) where
  name : String
  members : List (Member κ)
  nodup : (members.map Member.name).Nodup

/-- The schemas of nested records. -/
abbrev Catalog (κ : Type) := κ → Schema κ

namespace Schema

variable {κ : Type}

/-- The schema without members. -/
def empty (name : String) : Schema κ := ⟨name, [], by simp⟩

/-- The schema with one more member, which comes last and replaces the one of its name. -/
def add (s : Schema κ) (m : Member κ) : Schema κ where
  name := s.name
  members := s.members.filter (·.name != m.name) ++ [m]
  nodup := by
    rw [List.map_append, List.map_singleton, List.nodup_append]
    refine ⟨(List.filter_sublist.map Member.name).nodup s.nodup, by simp, ?_⟩
    intro a ha b hb
    obtain ⟨x, hx, rfl⟩ := List.mem_map.1 ha
    have := (List.mem_filter.1 hx).2
    simp_all

/-- The schema with these members, added one after another. -/
def ofMembers (name : String) (members : List (Member κ)) : Schema κ :=
  members.foldl add (empty name)

/-- The member of a name. An exact match comes before a match without regard to the case of ASCII
letters, and of the latter the first counts. -/
def find? (s : Schema κ) (name : String) : Option (Member κ) :=
  s.members.find? (·.name == name) <|> s.members.find? (Text.eqIgnoringCase ·.name name)

theorem mem_add_iff {s : Schema κ} {m x : Member κ} :
    x ∈ (s.add m).members ↔ x = m ∨ (x ∈ s.members ∧ x.name ≠ m.name) := by
  simp [add, List.mem_filter, or_comm]

theorem eq_of_mem_of_name_eq {s : Schema κ} {a b : Member κ} (ha : a ∈ s.members)
    (hb : b ∈ s.members) (h : a.name = b.name) : a = b := by
  have hn := s.nodup
  generalize s.members = ms at ha hb hn
  induction ms with
  | nil => simp at ha
  | cons x xs ih =>
    rw [List.map_cons, List.nodup_cons] at hn
    rcases List.mem_cons.1 ha with hax | hax <;> rcases List.mem_cons.1 hb with hbx | hbx
    · rw [hax, hbx]
    · exact absurd (hax ▸ h ▸ List.mem_map_of_mem hbx) hn.1
    · exact absurd (hbx ▸ h ▸ List.mem_map_of_mem hax) hn.1
    · exact ih hax hbx hn.2

theorem find?_of_mem {s : Schema κ} {m : Member κ} (h : m ∈ s.members) :
    s.find? m.name = some m := by
  have hsome : (s.members.find? (·.name == m.name)).isSome = true :=
    List.find?_isSome.2 ⟨m, h, by simp⟩
  obtain ⟨x, hx⟩ := Option.isSome_iff_exists.1 hsome
  have hname : x.name = m.name := by simpa using List.find?_some hx
  have : x = m := eq_of_mem_of_name_eq (List.mem_of_find?_eq_some hx) h hname
  simp [find?, hx, this]

end Schema

/-! ## Types in a catalog -/

namespace MemberType

variable {κ : Type}

/-- The name of a type. A nested record has the name of its schema. -/
def name (catalog : Catalog κ) : MemberType κ → String
  | scalar t => t.name
  | object ref => (catalog ref).name
  | unsupported name => name

/-- The name of a type with the sort of type that it is, unless the name alone tells it. -/
def description (catalog : Catalog κ) : MemberType κ → String
  | scalar (.enumeration e) => "Enum(" ++ e.name ++ ")"
  | scalar t => t.name
  | object ref => "Object(" ++ (catalog ref).name ++ ")"
  | unsupported name => "Unsupported(" ++ name ++ ")"

/-- Whether two types are the same. Nested records are the same if their schemas have the same
name. -/
def same (catalog : Catalog κ) : MemberType κ → MemberType κ → Bool
  | scalar a, scalar b => a == b
  | object a, object b => (catalog a).name == (catalog b).name
  | unsupported a, unsupported b => a == b
  | _, _ => false

/-- The operands that members of a type can be compared by. -/
def operands (catalog : Catalog κ) (t : MemberType κ) : Except SchemaError (List Operand) :=
  match t.category? with
  | some c => .ok c.operands
  | none => .error (.unsupportedType (t.name catalog))

/-- Whether members of a type can be compared by an operand. -/
def allows (catalog : Catalog κ) (t : MemberType κ) (operand : Operand) :
    Except SchemaError Bool :=
  (t.operands catalog).map (·.contains operand)

/-- The scalar type of members that can be compared by an operand. -/
def comparable (catalog : Catalog κ) (t : MemberType κ) (operand : Operand) :
    Except SchemaError ScalarType :=
  match t with
  | .scalar s =>
    if s.category.operands.contains operand then .ok s
    else .error (.operandNotAllowed operand.code s.name)
  | t => .error (.unsupportedType (t.name catalog))

end MemberType

end RecordQuery
