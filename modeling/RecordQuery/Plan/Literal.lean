import RecordQuery.Calendar.Layout
import RecordQuery.Data.Schema
import RecordQuery.Data.Value

/-!
# Literals

The text that a filter compares with is read as a value of the type of the member. Nothing is
trimmed, rounded to an integer or cut off: what does not spell a value of the type is refused.

Results:
* `kind_of_ofLiteral?`: a literal is read as a value of the kind of the type.
-/

namespace RecordQuery

/-- The truth value that a text spells, without regard to the case of ASCII letters. -/
def boolOfText? (s : String) : Option Bool :=
  if Text.eqIgnoringCase s "true" then some true
  else if Text.eqIgnoringCase s "false" then some false
  else none

namespace ScalarType

/-- The value of this type that a literal spells. -/
def ofLiteral? (t : ScalarType) (s : String) : Option Value :=
  match t with
  | text => some (.text s)
  | int32 => (Integer.int32OfText? s).map .int32
  | int64 => (Integer.int64OfText? s).map .int64
  | float32 => (Binary.ofText? s).map .float32
  | float64 => (Binary.ofText? s).map .float64
  | decimal => (Decimal.ofText? s).map .decimal
  | bool => (boolOfText? s).map .bool
  | instant => (Instant.ofText? s).map .instant
  | date => (Date.ofText? s).map .date
  | enumeration e => (e.constant? s).map .constant

/-- The kind of the values of a type. -/
def kind : ScalarType → Kind
  | text => .text
  | int32 => .int32
  | int64 => .int64
  | float32 => .float32
  | float64 => .float64
  | decimal => .decimal
  | bool => .bool
  | instant => .instant
  | date => .date
  | enumeration _ => .constant

/-- The value of this type that a literal spells, or why there is none. -/
def coerce (t : ScalarType) (s : String) : Except QueryError Value :=
  match t.ofLiteral? s with
  | some v => .ok v
  | none => .error (.value t.name s)

theorem kind_of_ofLiteral? {t : ScalarType} {s : String} {v : Value}
    (h : t.ofLiteral? s = some v) : v.kind = t.kind := by
  cases t <;> simp only [ofLiteral?, Option.some.injEq, Option.map_eq_some_iff] at h
  case text => exact h ▸ rfl
  all_goals obtain ⟨_, -, rfl⟩ := h; rfl

end ScalarType

/-- The value of a member of this type that a literal spells. Only scalar members have one. -/
def MemberType.coerce {κ : Type} (catalog : Catalog κ) (t : MemberType κ) (s : String) :
    Except QueryError Value :=
  match t.scalar? with
  | some type => type.coerce s
  | none => .error (.schema (.unsupportedType (t.name catalog)))

end RecordQuery
