import RecordQuery.Calendar.Instant
import RecordQuery.Data.Enumeration
import RecordQuery.Json.Value
import RecordQuery.Number.Decimal
import RecordQuery.Number.Shortest
import RecordQuery.Text.Quoted

/-!
# Values

What a member of a record holds, and what a literal is read as. Values of one kind have an order,
except for floating-point numbers that are not numbers at all; values of different kinds have none.

Results:
* `order?_isSome_iff`: which values can be compared.
-/

namespace RecordQuery

/-- The kinds of values. -/
inductive Kind where
  | null | text | int32 | int64 | float32 | float64 | decimal | bool | instant | date | constant
  deriving DecidableEq, Repr

/-- The name of a kind. -/
def Kind.name : Kind → String
  | null => "null"
  | text => "text"
  | int32 => "i32"
  | int64 => "i64"
  | float32 => "f32"
  | float64 => "f64"
  | decimal => "decimal"
  | bool => "bool"
  | instant => "datetime"
  | date => "date"
  | constant => "enum"

/-- What a member of a record holds. -/
inductive Value where
  | null
  | text (s : String)
  | int32 (n : Int32)
  | int64 (n : Int64)
  | float32 (x : Binary .single)
  | float64 (x : Binary .double)
  | decimal (d : Decimal)
  | bool (b : Bool)
  | instant (t : Instant)
  | date (d : Date)
  | constant (c : Constant)
  deriving DecidableEq

namespace Value

/-- The kind of a value. -/
def kind : Value → Kind
  | null => .null
  | text _ => .text
  | int32 _ => .int32
  | int64 _ => .int64
  | float32 _ => .float32
  | float64 _ => .float64
  | decimal _ => .decimal
  | bool _ => .bool
  | instant _ => .instant
  | date _ => .date
  | constant _ => .constant

/-- Whether there is no value. -/
def isNull (v : Value) : Bool := v.kind == .null

/-- The text that a value is, if it is a text. -/
def text? : Value → Option String
  | text s => some s
  | _ => none

/-! ## Order -/

/-- The order of two values of the same kind. Null has none, nor has a floating-point NaN. -/
def order? : Value → Value → Option Ordering
  | text a, text b => some (compare a b)
  | int32 a, int32 b => some (compare a.toInt b.toInt)
  | int64 a, int64 b => some (compare a.toInt b.toInt)
  | float32 a, float32 b => a.order? b
  | float64 a, float64 b => a.order? b
  | decimal a, decimal b => some (a.order b)
  | bool a, bool b => some (compare a b)
  | instant a, instant b => some (a.order b)
  | date a, date b => some (a.order b)
  | constant a, constant b => some (compare a.ordinal b.ordinal)
  | _, _ => none

/-- The order in which rows with these values are put. Null comes first; values that cannot be
compared count as equal. -/
def sortOrder (a b : Value) : Ordering :=
  match a.isNull, b.isNull with
  | true, true => .eq
  | true, false => .lt
  | false, true => .gt
  | false, false => (a.order? b).getD .eq

/-- Whether two values are the same. Numbers are the same if they are equal, whatever their fraction
digits or the sign of a zero; NaN is not the same as anything. -/
def same : Value → Value → Bool
  | float32 a, float32 b => a.order? b == some .eq
  | float64 a, float64 b => a.order? b == some .eq
  | decimal a, decimal b => a.order b == .eq
  | a, b => a == b

/-! ## Texts -/

/-- The text of a value in a condition. -/
protected def toText : Value → String
  | null => "null"
  | text s => Text.quoted s
  | int32 n => Integer.text n.toInt
  | int64 n => Integer.text n.toInt
  | float32 x => x.text
  | float64 x => x.text
  | decimal d => d.text
  | bool b => if b then "true" else "false"
  | instant t => t.text "+00:00"
  | date d => d.text
  | constant c => c.name

/-- A floating-point number as JSON. One that is not finite is null. -/
def ofDouble (x : Binary .double) : Json :=
  match x.scientific? with
  | some s => .number (.ofScientific s)
  | none => .null

/-- A value as JSON. Decimal numbers are strings, so that all their digits are kept. -/
def toJson : Value → Json
  | null => .null
  | text s => .text s
  | int32 n => .number (.ofInt n.toInt)
  | int64 n => .number (.ofInt n.toInt)
  | float32 x => ofDouble (x.convert .double)
  | float64 x => ofDouble x
  | decimal d => .text d.text
  | bool b => .bool b
  | instant t => .text (t.text "Z")
  | date d => .text d.text
  | constant c => .text c.name

/-- Whether a value is a floating-point NaN. -/
def isNaN : Value → Bool
  | float32 x => x == .nan
  | float64 x => x == .nan
  | _ => false

@[simp] theorem isNull_eq_true_iff {v : Value} : v.isNull = true ↔ v = null := by
  cases v <;> simp [isNull, kind]

theorem order?_isSome_iff {a b : Value} :
    (a.order? b).isSome = true ↔
      a.kind = b.kind ∧ a.isNull = false ∧ a.isNaN = false ∧ b.isNaN = false := by
  cases a <;> cases b <;>
    simp [order?, kind, isNull, isNaN, Option.isSome_iff_ne_none, Binary.order?_eq_none_iff]

end Value

end RecordQuery
