import RecordQuery.Error
import RecordQuery.Text.Blank
import RecordQuery.Text.Infix
import RecordQuery.Text.Lowercase

/-!
# Operands

The ways in which a filter compares a member with a literal. Each has a code, which is read without
regard to case and to the white space around it.

Results:
* `ofCode_code`: every operand is read back from its code.
* `holds_eq_false`, `matchesText_eq_false`: an operand looks either at the order of two values or at
  their texts.
-/

namespace RecordQuery

/-- A way to compare a member with a literal. -/
inductive Operand where
  | equals | notEquals
  | greater | greaterOrEqual | less | lessOrEqual
  | contains | startsWith | endsWith
  deriving DecidableEq, Repr

namespace Operand

/-- All operands. -/
def all : List Operand :=
  [equals, notEquals, greater, greaterOrEqual, less, lessOrEqual, contains, startsWith, endsWith]

/-- The code of an operand. -/
def code : Operand → String
  | equals => "eq"
  | notEquals => "neq"
  | greater => "gt"
  | greaterOrEqual => "gte"
  | less => "lt"
  | lessOrEqual => "lte"
  | contains => "cn"
  | startsWith => "sw"
  | endsWith => "ew"

/-- The operand of a code. -/
def ofCode (s : String) : Except ArgumentError Operand :=
  let code := Text.lowercase (Text.trim s)
  match all.find? (·.code == code) with
  | some operand => .ok operand
  | none => .error (.unknownOperand code)

/-- Whether an operand looks at the characters of two texts, and not at the order of two values. -/
def isTextMatch : Operand → Bool
  | contains | startsWith | endsWith => true
  | _ => false

/-- Whether a member that stands in this order to the literal satisfies an operand. -/
def holds (operand : Operand) (order : Ordering) : Bool :=
  match operand with
  | equals => order == .eq
  | notEquals => order != .eq
  | greater => order == .gt
  | greaterOrEqual => order != .lt
  | less => order == .lt
  | lessOrEqual => order != .gt
  | contains | startsWith | endsWith => false

/-- Whether a member with this text matches the text of the literal. -/
def matchesText (operand : Operand) (member literal : String) : Bool :=
  match operand with
  | contains => Text.occursIn literal member
  | startsWith => Text.startsWith literal member
  | endsWith => Text.endsWith literal member
  | _ => false

theorem ofCode_code (operand : Operand) : ofCode operand.code = .ok operand := by
  cases operand <;> rfl

theorem holds_eq_false {operand : Operand} (h : operand.isTextMatch = true) (order : Ordering) :
    operand.holds order = false := by
  cases operand <;> simp_all [isTextMatch, holds]

theorem matchesText_eq_false {operand : Operand} (h : operand.isTextMatch = false)
    (member literal : String) : operand.matchesText member literal = false := by
  cases operand <;> simp_all [isTextMatch, matchesText]

end Operand

end RecordQuery
