import RecordQuery.Error
import RecordQuery.Text.Blank
import RecordQuery.Text.Lowercase

/-!
# Connectives

How a filter joins the condition that the filters before it make up.

Results:
* `ofCode_code`: every connective is read back from its code.
-/

namespace RecordQuery

/-- How a condition joins the one before it. -/
inductive Connective where
  | and | or
  deriving DecidableEq, Repr

namespace Connective

/-- The code of a connective. -/
def code : Connective → String
  | and => "and"
  | or => "or"

/-- The connective of a code, which is read without regard to case and to the white space around
it. -/
def ofCode (s : String) : Except ArgumentError Connective :=
  let code := Text.lowercase (Text.trim s)
  match [and, or].find? (·.code == code) with
  | some connective => .ok connective
  | none => .error (.unknownConnective code)

/-- The truth of two conditions joined. -/
def join : Connective → Bool → Bool → Bool
  | and, a, b => a && b
  | or, a, b => a || b

theorem ofCode_code (connective : Connective) : ofCode connective.code = .ok connective := by
  cases connective <;> rfl

end Connective

end RecordQuery
