import RecordQuery.Number.Integer
import RecordQuery.Number.Power

/-!
# Exact decimal numbers

A decimal number is an integer coefficient with a number of fraction digits. It keeps the fraction
digits it was written with, so `1.50` and `1.5` are equal in value and differ as texts. Coefficients
have 96 bits and there are at most 28 fraction digits; a text that needs more is not read at all,
rather than rounded.
-/

namespace RecordQuery

/-- The number that coefficients are below, the power of two with exponent 96. -/
def Decimal.bound : Nat := 79228162514264337593543950336

/-- A decimal number `coefficient / 10 ^ scale`. -/
structure Decimal where
  coefficient : Int
  scale : Nat
  coefficient_lt : coefficient.natAbs < Decimal.bound
  scale_le : scale ≤ 28
  deriving DecidableEq

namespace Decimal

/-- The decimal number with these parts, if it is not too large and not too fine. -/
def make? (coefficient : Int) (scale : Nat) : Option Decimal :=
  if h : coefficient.natAbs < bound ∧ scale ≤ 28 then some ⟨coefficient, scale, h.1, h.2⟩ else none

/-- The order of two decimal numbers, whatever their scales. -/
def order (a b : Decimal) : Ordering :=
  compare (a.coefficient * pow10 b.scale) (b.coefficient * pow10 a.scale)

/-! ## Texts -/

/-- What has been read of the digits of a decimal number: the coefficient so far, the number of
fraction digits once the point has been met, and whether there was any digit. -/
structure Progress where
  coefficient : Nat
  scale : Option Nat
  started : Bool

/-- Reads one more character: a digit, the point if there was none, or an underscore after the
first digit, which separates digits and stands for nothing. After the last fraction digit that
there is room for, nothing may follow. -/
def Progress.next? (p : Progress) (c : Char) : Option Progress :=
  if p.scale = some 28 then none
  else if c = '.' then if p.scale.isNone then some { p with scale := some 0 } else none
  else if c = '_' then if p.started then some p else none
  else
    (Digit.ofChar? c).map fun d =>
      { coefficient := 10 * p.coefficient + d.val, scale := p.scale.map (· + 1), started := true }

/-- The decimal number that a text spells: an optional sign, then at least one digit, with at most
one point anywhere among them. -/
def ofText? (s : String) : Option Decimal := do
  let p ← (splitSign s.toList).2.foldlM Progress.next? ⟨0, none, false⟩
  if p.started then make? (signed (splitSign s.toList).1 p.coefficient) (p.scale.getD 0) else none

/-- The digits of the coefficient, with leading zeros so that one stands before the point. -/
def digits (d : Decimal) : List Digit :=
  let ds := Digits.ofNat d.coefficient.natAbs
  List.replicate (d.scale + 1 - ds.length) Digit.zero ++ ds

/-- A decimal number in positional notation with all its fraction digits. -/
def text (d : Decimal) : String :=
  let ds := d.digits
  let whole := ds.length - d.scale
  String.ofList ((if d.coefficient < 0 then ['-'] else []) ++ Digits.text (ds.take whole) ++
    (if d.scale = 0 then [] else '.' :: Digits.text (ds.drop whole)))

end Decimal

end RecordQuery
