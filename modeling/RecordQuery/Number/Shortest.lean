import RecordQuery.Number.Binary

/-!
# The shortest text of a floating-point number

A floating-point number is written with the fewest significant digits that read back as the same
number; among texts of that length with the one nearest to it, and of two equally near the larger.
A text reads back as a number if it lies between the midpoints to the two neighbours; a midpoint
itself counts if the rank of the number is even, because rounding goes to even ranks.
-/

namespace RecordQuery

namespace Format

variable (f : Format)

/-- Twice the units of the two midpoints between the number of a positive rank and its
neighbours. -/
def midpoints (rank : Nat) : Nat × Nat :=
  (f.units (rank - 1) + f.units rank, f.units rank + f.units (rank + 1))

/-- Whether `num / den` units read back as the number of a rank. -/
def readsBack (rank num den : Nat) : Bool :=
  let (low, high) := f.midpoints rank
  if rank % 2 = 0 then low * den ≤ 2 * num && 2 * num ≤ high * den
  else low * den < 2 * num && 2 * num < high * den

/-- The decimal exponent of the leading digit of the number of a positive rank. -/
def leadingExponent (rank : Nat) : Int :=
  let one := pow2 f.unitShift
  let u := f.units rank
  if one ≤ u then (Digits.ofNat (u / one)).length - 1
  else -((Digits.ofNat ((one + u - 1) / u - 1)).length : Int)

/-- The multiple of `10 ^ exponent` that reads back as the number of a rank and is nearest to it.
Only the two neighbours of the number on that grid need to be tried. -/
def onGrid? (rank : Nat) (exponent : Int) : Option Nat :=
  let up := pow10 exponent.toNat * pow2 f.unitShift
  let down := pow10 (-exponent).toNat
  let u := f.units rank * down
  let low := u / up
  let high := low + 1
  match f.readsBack rank (low * up) down, f.readsBack rank (high * up) down with
  | false, false => none
  | true, false => some low
  | false, true => some high
  | true, true => some (if u - low * up < high * up - u then low else high)

/-- The first grid that has a text of the number, going from `10 ^ exponent` to finer ones. -/
def shortestFrom (rank : Nat) : Nat → Int → Nat × Int
  | 0, exponent => (f.units rank * pow10 (-exponent).toNat / pow2 f.unitShift, exponent)
  | fuel + 1, exponent =>
    match f.onGrid? rank exponent with
    | some coefficient => (coefficient, exponent)
    | none => shortestFrom rank fuel (exponent - 1)

/-- The digits and the exponent of the shortest text of the number of a rank. Seventeen digits are
enough for each of the two formats. A number just below a power of ten may need only the digit of
that power. -/
def shortest (rank : Nat) : Nat × Int :=
  if rank = 0 then (0, 0)
  else
    match f.shortestFrom rank 17 (f.leadingExponent rank) with
    | (10, exponent) => (1, exponent + 1)
    | short => short

end Format

namespace Binary

variable {f : Format}

/-- The shortest scientific notation of a finite number. -/
def scientific? : Binary f → Option Scientific
  | nan => none
  | number negative rank =>
    if rank.val < f.infinity then
      let (coefficient, exponent) := f.shortest rank.val
      some ⟨negative, coefficient, exponent⟩
    else none

/-- A number in positional notation with the fewest digits that read back as it. -/
def text (x : Binary f) : String :=
  match x, x.scientific? with
  | _, some s => s.positional
  | nan, none => "NaN"
  | number negative _, none => if negative then "-inf" else "inf"

end Binary

end RecordQuery
