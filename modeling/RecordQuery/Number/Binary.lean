import RecordQuery.Number.Power
import RecordQuery.Number.Scientific

/-!
# Binary floating-point numbers

Numbers of the IEEE 754 interchange formats, held by sign and *rank*: the rank of a non-negative
number is its position among the non-negative numbers of the format, so zero has rank 0, the least
positive number rank 1, and infinity comes last. The rank is the bit pattern without the sign.

Every finite number is a whole number of *units*, the least positive number of the format, which
makes rounding exact arithmetic on natural numbers.

Results:
* `order?_eq_none_iff`: only NaN cannot be compared.
-/

namespace RecordQuery

/-- A binary interchange format: how many bits hold the fraction and the exponent. -/
structure Format where
  fractionBits : Nat
  exponentBits : Nat

namespace Format

/-- The format of 32 bits. -/
def single : Format := ⟨23, 8⟩

/-- The format of 64 bits. -/
def double : Format := ⟨52, 11⟩

variable (f : Format)

/-- The rank of infinity. -/
def infinity : Nat := (pow2 f.exponentBits - 1) * pow2 f.fractionBits

/-- One is `2 ^ unitShift` units. -/
def unitShift : Nat := pow2 (f.exponentBits - 1) - 2 + f.fractionBits

/-- The number of units that the number of a rank amounts to. For infinity it is the amount at which
the next number would stand if the format had one. -/
def units (rank : Nat) : Nat :=
  let step := pow2 f.fractionBits
  if rank < step then rank else (step + rank % step) * pow2 (rank / step - 1)

/-- The whole number nearest to `num / den`; of two equally near, the even one. -/
def nearestWhole (num den : Nat) : Nat :=
  let q := num / den
  let r := num % den
  if 2 * r < den then q else if den < 2 * r then q + 1 else q + q % 2

/-- The rank of the number nearest to `num / den` units; of two equally near, the one of even rank.
From halfway past the greatest finite number on, that is infinity. -/
def nearestRank (num den : Nat) : Fin (f.infinity + 1) :=
  let shift := (num / den).log2 - f.fractionBits
  let rank := shift * pow2 f.fractionBits + nearestWhole num (den * pow2 shift)
  ⟨min rank f.infinity, by omega⟩

/-- The rank of the number nearest to `coefficient · 10 ^ exponent`. Powers of ten beyond the reach
of the format are settled without being computed. -/
def rankOfDecimal (coefficient : Nat) (exponent : Int) : Fin (f.infinity + 1) :=
  let magnitude := (Digits.ofNat coefficient).length + exponent
  if coefficient = 0 then 0
  else if magnitude > pow2 f.exponentBits then Fin.last f.infinity
  else if magnitude < -(pow2 f.exponentBits + f.fractionBits : Int) then 0
  else
    f.nearestRank (coefficient * pow10 exponent.toNat * pow2 f.unitShift) (pow10 (-exponent).toNat)

end Format

/-- A number of a binary format. -/
inductive Binary (f : Format) where
  | nan
  | number (negative : Bool) (rank : Fin (f.infinity + 1))
  deriving DecidableEq

namespace Binary

variable {f : Format}

/-- Whether a number is neither infinite nor NaN. -/
def isFinite : Binary f → Bool
  | nan => false
  | number _ rank => rank.val < f.infinity

/-- The place of a number in the order of the format. Both zeros have the same. -/
def place? : Binary f → Option Int
  | nan => none
  | number negative rank => some (signed negative rank.val)

/-- The order of two numbers; NaN has none. -/
def order? (a b : Binary f) : Option Ordering := do
  let x ← a.place?
  let y ← b.place?
  some (compare x y)

/-- The number nearest to the one in scientific notation. -/
def ofScientific (x : Scientific) : Binary f :=
  number x.negative (f.rankOfDecimal x.coefficient x.exponent)

/-- The number nearest to the one that a text spells, unless it is out of the range of the
format. -/
def ofText? (s : String) : Option (Binary f) :=
  ((Scientific.ofText? s).map ofScientific).filter isFinite

/-- The nearest number of another format. -/
def convert (g : Format) : Binary f → Binary g
  | nan => nan
  | number negative rank =>
    number negative <|
      if rank.val < f.infinity then
        g.nearestRank (f.units rank.val * pow2 g.unitShift) (pow2 f.unitShift)
      else Fin.last g.infinity

/-- The whole number nearest to a finite number; of two equally near, the one farther from zero. -/
def round? : Binary f → Option Int
  | nan => none
  | number negative rank =>
    let one := pow2 f.unitShift
    if rank.val < f.infinity then some (signed negative ((2 * f.units rank.val + one) / (2 * one)))
    else none

theorem order?_eq_none_iff {a b : Binary f} : a.order? b = none ↔ a = nan ∨ b = nan := by
  cases a <;> cases b <;> simp [order?, place?]

theorem isFinite_of_ofText? {s : String} {a : Binary f} (h : ofText? s = some a) :
    a.isFinite = true :=
  (Option.filter_eq_some_iff.1 h).2

end Binary

end RecordQuery
