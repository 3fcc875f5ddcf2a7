/-!
# Powers of two and of ten

The bases of the number formats: binary numbers are counted in powers of two, decimal numbers in
powers of ten.
-/

namespace RecordQuery

/-- A power of two. -/
def pow2 (n : Nat) : Nat := Nat.pow 2 n

/-- A power of ten. -/
def pow10 (n : Nat) : Nat := Nat.pow 10 n

theorem pow10_succ (n : Nat) : pow10 (n + 1) = 10 * pow10 n := Nat.mul_comm _ _

theorem pow10_pos (n : Nat) : 0 < pow10 n := Nat.pow_pos (by decide)

end RecordQuery
