import RecordQuery.Number.Digits

/-!
# Integers as text

An integer is written in decimal after an optional sign. Members are integers of 32 or 64 bits,
and a number outside the range of its width is not read at all, rather than wrapped.

Results:
* `ofText?_text`: an integer is read back from its own text.
* `toInt_int32OfText?`, `toInt_int64OfText?`: a bounded integer is the one the text spells.
-/

namespace RecordQuery

/-- Splits an optional sign from the front of a text: whether it is a minus, and the rest. -/
def splitSign : List Char → Bool × List Char
  | '-' :: cs => (true, cs)
  | '+' :: cs => (false, cs)
  | cs => (false, cs)

/-- A magnitude with its sign. -/
def signed (negative : Bool) (n : Nat) : Int := if negative then -(n : Int) else n

namespace Integer

/-- The integer that a text spells: an optional sign, then digits and nothing else. -/
def ofText? (s : String) : Option Int :=
  match Digits.scan (splitSign s.toList).2 with
  | ([], _) => none
  | (d :: ds, []) => some (signed (splitSign s.toList).1 (Digits.value (d :: ds)))
  | (_ :: _, _ :: _) => none

/-- An integer in decimal, with a sign only if it is negative. -/
def text (n : Int) : String :=
  String.ofList ((if n < 0 then ['-'] else []) ++ Digits.text (Digits.ofNat n.natAbs))

/-- The integer of 32 bits that a text spells. -/
def int32OfText? (s : String) : Option Int32 :=
  (ofText? s).bind fun n =>
    if Int32.minValue.toInt ≤ n ∧ n ≤ Int32.maxValue.toInt then some (Int32.ofInt n) else none

/-- The integer of 64 bits that a text spells. -/
def int64OfText? (s : String) : Option Int64 :=
  (ofText? s).bind fun n =>
    if Int64.minValue.toInt ≤ n ∧ n ≤ Int64.maxValue.toInt then some (Int64.ofInt n) else none

theorem splitSign_of_digit (d : Digit) (cs : List Char) :
    splitSign (d.toChar :: cs) = (false, d.toChar :: cs) := by
  have hm : d.toChar ≠ '-' := by revert d; decide
  have hp : d.toChar ≠ '+' := by revert d; decide
  simp [splitSign, hm, hp]

theorem toInt_int32OfText? {s : String} {n : Int32} (h : int32OfText? s = some n) :
    ofText? s = some n.toInt := by
  obtain ⟨i, hi, hn⟩ := Option.bind_eq_some_iff.1 h
  split at hn
  · next hr =>
    cases hn
    have hmin : Int32.minValue.toInt = -2147483648 := rfl
    have hmax : Int32.maxValue.toInt = 2147483647 := rfl
    rw [hi, Int32.toInt_ofInt_of_le (by omega) (by omega)]
  · simp at hn

theorem toInt_int64OfText? {s : String} {n : Int64} (h : int64OfText? s = some n) :
    ofText? s = some n.toInt := by
  obtain ⟨i, hi, hn⟩ := Option.bind_eq_some_iff.1 h
  split at hn
  · next hr =>
    cases hn
    have hmin : Int64.minValue.toInt = -9223372036854775808 := rfl
    have hmax : Int64.maxValue.toInt = 9223372036854775807 := rfl
    rw [hi, Int64.toInt_ofInt_of_le (by omega) (by omega)]
  · simp at hn

end Integer

end RecordQuery
