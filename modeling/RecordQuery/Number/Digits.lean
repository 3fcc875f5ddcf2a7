/-!
# Decimal digits

Numbers are read from and written as runs of the ten ASCII digits.

Results:
* `value_ofNat`: the digits of a number have its value.
* `scan_text`: scanning takes a written run of digits back, up to what follows it.
-/

namespace RecordQuery

/-- A decimal digit. -/
abbrev Digit := Fin 10

namespace Digit

/-- The digit of zero. -/
def zero : Digit := ⟨0, by decide⟩

/-- The character of a digit. -/
def toChar (d : Digit) : Char := Char.ofNat (48 + d.val)

/-- The digit that a character stands for. Digits of other scripts stand for none. -/
def ofChar? (c : Char) : Option Digit :=
  if h : 48 ≤ c.toNat ∧ c.toNat ≤ 57 then some ⟨c.toNat - 48, by omega⟩ else none

@[simp] theorem ofChar?_toChar (d : Digit) : ofChar? d.toChar = some d := by
  revert d; decide

end Digit

namespace Digits

/-- The number that a run of digits denotes; the empty run denotes zero. -/
def value (ds : List Digit) : Nat := ds.foldl (fun n d => 10 * n + d.val) 0

/-- The digits of a number, without leading zeros. -/
def ofNat (n : Nat) : List Digit :=
  if h : n < 10 then [⟨n, h⟩] else ofNat (n / 10) ++ [⟨n % 10, Nat.mod_lt n (by decide)⟩]

/-- A run of digits as characters. -/
def text (ds : List Digit) : List Char := ds.map Digit.toChar

/-- The longest run of digits at the front of a text, and what follows it. -/
def scan : List Char → List Digit × List Char
  | [] => ([], [])
  | c :: cs =>
    match Digit.ofChar? c with
    | none => ([], c :: cs)
    | some d => (d :: (scan cs).1, (scan cs).2)

/-- The longest run of at most `limit` digits at the front of a text, and what follows it. -/
def scanAtMost (limit : Nat) (cs : List Char) : List Digit × List Char :=
  match limit, cs with
  | 0, cs => ([], cs)
  | _, [] => ([], [])
  | limit + 1, c :: cs =>
    match Digit.ofChar? c with
    | none => ([], c :: cs)
    | some d => (d :: (scanAtMost limit cs).1, (scanAtMost limit cs).2)

@[simp] theorem value_nil : value [] = 0 := rfl

theorem value_concat (ds : List Digit) (d : Digit) :
    value (ds ++ [d]) = 10 * value ds + d.val := by
  simp [value]

theorem value_ofNat (n : Nat) : value (ofNat n) = n := by
  induction n using Nat.strongRecOn with
  | ind n ih =>
    rw [ofNat]
    split
    · simp [value]
    · rw [value_concat, ih (n / 10) (by omega)]
      simp only
      omega

theorem ofNat_ne_nil (n : Nat) : ofNat n ≠ [] := by
  rw [ofNat]; split <;> simp

theorem scan_text (ds : List Digit) {rest : List Char}
    (h : ∀ c cs, rest = c :: cs → Digit.ofChar? c = none) :
    scan (text ds ++ rest) = (ds, rest) := by
  induction ds with
  | nil =>
    cases rest with
    | nil => rfl
    | cons c cs => simp [text, scan, h c cs rfl]
  | cons d ds ih =>
    rw [text, List.map_cons, List.cons_append, scan, Digit.ofChar?_toChar]
    rw [text] at ih
    simp [ih]

/-- Scanning loses nothing. -/
theorem text_scan (cs : List Char) : text (scan cs).1 ++ (scan cs).2 = cs := by
  induction cs with
  | nil => rfl
  | cons c cs ih =>
    rw [scan]
    cases h : Digit.ofChar? c with
    | none => rfl
    | some d =>
      have hc : d.toChar = c := by
        unfold Digit.ofChar? at h
        split at h
        · next hr =>
          cases h
          simp only [Digit.toChar]
          rw [show 48 + (c.toNat - 48) = c.toNat by omega, Char.ofNat_toNat]
        · simp at h
      simpa [text, hc] using ih

theorem length_scan_le (cs : List Char) : (scan cs).2.length ≤ cs.length := by
  have := congrArg List.length (text_scan cs)
  simp only [List.length_append] at this
  omega

end Digits

end RecordQuery
