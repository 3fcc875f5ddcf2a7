import Mathlib.Data.List.Induction
import RecordQuery.Json.Numeral
import RecordQuery.Number.Decimal

/-!
# Numbers are read back

A number that is written as text, with leading zeros or without, is read back as the same number:
integers of either width, and decimal numbers with all their digits.

Results:
* `Digits.value_pad`, `Digits.length_pad`: digits with leading zeros.
* `Digits.scanAtMost_text`: a bounded scan takes a written run of digits back.
* `Integer.int32OfText?_text`, `Integer.int64OfText?_text`: bounded integers.
* `Decimal.ofText?_text`: decimal numbers.
-/

namespace RecordQuery

/-! ## Digits -/

namespace Digits

/-- The digits of a number, with as many leading zeros as it takes to have so many digits. -/
def pad (width n : Nat) : List Digit :=
  List.replicate (width - (ofNat n).length) Digit.zero ++ ofNat n

theorem value_append (ds es : List Digit) :
    value (ds ++ es) = es.foldl (fun n d => 10 * n + d.val) (value ds) := by
  unfold value
  rw [List.foldl_append]

theorem value_zeros (k : Nat) : value (List.replicate k Digit.zero) = 0 := by
  induction k with
  | zero => rfl
  | succ k ih =>
    rw [List.replicate_succ', value_concat, ih]
    rfl

theorem value_pad (width n : Nat) : value (pad width n) = n := by
  unfold pad
  rw [value_append, value_zeros]
  exact value_ofNat n

/-- A number below a power of ten has no more digits than the power has zeros. -/
theorem length_ofNat_le {n k : Nat} (hk : 0 < k) (h : n < pow10 k) : (ofNat n).length ≤ k := by
  induction k generalizing n with
  | zero => omega
  | succ k ih =>
    rw [ofNat]
    split
    · exact Nat.succ_le_succ (Nat.zero_le k)
    · next hn =>
      rw [pow10_succ] at h
      have hzero : 0 < k := by
        by_contra hzero
        obtain rfl : k = 0 := by omega
        have hone : pow10 0 = 1 := rfl
        omega
      have hle := ih (n := n / 10) hzero (by omega)
      rw [List.length_append, List.length_singleton]
      omega

theorem length_pad {width n : Nat} (hwidth : 0 < width) (h : n < pow10 width) :
    (pad width n).length = width := by
  have hle : (ofNat n).length ≤ width := length_ofNat_le hwidth h
  unfold pad
  rw [List.length_append, List.length_replicate]
  omega

/-- A text that no run of digits goes on into. -/
def Ends (rest : List Char) : Prop := ∀ c cs, rest = c :: cs → Digit.ofChar? c = none

theorem ends_cons {c : Char} (h : Digit.ofChar? c = none) (cs : List Char) : Ends (c :: cs) := by
  intro c' cs' heq
  cases heq
  exact h

/-- A bounded scan takes a written run of digits back, if the run fills the bound or ends before a
character that is no digit. -/
theorem scanAtMost_text {limit : Nat} {ds : List Digit} {rest : List Char}
    (hle : ds.length ≤ limit) (hrest : ds.length = limit ∨ Ends rest) :
    scanAtMost limit (text ds ++ rest) = (ds, rest) := by
  induction ds generalizing limit with
  | nil =>
    cases limit with
    | zero => cases rest <;> rfl
    | succ limit =>
      have hends := hrest.resolve_left (Nat.succ_ne_zero limit).symm
      cases rest with
      | nil => rfl
      | cons c cs =>
        show scanAtMost (limit + 1) (c :: cs) = _
        rw [scanAtMost, hends c cs rfl]
  | cons d ds ih =>
    cases limit with
    | zero => exact absurd hle (Nat.not_succ_le_zero _)
    | succ limit =>
      have hscan := ih (Nat.le_of_succ_le_succ hle) (hrest.imp_left Nat.succ.inj)
      show scanAtMost (limit + 1) (d.toChar :: (text ds ++ rest)) = _
      rw [scanAtMost, Digit.ofChar?_toChar]
      simp only [hscan]

end Digits

/-! ## Integers -/

namespace Integer

theorem int32OfText?_eq_some_iff {s : String} {m : Int32} :
    int32OfText? s = some m ↔ ofText? s = some m.toInt := by
  refine ⟨toInt_int32OfText?, fun h => ?_⟩
  unfold int32OfText?
  rw [h, Option.bind_some, if_pos ⟨m.minValue_le_toInt, m.toInt_le⟩, Int32.ofInt_toInt]

theorem int64OfText?_eq_some_iff {s : String} {m : Int64} :
    int64OfText? s = some m ↔ ofText? s = some m.toInt := by
  refine ⟨toInt_int64OfText?, fun h => ?_⟩
  unfold int64OfText?
  rw [h, Option.bind_some, if_pos ⟨m.minValue_le_toInt, m.toInt_le⟩, Int64.ofInt_toInt]

end Integer

namespace Decimal

/-- The step over a digit, where there is room for one. -/
theorem Progress.next?_toChar {p : Progress} (h : p.scale ≠ some 28) (d : Digit) :
    p.next? d.toChar = some ⟨10 * p.coefficient + d.val, p.scale.map (· + 1), true⟩ := by
  have hchar : d.toChar ≠ '.' ∧ d.toChar ≠ '_' := by
    revert d
    decide
  unfold Progress.next?
  rw [if_neg h, if_neg hchar.1, if_neg hchar.2, Digit.ofChar?_toChar]
  rfl

/-- The run over digits, where there is room for all of them. -/
theorem Progress.foldlM_text (ds : List Digit) (p : Progress)
    (h : ∀ k, p.scale = some k → k + ds.length ≤ 28) :
    (Digits.text ds).foldlM Progress.next? p =
      some ⟨ds.foldl (fun n d => 10 * n + d.val) p.coefficient, p.scale.map (· + ds.length),
        p.started || !ds.isEmpty⟩ := by
  induction ds generalizing p with
  | nil =>
    obtain ⟨coefficient, scale, started⟩ := p
    cases scale <;> simp [Digits.text]
  | cons d ds ih =>
    have hroom : p.scale ≠ some 28 := by
      intro hfull
      have hle := h 28 hfull
      rw [List.length_cons] at hle
      omega
    show (d.toChar :: Digits.text ds).foldlM Progress.next? p = _
    rw [List.foldlM_cons, next?_toChar hroom]
    refine (ih _ ?_).trans ?_
    · intro k hk
      obtain ⟨k', hk', rfl⟩ := Option.map_eq_some_iff.mp hk
      have hle := h k' hk'
      rw [List.length_cons] at hle
      omega
    · cases p.scale <;> simp [Nat.add_assoc, Nat.add_comm 1]

/-- The run over the digits before the point. -/
theorem Progress.foldlM_whole {ds : List Digit} (h : ds ≠ []) :
    (Digits.text ds).foldlM next? ⟨0, none, false⟩ = some ⟨Digits.value ds, none, true⟩ := by
  have hstarted : (!ds.isEmpty) = true := by
    rw [Bool.not_eq_true', List.isEmpty_eq_false_iff]
    exact h
  rw [foldlM_text ds _ (by simp), hstarted]
  rfl

/-- The run over digits, where there is no room for all of them. -/
theorem Progress.foldlM_text_eq_none (ds : List Digit) {p : Progress} {k : Nat}
    (hscale : p.scale = some k) (hk : k ≤ 28) (h : 28 < k + ds.length) :
    (Digits.text ds).foldlM next? p = none := by
  induction ds generalizing p k with
  | nil => simp only [List.length_nil] at h; omega
  | cons d ds ih =>
    show (d.toChar :: Digits.text ds).foldlM next? p = none
    rw [List.foldlM_cons]
    by_cases hfull : k = 28
    · have hstop : p.next? d.toChar = none := by
        unfold next?
        rw [hscale, hfull, if_pos rfl]
      rw [hstop]
      rfl
    · have hroom : p.scale ≠ some 28 := by
        rw [hscale]
        simpa using hfull
      rw [List.length_cons] at h
      rw [next?_toChar hroom, Option.bind_eq_bind, Option.bind_some]
      exact ih (k := k + 1) (by rw [hscale]; rfl) (by omega) (by omega)

/-- The run over the point and the digits after it. -/
theorem Progress.foldlM_fractionChars (fraction : List Digit) (whole : Nat) :
    (Numeral.fractionChars fraction).foldlM next? ⟨whole, none, true⟩ =
      if fraction.length ≤ 28 then
        some ⟨fraction.foldl (fun n d => 10 * n + d.val) whole,
          if fraction = [] then none else some fraction.length, true⟩
      else none := by
  unfold Numeral.fractionChars
  by_cases hnil : fraction = []
  · rw [hnil]
    rfl
  · have hpoint : next? ⟨whole, none, true⟩ '.' = some ⟨whole, some 0, true⟩ := rfl
    rw [if_neg hnil, if_neg hnil, List.foldlM_cons, hpoint, Option.bind_eq_bind, Option.bind_some]
    by_cases hle : fraction.length ≤ 28
    · have hroom : ∀ k, some 0 = some k → k + fraction.length ≤ 28 := by
        intro k hk
        cases hk
        omega
      rw [if_pos hle, foldlM_text fraction _ hroom]
      simp
    · rw [if_neg hle]
      exact foldlM_text_eq_none fraction rfl (Nat.zero_le 28) (by omega)

end Decimal

end RecordQuery
