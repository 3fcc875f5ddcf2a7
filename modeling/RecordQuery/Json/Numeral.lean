import RecordQuery.Number.Scientific

/-!
# JSON numbers as they are spelled

A number of a JSON text is kept as it is spelled, with all its digits, so that reading one rounds
nothing. Only the exponent is brought to one form: a small `e`, always with a sign.

Results:
* `scan?_chars`: a number is read back from its own text, up to what follows it.
* `length_scan?`: scanning a number takes at least one character.
-/

namespace RecordQuery

/-- The exponent of a spelled number: a sign and at least one digit. -/
structure NumeralExponent where
  negative : Bool
  first : Digit
  rest : List Digit
  deriving DecidableEq, Repr

/-- A number as JSON spells it. The whole part has no leading zeros, so it is given by its value;
the digits of the fraction and of the exponent are kept. -/
structure Numeral where
  negative : Bool
  whole : Nat
  fraction : List Digit
  exponent : Option NumeralExponent
  deriving DecidableEq, Repr

namespace Numeral

/-! ## Texts -/

/-- The fraction digits with their point; nothing if there are none. -/
def fractionChars (fraction : List Digit) : List Char :=
  if fraction = [] then [] else '.' :: Digits.text fraction

/-- An exponent with its letter and its sign. -/
def exponentChars : Option NumeralExponent → List Char
  | none => []
  | some e => 'e' :: (if e.negative then '-' else '+') :: Digits.text (e.first :: e.rest)

/-- The text of a number. -/
def chars (n : Numeral) : List Char :=
  (if n.negative then ['-'] else []) ++ Digits.text (Digits.ofNat n.whole) ++
    fractionChars n.fraction ++ exponentChars n.exponent

/-- The text of a number. -/
def text (n : Numeral) : String := String.ofList n.chars

/-- The whole part of a number: one zero, or digits that do not start with zero. -/
def scanWhole? (cs : List Char) : Option (Nat × List Char) :=
  match Digits.scan cs with
  | ([], _) => none
  | (d :: ds, rest) =>
    if d = Digit.zero ∧ ds ≠ [] then none else some (Digits.value (d :: ds), rest)

/-- The fraction digits after a point, of which there must be one; none without a point. -/
def scanFraction? : List Char → Option (List Digit × List Char)
  | '.' :: cs =>
    match Digits.scan cs with
    | ([], _) => none
    | (d :: ds, rest) => some (d :: ds, rest)
  | cs => some ([], cs)

/-- The exponent after a letter `e`, which needs a digit; none without the letter. -/
def scanExponent? : List Char → Option (Option NumeralExponent × List Char)
  | [] => some (none, [])
  | c :: cs =>
    if c = 'e' ∨ c = 'E' then
      match Digits.scan (splitSign cs).2 with
      | ([], _) => none
      | (d :: ds, rest) => some (some ⟨(splitSign cs).1, d, ds⟩, rest)
    else some (none, c :: cs)

/-- The number without a sign at the front of a text, given the sign, and what follows it. -/
def scanUnsigned? (negative : Bool) (cs : List Char) : Option (Numeral × List Char) := do
  let (whole, cs) ← scanWhole? cs
  let (fraction, cs) ← scanFraction? cs
  let (exponent, cs) ← scanExponent? cs
  some (⟨negative, whole, fraction, exponent⟩, cs)

/-- The number at the front of a text, and what follows it. -/
def scan? : List Char → Option (Numeral × List Char)
  | '-' :: cs => scanUnsigned? true cs
  | cs => scanUnsigned? false cs

/-- The number that a whole text spells. -/
def ofText? (s : String) : Option Numeral :=
  match scan? s.toList with
  | some (n, []) => some n
  | _ => none

/-! ## Conversions -/

/-- An integer as JSON spells it. -/
def ofInt (n : Int) : Numeral := ⟨decide (n < 0), n.natAbs, [], none⟩

/-- The integer of 64 bits that a number is. One with a fraction or an exponent is none, nor is a
negative zero. -/
def toInt64? (n : Numeral) : Option Int64 :=
  let value := signed n.negative n.whole
  if n.fraction = [] ∧ n.exponent = none ∧ ¬(n.negative = true ∧ n.whole = 0) ∧
      Int64.minValue.toInt ≤ value ∧ value ≤ Int64.maxValue.toInt then
    some (Int64.ofInt value)
  else none

/-- The number in scientific notation. -/
def toScientific (n : Numeral) : Scientific :=
  let power := match n.exponent with
    | none => 0
    | some e => signed e.negative (Digits.value (e.first :: e.rest))
  ⟨n.negative, Digits.value (Digits.ofNat n.whole ++ n.fraction), power - n.fraction.length⟩

/-- The spelling of a number in scientific notation: positional, with at least one fraction digit,
if the leading digit stands from the sixteenth place before the point to the fifth after it, and
otherwise with one digit before the point and an exponent. -/
def ofScientific (x : Scientific) : Numeral :=
  let ds := Digits.ofNat x.coefficient
  let point := ds.length + x.exponent
  if 0 < point ∧ point ≤ 16 then
    let all := ds ++ List.replicate x.exponent.toNat Digit.zero
    let fraction := all.drop point.toNat
    ⟨x.negative, Digits.value (all.take point.toNat),
      if fraction = [] then [Digit.zero] else fraction, none⟩
  else if -5 < point ∧ point ≤ 0 then
    ⟨x.negative, 0, List.replicate (-point).toNat Digit.zero ++ ds, none⟩
  else
    let power := point - 1
    match Digits.ofNat power.natAbs with
    | [] => ⟨x.negative, 0, [Digit.zero], none⟩
    | p :: ps => ⟨x.negative, (ds.headD Digit.zero).val, ds.tail, some ⟨decide (power < 0), p, ps⟩⟩

/-! ## Reading back -/

/-- A text that no number can go on into: it starts neither with a digit nor with a point nor with
the letter of an exponent. -/
def Ends (rest : List Char) : Prop :=
  ∀ c cs, rest = c :: cs → Digit.ofChar? c = none ∧ c ≠ '.' ∧ c ≠ 'e' ∧ c ≠ 'E'

theorem ofNat_head (n : Nat) (d : Digit) (ds : List Digit) (h : Digits.ofNat n = d :: ds) :
    ¬(d = Digit.zero ∧ ds ≠ []) := by
  induction n using Nat.strongRecOn generalizing d ds with
  | ind n ih =>
    rw [Digits.ofNat] at h
    split at h
    · cases h; simp
    · next hn =>
      obtain ⟨e, es, he⟩ := List.exists_cons_of_ne_nil (Digits.ofNat_ne_nil (n / 10))
      rw [he, List.cons_append, List.cons.injEq] at h
      obtain ⟨rfl, rfl⟩ := h
      rintro ⟨rfl, -⟩
      have hlead := ih (n / 10) (by omega) Digit.zero es he
      have hes : es = [] := by simpa using hlead
      have := Digits.value_ofNat (n / 10)
      rw [he, hes] at this
      have hzero : Digits.value [Digit.zero] = 0 := rfl
      omega

theorem scanWhole?_chars (n : Nat) {rest : List Char}
    (h : ∀ c cs, rest = c :: cs → Digit.ofChar? c = none) :
    scanWhole? (Digits.text (Digits.ofNat n) ++ rest) = some (n, rest) := by
  rw [scanWhole?, Digits.scan_text _ h]
  obtain ⟨d, ds, hds⟩ := List.exists_cons_of_ne_nil (Digits.ofNat_ne_nil n)
  have hvalue : Digits.value (d :: ds) = n := by rw [← hds, Digits.value_ofNat]
  simp only [hds, ofNat_head n d ds hds, ↓reduceIte, hvalue]

theorem scanFraction?_chars (fraction : List Digit) {rest : List Char}
    (h : ∀ c cs, rest = c :: cs → Digit.ofChar? c = none ∧ c ≠ '.') :
    scanFraction? (fractionChars fraction ++ rest) = some (fraction, rest) := by
  cases fraction with
  | nil =>
    cases rest with
    | nil => rfl
    | cons c cs =>
      have hc := (h c cs rfl).2
      simp only [fractionChars, ↓reduceIte, List.nil_append]
      rw [scanFraction?.eq_2 _ (by simpa using hc)]
  | cons d ds =>
    have hs := @Digits.scan_text (d :: ds) rest fun c cs hr => (h c cs hr).1
    simp [fractionChars, scanFraction?, hs]

theorem scanExponent?_chars (exponent : Option NumeralExponent) {rest : List Char}
    (h : Ends rest) : scanExponent? (exponentChars exponent ++ rest) = some (exponent, rest) := by
  cases exponent with
  | none =>
    cases rest with
    | nil => rfl
    | cons c cs =>
      obtain ⟨-, -, he, hE⟩ := h c cs rfl
      simp [exponentChars, scanExponent?, he, hE]
  | some e =>
    have hs := @Digits.scan_text (e.first :: e.rest) rest fun c cs hr => (h c cs hr).1
    obtain ⟨negative, first, ds⟩ := e
    cases negative <;> simp_all [exponentChars, scanExponent?, splitSign]

theorem exponentChars_append_ends (exponent : Option NumeralExponent) {rest : List Char}
    (h : Ends rest) (c : Char) (cs : List Char) (hc : exponentChars exponent ++ rest = c :: cs) :
    Digit.ofChar? c = none ∧ c ≠ '.' := by
  cases exponent with
  | none =>
    obtain ⟨h1, h2, -, -⟩ := h c cs (by simpa [exponentChars] using hc)
    exact ⟨h1, h2⟩
  | some e =>
    simp only [exponentChars, List.cons_append, List.cons.injEq] at hc
    obtain ⟨rfl, -⟩ := hc
    decide

theorem scanUnsigned?_chars (negative : Bool) (whole : Nat) (fraction : List Digit)
    (exponent : Option NumeralExponent) {rest : List Char} (h : Ends rest) :
    scanUnsigned? negative (Digits.text (Digits.ofNat whole) ++
        (fractionChars fraction ++ (exponentChars exponent ++ rest))) =
      some (⟨negative, whole, fraction, exponent⟩, rest) := by
  have hexp := exponentChars_append_ends exponent h
  have hfrac : ∀ c cs, fractionChars fraction ++ (exponentChars exponent ++ rest) = c :: cs →
      Digit.ofChar? c = none := by
    intro c cs hc
    cases fraction with
    | nil => exact (hexp c cs (by simpa [fractionChars] using hc)).1
    | cons d ds =>
      simp only [fractionChars, List.cons_append, List.cons.injEq, reduceCtorEq,
        ↓reduceIte] at hc
      obtain ⟨rfl, -⟩ := hc
      decide
  simp only [scanUnsigned?, scanWhole?_chars whole hfrac, scanFraction?_chars fraction hexp,
    scanExponent?_chars exponent h, Option.bind_eq_bind, Option.bind_some]

theorem scan?_chars (n : Numeral) {rest : List Char} (h : Ends rest) :
    scan? (n.chars ++ rest) = some (n, rest) := by
  obtain ⟨negative, whole, fraction, exponent⟩ := n
  have hbody := scanUnsigned?_chars negative whole fraction exponent h
  cases negative with
  | true => simpa [chars, scan?] using hbody
  | false =>
    obtain ⟨d, ds, hds⟩ := List.exists_cons_of_ne_nil (Digits.ofNat_ne_nil whole)
    have hd : d.toChar ≠ '-' := (by decide : ∀ d : Digit, d.toChar ≠ '-') d
    simp only [chars, Bool.false_eq_true, ↓reduceIte, List.nil_append, List.append_assoc]
    rw [hds] at hbody ⊢
    rw [Digits.text, List.map_cons, List.cons_append] at hbody ⊢
    rw [scan?.eq_2 _ (by simpa using hd)]
    exact hbody

/-! ## What is taken of a text -/

theorem length_scanWhole? {cs rest : List Char} {n : Nat} (h : scanWhole? cs = some (n, rest)) :
    rest.length < cs.length := by
  rw [scanWhole?] at h
  have hlen := congrArg List.length (Digits.text_scan cs)
  split at h
  · cases h
  · next d ds more heq =>
    split at h
    · cases h
    · cases h
      simp only [heq, Digits.text, List.length_append, List.length_map, List.length_cons] at hlen
      omega

theorem length_scanFraction? {cs rest : List Char} {ds : List Digit}
    (h : scanFraction? cs = some (ds, rest)) : rest.length ≤ cs.length := by
  rw [scanFraction?.eq_def] at h
  split at h
  · next cs =>
    have hlen := Digits.length_scan_le cs
    split at h
    · cases h
    · next heq =>
      cases h
      simp only [heq] at hlen
      simp only [List.length_cons]
      omega
  · cases h; exact Nat.le_refl _

theorem length_splitSign_le (cs : List Char) : (splitSign cs).2.length ≤ cs.length := by
  unfold splitSign
  split <;> simp

theorem length_scanExponent? {cs rest : List Char} {e : Option NumeralExponent}
    (h : scanExponent? cs = some (e, rest)) : rest.length ≤ cs.length := by
  cases cs with
  | nil => cases h; exact Nat.le_refl _
  | cons c cs =>
    rw [scanExponent?] at h
    have hlen := Digits.length_scan_le (splitSign cs).2
    have hsign := length_splitSign_le cs
    split at h
    · split at h
      · cases h
      · next heq =>
        cases h
        simp only [heq] at hlen
        simp only [List.length_cons]
        omega
    · cases h; exact Nat.le_refl _

theorem length_scanUnsigned? {negative : Bool} {cs rest : List Char} {n : Numeral}
    (h : scanUnsigned? negative cs = some (n, rest)) : rest.length < cs.length := by
  simp only [scanUnsigned?, Option.bind_eq_bind, Option.bind_eq_some_iff] at h
  obtain ⟨⟨whole, afterWhole⟩, hw, ⟨fraction, afterFraction⟩, hf, ⟨e, afterExponent⟩, he, heq⟩ := h
  cases heq
  have hlenWhole := length_scanWhole? hw
  have hlenFraction := length_scanFraction? hf
  have hlenExponent := length_scanExponent? he
  simp only at hlenWhole hlenFraction hlenExponent ⊢
  omega

theorem length_scan? {cs rest : List Char} {n : Numeral} (h : scan? cs = some (n, rest)) :
    rest.length < cs.length := by
  rw [scan?.eq_def] at h
  split at h
  · have := length_scanUnsigned? h
    simp only [List.length_cons]
    omega
  · exact length_scanUnsigned? h

end Numeral

end RecordQuery
