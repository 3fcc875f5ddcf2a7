import Mathlib.Algebra.Field.Rat
import Mathlib.Tactic.FieldSimp
import Mathlib.Tactic.NormNum
import Mathlib.Tactic.Ring
import RecordQuery.Proofs.Filters.TypeSoundness
import RecordQuery.Proofs.Literals.Numbers
import RecordQuery.Request.Basic

/-!
# Numbers are compared exactly

A JSON number that a filter compares an integer or a decimal number with is kept as it is spelled
until it is read as a value of the type of the member. What it is read as is exactly the rational
number that it spells. A number that the type has no value for is refused; none is rounded to a
value nearby, or wrapped around to one.

Results:
* `Integer.ofText?_numeral`, `Decimal.ofText?_numeral`: what the text of a JSON number is read as.
* `spelledBy_of_ofLiteral?`: what is read of a JSON number is what it spells.
* `isSome_ofLiteral?_iff`: the JSON numbers that a type has a value for.
* `ofFilter_number`: what a filter with a JSON number compiles to.
-/

namespace RecordQuery

/-! ## Rational values -/

theorem Digits.value_append_eq (ds es : List Digit) :
    value (ds ++ es) = value ds * 10 ^ es.length + value es := by
  induction es using List.reverseRecOn with
  | nil => simp
  | append_singleton es e ih =>
    rw [← List.append_assoc, value_concat, value_concat, ih, List.length_append,
      List.length_singleton, pow_succ]
    ring

namespace Numeral

/-- The power of ten that the digits of a JSON number are multiplied by. -/
def power (n : Numeral) : ℤ :=
  match n.exponent with
  | none => 0
  | some e => signed e.negative (Digits.value (e.first :: e.rest))

/-- The rational number that a JSON number spells. -/
def toRat (n : Numeral) : ℚ :=
  (if n.negative then -1 else 1) *
    (n.whole + Digits.value n.fraction / 10 ^ n.fraction.length) * 10 ^ n.power

/-- The digits of a JSON number up to its exponent, without the point, as one number. -/
def coefficient (n : Numeral) : ℕ := Digits.value (Digits.ofNat n.whole ++ n.fraction)

theorem coefficient_eq (n : Numeral) :
    n.coefficient = n.whole * 10 ^ n.fraction.length + Digits.value n.fraction := by
  unfold coefficient
  rw [Digits.value_append_eq, Digits.value_ofNat]

theorem cast_signed (negative : Bool) (k : ℕ) :
    ((signed negative k : ℤ) : ℚ) = (if negative then -1 else 1) * k := by
  unfold signed
  cases negative <;> simp

/-- Without an exponent, a JSON number is a fraction of its digits. -/
theorem toRat_of_exponent_eq_none {n : Numeral} (h : n.exponent = none) :
    n.toRat = (signed n.negative n.coefficient : ℤ) / 10 ^ n.fraction.length := by
  have hpower : n.power = 0 := by
    unfold power
    rw [h]
  have hpos : (10 : ℚ) ^ n.fraction.length ≠ 0 := by positivity
  rw [cast_signed, coefficient_eq, toRat, hpower, zpow_zero, mul_one]
  push_cast
  field_simp

theorem toRat_of_integer {n : Numeral} (hfraction : n.fraction = []) (hexponent : n.exponent = none) :
    n.toRat = (signed n.negative n.whole : ℤ) := by
  rw [toRat_of_exponent_eq_none hexponent, coefficient_eq, hfraction]
  simp

/-! ## The text of a number -/

/-- What follows the whole digits of a JSON number: its fraction and its exponent. -/
def tailChars (n : Numeral) : List Char := fractionChars n.fraction ++ exponentChars n.exponent

theorem tailChars_eq_nil_iff {n : Numeral} :
    n.tailChars = [] ↔ n.fraction = [] ∧ n.exponent = none := by
  obtain ⟨negative, whole, fraction, exponent⟩ := n
  cases fraction <;> cases exponent <;> simp [tailChars, fractionChars, exponentChars]

theorem ends_tailChars (n : Numeral) : Digits.Ends n.tailChars := by
  obtain ⟨negative, whole, fraction, exponent⟩ := n
  cases fraction with
  | cons d ds => exact Digits.ends_cons (by decide) _
  | nil =>
    cases exponent with
    | some e => exact Digits.ends_cons (by decide) _
    | none => exact fun c cs h => by cases h

/-- A JSON number starts with a digit, if not with a minus, and never with a plus. -/
theorem splitSign_text (n : Numeral) : splitSign n.text.toList =
    (n.negative, Digits.text (Digits.ofNat n.whole) ++ n.tailChars) := by
  obtain ⟨first, more, hwhole⟩ := List.exists_cons_of_ne_nil (Digits.ofNat_ne_nil n.whole)
  have htext : n.text.toList = (if n.negative then ['-'] else []) ++
      (Digits.text (Digits.ofNat n.whole) ++ n.tailChars) := by
    unfold text chars tailChars
    rw [String.toList_ofList, List.append_assoc, List.append_assoc]
  rw [htext, hwhole]
  cases n.negative with
  | true => rfl
  | false => exact Integer.splitSign_of_digit first _

theorem text_ne_empty (n : Numeral) : n.text ≠ "" := by
  intro hempty
  have hsplit := congrArg Prod.snd n.splitSign_text
  rw [hempty] at hsplit
  have hnil : Digits.text (Digits.ofNat n.whole) = [] :=
    (List.append_eq_nil_iff.mp hsplit.symm).1
  exact Digits.ofNat_ne_nil n.whole (List.map_eq_nil_iff.mp hnil)

end Numeral

/-! ## What the text is read as -/

/-- A JSON number is read as an integer if it is written as one. -/
theorem Integer.ofText?_numeral (n : Numeral) : ofText? n.text =
    if n.fraction = [] ∧ n.exponent = none then some (signed n.negative n.whole) else none := by
  obtain ⟨d, ds, hwhole⟩ := List.exists_cons_of_ne_nil (Digits.ofNat_ne_nil n.whole)
  have hvalue : Digits.value (d :: ds) = n.whole := by rw [← hwhole, Digits.value_ofNat]
  have hscan := Digits.scan_text (d :: ds) n.ends_tailChars
  unfold ofText?
  simp only [n.splitSign_text, hwhole, hscan]
  by_cases htail : n.tailChars = []
  · rw [htail, if_pos (Numeral.tailChars_eq_nil_iff.mp htail)]
    simp only [hvalue]
  · obtain ⟨c, cs, hcons⟩ := List.exists_cons_of_ne_nil htail
    rw [hcons, if_neg (mt Numeral.tailChars_eq_nil_iff.mpr htail)]

namespace Decimal

/-- No exponent is read. -/
theorem Progress.next?_exponent (p : Progress) : p.next? 'e' = none := by
  unfold next?
  split
  · rfl
  · rfl

/-- A JSON number is read as a decimal number if it is written without an exponent, and if there is
room for all its digits. -/
theorem ofText?_numeral (n : Numeral) : ofText? n.text =
    if n.exponent = none then make? (signed n.negative n.coefficient) n.fraction.length
    else none := by
  have hcoefficient : n.fraction.foldl (fun n d => 10 * n + d.val)
      (Digits.value (Digits.ofNat n.whole)) = n.coefficient :=
    (Digits.value_append _ _).symm
  have hscale : (if n.fraction = [] then none else some n.fraction.length).getD 0 =
      n.fraction.length := by
    cases n.fraction <;> rfl
  unfold ofText?
  simp only [n.splitSign_text, Numeral.tailChars, List.foldlM_append,
    Progress.foldlM_whole (Digits.ofNat_ne_nil n.whole), Progress.foldlM_fractionChars, hcoefficient,
    Option.bind_eq_bind, Option.bind_some]
  cases hexponent : n.exponent with
  | some e =>
    have hstop : ∀ p, (Numeral.exponentChars (some e)).foldlM Progress.next? p = none := by
      intro p
      rw [Numeral.exponentChars, List.foldlM_cons, Progress.next?_exponent]
      rfl
    simp [hstop]
  | none =>
    rw [if_pos rfl]
    by_cases hle : n.fraction.length ≤ 28
    · simp [if_pos hle, Numeral.exponentChars, hscale]
    · rw [if_neg hle, make?, dif_neg fun h => hle h.2]
      rfl

end Decimal

/-! ## Integers of either width -/

namespace Integer

theorem ofText?_numeral_eq_some_iff {n : Numeral} {i : ℤ} : ofText? n.text = some i ↔
    (n.fraction = [] ∧ n.exponent = none) ∧ signed n.negative n.whole = i := by
  rw [ofText?_numeral, Option.ite_none_right_eq_some, Option.some.injEq]

/-- An integer that is read is what the JSON number spells. -/
theorem toRat_eq_of_ofText? {n : Numeral} {i : ℤ} (h : ofText? n.text = some i) : n.toRat = i := by
  obtain ⟨⟨hfraction, hexponent⟩, rfl⟩ := ofText?_numeral_eq_some_iff.mp h
  exact Numeral.toRat_of_integer hfraction hexponent

theorem exists_int32_iff {i : ℤ} : (∃ m : Int32, i = m.toInt) ↔ -2 ^ 31 ≤ i ∧ i < 2 ^ 31 := by
  constructor
  · rintro ⟨m, rfl⟩
    exact ⟨m.le_toInt, m.toInt_lt⟩
  · rintro ⟨hle, hlt⟩
    exact ⟨Int32.ofInt i, (Int32.toInt_ofInt_of_le hle hlt).symm⟩

theorem exists_int64_iff {i : ℤ} : (∃ m : Int64, i = m.toInt) ↔ -2 ^ 63 ≤ i ∧ i < 2 ^ 63 := by
  constructor
  · rintro ⟨m, rfl⟩
    exact ⟨m.le_toInt, m.toInt_lt⟩
  · rintro ⟨hle, hlt⟩
    exact ⟨Int64.ofInt i, (Int64.toInt_ofInt_of_le hle hlt).symm⟩

end Integer

theorem natAbs_signed (negative : Bool) (k : ℕ) : (signed negative k).natAbs = k := by
  cases negative <;> simp [signed]

theorem Decimal.make?_eq_some_iff {coefficient : ℤ} {scale : ℕ} {d : Decimal} :
    make? coefficient scale = some d ↔ d.coefficient = coefficient ∧ d.scale = scale := by
  unfold make?
  constructor
  · intro h
    split at h
    · cases h
      exact ⟨rfl, rfl⟩
    · cases h
  · rintro ⟨rfl, rfl⟩
    exact dif_pos ⟨d.coefficient_lt, d.scale_le⟩

theorem Decimal.ofText?_numeral_eq_some_iff {n : Numeral} {d : Decimal} : ofText? n.text = some d ↔
    n.exponent = none ∧ d.coefficient = signed n.negative n.coefficient ∧
      d.scale = n.fraction.length := by
  rw [ofText?_numeral, Option.ite_none_right_eq_some, make?_eq_some_iff]

/-- The coefficient of a decimal number has 96 bits, and its scale is at most 28. -/
theorem Decimal.exists_iff {coefficient : ℤ} {scale : ℕ} :
    (∃ d : Decimal, d.coefficient = coefficient ∧ d.scale = scale) ↔
      coefficient.natAbs < 2 ^ 96 ∧ scale ≤ 28 := by
  constructor
  · rintro ⟨d, rfl, rfl⟩
    exact ⟨d.coefficient_lt, d.scale_le⟩
  · rintro ⟨hlt, hle⟩
    exact ⟨⟨coefficient, scale, hlt, hle⟩, rfl, rfl⟩

/-! ## Types of exact numbers -/

/-- The rational number that a value is, if it is an integer or a decimal number. -/
def Value.toRat? : Value → Option ℚ
  | int32 n => some n.toInt
  | int64 n => some n.toInt
  | decimal d => some (d.coefficient / 10 ^ d.scale)
  | _ => none

/-- A value is exactly what a JSON number spells, and keeps its fraction digits. -/
structure Value.SpelledBy (n : Numeral) (v : Value) : Prop where
  toRat? : v.toRat? = some n.toRat
  scale : ∀ d, v = .decimal d → d.scale = n.fraction.length

/-- The types whose values are exact numbers. -/
inductive ExactType where
  | int32
  | int64
  | decimal
  deriving DecidableEq

namespace ExactType

/-- The type of members. -/
def scalarType : ExactType → ScalarType
  | int32 => .int32
  | int64 => .int64
  | decimal => .decimal

/-- The JSON numbers that a type has a value for. An integer is written without a fraction and an
exponent and lies in the range of its width. A decimal number is written without an exponent, its
digits without the point are a number of 96 bits, and at most 28 of them stand after the point. -/
def HasRoom (n : Numeral) : ExactType → Prop
  | int32 => (n.fraction = [] ∧ n.exponent = none) ∧
      -2 ^ 31 ≤ signed n.negative n.whole ∧ signed n.negative n.whole < 2 ^ 31
  | int64 => (n.fraction = [] ∧ n.exponent = none) ∧
      -2 ^ 63 ≤ signed n.negative n.whole ∧ signed n.negative n.whole < 2 ^ 63
  | decimal => n.exponent = none ∧ n.coefficient < 2 ^ 96 ∧ n.fraction.length ≤ 28

variable {t : ExactType} {n : Numeral} {v : Value}

/-- What is read of a JSON number is what it spells. -/
theorem spelledBy_of_ofLiteral? (h : t.scalarType.ofLiteral? n.text = some v) : v.SpelledBy n := by
  cases t with
  | int32 =>
    obtain ⟨m, hm, rfl⟩ := Option.map_eq_some_iff.mp h
    have hrat := Integer.toRat_eq_of_ofText? (Integer.int32OfText?_eq_some_iff.mp hm)
    exact ⟨congrArg some hrat.symm, fun d hd => by cases hd⟩
  | int64 =>
    obtain ⟨m, hm, rfl⟩ := Option.map_eq_some_iff.mp h
    have hrat := Integer.toRat_eq_of_ofText? (Integer.int64OfText?_eq_some_iff.mp hm)
    exact ⟨congrArg some hrat.symm, fun d hd => by cases hd⟩
  | decimal =>
    obtain ⟨d, hd, rfl⟩ := Option.map_eq_some_iff.mp h
    obtain ⟨hexponent, hcoefficient, hscale⟩ := Decimal.ofText?_numeral_eq_some_iff.mp hd
    refine ⟨?_, fun d' hd' => by cases hd'; exact hscale⟩
    rw [Numeral.toRat_of_exponent_eq_none hexponent, ← hcoefficient, ← hscale]
    rfl

/-- A JSON number is read exactly if the type has a value for it. -/
theorem isSome_ofLiteral?_iff : (t.scalarType.ofLiteral? n.text).isSome = true ↔ t.HasRoom n := by
  cases t with
  | int32 =>
    simp only [scalarType, ScalarType.ofLiteral?, Option.isSome_map, Option.isSome_iff_exists,
      Integer.int32OfText?_eq_some_iff, Integer.ofText?_numeral_eq_some_iff, exists_and_left,
      Integer.exists_int32_iff, HasRoom]
  | int64 =>
    simp only [scalarType, ScalarType.ofLiteral?, Option.isSome_map, Option.isSome_iff_exists,
      Integer.int64OfText?_eq_some_iff, Integer.ofText?_numeral_eq_some_iff, exists_and_left,
      Integer.exists_int64_iff, HasRoom]
  | decimal =>
    simp only [scalarType, ScalarType.ofLiteral?, Option.isSome_map, Option.isSome_iff_exists,
      Decimal.ofText?_numeral_eq_some_iff, exists_and_left, Decimal.exists_iff, natAbs_signed,
      HasRoom]

end ExactType

/-! ## Filters -/

namespace Comparison

variable {κ : Type} {catalog : Catalog κ} {schema : Schema κ} {path : Path (MemberType κ)}

/-- Numbers are never rounded or wrapped. A filter on an integer or a decimal number, with a JSON
number as its value, is compiled exactly if the type has a value for the number, and what is
compared with is then just what the number spells; otherwise the literal and the type are
reported. -/
theorem ofFilter_number {t : ExactType} {r : FilterRequest} {n : Numeral} {operand : Operand}
    {connective : Connective} (hvalue : r.value = .number n)
    (hcode : codeOr .equals Operand.ofCode r.operand = .ok operand)
    (hconnective : codeOr .and Connective.ofCode r.connective = .ok connective)
    (hpath : Path.resolve catalog schema r.property = .ok path)
    (htype : path.type = .scalar t.scalarType)
    (hoperand : operand ∈ t.scalarType.category.operands) :
    ∃ f, r.toFilter = .ok f ∧
      (t.HasRoom n → ∃ literal,
        ofFilter catalog schema f = .ok ⟨path.withType t.scalarType, operand, literal⟩ ∧
          literal.kind = t.scalarType.kind ∧ literal.SpelledBy n) ∧
      (¬t.HasRoom n →
        ofFilter catalog schema f = .error (.value t.scalarType.name n.text)) := by
  obtain ⟨hnamed, -⟩ := Path.resolve_eq_ok_iff.mp hpath
  let f : Filter := ⟨r.property, operand, n.text, connective, hnamed, n.text_ne_empty⟩
  have hf : r.toFilter = .ok f := by
    unfold FilterRequest.toFilter
    rw [hcode, hconnective, hvalue]
    exact Filter.make_self f
  refine ⟨f, hf, fun hroom => ?_, fun hroom => ?_⟩
  · obtain ⟨literal, hliteral⟩ :=
      Option.isSome_iff_exists.mp (ExactType.isSome_ofLiteral?_iff.mpr hroom)
    have hcompile : ofFilter catalog schema f =
        .ok ⟨path.withType t.scalarType, operand, literal⟩ :=
      ofFilter_eq_ok_iff.mpr ⟨path, _, literal, hpath, htype, hoperand, hliteral, rfl⟩
    exact ⟨literal, hcompile, ScalarType.kind_of_ofLiteral? hliteral,
      ExactType.spelledBy_of_ofLiteral? hliteral⟩
  · have hliteral : t.scalarType.ofLiteral? n.text = none :=
      Option.not_isSome_iff_eq_none.mp (mt ExactType.isSome_ofLiteral?_iff.mp hroom)
    have hcomparable : path.type.comparable catalog operand = .ok t.scalarType :=
      MemberType.comparable_eq_ok_iff.mpr ⟨htype, hoperand⟩
    exact ofFilter_eq_error_iff.mpr (.literal hpath hcomparable hliteral)

end Comparison

/-! ## Readings -/

/-- A request for readings with a dose of at least minus seven and a fraction of 28 digits. -/
def Reading.doseRequest (fraction : ℕ) : FilterRequest where
  property := "dose"
  value := .number ⟨true, 7, Digits.pad 28 fraction, none⟩
  operand := some "gte"
  connective := none

/-- The least decimal number with 28 fraction digits is read as it is, and the next one below it is
refused. -/
theorem Comparison.ofFilter_doseRequest :
    let n : Numeral := ⟨true, 7, Digits.pad 28 9228162514264337593543950335, none⟩
    let n' : Numeral := ⟨true, 7, Digits.pad 28 9228162514264337593543950336, none⟩
    (∃ f, (Reading.doseRequest 9228162514264337593543950335).toFilter = .ok f ∧ ∃ literal,
      ofFilter Reading.catalog Reading.schema f =
          .ok ⟨⟨[], "Dose", .decimal⟩, .greaterOrEqual, literal⟩ ∧ literal.SpelledBy n) ∧
    ∃ f, (Reading.doseRequest 9228162514264337593543950336).toFilter = .ok f ∧
      ofFilter Reading.catalog Reading.schema f = .error (.value "decimal" n'.text) := by
  intro n n'
  have hroom : ExactType.decimal.HasRoom n := by
    refine ⟨rfl, ?_, ?_⟩
    · rw [Numeral.coefficient_eq, Digits.value_pad, Digits.length_pad (by decide) (by decide)]
      norm_num
    · rw [Digits.length_pad (by decide) (by decide)]
  have hroom' : ¬ExactType.decimal.HasRoom n' := by
    rintro ⟨-, hlt, -⟩
    rw [Numeral.coefficient_eq, Digits.value_pad, Digits.length_pad (by decide) (by decide)] at hlt
    norm_num at hlt
  have hcode : codeOr .equals Operand.ofCode (some "gte") = .ok .greaterOrEqual := rfl
  have hconnective : codeOr .and Connective.ofCode none = .ok .and := rfl
  have hpath : Path.resolve Reading.catalog Reading.schema "dose" =
      .ok ⟨[], "Dose", .scalar .decimal⟩ := rfl
  obtain ⟨f, hf, hread, -⟩ := ofFilter_number (t := .decimal)
    (r := Reading.doseRequest 9228162514264337593543950335) rfl hcode hconnective hpath rfl
    (by decide)
  obtain ⟨g, hg, -, hrefused⟩ := ofFilter_number (t := .decimal)
    (r := Reading.doseRequest 9228162514264337593543950336) rfl hcode hconnective hpath rfl
    (by decide)
  obtain ⟨literal, hliteral, -, hspelled⟩ := hread hroom
  exact ⟨⟨f, hf, literal, hliteral, hspelled⟩, g, hg, hrefused hroom'⟩

end RecordQuery
