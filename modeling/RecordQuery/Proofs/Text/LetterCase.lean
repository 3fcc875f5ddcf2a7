import RecordQuery.Proofs.Text.WhiteSpace
import RecordQuery.Query.Connective
import RecordQuery.Query.Operand

/-!
# Lower-casing forgets the case of letters

The lower-case form of a character depends on the characters around it, which decide about the form
of a final sigma. Yet a letter of ASCII is a cased letter in either case, so a text has the same
lower-case form whichever case its letters of ASCII have. Codes are lowered after trimming, and so
are read alike in every spelling.

Results:
* `lowerAfter_map_toLower`: lowering letter by letter first changes nothing.
* `lowercase_eq_of_eqIgnoringCase`: texts that differ in the case of letters have one lower-case
  form.
* `Operand.ofCode_eq_of_sameCode`, `Connective.ofCode_eq_of_sameCode`: codes in two spellings.
-/

namespace RecordQuery

namespace Text

/-- A character is its own small letter, or it is a capital of ASCII. -/
theorem toLower_eq_self_or (c : Char) :
    c.toLower = c ∨ 65 ≤ c.toNat ∧ c.toNat ≤ 90 ∧ c.toLower.toNat = c.toNat + 32 :=
  toLower_induction
    (motive := fun c d => d = c ∨ 65 ≤ c.toNat ∧ c.toNat ≤ 90 ∧ d.toNat = c.toNat + 32) (by decide)
    (fun _ => .inl rfl) c

/-- The letters of ASCII are cased. -/
theorem isCased_toLower (c : Char) : isCased c.toLower = isCased c := by
  rcases toLower_eq_self_or c with h | ⟨hlow, hhigh, hsmall⟩
  · rw [h]
  · have hcapital : isCased c = true :=
      Ranges.has_eq_true_iff.mpr ⟨(0x41, 0x5A), by decide, hlow, hhigh⟩
    have hletter : isCased c.toLower = true :=
      Ranges.has_eq_true_iff.mpr ⟨(0x61, 0x7A), by decide, by omega, by omega⟩
    rw [hcapital, hletter]

/-- No letter of ASCII is passed over. -/
theorem isCaseIgnorable_eq_false {c : Char}
    (h : 65 ≤ c.toNat ∧ c.toNat ≤ 90 ∨ 97 ≤ c.toNat ∧ c.toNat ≤ 122) :
    isCaseIgnorable c = false := by
  have hranges : ∀ range ∈ caseIgnorableRanges,
      range.2 < 65 ∨ 90 < range.1 ∧ range.2 < 97 ∨ 122 < range.1 := by decide +kernel
  rw [Bool.eq_false_iff]
  intro hignorable
  obtain ⟨range, hmem, hlow, hhigh⟩ := Ranges.has_eq_true_iff.mp hignorable
  have hapart := hranges range hmem
  omega

theorem isCaseIgnorable_toLower (c : Char) : isCaseIgnorable c.toLower = isCaseIgnorable c := by
  rcases toLower_eq_self_or c with h | ⟨hlow, hhigh, hsmall⟩
  · rw [h]
  · rw [isCaseIgnorable_eq_false (.inl ⟨hlow, hhigh⟩), isCaseIgnorable_eq_false (.inr (by omega))]

theorem lowerChar_toLower (c : Char) : lowerChar c.toLower = lowerChar c :=
  toLower_induction (motive := fun c d => lowerChar d = lowerChar c) (by decide) (fun _ => rfl) c

theorem toLower_eq_sigma_iff (c : Char) : c.toLower = 'Σ' ↔ c = 'Σ' :=
  toLower_induction (motive := fun c d => d = 'Σ' ↔ c = 'Σ') (by decide) (fun _ => .rfl) c

theorem startsCased_map_toLower (cs : List Char) :
    startsCased (cs.map Char.toLower) = startsCased cs := by
  have hignorable : isCaseIgnorable ∘ Char.toLower = isCaseIgnorable :=
    funext isCaseIgnorable_toLower
  unfold startsCased
  rw [List.dropWhile_map, hignorable]
  cases cs.dropWhile isCaseIgnorable with
  | nil => rfl
  | cons c cs => exact isCased_toLower c

theorem lowerAfter_map_toLower (before cs : List Char) :
    lowerAfter (before.map Char.toLower) (cs.map Char.toLower) = lowerAfter before cs := by
  induction cs generalizing before with
  | nil => rfl
  | cons c cs ih =>
    have htail := ih (c :: before)
    rw [List.map_cons] at htail
    simp only [List.map_cons, lowerAfter, htail, toLower_eq_sigma_iff, lowerChar_toLower,
      startsCased_map_toLower]

theorem lowercase_eq_of_eqIgnoringCase {s t : String} (h : eqIgnoringCase s t = true) :
    lowercase s = lowercase t := by
  unfold lowercase
  rw [← lowerAfter_map_toLower [] s.toList, eqIgnoringCase_iff.mp h, lowerAfter_map_toLower]

/-- Two spellings of a code: they differ at most in the white space around them and in the case of
letters of ASCII. -/
def SameCode (s t : String) : Prop := eqIgnoringCase (trim s) (trim t) = true

instance (s t : String) : Decidable (SameCode s t) :=
  inferInstanceAs (Decidable (eqIgnoringCase (trim s) (trim t) = true))

theorem SameCode.lowercase_trim_eq {s t : String} (h : SameCode s t) :
    lowercase (trim s) = lowercase (trim t) :=
  lowercase_eq_of_eqIgnoringCase h

end Text

/-- A code stands for the same operand, or is reported as the same unknown code, in every
spelling. -/
theorem Operand.ofCode_eq_of_sameCode {s t : String} (h : Text.SameCode s t) :
    ofCode s = ofCode t := by
  unfold ofCode
  rw [h.lowercase_trim_eq]

theorem Connective.ofCode_eq_of_sameCode {s t : String} (h : Text.SameCode s t) :
    ofCode s = ofCode t := by
  unfold ofCode
  rw [h.lowercase_trim_eq]

end RecordQuery
