import RecordQuery.Text.LetterCase

/-!
# Lower-casing

Codes are compared in lower case. A text is lowered character by character, except that a capital
sigma at the end of a word becomes the final sigma.

Results:
* `lowercase_ascii`: on ASCII, every letter is lowered on its own.
-/

namespace RecordQuery.Text

/-- Whether the first character that is not passed over is a cased letter. -/
def startsCased (cs : List Char) : Bool :=
  match cs.dropWhile isCaseIgnorable with
  | [] => false
  | c :: _ => isCased c

/-- The lower-case form of a text that continues the reversed text `before`. A capital sigma is
final when a cased letter stands before it and none after it. -/
def lowerAfter (before : List Char) : List Char → List Char
  | [] => []
  | c :: cs =>
    (if c = 'Σ' then [if startsCased before && !startsCased cs then 'ς' else 'σ']
      else lowerChar c) ++ lowerAfter (c :: before) cs

/-- The lower-case form of a text. -/
def lowercase (s : String) : String := String.ofList (lowerAfter [] s.toList)

theorem lowerAfter_ascii {cs : List Char} (h : ∀ c ∈ cs, c.toNat < 128) (before : List Char) :
    lowerAfter before cs = cs.map Char.toLower := by
  induction cs generalizing before with
  | nil => rfl
  | cons c cs ih =>
    have hc : c.toNat < 128 := h c (by simp)
    have hne : c ≠ 'Σ' := by rintro rfl; revert hc; decide
    simp [lowerAfter, hne, lowerChar_ascii hc, ih fun d hd => h d (by simp [hd])]

theorem lowercase_ascii {s : String} (h : ∀ c ∈ s.toList, c.toNat < 128) :
    lowercase s = String.ofList (s.toList.map Char.toLower) := by
  rw [lowercase, lowerAfter_ascii h]

/-! ## Comparing without regard to ASCII case -/

/-- Whether two texts differ at most in the case of ASCII letters. -/
def eqIgnoringCase (s t : String) : Bool := s.toList.map Char.toLower == t.toList.map Char.toLower

theorem eqIgnoringCase_iff {s t : String} :
    eqIgnoringCase s t = true ↔ s.toList.map Char.toLower = t.toList.map Char.toLower := by
  simp [eqIgnoringCase]

theorem eqIgnoringCase_refl (s : String) : eqIgnoringCase s s = true :=
  eqIgnoringCase_iff.2 rfl

end RecordQuery.Text
