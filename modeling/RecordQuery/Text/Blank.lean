import RecordQuery.Text.Ranges

/-!
# White space

Names, codes and paths are read without the white space around them, where white space is the
Unicode property `White_Space`.

Results:
* `trim_eq_empty_iff`: a text is empty when trimmed exactly if it has blanks only.
-/

namespace RecordQuery.Text

/-- The characters with the property `White_Space`. -/
def blankRanges : Ranges :=
  [(0x9, 0xD), (0x20, 0x20), (0x85, 0x85), (0xA0, 0xA0), (0x1680, 0x1680), (0x2000, 0x200A),
    (0x2028, 0x2029), (0x202F, 0x202F), (0x205F, 0x205F), (0x3000, 0x3000)]

/-- Whether a character is white space. -/
def isBlank (c : Char) : Bool := blankRanges.has c

/-- A text without the white space at its start. -/
def trimStart (cs : List Char) : List Char := cs.dropWhile isBlank

/-- A text without the white space at its end. -/
def trimEnd (cs : List Char) : List Char := (cs.reverse.dropWhile isBlank).reverse

/-- A text without the white space around it. -/
def trim (s : String) : String := String.ofList (trimEnd (trimStart s.toList))

/-- Whether a text has no character but white space. -/
def isBlankText (s : String) : Bool := s.toList.all isBlank

theorem trimStart_eq_nil_iff {cs : List Char} : trimStart cs = [] ↔ ∀ c ∈ cs, isBlank c = true := by
  induction cs with
  | nil => simp [trimStart]
  | cons c cs ih =>
    rw [trimStart, List.dropWhile_cons, List.forall_mem_cons]
    by_cases h : isBlank c = true
    · rw [if_pos h]
      exact ih.trans (and_iff_right h).symm
    · simp [h]

theorem trimEnd_eq_nil_iff {cs : List Char} : trimEnd cs = [] ↔ ∀ c ∈ cs, isBlank c = true := by
  rw [trimEnd, List.reverse_eq_nil_iff]
  exact trimStart_eq_nil_iff.trans (by simp only [List.mem_reverse])

theorem trim_eq_empty_iff {s : String} : trim s = "" ↔ isBlankText s = true := by
  have hstart : trim s = "" ↔ trimEnd (trimStart s.toList) = [] := by
    rw [trim, ← String.toList_inj, String.toList_ofList]; rfl
  rw [hstart, trimEnd_eq_nil_iff, isBlankText, List.all_eq_true]
  constructor
  · intro h
    have hnil : trimStart s.toList = [] := by
      cases hd : trimStart s.toList with
      | nil => rfl
      | cons c cs =>
        have hc := h c (by simp [hd])
        have := List.head?_dropWhile_not isBlank s.toList
        simp only [trimStart] at hd
        simp [hd, hc] at this
    exact trimStart_eq_nil_iff.1 hnil
  · intro h c hc
    exact h c ((List.dropWhile_sublist _).subset hc)

end RecordQuery.Text
