import Mathlib.Data.List.Basic
import RecordQuery.Text.Blank
import RecordQuery.Text.Lowercase

/-!
# White space at the edges of a text

Texts that start or end with white space, and those that have none at all. A trimmed text does
neither start nor end with white space, and a text that does not is trimmed already. The case of
letters plays no part in this.

Results:
* `trim_eq_self_iff`: which texts trimming leaves as they are.
* `isBlank_toLower`: a letter is no white space in either case.
* `trim_eq_self_of_eqIgnoringCase`: a text spelled like a trimmed one, but for the case of letters,
  is trimmed.
-/

namespace RecordQuery.Text

/-- A text whose first character is white space. -/
def StartsBlank (cs : List Char) : Prop := ∃ c, cs.head? = some c ∧ isBlank c = true

/-- A text whose last character is white space. -/
def EndsBlank (cs : List Char) : Prop := ∃ c, cs.getLast? = some c ∧ isBlank c = true

/-- A text without white space. -/
def NoBlank (cs : List Char) : Prop := ∀ c ∈ cs, isBlank c = false

instance (cs : List Char) : Decidable (NoBlank cs) := List.decidableBAll _ cs

variable {cs front rest : List Char} {c : Char} {s t u : String}

/-! ## Characters and parts -/

theorem startsBlank_cons_iff : StartsBlank (c :: cs) ↔ isBlank c = true := by
  simp [StartsBlank]

theorem endsBlank_reverse_iff : EndsBlank cs.reverse ↔ StartsBlank cs := by
  simp [StartsBlank, EndsBlank]

theorem endsBlank_append_iff (h : rest ≠ []) : EndsBlank (front ++ rest) ↔ EndsBlank rest := by
  unfold EndsBlank
  rw [List.getLast?_append_of_ne_nil _ h]

/-- A blank at the end is not in front of it. -/
theorem EndsBlank.of_append (h : EndsBlank (front ++ rest)) (hfront : ¬EndsBlank front) :
    EndsBlank rest := by
  by_cases hnil : rest = []
  · rw [hnil, List.append_nil] at h
    exact absurd h hfront
  · exact (endsBlank_append_iff hnil).mp h

theorem NoBlank.not_startsBlank (h : NoBlank cs) : ¬StartsBlank cs := by
  rintro ⟨c, hhead, hblank⟩
  rw [h c (List.mem_of_head? hhead)] at hblank
  cases hblank

theorem NoBlank.not_endsBlank (h : NoBlank cs) : ¬EndsBlank cs := by
  rintro ⟨c, hlast, hblank⟩
  rw [h c (List.mem_of_getLast? hlast)] at hblank
  cases hblank

theorem noBlank_nil : NoBlank [] := fun _ h => by cases h

theorem noBlank_cons_iff : NoBlank (c :: cs) ↔ isBlank c = false ∧ NoBlank cs :=
  List.forall_mem_cons

theorem noBlank_append_iff : NoBlank (front ++ rest) ↔ NoBlank front ∧ NoBlank rest :=
  List.forall_mem_append

/-! ## Trimming -/

theorem trimStart_of_not_startsBlank (h : ¬StartsBlank cs) : trimStart cs = cs := by
  cases cs with
  | nil => rfl
  | cons c cs => exact List.dropWhile_cons_of_neg (mt startsBlank_cons_iff.mpr h)

theorem not_startsBlank_trimStart (cs : List Char) : ¬StartsBlank (trimStart cs) := by
  rintro ⟨c, hhead, hblank⟩
  have hnot := List.head?_dropWhile_not isBlank cs
  rw [show (cs.dropWhile isBlank).head? = some c from hhead] at hnot
  rw [show isBlank c = false from hnot] at hblank
  cases hblank

theorem trimStart_trimStart (cs : List Char) : trimStart (trimStart cs) = trimStart cs :=
  trimStart_of_not_startsBlank (not_startsBlank_trimStart cs)

theorem trimStart_append_of_blank (h : ∀ c ∈ front, isBlank c = true) (rest : List Char) :
    trimStart (front ++ rest) = trimStart rest :=
  List.dropWhile_append_of_pos h

/-- A text without the white space at its start. -/
def unindent (s : String) : String := String.ofList (trimStart s.toList)

theorem toList_unindent (s : String) : (unindent s).toList = trimStart s.toList :=
  String.toList_ofList

/-- What is left out at the start is white space. -/
theorem exists_blanks (cs : List Char) :
    ∃ blanks, (∀ c ∈ blanks, isBlank c = true) ∧ cs = blanks ++ trimStart cs :=
  ⟨cs.takeWhile isBlank, List.all_eq_true.mp List.all_takeWhile,
    List.takeWhile_append_dropWhile.symm⟩

theorem trimEnd_eq (cs : List Char) : trimEnd cs = (trimStart cs.reverse).reverse := rfl

theorem trimEnd_of_not_endsBlank (h : ¬EndsBlank cs) : trimEnd cs = cs := by
  rw [trimEnd_eq, trimStart_of_not_startsBlank, List.reverse_reverse]
  rwa [← endsBlank_reverse_iff, List.reverse_reverse]

theorem not_endsBlank_trimEnd (cs : List Char) : ¬EndsBlank (trimEnd cs) := by
  rw [trimEnd_eq, endsBlank_reverse_iff]
  exact not_startsBlank_trimStart _

theorem not_startsBlank_trimEnd (h : ¬StartsBlank cs) : ¬StartsBlank (trimEnd cs) := by
  rintro ⟨c, hhead, hblank⟩
  obtain ⟨blanks, -, hcs⟩ := exists_blanks cs.reverse
  have hfront : cs = trimEnd cs ++ blanks.reverse := by
    rw [trimEnd_eq, ← List.reverse_append, ← hcs, List.reverse_reverse]
  refine h ⟨c, ?_, hblank⟩
  rw [hfront, List.head?_append, hhead]
  rfl

/-- Trimming leaves a text as it is exactly if it neither starts nor ends with white space. -/
theorem trim_eq_self_iff : trim s = s ↔ ¬StartsBlank s.toList ∧ ¬EndsBlank s.toList := by
  constructor
  · intro h
    rw [← h, trim, String.toList_ofList]
    exact ⟨not_startsBlank_trimEnd (not_startsBlank_trimStart _), not_endsBlank_trimEnd _⟩
  · rintro ⟨hstart, hend⟩
    rw [trim, trimStart_of_not_startsBlank hstart, trimEnd_of_not_endsBlank hend,
      String.ofList_toList]

theorem trim_trim (s : String) : trim (trim s) = trim s := by
  rw [trim_eq_self_iff, trim, String.toList_ofList]
  exact ⟨not_startsBlank_trimEnd (not_startsBlank_trimStart _), not_endsBlank_trimEnd _⟩

theorem trimEnd_append_of_blank (h : ∀ c ∈ rest, isBlank c = true) (front : List Char) :
    trimEnd (front ++ rest) = trimEnd front := by
  rw [trimEnd_eq, trimEnd_eq, List.reverse_append,
    trimStart_append_of_blank fun c hc => h c (List.mem_reverse.mp hc)]

/-- White space around a text does not count. -/
theorem trim_pad {back : List Char} (hfront : ∀ c ∈ front, isBlank c = true)
    (hback : ∀ c ∈ back, isBlank c = true) (s : String) :
    trim (String.ofList (front ++ s.toList ++ back)) = trim s := by
  rw [trim, trim, String.toList_ofList, List.append_assoc, trimStart_append_of_blank hfront]
  obtain ⟨blanks, hblanks, hs⟩ := exists_blanks s.toList
  have hstart := not_startsBlank_trimStart s.toList
  rw [hs, List.append_assoc, trimStart_append_of_blank hblanks, trimStart_append_of_blank hblanks,
    trimStart_trimStart]
  cases hinner : trimStart s.toList with
  | nil => rw [List.nil_append, trimStart_eq_nil_iff.mpr hback]
  | cons c cs =>
    rw [hinner] at hstart
    have hc : ¬StartsBlank (c :: cs ++ back) := fun h =>
      hstart (startsBlank_cons_iff.mpr (startsBlank_cons_iff.mp h))
    rw [trimStart_of_not_startsBlank hc, trimEnd_append_of_blank hback]

theorem mem_of_mem_trim (h : c ∈ (trim s).toList) : c ∈ s.toList := by
  rw [trim, String.toList_ofList, trimEnd_eq, List.mem_reverse] at h
  have hstart := List.mem_reverse.mp ((List.dropWhile_sublist isBlank).subset h)
  exact (List.dropWhile_sublist isBlank).subset hstart

/-! ## The case of letters -/

/-- What holds of every character below 128 and its small letter holds of every character, if it
holds of one that is its own small letter. -/
theorem toLower_induction {motive : Char → Char → Prop}
    (ascii : ∀ n, n < 128 → motive (Char.ofNat n) (Char.ofNat n).toLower)
    (self : ∀ c, motive c c) (c : Char) : motive c c.toLower := by
  by_cases hc : c.toNat < 128
  · have h := ascii c.toNat hc
    rwa [Char.ofNat_toNat] at h
  · have hlower : c.toLower = c := by
      unfold Char.toLower
      refine dif_neg ?_
      rintro ⟨-, hle⟩
      have hle' : c.toNat ≤ 90 := UInt32.le_iff_toNat_le.mp hle
      omega
    rw [hlower]
    exact self c

/-- A letter is no white space in either case. -/
theorem isBlank_toLower (c : Char) : isBlank c.toLower = isBlank c :=
  toLower_induction (motive := fun c d => isBlank d = isBlank c) (by decide) (fun _ => rfl) c

/-- The point has no other case. -/
theorem toLower_eq_point_iff : c.toLower = '.' ↔ c = '.' :=
  toLower_induction (motive := fun c d => d = '.' ↔ c = '.') (by decide) (fun _ => .rfl) c

theorem eqIgnoringCase_symm (h : eqIgnoringCase s t = true) : eqIgnoringCase t s = true :=
  eqIgnoringCase_iff.mpr (eqIgnoringCase_iff.mp h).symm

theorem eqIgnoringCase_trans (h : eqIgnoringCase s t = true) (h' : eqIgnoringCase t u = true) :
    eqIgnoringCase s u = true :=
  eqIgnoringCase_iff.mpr ((eqIgnoringCase_iff.mp h).trans (eqIgnoringCase_iff.mp h'))

theorem eq_empty_of_eqIgnoringCase (h : eqIgnoringCase s "" = true) : s = "" := by
  have hnil : s.toList = [] := List.map_eq_nil_iff.mp (eqIgnoringCase_iff.mp h)
  exact String.toList_eq_nil_iff.mp hnil

theorem startsBlank_map_toLower_iff : StartsBlank (cs.map Char.toLower) ↔ StartsBlank cs := by
  simp [StartsBlank, isBlank_toLower]

theorem endsBlank_map_toLower_iff : EndsBlank (cs.map Char.toLower) ↔ EndsBlank cs := by
  simp [EndsBlank, isBlank_toLower]

theorem noBlank_of_map_toLower (h : NoBlank (cs.map Char.toLower)) : NoBlank cs := by
  intro c hc
  rw [← isBlank_toLower c]
  exact h _ (List.mem_map_of_mem hc)

theorem trimStart_map_toLower (cs : List Char) :
    trimStart (cs.map Char.toLower) = (trimStart cs).map Char.toLower := by
  have hblank : isBlank ∘ Char.toLower = isBlank := funext isBlank_toLower
  rw [trimStart, List.dropWhile_map, hblank]
  rfl

theorem trimEnd_map_toLower (cs : List Char) :
    trimEnd (cs.map Char.toLower) = (trimEnd cs).map Char.toLower := by
  rw [trimEnd_eq, ← List.map_reverse, trimStart_map_toLower, ← List.map_reverse, trimEnd_eq]

/-- Texts that differ in the case of letters only still do when they are trimmed. -/
theorem eqIgnoringCase_trim (h : eqIgnoringCase s t = true) :
    eqIgnoringCase (trim s) (trim t) = true := by
  rw [eqIgnoringCase_iff] at h ⊢
  rw [trim, trim, String.toList_ofList, String.toList_ofList, ← trimEnd_map_toLower,
    ← trimEnd_map_toLower, ← trimStart_map_toLower, ← trimStart_map_toLower, h]

/-- A text spelled like a trimmed one, but for the case of letters, is trimmed. -/
theorem trim_eq_self_of_eqIgnoringCase (h : eqIgnoringCase s t = true) (ht : trim t = t) :
    trim s = s := by
  have hst := eqIgnoringCase_iff.mp h
  rw [trim_eq_self_iff, ← startsBlank_map_toLower_iff, ← endsBlank_map_toLower_iff] at ht ⊢
  rwa [hst]

/-- A text spelled like one without a point, but for the case of letters, has no point. -/
theorem point_not_mem_of_eqIgnoringCase (h : eqIgnoringCase s t = true) (ht : '.' ∉ t.toList) :
    '.' ∉ s.toList := by
  intro hmem
  have hlower : '.' ∈ t.toList.map Char.toLower := by
    rw [← eqIgnoringCase_iff.mp h]
    exact List.mem_map.mpr ⟨'.', hmem, rfl⟩
  obtain ⟨c, hc, hpoint⟩ := List.mem_map.mp hlower
  rw [toLower_eq_point_iff.mp hpoint] at hc
  exact ht hc

end RecordQuery.Text
