import RecordQuery.Proofs.Literals.Times

/-!
# Numbers scanned off a text

What it means that digits have been scanned off the front of a text: the text is those digits and
the rest, and there are as many of them as the text has, up to the limit. The numbers of dates and
times are read in this way.

Results:
* `Digits.scan_eq_iff`, `Digits.scanAtMost_eq_iff`: what a scan takes off.
* `Layout.number?_eq_some_iff`, `Layout.exactNumber?_eq_some_iff`: what a number is read from.
-/

namespace RecordQuery

variable {cs rest : List Char} {ds : List Digit} {limit width n : Nat}

theorem Digit.toChar_of_ofChar? {c : Char} {d : Digit} (h : ofChar? c = some d) : d.toChar = c := by
  unfold ofChar? at h
  split at h
  · next hc =>
    cases h
    unfold toChar
    rw [show 48 + (c.toNat - 48) = c.toNat by omega, Char.ofNat_toNat]
  · cases h

namespace Digits

/-! ## Scans -/

theorem ends_nil : Ends [] := fun _ _ h => by cases h

theorem ends_scan (cs : List Char) : Ends (scan cs).2 := by
  induction cs with
  | nil => exact ends_nil
  | cons c cs ih =>
    rw [scan]
    cases hc : Digit.ofChar? c with
    | none => exact ends_cons hc cs
    | some d => exact ih

theorem scan_eq_iff : scan cs = (ds, rest) ↔ cs = text ds ++ rest ∧ Ends rest := by
  constructor
  · intro h
    have htext := text_scan cs
    have hends := ends_scan cs
    rw [h] at htext hends
    exact ⟨htext.symm, hends⟩
  · rintro ⟨rfl, hrest⟩
    exact scan_text ds hrest

/-- Digits at the front of a text, as many as there are up to a limit, and what follows them. -/
structure Run (limit : Nat) (ds : List Digit) (rest : List Char) : Prop where
  length_le : ds.length ≤ limit
  longest : ds.length = limit ∨ Ends rest

theorem run_scanAtMost (limit : Nat) (cs : List Char) :
    Run limit (scanAtMost limit cs).1 (scanAtMost limit cs).2 := by
  induction limit generalizing cs with
  | zero => cases cs <;> exact ⟨Nat.le_refl 0, .inl rfl⟩
  | succ limit ih =>
    cases cs with
    | nil => exact ⟨Nat.zero_le _, .inr ends_nil⟩
    | cons c cs =>
      rw [scanAtMost]
      cases hc : Digit.ofChar? c with
      | none => exact ⟨Nat.zero_le _, .inr (ends_cons hc cs)⟩
      | some d => exact ⟨Nat.succ_le_succ (ih cs).length_le, (ih cs).longest.imp_left (congrArg _)⟩

/-- A bounded scan loses nothing. -/
theorem text_scanAtMost (limit : Nat) (cs : List Char) :
    text (scanAtMost limit cs).1 ++ (scanAtMost limit cs).2 = cs := by
  induction limit generalizing cs with
  | zero => cases cs <;> rfl
  | succ limit ih =>
    cases cs with
    | nil => rfl
    | cons c cs =>
      rw [scanAtMost]
      cases hc : Digit.ofChar? c with
      | none => rfl
      | some d =>
        show d.toChar :: (text (scanAtMost limit cs).1 ++ (scanAtMost limit cs).2) = c :: cs
        rw [ih, Digit.toChar_of_ofChar? hc]

theorem scanAtMost_eq_iff :
    scanAtMost limit cs = (ds, rest) ↔ cs = text ds ++ rest ∧ Run limit ds rest := by
  constructor
  · intro h
    have htext := text_scanAtMost limit cs
    have hrun := run_scanAtMost limit cs
    rw [h] at htext hrun
    exact ⟨htext.symm, hrun⟩
  · rintro ⟨rfl, hrun⟩
    exact scanAtMost_text hrun.length_le hrun.longest

end Digits

/-! ## Numbers -/

namespace Layout

theorem number?_eq_some_iff : number? limit cs = some (n, rest) ↔
    ∃ ds, ds ≠ [] ∧ cs = Digits.text ds ++ rest ∧ Digits.Run limit ds rest ∧
      n = Digits.value ds := by
  unfold number?
  constructor
  · intro h
    split at h
    · cases h
    · next d ds _ hscan =>
      cases h
      obtain ⟨htext, hrun⟩ := Digits.scanAtMost_eq_iff.mp hscan
      exact ⟨d :: ds, List.cons_ne_nil d ds, htext, hrun, rfl⟩
  · rintro ⟨ds, hnil, htext, hrun, rfl⟩
    obtain ⟨d, ds, rfl⟩ := List.exists_cons_of_ne_nil hnil
    rw [Digits.scanAtMost_eq_iff.mpr ⟨htext, hrun⟩]

theorem exactNumber?_eq_some_iff : exactNumber? width cs = some (n, rest) ↔
    ∃ ds, ds.length = width ∧ cs = Digits.text ds ++ rest ∧ n = Digits.value ds := by
  unfold exactNumber?
  constructor
  · intro h
    obtain ⟨hlength, hsome⟩ := Option.ite_none_right_eq_some.mp h
    cases hsome
    exact ⟨_, hlength, (Digits.text_scanAtMost width cs).symm, rfl⟩
  · rintro ⟨ds, hlength, htext, rfl⟩
    have hscan : Digits.scanAtMost width cs = (ds, rest) :=
      Digits.scanAtMost_eq_iff.mpr ⟨htext, Nat.le_of_eq hlength, .inl hlength⟩
    rw [hscan]
    exact if_pos hlength

/-- A number does not start with a blank. -/
theorem trimStart_text (hnil : ds ≠ []) (rest : List Char) :
    Text.trimStart (Digits.text ds ++ rest) = Digits.text ds ++ rest := by
  obtain ⟨d, ds, rfl⟩ := List.exists_cons_of_ne_nil hnil
  exact List.dropWhile_cons_of_neg (by rw [d.isBlank_toChar]; decide)

end Layout

end RecordQuery
