import RecordQuery.Text.Ranges

/-!
# Texts within texts

A text occurs in another if it stands in it in one piece, and a text is split at the last place
where a character stands.

Results:
* `occursIn_iff`, `startsWith_iff`, `endsWith_iff`: the tests decide infix, prefix and suffix.
* `splitLast?_eq_some_iff`: the part after the last separator has none.
-/

namespace RecordQuery.Text

/-- Whether a list of characters stands in another in one piece. -/
def isInfix (needle : List Char) : List Char → Bool
  | [] => needle.isEmpty
  | c :: cs => needle.isPrefixOf (c :: cs) || isInfix needle cs

/-- Whether `needle` stands somewhere in `s`. -/
def occursIn (needle s : String) : Bool := isInfix needle.toList s.toList

/-- Whether `s` starts with `needle`. -/
def startsWith (needle s : String) : Bool := needle.toList.isPrefixOf s.toList

/-- Whether `s` ends with `needle`. -/
def endsWith (needle s : String) : Bool := needle.toList.isSuffixOf s.toList

theorem isInfix_iff {needle cs : List Char} : isInfix needle cs = true ↔ needle <:+: cs := by
  induction cs with
  | nil => simp [isInfix]
  | cons c cs ih =>
    rw [isInfix, Bool.or_eq_true, List.isPrefixOf_iff_prefix, ih, List.infix_cons_iff]

theorem occursIn_iff {needle s : String} :
    occursIn needle s = true ↔ needle.toList <:+: s.toList := isInfix_iff

theorem startsWith_iff {needle s : String} :
    startsWith needle s = true ↔ needle.toList <+: s.toList := List.isPrefixOf_iff_prefix

theorem endsWith_iff {needle s : String} :
    endsWith needle s = true ↔ needle.toList <:+ s.toList := List.isSuffixOf_iff_suffix

/-! ## Splitting at the last separator -/

/-- The parts before and after the last place where a separator stands, if it stands anywhere. -/
def splitLast? (sep : Char) : List Char → Option (List Char × List Char)
  | [] => none
  | c :: cs =>
    match splitLast? sep cs with
    | some (before, after) => some (c :: before, after)
    | none => if c = sep then some ([], cs) else none

theorem splitLast?_eq_none_iff {sep : Char} {cs : List Char} :
    splitLast? sep cs = none ↔ sep ∉ cs := by
  induction cs with
  | nil => simp [splitLast?]
  | cons c cs ih =>
    rw [splitLast?]
    cases h : splitLast? sep cs with
    | some parts =>
      have : sep ∈ cs := Decidable.byContradiction fun hn => by simp [ih.2 hn] at h
      simp [this]
    | none =>
      have := ih.1 h
      by_cases hc : c = sep
      · simp [hc]
      · simpa [hc, this] using fun he : sep = c => hc he.symm

theorem splitLast?_eq_some_iff {sep : Char} {cs before after : List Char} :
    splitLast? sep cs = some (before, after) ↔ cs = before ++ sep :: after ∧ sep ∉ after := by
  induction cs generalizing before after with
  | nil => simp [splitLast?]
  | cons c cs ih =>
    rw [splitLast?]
    cases h : splitLast? sep cs with
    | some parts =>
      obtain ⟨p, q⟩ := parts
      have hp := ih.1 h
      cases before with
      | nil =>
        simp only [Option.some.injEq, Prod.mk.injEq, reduceCtorEq, false_and, List.nil_append,
          List.cons.injEq, false_iff, not_and, Classical.not_not, and_imp]
        rintro - rfl
        rw [hp.1]; simp
      | cons b bs =>
        have : (p = bs ∧ q = after) ↔ cs = bs ++ sep :: after ∧ sep ∉ after := by
          rw [← ih, h]; simp
        simp only [Option.some.injEq, Prod.mk.injEq, List.cons.injEq, List.cons_append]
        constructor
        · rintro ⟨⟨rfl, rfl⟩, rfl⟩
          obtain ⟨h1, h2⟩ := this.1 ⟨rfl, rfl⟩
          exact ⟨⟨rfl, h1⟩, h2⟩
        · rintro ⟨⟨rfl, h1⟩, h2⟩
          obtain ⟨rfl, rfl⟩ := this.2 ⟨h1, h2⟩
          exact ⟨⟨rfl, rfl⟩, rfl⟩
    | none =>
      have hn := splitLast?_eq_none_iff.1 h
      simp only
      split
      · next hc =>
        subst hc
        cases before with
        | nil =>
          simp only [Option.some.injEq, Prod.mk.injEq, true_and, List.nil_append, List.cons.injEq]
          exact ⟨fun he => ⟨he, he ▸ hn⟩, fun he => he.1⟩
        | cons b bs =>
          simp only [Option.some.injEq, Prod.mk.injEq, List.nil_eq, reduceCtorEq, false_and,
            List.cons_append, List.cons.injEq, false_iff, not_and, and_imp]
          rintro rfl rfl
          exact absurd (by simp) hn
      · next hc =>
        simp only [reduceCtorEq, false_iff, not_and]
        intro he
        cases before with
        | nil => simp only [List.nil_append, List.cons.injEq] at he; exact absurd he.1 hc
        | cons b bs =>
          simp only [List.cons_append, List.cons.injEq] at he
          exact absurd (by simp [he.2]) hn

end RecordQuery.Text
