import RecordQuery.Proofs.Filters.TypeSoundness

/-!
# The operands agree with each other

Nine operands compare a member with a literal, by three ways: null is looked for first, then texts
are compared by their characters, and other operands look at the order of the two values. What the
operands say of the same two values fits together, whatever the kinds of the values are: also if the
record does not keep to its schema, and if the values have no order.

Results:
* `accepts_eq_of_not_isTextMatch`, `accepts_eq_of_isTextMatch`: what an operand looks at.
* `coherent_holds`: the comparisons of one member with one literal are coherent.
-/

namespace RecordQuery

theorem Value.text?_eq_some_iff {v : Value} {s : String} : v.text? = some s ↔ v = .text s := by
  cases v <;> simp [text?]

/-- The operand that one order alone satisfies. -/
def Operand.ofOrder : Ordering → Operand
  | .lt => .less
  | .eq => .equals
  | .gt => .greater

namespace Comparison

variable {operand : Operand} {literal member : Value}

/-! ## What an operand looks at -/

/-- An operand of order looks at nothing but the order of the values; null has none. -/
theorem accepts_eq_of_not_isTextMatch (h : operand.isTextMatch = false) (literal member : Value) :
    accepts operand literal member =
      match member.order? literal with
      | some order => operand.holds order
      | none => operand == .notEquals := by
  unfold accepts
  rw [h]
  by_cases hnull : member.isNull = true
  · rw [Value.isNull_eq_true_iff.mp hnull]
    rfl
  · rw [if_neg hnull]
    rfl

/-- An operand of texts looks at nothing but the characters of two texts; null is no text. -/
theorem accepts_eq_of_isTextMatch (h : operand.isTextMatch = true) (literal member : Value) :
    accepts operand literal member =
      match member.text?, literal.text? with
      | some m, some l => operand.matchesText m l
      | _, _ => false := by
  unfold accepts
  rw [h]
  by_cases hnull : member.isNull = true
  · have hne : operand ≠ .notEquals := by
      rintro rfl
      cases h
    rw [Value.isNull_eq_true_iff.mp hnull]
    exact beq_eq_false_iff_ne.mpr hne
  · rw [if_neg hnull]
    rfl

theorem accepts_iff_of_isTextMatch (h : operand.isTextMatch = true) :
    accepts operand literal member = true ↔
      ∃ m l, member = .text m ∧ literal = .text l ∧ operand.matchesText m l = true := by
  rw [accepts_eq_of_isTextMatch h]
  simp only [← Value.text?_eq_some_iff]
  cases member.text? <;> cases literal.text? <;> simp

/-- An operand that one order alone satisfies tells that the values stand in this order. -/
theorem accepts_ofOrder_iff {o : Ordering} :
    accepts (.ofOrder o) literal member = true ↔ member.order? literal = some o := by
  have htext : (Operand.ofOrder o).isTextMatch = false := by cases o <;> rfl
  rw [accepts_eq_of_not_isTextMatch htext]
  cases member.order? literal with
  | none => cases o <;> simp [Operand.ofOrder]
  | some o' => cases o <;> cases o' <;> simp [Operand.ofOrder, Operand.holds]

/-! ## Coherence -/

/-- What the operands accept of a member and a literal fits together. -/
structure Coherent (literal member : Value) (accepted : Operand → Bool) : Prop where
  notEquals : accepted .notEquals = !accepted .equals
  atMostOne : ∀ o o', accepted (.ofOrder o) = true → accepted (.ofOrder o') = true → o = o'
  /-- Of being equal, greater and less, one holds exactly if the values can be compared. -/
  exactlyOne : (∃! o, accepted (.ofOrder o) = true) ↔
    member ≠ .null ∧ (member.order? literal).isSome = true
  greaterOrEqual : accepted .greaterOrEqual = (accepted .greater || accepted .equals)
  lessOrEqual : accepted .lessOrEqual = (accepted .less || accepted .equals)
  null : member = .null → ∀ operand, accepted operand = true ↔ operand = .notEquals
  contains : accepted .contains = true ↔
    ∃ m l, member = .text m ∧ literal = .text l ∧ l.toList <:+: m.toList
  startsWith : accepted .startsWith = true ↔
    ∃ m l, member = .text m ∧ literal = .text l ∧ l.toList <+: m.toList
  endsWith : accepted .endsWith = true ↔
    ∃ m l, member = .text m ∧ literal = .text l ∧ l.toList <:+ m.toList
  /-- A text equal to the literal starts and ends with it. -/
  ends_of_equals : (∃ l, literal = .text l) → accepted .equals = true →
    accepted .startsWith = true ∧ accepted .endsWith = true
  /-- A text that starts or ends with the literal contains it. -/
  contains_of_end : (∃ l, literal = .text l) →
    accepted .startsWith = true ∨ accepted .endsWith = true → accepted .contains = true

theorem accepts_notEquals (literal member : Value) :
    accepts .notEquals literal member = !accepts .equals literal member := by
  rw [accepts_eq_of_not_isTextMatch rfl, accepts_eq_of_not_isTextMatch rfl]
  cases member.order? literal <;> rfl

/-- An operand that allows the orders of two others accepts what one of them accepts. -/
theorem accepts_eq_or (operand : Operand) (o o' : Ordering)
    (htext : operand.isTextMatch = false) (hne : operand ≠ .notEquals)
    (h : ∀ order, operand.holds order = (order == o || order == o')) (literal member : Value) :
    accepts operand literal member =
      (accepts (.ofOrder o) literal member || accepts (.ofOrder o') literal member) := by
  rw [Bool.eq_iff_iff, Bool.or_eq_true_iff, accepts_ofOrder_iff, accepts_ofOrder_iff,
    accepts_eq_of_not_isTextMatch htext]
  cases member.order? literal with
  | none => simp [hne]
  | some order => simp [h]

theorem existsUnique_accepts_ofOrder_iff :
    (∃! o, accepts (.ofOrder o) literal member = true) ↔
      member ≠ .null ∧ (member.order? literal).isSome = true := by
  simp only [accepts_ofOrder_iff]
  constructor
  · rintro ⟨o, ho, -⟩
    have hsome : (member.order? literal).isSome = true := by rw [ho]; rfl
    refine ⟨?_, hsome⟩
    rintro rfl
    cases literal <;> cases hsome
  · rintro ⟨-, hsome⟩
    obtain ⟨o, ho⟩ := Option.isSome_iff_exists.mp hsome
    exact ⟨o, ho, fun o' ho' => Option.some.inj (ho'.symm.trans ho)⟩

theorem accepts_null_iff : accepts operand literal .null = true ↔ operand = .notEquals :=
  beq_iff_eq

theorem accepts_contains_iff : accepts .contains literal member = true ↔
    ∃ m l, member = .text m ∧ literal = .text l ∧ l.toList <:+: m.toList := by
  rw [accepts_iff_of_isTextMatch rfl]
  simp only [Operand.matchesText, Text.occursIn_iff]

theorem accepts_startsWith_iff : accepts .startsWith literal member = true ↔
    ∃ m l, member = .text m ∧ literal = .text l ∧ l.toList <+: m.toList := by
  rw [accepts_iff_of_isTextMatch rfl]
  simp only [Operand.matchesText, Text.startsWith_iff]

theorem accepts_endsWith_iff : accepts .endsWith literal member = true ↔
    ∃ m l, member = .text m ∧ literal = .text l ∧ l.toList <:+ m.toList := by
  rw [accepts_iff_of_isTextMatch rfl]
  simp only [Operand.matchesText, Text.endsWith_iff]

/-- A value that equals a text is this text. -/
theorem eq_text_of_accepts_equals {l : String} (h : accepts .equals (.text l) member = true) :
    member = .text l := by
  have horder : member.order? (.text l) = some .eq := accepts_equals_iff.mp h
  cases member with
  | text m => rw [Std.compare_eq_iff_eq.mp (Option.some.inj horder)]
  | _ => cases horder

theorem coherent_accepts (literal member : Value) :
    Coherent literal member fun operand => accepts operand literal member where
  notEquals := accepts_notEquals literal member
  atMostOne o o' ho ho' := by
    rw [accepts_ofOrder_iff] at ho ho'
    exact Option.some.inj (ho.symm.trans ho')
  exactlyOne := existsUnique_accepts_ofOrder_iff
  greaterOrEqual := accepts_eq_or .greaterOrEqual .gt .eq rfl (by decide) (by decide) literal member
  lessOrEqual := accepts_eq_or .lessOrEqual .lt .eq rfl (by decide) (by decide) literal member
  null := by
    rintro rfl operand
    exact accepts_null_iff
  contains := accepts_contains_iff
  startsWith := accepts_startsWith_iff
  endsWith := accepts_endsWith_iff
  ends_of_equals := by
    rintro ⟨l, rfl⟩ h
    obtain rfl := eq_text_of_accepts_equals h
    exact ⟨accepts_startsWith_iff.mpr ⟨l, l, rfl, rfl, List.prefix_rfl⟩,
      accepts_endsWith_iff.mpr ⟨l, l, rfl, rfl, List.suffix_rfl⟩⟩
  contains_of_end := by
    rintro - (h | h)
    · obtain ⟨m, l, hm, hl, hprefix⟩ := accepts_startsWith_iff.mp h
      exact accepts_contains_iff.mpr ⟨m, l, hm, hl, hprefix.isInfix⟩
    · obtain ⟨m, l, hm, hl, hsuffix⟩ := accepts_endsWith_iff.mp h
      exact accepts_contains_iff.mpr ⟨m, l, hm, hl, hsuffix.isInfix⟩

/-- The comparisons of one member with one literal, by all the operands, are coherent on every
record. -/
theorem coherent_holds (column : Column) (literal : Value) (r : Record) :
    Coherent literal (column.read r) fun operand =>
      (⟨column, operand, literal⟩ : Comparison).holds r :=
  coherent_accepts literal (column.read r)

end Comparison

end RecordQuery
