import RecordQuery.Proofs.Sorting.Composition

/-!
# Sorting and NaN

When rows are sorted, NaN ties with every number, and so the sort order of a column of
floating-point numbers is not transitive: of two numbers in descending order, the first does not
stand after NaN, nor NaN after the second. This is the only way in which the sort order of a column
fails to be a total preorder.

Results:
* `sortOrder_swap`: the sort order of any two values, turned around.
* `sortOrder_ne_gt_trans_iff`, `sortOrder_eq_trans_iff`: the sort order of a column is transitive
  through every value but NaN.
* `sortOrder_column`: the sort order of columns, and of rows by a plan.
* `sort_notANumber`: rows that a plan does not put in order.
-/

namespace RecordQuery

/-- What a column of a type can hold: null, or any value of the kind, NaN included. -/
def ScalarType.CanHold (t : ScalarType) (v : Value) : Prop := v = .null ∨ v.kind = t.kind

namespace Value

variable {t : ScalarType} {a b c : Value}

/-! ## Values without an order -/

theorem isNull_of_isNaN (h : a.isNaN = true) : a.isNull = false := by
  cases a with
  | null => cases h
  | _ => rfl

theorem order?_isSome_comm (h : (a.order? b).isSome = true) : (b.order? a).isSome = true := by
  obtain ⟨hkind, hnull, hna, hnb⟩ := order?_isSome_iff.mp h
  refine order?_isSome_iff.mpr ⟨hkind.symm, ?_, hnb, hna⟩
  unfold isNull at *
  rwa [← hkind]

theorem sortOrder_swap (a b : Value) : b.sortOrder a = (a.sortOrder b).swap := by
  by_cases h : (a.order? b).isSome = true
  · obtain ⟨hkind, -, hna, hnb⟩ := order?_isSome_iff.mp h
    exact (preorderOn_sortOrder b.kind).swap a b (.inr ⟨hkind, hna⟩) (.inr ⟨rfl, hnb⟩)
  · have hab : a.order? b = none := by simpa using h
    have hba : b.order? a = none := by simpa using mt order?_isSome_comm h
    unfold sortOrder
    rw [hab, hba]
    cases a.isNull <;> cases b.isNull <;> rfl

/-- NaN ties with whatever is not null. -/
theorem sortOrder_of_isNaN (h : a.isNaN = true) (hb : b.isNull = false) : a.sortOrder b = .eq := by
  have hnone : a.order? b = none := by
    rw [← Option.not_isSome_iff_eq_none, order?_isSome_iff]
    rintro ⟨-, -, hna, -⟩
    rw [h] at hna
    cases hna
  unfold sortOrder
  rw [isNull_of_isNaN h, hb, hnone]
  rfl

/-! ## Through a value -/

theorem fits_of_canHold (h : t.CanHold a) (hnan : a.isNaN = false) : a.Fits t.kind :=
  h.imp isNull_eq_true_iff.mpr fun hkind => ⟨hkind, hnan⟩

/-- Through a value that is not NaN, the sort order of a column is transitive, even from NaN and to
NaN. -/
theorem sortOrder_ne_gt_trans (ha : t.CanHold a) (hb : t.CanHold b) (hc : t.CanHold c)
    (hnan : b.isNaN = false) (hab : a.sortOrder b ≠ .gt) (hbc : b.sortOrder c ≠ .gt) :
    a.sortOrder c ≠ .gt := by
  by_cases hnull : a.isNull = true
  · rw [isNull_eq_true_iff.mp hnull]
    unfold sortOrder
    cases c.isNull <;> exact nofun
  rw [Bool.not_eq_true] at hnull
  -- what is not null does not stand before null, so no value here is null
  have hbnull : b.isNull = false := by
    by_contra h
    rw [Bool.not_eq_false, isNull_eq_true_iff] at h
    exact hab (h ▸ sortOrder_null_right hnull)
  have hcnull : c.isNull = false := by
    by_contra h
    rw [Bool.not_eq_false, isNull_eq_true_iff] at h
    exact hbc (h ▸ sortOrder_null_right hbnull)
  by_cases hna : a.isNaN = true
  · rw [sortOrder_of_isNaN hna hcnull]
    exact nofun
  by_cases hnc : c.isNaN = true
  · rw [sortOrder_swap, sortOrder_of_isNaN hnc hnull]
    exact nofun
  · rw [Bool.not_eq_true] at hna hnc
    exact (preorderOn_sortOrder t.kind).trans a b c (fits_of_canHold ha hna)
      (fits_of_canHold hb hnan) (fits_of_canHold hc hnc) hab hbc

/-- Through a value that is not NaN, ties are transitive as well. -/
theorem sortOrder_eq_trans (ha : t.CanHold a) (hb : t.CanHold b) (hc : t.CanHold c)
    (hnan : b.isNaN = false) (hab : a.sortOrder b = .eq) (hbc : b.sortOrder c = .eq) :
    a.sortOrder c = .eq := by
  have hac : a.sortOrder c ≠ .gt :=
    sortOrder_ne_gt_trans ha hb hc hnan (by simp [hab]) (by simp [hbc])
  have hca : c.sortOrder a ≠ .gt :=
    sortOrder_ne_gt_trans hc hb ha hnan (by simp [sortOrder_swap b c, hbc])
      (by simp [sortOrder_swap a b, hab])
  rw [sortOrder_swap a c] at hca
  cases ho : a.sortOrder c <;> simp_all

/-- A column that can hold NaN holds two numbers in descending order, with which NaN ties. -/
theorem exists_descending_of_isNaN (hb : t.CanHold b) (hnan : b.isNaN = true) :
    ∃ a c, t.CanHold a ∧ t.CanHold c ∧ a.sortOrder b = .eq ∧ b.sortOrder c = .eq ∧
      a.sortOrder c = .gt := by
  have hkind : b.kind = t.kind := hb.resolve_left fun hnull => by
    rw [hnull] at hnan
    cases hnan
  have hties : ∀ x : Value, x.isNull = false → b.sortOrder x = .eq ∧ x.sortOrder b = .eq := by
    intro x hx
    have hbx := sortOrder_of_isNaN hnan hx
    exact ⟨hbx, by rw [sortOrder_swap, hbx]; rfl⟩
  cases b with
  | float32 =>
    exact ⟨float32 (.number false ⟨1, by decide⟩), float32 (.number false ⟨0, by decide⟩),
      .inr hkind, .inr hkind, (hties _ rfl).2, (hties _ rfl).1, rfl⟩
  | float64 =>
    exact ⟨float64 (.number false ⟨1, by decide⟩), float64 (.number false ⟨0, by decide⟩),
      .inr hkind, .inr hkind, (hties _ rfl).2, (hties _ rfl).1, rfl⟩
  | _ => cases hnan

theorem sortOrder_ne_gt_trans_iff (hb : t.CanHold b) :
    (∀ a c, t.CanHold a → t.CanHold c → a.sortOrder b ≠ .gt → b.sortOrder c ≠ .gt →
      a.sortOrder c ≠ .gt) ↔ b.isNaN = false := by
  refine ⟨fun h => ?_, fun hnan a c ha hc => sortOrder_ne_gt_trans ha hb hc hnan⟩
  by_contra hnan
  rw [Bool.not_eq_false] at hnan
  obtain ⟨a, c, ha, hc, hab, hbc, hac⟩ := exists_descending_of_isNaN hb hnan
  exact h a c ha hc (by simp [hab]) (by simp [hbc]) hac

theorem sortOrder_eq_trans_iff (hb : t.CanHold b) :
    (∀ a c, t.CanHold a → t.CanHold c → a.sortOrder b = .eq → b.sortOrder c = .eq →
      a.sortOrder c = .eq) ↔ b.isNaN = false := by
  refine ⟨fun h => ?_, fun hnan a c ha hc => sortOrder_eq_trans ha hb hc hnan⟩
  by_contra hnan
  rw [Bool.not_eq_false] at hnan
  obtain ⟨a, c, ha, hc, hab, hbc, hac⟩ := exists_descending_of_isNaN hb hnan
  rw [h a c ha hc hab hbc] at hac
  cases hac

end Value

/-! ## Columns and rows -/

theorem SortPlan.uniform_of_canHold {p : SortPlan} {ρ : Type} {view : ρ → Record} {rows : List ρ}
    (h : ∀ k ∈ p.keys, ∀ row ∈ rows, k.column.type.CanHold (k.column.read (view row)) ∧
      (k.column.read (view row)).isNaN = false) : p.Uniform view rows := fun k hk =>
  ⟨k.column.type.kind, fun row hrow => Value.fits_of_canHold (h k hk row hrow).1 (h k hk row hrow).2⟩

/-- The sort order of any two values is turned around with them. On the values of a column it is
transitive through every value but NaN, and so are ties; through NaN neither is. A plan compares
rows by a total preorder, if no row has NaN in a column that it orders them by. -/
theorem Value.sortOrder_column (t : ScalarType) {b : Value} (hb : t.CanHold b) {ρ : Type}
    (p : SortPlan) (view : ρ → Record) (rows : List ρ) :
    (∀ a : Value, b.sortOrder a = (a.sortOrder b).swap) ∧
      ((∀ a c, t.CanHold a → t.CanHold c → a.sortOrder b ≠ .gt → b.sortOrder c ≠ .gt →
          a.sortOrder c ≠ .gt) ↔ b.isNaN = false) ∧
      ((∀ a c, t.CanHold a → t.CanHold c → a.sortOrder b = .eq → b.sortOrder c = .eq →
          a.sortOrder c = .eq) ↔ b.isNaN = false) ∧
      ((∀ k ∈ p.keys, ∀ row ∈ rows, k.column.type.CanHold (k.column.read (view row)) ∧
          (k.column.read (view row)).isNaN = false) →
        PreorderOn (· ∈ rows) fun a b => p.order (view a) (view b)) := by
  refine ⟨fun a => sortOrder_swap a b, sortOrder_ne_gt_trans_iff hb, sortOrder_eq_trans_iff hb,
    fun h => ?_⟩
  exact SortPlan.preorderOn_order (SortPlan.uniform_of_canHold h)

namespace Reading

/-- Readings by their levels. -/
def byLevel : SortPlan := ⟨[⟨⟨[], "Level", .float64⟩, true⟩], .multiKey⟩

/-- The level of five. -/
def five : Binary .double := .number false ⟨4617315517961601024, by decide⟩

/-- The level of zero. -/
def zero : Binary .double := .number false ⟨0, by decide⟩

end Reading

open Reading in
theorem Value.sortOrder_levels :
    ScalarType.float64.CanHold (.float64 zero) ∧
      (∀ a c, ScalarType.float64.CanHold a → ScalarType.float64.CanHold c →
        a.sortOrder (.float64 zero) ≠ .gt → (Value.float64 zero).sortOrder c ≠ .gt →
        a.sortOrder c ≠ .gt) ∧
      PreorderOn (· ∈ [five, zero]) fun a b => byLevel.order (record a) (record b) := by
  have hzero : ScalarType.float64.CanHold (.float64 zero) := .inr rfl
  obtain ⟨-, htrans, -, hrows⟩ :=
    sortOrder_column .float64 hzero byLevel record [five, zero]
  refine ⟨hzero, htrans.mpr rfl, hrows ?_⟩
  intro k hk row hrow
  rw [List.mem_singleton.mp hk]
  rcases List.mem_pair.mp hrow with rfl | rfl <;> exact ⟨.inr rfl, rfl⟩

open Reading in
/-- Five does not stand after NaN, nor NaN after zero, but five stands after zero. Sorted by their
levels, these readings stay in the order that they were in, and five stands before zero. -/
theorem SortPlan.sort_notANumber :
    (∀ x, ScalarType.float64.CanHold (.float64 x)) ∧
      (Value.float64 five).sortOrder (.float64 .nan) ≠ .gt ∧
      (Value.float64 .nan).sortOrder (.float64 zero) ≠ .gt ∧
      (Value.float64 five).sortOrder (.float64 zero) = .gt ∧
      ofDirectives catalog schema [⟨"level", true⟩] .multiKey = .ok byLevel ∧
      byLevel.order (record five) (record zero) = .gt ∧
      byLevel.sort record [.nan, five, .nan, zero] = [.nan, five, .nan, zero] := by
  refine ⟨fun x => .inr rfl, by decide, by decide, by decide, rfl, by decide, ?_⟩
  have hleft : ∀ x, byLevel.order (record .nan) (record x) = .eq := fun x => by cases x <;> rfl
  have hright : ∀ x, byLevel.order (record x) (record .nan) = .eq := fun x => by cases x <;> rfl
  unfold sort
  simp [List.mergeSort, List.MergeSort.Internal.splitInTwo, hleft, hright]

end RecordQuery
