import RecordQuery.Engine.Source
import RecordQuery.Proofs.Queries.PartByPart

/-!
# Compiled queries that are the same

Two compiled queries are the same if they differ at most in how numbers are written: in the fraction
digits of a decimal literal, or in the sign of a floating-point zero. No list of rows tells such
queries apart. A literal NaN would not be the same as itself, and a query with one not the same as
itself either; but no literal is read as NaN.

Results:
* `Predicate.holds_eq_of_same`: predicates that are the same hold of the same records.
* `same_self`: a query whose literals are numbers, if they are floating-point numbers at all, is the
  same as itself.
* `same_ofQuery`: sameness of compiled queries is trustworthy.
-/

namespace RecordQuery

/-! ## Comparisons and predicates -/

namespace Comparison

variable {c c' : Comparison}

theorem accepts_eq_of_same {literal literal' : Value} (h : literal.same literal' = true)
    (operand : Operand) (member : Value) :
    accepts operand literal member = accepts operand literal' member := by
  unfold accepts
  rw [Value.text?_eq_of_same h, Value.order?_eq_of_same h]

theorem holds_eq_of_same (h : c.same c' = true) (r : Record) : c.holds r = c'.holds r := by
  unfold same at h
  simp only [Bool.and_eq_true, beq_iff_eq] at h
  obtain ⟨⟨hcolumn, hoperand⟩, hliteral⟩ := h
  unfold holds
  rw [hcolumn, hoperand, accepts_eq_of_same hliteral]

theorem same_self (h : c.literal.isNaN = false) : c.same c = true := by
  simp [same, Value.same_self h]

end Comparison

namespace Predicate

variable {p p' : Predicate}

/-- Predicates that are the same have the same shape, and their comparisons are the same one by
one. -/
theorem holds_eq_of_same (h : p.same p' = true) (r : Record) : p.holds r = p'.holds r := by
  induction p, p' using same.induct with
  | case1 => rfl
  | case2 a b => exact Comparison.holds_eq_of_same h r
  | case3 connective left right connective' left' right' ihleft ihright =>
    simp only [same, Bool.and_eq_true, beq_iff_eq] at h
    obtain ⟨⟨hconnective, hleft⟩, hright⟩ := h
    rw [holds, holds, hconnective, ihleft hleft, ihright hright]
  | case4 p p' halways hcompare hjoin =>
    rw [same.eq_4 p p' halways hcompare hjoin] at h
    cases h

theorem same_self (h : ∀ c ∈ p.comparisons, c.literal.isNaN = false) : p.same p = true := by
  induction p with
  | always => rfl
  | compare c => exact Comparison.same_self (h c (List.mem_singleton_self c))
  | join connective left right ihleft ihright =>
    have hleft := ihleft fun c hc => h c (List.mem_append_left _ hc)
    have hright := ihright fun c hc => h c (List.mem_append_right _ hc)
    simp [same, hleft, hright]

end Predicate

/-! ## Compiled queries -/

namespace CompiledQuery

variable {κ : Type} {catalog : Catalog κ} {schema : Schema κ} {composition : SortComposition}
  {q : Query} {a b : CompiledQuery}

/-- Two compiled queries that no list of rows tells apart. -/
structure Interchangeable (a b : CompiledQuery) : Prop where
  wants : ∀ r, a.wants r = b.wants r
  apply : ∀ {ρ : Type} (view : ρ → Record) (rows : List ρ), a.apply view rows = b.apply view rows
  count : ∀ {m : Type → Type} [Monad m] {κ ρ : Type} (rowType : RowType κ ρ) (rows : List ρ),
    (rowType.sourceOf rows : Source m ρ).count a = (rowType.sourceOf rows : Source m ρ).count b
  fetch : ∀ {m : Type → Type} [Monad m] {κ ρ α : Type} (rowType : RowType κ ρ) (rows : List ρ)
    (window : Option Window) (shape : ρ → α),
    (rowType.sourceOf rows : Source m ρ).fetch a window shape =
      (rowType.sourceOf rows : Source m ρ).fetch b window shape

theorem same_iff :
    a.same b = true ↔ a.predicate.same b.predicate = true ∧ a.plan = b.plan ∧ a.page = b.page := by
  simp only [same, Bool.and_eq_true, beq_iff_eq, and_assoc]

theorem interchangeable_of_same (h : a.same b = true) : Interchangeable a b := by
  obtain ⟨hpredicate, hplan, -⟩ := same_iff.mp h
  have hwants : a.wants = b.wants := funext (Predicate.holds_eq_of_same hpredicate)
  have happly : ∀ {ρ : Type} (view : ρ → Record) (rows : List ρ),
      a.apply view rows = b.apply view rows := by
    intro ρ view rows
    unfold apply
    rw [hwants, hplan]
  refine ⟨congrFun hwants, happly, ?_, ?_⟩
  · intro m _ κ ρ rowType rows
    simp only [RowType.sourceOf, hwants]
  · intro m _ κ ρ α rowType rows window shape
    simp only [RowType.sourceOf, happly]

theorem same_self (h : ∀ c ∈ a.predicate.comparisons, c.literal.isNaN = false) :
    a.same a = true :=
  same_iff.mpr ⟨Predicate.same_self h, rfl, rfl⟩

/-- Every literal of a compiled query was read from a text, and none is read as NaN. -/
theorem isNaN_of_mem_comparisons (h : ofQuery catalog schema composition q = .ok a)
    {c : Comparison} (hc : c ∈ a.predicate.comparisons) : c.literal.isNaN = false := by
  obtain ⟨f, -, hf⟩ := (mem_mapM_iff (mapM_eq_ok_iff.mpr (forall₂_comparisons h))).mp hc
  obtain ⟨path, t, literal, -, -, -, hliteral, rfl⟩ := Comparison.ofFilter_eq_ok_iff.mp hf
  exact ScalarType.isNaN_of_ofLiteral? hliteral

/-- Sameness of compiled queries is trustworthy. What a query compiles to is the same as itself, so
to compile it twice gives the same, as no literal that is read fails to be the same as itself. And
no list of rows tells two queries apart that are the same, although their literals may be written
in two ways. -/
theorem same_ofQuery (catalog : Catalog κ) (schema : Schema κ) (composition : SortComposition)
    (q : Query) :
    (∀ a, ofQuery catalog schema composition q = .ok a →
        a.same a = true ∧ ∀ b, ofQuery catalog schema composition q = .ok b → a.same b = true) ∧
      (∀ (t : ScalarType) s v, t.coerce s = .ok v → v.same v = true) ∧
      ∀ a b : CompiledQuery, a.same b = true → Interchangeable a b := by
  refine ⟨fun a ha => ?_, fun t s v hv => ?_, fun a b => interchangeable_of_same⟩
  · have hself : a.same a = true := same_self fun c => isNaN_of_mem_comparisons ha
    refine ⟨hself, fun b hb => ?_⟩
    rw [ha] at hb
    cases hb
    exact hself
  · exact Value.same_self (ScalarType.isNaN_of_ofLiteral? (ScalarType.coerce_eq_ok_iff.mp hv))

end CompiledQuery

/-! ## Readings -/

namespace Reading

/-- The query for readings with a level below zero, which is written with a minus, and a dose of
one, which is written with one fraction digit. -/
def query : Query where
  filters := [⟨"level", .less, "-0", .and, rfl, by decide⟩,
    ⟨"dose", .equals, "1.0", .and, rfl, by decide⟩]
  search := none
  sorts := [⟨"dose", false⟩]
  page := ⟨10, 1⟩

/-- The same query, with its numbers written in another way. -/
def otherQuery : Query :=
  { query with
    filters := [⟨"Level", .less, "0e7", .or, rfl, by decide⟩,
      ⟨"Dose ", .equals, "1.000", .and, rfl, by decide⟩] }

end Reading

theorem CompiledQuery.same_reading :
    ∃ a b, ofQuery Reading.catalog Reading.schema .multiKey Reading.query = .ok a ∧
      ofQuery Reading.catalog Reading.schema .multiKey Reading.otherQuery = .ok b ∧
      a ≠ b ∧ a.same a = true ∧ a.same b = true ∧ Interchangeable a b := by
  obtain ⟨a, b, ha, hb, hne, hsame⟩ : ∃ a b,
      ofQuery Reading.catalog Reading.schema .multiKey Reading.query = .ok a ∧
      ofQuery Reading.catalog Reading.schema .multiKey Reading.otherQuery = .ok b ∧
      a ≠ b ∧ a.same b = true := ⟨_, _, rfl, rfl, by decide, by decide⟩
  obtain ⟨hself, -, hinterchangeable⟩ :=
    same_ofQuery Reading.catalog Reading.schema .multiKey Reading.query
  exact ⟨a, b, ha, hb, hne, (hself a ha).1, hsame, hinterchangeable a b hsame⟩

end RecordQuery
