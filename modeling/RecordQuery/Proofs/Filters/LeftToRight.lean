import Mathlib.Data.List.Induction
import RecordQuery.Plan.Predicate
import RecordQuery.Proofs.FirstFailure
import RecordQuery.Proofs.Records.WellTyped

/-!
# Conditions from left to right

Conditions are joined one after the other, each by its own connective. What that comes to can be
said without a recursion: some condition decides for a record, because it starts an alternative and
holds, and every later condition that is joined by `and` holds too.

Results:
* `holds_ofConditions_iff`: the meaning of a list of conditions.
* `ofFilters_modifyHead`: the connective of the first filter is never looked at.
* `holds_ofFilters_conditions`: the meaning of the conditions of a query.
-/

namespace RecordQuery

namespace Predicate

variable {r : Record} {conditions : List (Connective × Comparison)}
  {condition : Connective × Comparison}

/-! ## The deciding condition -/

/-- A condition that decides for a record. -/
structure DecidedAt (r : Record) (conditions : List (Connective × Comparison)) (i : Nat) :
    Prop where
  lt : i < conditions.length
  /-- The condition starts an alternative. -/
  starts : i = 0 ∨ conditions[i].1 = .or
  holds : conditions[i].2.holds r = true
  /-- No later condition takes the decision back. -/
  lasts : ∀ j, (hj : j < conditions.length) → i < j → conditions[j].1 = .and →
    conditions[j].2.holds r = true

theorem exists_decidedAt_singleton_iff :
    (∃ i, DecidedAt r [condition] i) ↔ condition.2.holds r = true := by
  constructor
  · rintro ⟨i, h⟩
    obtain rfl : i = 0 := by simpa using h.lt
    exact h.holds
  · intro h
    refine ⟨0, by simp, .inl rfl, h, fun j hj hlt => ?_⟩
    rw [List.length_singleton] at hj
    omega

/-- The last of several conditions decides if it is an alternative that holds. -/
theorem decidedAt_length_iff (hne : conditions ≠ []) :
    DecidedAt r (conditions ++ [condition]) conditions.length ↔
      condition.1 = .or ∧ condition.2.holds r = true := by
  have hpos : 0 < conditions.length := List.length_pos_iff.mpr hne
  constructor
  · rintro ⟨_, hstarts, hholds, _⟩
    rw [List.getElem_concat_length rfl] at hstarts hholds
    exact ⟨hstarts.resolve_left (by omega), hholds⟩
  · rintro ⟨hor, hholds⟩
    refine ⟨by simp, .inr ?_, ?_, fun j hj hlt => ?_⟩
    · rwa [List.getElem_concat_length rfl]
    · rwa [List.getElem_concat_length rfl]
    · rw [List.length_append, List.length_singleton] at hj
      omega

/-- An earlier condition still decides unless the last is joined by `and` and fails. -/
theorem decidedAt_append_iff {i : Nat} (hi : i < conditions.length) :
    DecidedAt r (conditions ++ [condition]) i ↔
      DecidedAt r conditions i ∧ (condition.1 = .and → condition.2.holds r = true) := by
  constructor
  · rintro ⟨_, hstarts, hholds, hlasts⟩
    rw [List.getElem_append_left hi] at hstarts hholds
    refine ⟨⟨hi, hstarts, hholds, fun j hj hlt => ?_⟩, ?_⟩
    · have h := hlasts j (by rw [List.length_append]; omega) hlt
      rwa [List.getElem_append_left hj] at h
    · have h := hlasts conditions.length (by simp) hi
      rwa [List.getElem_concat_length rfl] at h
  · rintro ⟨⟨_, hstarts, hholds, hlasts⟩, hlast⟩
    refine ⟨by rw [List.length_append]; omega, ?_, ?_, fun j hj hlt => ?_⟩
    · rwa [List.getElem_append_left hi]
    · rwa [List.getElem_append_left hi]
    · by_cases hj' : j < conditions.length
      · rw [List.getElem_append_left hj']
        exact hlasts j hj' hlt
      · rw [List.length_append, List.length_singleton] at hj
        obtain rfl : j = conditions.length := by omega
        rwa [List.getElem_concat_length rfl]

/-- One more condition is joined to the decision on those before it. -/
theorem exists_decidedAt_append_iff (hne : conditions ≠ []) :
    (∃ i, DecidedAt r (conditions ++ [condition]) i) ↔
      (condition.1 = .or ∧ condition.2.holds r = true) ∨
        (∃ i, DecidedAt r conditions i) ∧ (condition.1 = .and → condition.2.holds r = true) := by
  constructor
  · rintro ⟨i, h⟩
    by_cases hi : i < conditions.length
    · obtain ⟨h, hlast⟩ := (decidedAt_append_iff hi).mp h
      exact .inr ⟨⟨i, h⟩, hlast⟩
    · have hlt := h.lt
      rw [List.length_append, List.length_singleton] at hlt
      obtain rfl : i = conditions.length := by omega
      exact .inl ((decidedAt_length_iff hne).mp h)
  · rintro (h | ⟨⟨i, h⟩, hlast⟩)
    · exact ⟨conditions.length, (decidedAt_length_iff hne).mpr h⟩
    · exact ⟨i, (decidedAt_append_iff h.lt).mpr ⟨h, hlast⟩⟩

/-! ## The meaning of conditions -/

theorem holds_extend (p : Predicate) :
    (p.extend condition).holds r = condition.1.join (p.holds r) (condition.2.holds r) := rfl

theorem ofConditions_append_singleton (hne : conditions ≠ []) :
    ofConditions (conditions ++ [condition]) = (ofConditions conditions).extend condition := by
  cases conditions with
  | nil => exact absurd rfl hne
  | cons c cs => simp [ofConditions]

/-- More conditions are joined to the predicate of those before them. -/
theorem ofConditions_append (hne : conditions ≠ []) (more : List (Connective × Comparison)) :
    ofConditions (conditions ++ more) = more.foldl extend (ofConditions conditions) := by
  cases conditions with
  | nil => exact absurd rfl hne
  | cons c cs => exact List.foldl_append

/-- A record satisfies conditions if there is none, or if one of them decides for it. -/
theorem holds_ofConditions_iff :
    (ofConditions conditions).holds r = true ↔
      conditions = [] ∨ ∃ i, DecidedAt r conditions i := by
  -- the last condition is the outermost one, so the induction takes it off
  induction conditions using List.reverseRecOn with
  | nil => simp [ofConditions, holds]
  | append_singleton conditions condition ih =>
    rw [or_iff_right (List.append_ne_nil_of_right_ne_nil _ (List.cons_ne_nil _ _))]
    by_cases hne : conditions = []
    · subst hne
      rw [List.nil_append]
      exact exists_decidedAt_singleton_iff.symm
    · rw [or_iff_right hne] at ih
      rw [ofConditions_append_singleton hne, holds_extend, exists_decidedAt_append_iff hne, ← ih]
      cases condition.1 with
      | and => simp [Connective.join]
      | or => simp [Connective.join, or_comm]

theorem ofConditions_eq_always_iff : ofConditions conditions = always ↔ conditions = [] := by
  constructor
  · intro h
    have hcomparisons := comparisons_ofConditions conditions
    rw [h] at hcomparisons
    exact List.map_eq_nil_iff.mp hcomparisons.symm
  · rintro rfl
    rfl

/-! ## Filters -/

variable {κ : Type} {catalog : Catalog κ} {schema : Schema κ} {fs : List Filter} {p : Predicate}

/-- The condition of a filter. -/
def conditionOf (catalog : Catalog κ) (schema : Schema κ) (f : Filter) :
    Except QueryError (Connective × Comparison) := do
  return (f.connective, ← Comparison.ofFilter catalog schema f)

theorem conditionOf_eq_ok_iff {f : Filter} {c : Connective × Comparison} :
    conditionOf catalog schema f = .ok c ↔
      c.1 = f.connective ∧ Comparison.ofFilter catalog schema f = .ok c.2 := by
  unfold conditionOf
  rw [bind_eq_ok_iff]
  constructor
  · rintro ⟨comparison, hcomparison, h⟩
    cases h
    exact ⟨rfl, hcomparison⟩
  · rintro ⟨hconnective, hcomparison⟩
    exact ⟨c.2, hcomparison, by rw [← hconnective]; rfl⟩

theorem ofFilters_eq_ok_iff :
    ofFilters catalog schema fs = .ok p ↔
      ∃ conditions, List.Forall₂ (fun f c => c.1 = f.connective ∧
          Comparison.ofFilter catalog schema f = .ok c.2) fs conditions ∧
        ofConditions conditions = p := by
  show (fs.mapM (conditionOf catalog schema)).map ofConditions = .ok p ↔ _
  rw [map_eq_ok_iff]
  simp only [mapM_eq_ok_iff, conditionOf_eq_ok_iff]

/-- Filters behind others are compiled to conditions behind theirs. -/
theorem ofFilters_append_eq_ok_iff {gs : List Filter} :
    ofFilters catalog schema (fs ++ gs) = .ok p ↔
      ∃ conditions more, fs.mapM (conditionOf catalog schema) = .ok conditions ∧
        gs.mapM (conditionOf catalog schema) = .ok more ∧
        ofConditions (conditions ++ more) = p := by
  show ((fs ++ gs).mapM (conditionOf catalog schema)).map ofConditions = .ok p ↔ _
  rw [List.mapM_append, map_eq_ok_iff]
  cases fs.mapM (conditionOf catalog schema) with
  | error e => simp [bind, Except.bind]
  | ok conditions =>
    cases gs.mapM (conditionOf catalog schema) with
    | error e => simp [bind, Except.bind]
    | ok more => simp [bind, Except.bind, pure, Except.pure]

/-- The first filter is compiled without its connective. -/
theorem ofFilters_cons (f : Filter) :
    ofFilters catalog schema (f :: fs) = Comparison.ofFilter catalog schema f >>= fun c =>
      (fs.mapM (conditionOf catalog schema)).map fun more =>
        List.foldl extend (compare c) more := by
  show ((f :: fs).mapM (conditionOf catalog schema)).map ofConditions = _
  rw [mapM_cons_eq]
  generalize fs.mapM (conditionOf catalog schema) = more
  unfold conditionOf
  cases Comparison.ofFilter catalog schema f with
  | error e => rfl
  | ok c => cases more <;> rfl

/-- Whatever the first filter is joined by, the predicate or the failure is the same. -/
theorem ofFilters_modifyHead (connective : Connective) :
    ofFilters catalog schema (fs.modifyHead fun f => { f with connective }) =
      ofFilters catalog schema fs := by
  cases fs with
  | nil => rfl
  | cons f fs =>
    rw [List.modifyHead_cons, ofFilters_cons, ofFilters_cons]
    rfl

/-- The conditions of a query, if they compile, are its filters in order, each with its connective.
A record satisfies them if there is none, or if one of them decides for it; there is none exactly if
the query is unfiltered. -/
theorem holds_ofFilters_conditions (q : Query) :
    (∀ p, ofFilters catalog schema q.conditions = .ok p → ∃ conditions,
        List.Forall₂ (fun f c => c.1 = f.connective ∧
          Comparison.ofFilter catalog schema f = .ok c.2) q.conditions conditions ∧
        (∀ r, p.holds r = true ↔ conditions = [] ∨ ∃ i, DecidedAt r conditions i) ∧
        p.comparisons = conditions.map (·.2) ∧
        p.comparisons.length = q.conditions.length ∧
        (p = always ↔ q.isUnfiltered = true)) ∧
      ∀ connective,
        ofFilters catalog schema (q.conditions.modifyHead fun f => { f with connective }) =
          ofFilters catalog schema q.conditions := by
  refine ⟨fun p h => ?_, ofFilters_modifyHead⟩
  obtain ⟨conditions, hcompiles, rfl⟩ := ofFilters_eq_ok_iff.mp h
  refine ⟨conditions, hcompiles, fun r => holds_ofConditions_iff, comparisons_ofConditions _,
    ?_, ?_⟩
  · rw [comparisons_ofConditions, List.length_map, hcompiles.length_eq]
  · rw [ofConditions_eq_always_iff, Query.isUnfiltered_iff, ← List.length_eq_zero_iff,
      ← List.length_eq_zero_iff, hcompiles.length_eq]

/-- Persons of thirty, or with a certain manager, but then not of sixty-one. -/
def teamFilters : List Filter :=
  [⟨"Age", .equals, "30", .and, rfl, by decide⟩, Person.managerFilter,
    ⟨"Age", .notEquals, "61", .and, rfl, by decide⟩]

/-- A query for these persons and for what a search finds. -/
def searchedTeam (s : Search) : Query := ⟨teamFilters, some s, [], ⟨1, 10⟩⟩

theorem holds_teamFilters :
    ∃ p, ofFilters Person.catalog Person.schema
        (Query.conditions ⟨teamFilters, none, [], ⟨1, 10⟩⟩) = .ok p ∧
      ∃ conditions, p.comparisons = conditions.map (·.2) ∧ p.comparisons.length = 3 ∧
        ∀ r, p.holds r = true ↔ conditions = [] ∨ ∃ i, DecidedAt r conditions i := by
  obtain ⟨p, h⟩ : ∃ p, ofFilters Person.catalog Person.schema
      (Query.conditions ⟨teamFilters, none, [], ⟨1, 10⟩⟩) = .ok p := ⟨_, rfl⟩
  obtain ⟨conditions, -, hholds, hcomparisons, hlength, -⟩ :=
    (holds_ofFilters_conditions ⟨teamFilters, none, [], ⟨1, 10⟩⟩).1 p h
  exact ⟨p, h, conditions, hcomparisons, hlength, hholds⟩

end Predicate

end RecordQuery
