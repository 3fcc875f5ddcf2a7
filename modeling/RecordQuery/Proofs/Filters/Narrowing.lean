import Mathlib.Data.List.Basic
import RecordQuery.Proofs.Filters.LeftToRight

/-!
# One more filter

A filter that is added to a query that has one is joined to the filters before it, and the search
comes behind it as before. Every condition of the search is joined to what stands before it, and
keeps it that this accepts more, or less, than it did. So a filter joined by `and` narrows what the
query accepts, and one joined by `or` widens it, whatever the search does then.

Results:
* `Implies.foldl_extend`: conditions joined to two predicates keep an implication between them.
* `Implies.matched_sublist`: an implication is seen on every list of rows.
* `implies_addFilter`: added filters are monotone.
-/

namespace RecordQuery

namespace Predicate

variable {p p' : Predicate} {condition : Connective × Comparison} {ρ : Type}

/-! ## Implications between predicates -/

/-- Every record that satisfies the one predicate satisfies the other. -/
def Implies (p p' : Predicate) : Prop := ∀ r, p.holds r = true → p'.holds r = true

/-- The rows that satisfy a predicate. -/
def matched (p : Predicate) (view : ρ → Record) (rows : List ρ) : List ρ :=
  rows.filter fun row => p.holds (view row)

theorem Implies.matched_sublist (h : p.Implies p') (view : ρ → Record) (rows : List ρ) :
    (p.matched view rows).Sublist (p'.matched view rows) :=
  List.monotone_filter_right rows fun row => h (view row)

theorem extend_implies (h : condition.1 = .and) : (p.extend condition).Implies p := by
  intro r hr
  rw [holds_extend, h] at hr
  exact (Bool.and_eq_true_iff.mp hr).1

theorem implies_extend (h : condition.1 = .or) : p.Implies (p.extend condition) := by
  intro r hr
  rw [holds_extend, h, hr]
  rfl

/-- A condition keeps an implication between the predicates that it is joined to. -/
theorem Implies.extend (h : p.Implies p') (condition : Connective × Comparison) :
    (p.extend condition).Implies (p'.extend condition) := by
  intro r hr
  rw [holds_extend] at hr ⊢
  cases hconnective : condition.1 with
  | and =>
    rw [hconnective] at hr
    obtain ⟨hp, hc⟩ := Bool.and_eq_true_iff.mp hr
    exact Bool.and_eq_true_iff.mpr ⟨h r hp, hc⟩
  | or =>
    rw [hconnective] at hr
    exact Bool.or_eq_true_iff.mpr ((Bool.or_eq_true_iff.mp hr).imp_left (h r))

/-- So do any number of conditions. -/
theorem Implies.foldl_extend (h : p.Implies p') (more : List (Connective × Comparison)) :
    (more.foldl Predicate.extend p).Implies (more.foldl Predicate.extend p') := by
  induction more generalizing p p' with
  | nil => exact h
  | cons condition more ih => exact ih (h.extend condition)

/-! ## The added filter -/

section Added

variable {κ : Type} {catalog : Catalog κ} {schema : Schema κ} {q : Query} {f : Filter}

/-- The conditions of a query and of the query with one more filter part at that filter. -/
theorem exists_of_ofFilters_addFilter (hne : q.filters ≠ [])
    (hp : ofFilters catalog schema q.conditions = .ok p)
    (hp' : ofFilters catalog schema (q.addFilter f).conditions = .ok p') :
    ∃ (before : Predicate) (comparison : Comparison) (more : List (Connective × Comparison)),
      p = more.foldl Predicate.extend before ∧
        p' = more.foldl Predicate.extend (before.extend (f.connective, comparison)) := by
  obtain ⟨conditions, more, hconditions, hmore, rfl⟩ := ofFilters_append_eq_ok_iff.mp hp
  have hadded : (q.addFilter f).conditions = q.filters ++ (f :: q.searchFilters) :=
    List.append_assoc q.filters [f] q.searchFilters
  rw [hadded] at hp'
  obtain ⟨conditions', more', hconditions', hmore', rfl⟩ := ofFilters_append_eq_ok_iff.mp hp'
  -- The filters of the query are compiled to the same conditions in both.
  obtain rfl : conditions = conditions' := Except.ok.inj (hconditions.symm.trans hconditions')
  rw [mapM_cons_eq, bind_eq_ok_iff] at hmore'
  obtain ⟨⟨connective, comparison⟩, hcondition, hmore'⟩ := hmore'
  obtain ⟨more'', hmore'', rfl⟩ := map_eq_ok_iff.mp hmore'
  obtain rfl : more = more'' := Except.ok.inj (hmore.symm.trans hmore'')
  obtain ⟨hconnective, -⟩ := conditionOf_eq_ok_iff.mp hcondition
  have hsome : conditions ≠ [] := by
    have hlength := (mapM_eq_ok_iff.mp hconditions).length_eq
    rwa [← List.length_pos_iff, ← hlength, List.length_pos_iff]
  refine ⟨ofConditions conditions, comparison, more, ofConditions_append hsome more, ?_⟩
  rw [ofConditions_append hsome, List.foldl_cons, ← hconnective]

/-- Added filters are monotone. Joined by `and`, a filter takes rows from those that satisfied the
query; joined by `or`, it keeps all of them; whether the query has a search or not. -/
theorem implies_addFilter (hne : q.filters ≠ [])
    (hp : ofFilters catalog schema q.conditions = .ok p)
    (hp' : ofFilters catalog schema (q.addFilter f).conditions = .ok p') :
    (f.connective = .and → p'.Implies p ∧
        ∀ {ρ : Type} (view : ρ → Record) (rows : List ρ),
          (p'.matched view rows).Sublist (p.matched view rows)) ∧
      (f.connective = .or → p.Implies p' ∧
        ∀ {ρ : Type} (view : ρ → Record) (rows : List ρ),
          (p.matched view rows).Sublist (p'.matched view rows)) := by
  obtain ⟨before, comparison, more, rfl, rfl⟩ := exists_of_ofFilters_addFilter hne hp hp'
  constructor
  · intro hand
    have hbefore : (before.extend (f.connective, comparison)).Implies before := extend_implies hand
    have h := hbefore.foldl_extend more
    exact ⟨h, h.matched_sublist⟩
  · intro hor
    have hbefore : before.Implies (before.extend (f.connective, comparison)) := implies_extend hor
    have h := hbefore.foldl_extend more
    exact ⟨h, h.matched_sublist⟩

theorem implies_searchedTeam :
    ∃ s p wider, Search.make "nn" ["name", "manager.name"] = .ok s ∧
      ofFilters Person.catalog Person.schema (searchedTeam s).conditions = .ok p ∧
      ofFilters Person.catalog Person.schema
        ((searchedTeam s).addFilter Person.managerFilter).conditions = .ok wider ∧
      p.Implies wider := by
  obtain ⟨s, p, wider, hs, hp, hwider⟩ :
      ∃ s p wider, Search.make "nn" ["name", "manager.name"] = .ok s ∧
        ofFilters Person.catalog Person.schema (searchedTeam s).conditions = .ok p ∧
        ofFilters Person.catalog Person.schema
          ((searchedTeam s).addFilter Person.managerFilter).conditions = .ok wider :=
    ⟨_, _, _, rfl, rfl, rfl⟩
  have hne : (searchedTeam s).filters ≠ [] := List.cons_ne_nil _ _
  obtain ⟨hwidens, -⟩ := (implies_addFilter hne hp hwider).2 rfl
  exact ⟨s, p, wider, hs, hp, hwider, hwidens⟩

end Added

end Predicate

end RecordQuery
