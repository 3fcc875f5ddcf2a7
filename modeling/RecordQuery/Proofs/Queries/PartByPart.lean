import RecordQuery.Plan.CompiledQuery
import RecordQuery.Proofs.Filters.LeftToRight
import RecordQuery.Proofs.Filters.TypeSoundness
import RecordQuery.Proofs.Sorting.Composition

/-!
# Queries are compiled part by part

A query has parts in three lists: its filters, the filters of its search, and its sort directives.
Compiling the query is compiling every part by itself, from the first to the last: the query
compiles if all parts do, and otherwise it fails as its first failing part fails alone. No part has
a say in what another one is compiled to.

Results:
* `map_parts_ofQuery`: the compiled parts of a query are the compiled forms of its parts.
* `ofQuery_parts`: when a query compiles, to what, and how it fails.
-/

namespace RecordQuery

variable {κ : Type} {catalog : Catalog κ} {schema : Schema κ}

/-! ## Parts -/

/-- A part of a query that is compiled by itself. -/
inductive Query.Part where
  | condition (f : Filter)
  | directive (d : SortDirective)

/-- The parts of a query in the order in which they are compiled. -/
def Query.parts (q : Query) : List Query.Part :=
  q.filters.map .condition ++ q.searchFilters.map .condition ++ q.sorts.map .directive

/-- What a part of a query is compiled to. -/
inductive CompiledQuery.Part where
  | comparison (c : Comparison)
  | key (k : SortKey)

/-- The parts of a compiled query: its comparisons from left to right, then its sort keys. -/
def CompiledQuery.parts (compiled : CompiledQuery) : List CompiledQuery.Part :=
  compiled.predicate.comparisons.map .comparison ++ compiled.plan.keys.map .key

/-- The compiled form of one part, whatever else the query has. -/
def Query.Part.compile (catalog : Catalog κ) (schema : Schema κ) :
    Query.Part → Except QueryError CompiledQuery.Part
  | condition f => (Comparison.ofFilter catalog schema f).map .comparison
  | directive d => (SortKey.ofDirective catalog schema d).map .key

theorem Query.parts_eq (q : Query) :
    q.parts = q.conditions.map .condition ++ q.sorts.map .directive := by
  unfold parts conditions
  rw [List.map_append]

/-! ## Lists of parts -/

/-- The comparisons of a predicate are the compiled forms of its filters. -/
theorem Predicate.map_comparisons_ofFilters (fs : List Filter) :
    (ofFilters catalog schema fs).map (fun p => p.comparisons.map CompiledQuery.Part.comparison) =
      (fs.map Query.Part.condition).mapM (Query.Part.compile catalog schema) := by
  have hpart : (fun f => (conditionOf catalog schema f).map
        fun condition => CompiledQuery.Part.comparison condition.2) =
      Query.Part.compile catalog schema ∘ Query.Part.condition := by
    funext f
    show _ = (Comparison.ofFilter catalog schema f).map CompiledQuery.Part.comparison
    unfold conditionOf
    cases Comparison.ofFilter catalog schema f <;> rfl
  show ((fs.mapM (conditionOf catalog schema)).map ofConditions).map _ = _
  rw [List.mapM_map, ← hpart, mapM_map_eq, map_map_eq]
  simp only [comparisons_ofConditions, List.map_map, Function.comp_def]

/-- The keys of a plan are the compiled forms of its directives. -/
theorem SortPlan.map_keys_ofDirectives (ds : List SortDirective) (composition : SortComposition) :
    (ofDirectives catalog schema ds composition).map (fun p => p.keys.map CompiledQuery.Part.key) =
      (ds.map Query.Part.directive).mapM (Query.Part.compile catalog schema) := by
  rw [List.mapM_map]
  show _ = ds.mapM fun d => (SortKey.ofDirective catalog schema d).map CompiledQuery.Part.key
  rw [mapM_map_eq]
  unfold ofDirectives
  cases ds.mapM (SortKey.ofDirective catalog schema) <;> rfl

/-! ## Whole queries -/

namespace CompiledQuery

variable {composition : SortComposition} {q : Query} {compiled : CompiledQuery} {err : QueryError}

/-- To compile a query is to compile its parts, one after the other. -/
theorem map_parts_ofQuery (composition : SortComposition) (q : Query) :
    (ofQuery catalog schema composition q).map parts =
      q.parts.mapM (Query.Part.compile catalog schema) := by
  rw [Query.parts_eq, List.mapM_append, ← Predicate.map_comparisons_ofFilters,
    ← SortPlan.map_keys_ofDirectives q.sorts composition]
  unfold ofQuery
  cases Predicate.ofFilters catalog schema q.conditions with
  | error err => rfl
  | ok predicate => cases SortPlan.ofDirectives catalog schema q.sorts composition <;> rfl

theorem ofQuery_eq_ok_iff :
    ofQuery catalog schema composition q = .ok compiled ↔
      Predicate.ofFilters catalog schema q.conditions = .ok compiled.predicate ∧
        SortPlan.ofDirectives catalog schema q.sorts composition = .ok compiled.plan ∧
        compiled.page = q.page := by
  unfold ofQuery
  simp only [bind_eq_ok_iff]
  constructor
  · rintro ⟨predicate, hpredicate, plan, hplan, h⟩
    cases h
    exact ⟨hpredicate, hplan, rfl⟩
  · rintro ⟨hpredicate, hplan, hpage⟩
    exact ⟨_, hpredicate, _, hplan, by rw [← hpage]; rfl⟩

theorem forall₂_comparisons (h : ofQuery catalog schema composition q = .ok compiled) :
    List.Forall₂ (fun f c => Comparison.ofFilter catalog schema f = .ok c)
      (q.filters ++ q.searchFilters) compiled.predicate.comparisons := by
  obtain ⟨conditions, hconditions, hpredicate⟩ :=
    Predicate.ofFilters_eq_ok_iff.mp (ofQuery_eq_ok_iff.mp h).1
  rw [← hpredicate, Predicate.comparisons_ofConditions, List.forall₂_map_right_iff]
  exact hconditions.imp fun f condition hcondition => hcondition.2

/-- A query compiles exactly if every part of it compiles by itself. Then its comparisons and sort
keys are those of its parts, in order. Otherwise it fails as the first part that fails by itself,
whatever comes after; and a filter fails by its path before its operand, and by its operand before
its literal. -/
theorem ofQuery_parts (catalog : Catalog κ) (schema : Schema κ) (composition : SortComposition)
    (q : Query) :
    ((∃ compiled, ofQuery catalog schema composition q = .ok compiled) ↔
        ∀ part ∈ q.parts, ∃ c, part.compile catalog schema = .ok c) ∧
      (∀ compiled, ofQuery catalog schema composition q = .ok compiled →
        List.Forall₂ (fun f c => Comparison.ofFilter catalog schema f = .ok c)
            (q.filters ++ q.searchFilters) compiled.predicate.comparisons ∧
          List.Forall₂ (fun d k => SortKey.ofDirective catalog schema d = .ok k)
            q.sorts compiled.plan.keys ∧
          compiled.plan.composition = composition ∧ compiled.page = q.page) ∧
      (∀ err, ofQuery catalog schema composition q = .error err ↔
        ∃ before part after, q.parts = before ++ part :: after ∧
          (∀ b ∈ before, ∃ c, b.compile catalog schema = .ok c) ∧
          part.compile catalog schema = .error err) ∧
      ∀ f err, (Query.Part.condition f).compile catalog schema = .error err ↔
        Comparison.Refuses catalog schema f err := by
  refine ⟨?_, fun compiled h => ?_, fun err => ?_, fun f err => ?_⟩
  · rw [← exists_mapM_eq_ok_iff, ← map_parts_ofQuery composition]
    simp only [map_eq_ok_iff]
    exact ⟨fun ⟨compiled, h⟩ => ⟨_, compiled, h, rfl⟩, fun ⟨_, compiled, h, _⟩ => ⟨compiled, h⟩⟩
  · obtain ⟨-, hplan, hpage⟩ := ofQuery_eq_ok_iff.mp h
    obtain ⟨hcomposition, hkeys⟩ := SortPlan.ofDirectives_eq_ok_iff.mp hplan
    exact ⟨forall₂_comparisons h, hkeys, hcomposition, hpage⟩
  · rw [← mapM_eq_error_iff, ← map_parts_ofQuery composition, map_eq_error_iff]
  · exact map_eq_error_iff.trans Comparison.ofFilter_eq_error_iff

/-- A query with three faults behind a filter that compiles: a literal that is no number, a search
in a property without a name, and an order by persons. -/
def faultyQuery : Query where
  filters := [Person.managerFilter, ⟨"age", .equals, "old", .and, rfl, by decide⟩]
  search := some ⟨"ob", ["Name."], .contains, .or, by decide, by decide, by decide⟩
  sorts := [⟨"Manager", true⟩]
  page := ⟨10, 1⟩

/-- The query without the faulty filter: the search and the order are still wrong. -/
def faultySearchQuery : Query := { faultyQuery with filters := [Person.managerFilter] }

/-- The query without its faults. -/
def faultlessQuery : Query :=
  { faultyQuery with filters := [Person.managerFilter], search := none, sorts := [⟨"Age", false⟩] }

theorem ofQuery_faultyQuery :
    (∃ compiled,
      ofQuery Person.catalog Person.schema .multiKey faultlessQuery = .ok compiled ∧
        List.Forall₂ (fun d k => SortKey.ofDirective Person.catalog Person.schema d = .ok k)
          [⟨"Age", false⟩] compiled.plan.keys) ∧
      ofQuery Person.catalog Person.schema .multiKey faultyQuery = .error (.value "i32" "old") ∧
      ofQuery Person.catalog Person.schema .multiKey faultySearchQuery =
        .error (.argument (.emptySegment "Name.")) := by
  obtain ⟨hsucceeds, hparts, -, -⟩ :=
    ofQuery_parts Person.catalog Person.schema .multiKey faultlessQuery
  obtain ⟨-, -, hfails, -⟩ := ofQuery_parts Person.catalog Person.schema .multiKey faultyQuery
  obtain ⟨-, -, hsearch, -⟩ :=
    ofQuery_parts Person.catalog Person.schema .multiKey faultySearchQuery
  have hmanager : ∀ b ∈ [Query.Part.condition Person.managerFilter],
      ∃ c, b.compile Person.catalog Person.schema = .ok c := by
    intro b hb
    rw [List.mem_singleton.mp hb]
    exact ⟨_, rfl⟩
  refine ⟨?_, ?_, ?_⟩
  · obtain ⟨compiled, h⟩ := hsucceeds.mpr fun part hpart => by
      rcases List.mem_pair.mp hpart with rfl | rfl <;> exact ⟨_, rfl⟩
    exact ⟨compiled, h, (hparts compiled h).2.1⟩
  · exact (hfails _).mpr ⟨[.condition Person.managerFilter], _, _, rfl, hmanager, rfl⟩
  · exact (hsearch _).mpr ⟨[.condition Person.managerFilter], _, _, rfl, hmanager, rfl⟩

end CompiledQuery

end RecordQuery
