import RecordQuery.Proofs.Engine.InMemory
import RecordQuery.Proofs.Records.Refusal
import RecordQuery.Settings.Environment

/-!
# The default order

The settings of an engine are validated before it runs, but validation does not look at the paths of
the default order. These reach a query that no client had a hand in, and there a path without a name
is a wrong argument, as if a client had written it.

Results:
* `compile_query_eq_error_iff`: the empty query fails with the first directive of the default order
  that gives no key.
* `compile_query_ne_argument`: it is no wrong argument if all segments of the default order have
  names.
* `query_eq_argument_iff`: exactly when it is a wrong argument.
* `exists_argument_of_environment`: accepted settings for which it is.
-/

namespace RecordQuery

variable {κ : Type} {catalog : Catalog κ} {schema : Schema κ}

/-! ## Keys of directives -/

/-- A directive is a wrong argument exactly if its path is; that rows cannot be ordered by a member
is a fault of another kind. -/
theorem SortKey.ofDirective_eq_argument_iff {d : SortDirective} {cause : ArgumentError} :
    ofDirective catalog schema d = .error (.argument cause) ↔
      Path.resolve catalog schema d.property = .error (.argument cause) := by
  unfold ofDirective
  rw [bind_eq_error_iff]
  constructor
  · rintro (h | ⟨path, -, h⟩)
    · exact h
    · split at h <;> cases h
  · exact .inl

theorem SortPlan.ofDirectives_eq_error_iff {ds : List SortDirective}
    {composition : SortComposition} {err : QueryError} :
    ofDirectives catalog schema ds composition = .error err ↔
      ∃ before d after, ds = before ++ d :: after ∧
        (∀ b ∈ before, ∃ k, SortKey.ofDirective catalog schema b = .ok k) ∧
        SortKey.ofDirective catalog schema d = .error err := by
  unfold ofDirectives
  rw [bind_eq_error_iff, mapM_eq_error_iff]
  constructor
  · rintro (h | ⟨keys, -, h⟩)
    · exact h
    · cases h
  · exact .inl

/-! ## The empty query -/

namespace Engine

variable {ρ α : Type} {e : Engine} {rowType : RowType κ ρ} {err : QueryError}

theorem compile_query_eq_error_iff :
    e.compile rowType e.query = .error err ↔
      SortPlan.ofDirectives rowType.catalog rowType.schema e.settings.defaultSort
        e.settings.sortComposition = .error err := by
  have hpredicate : Predicate.ofFilters rowType.catalog rowType.schema e.query.conditions =
      .ok .always := rfl
  unfold compile CompiledQuery.ofQuery
  simp only [hpredicate, bind_eq_error_iff]
  constructor
  · rintro (h | ⟨predicate, -, h | ⟨plan, -, h⟩⟩)
    · cases h
    · exact h
    · cases h
  · intro h
    exact .inr ⟨_, rfl, .inl h⟩

/-- The default order blocks the empty query: the first of its directives that gives no key stops at
a segment without a name. -/
def BlockedByDefault (e : Engine) (rowType : RowType κ ρ) : Prop :=
  ∃ before d after, e.settings.defaultSort = before ++ d :: after ∧
    (∀ b ∈ before, ∃ k, SortKey.ofDirective rowType.catalog rowType.schema b = .ok k) ∧
    Path.StopsNameless rowType.catalog rowType.schema (Path.split d.property)

theorem compile_query_eq_argument_iff :
    (∃ cause, e.compile rowType e.query = .error (.argument cause)) ↔
      e.BlockedByDefault rowType := by
  simp only [compile_query_eq_error_iff, SortPlan.ofDirectives_eq_error_iff,
    SortKey.ofDirective_eq_argument_iff, Path.resolve_eq_argument_iff]
  constructor
  · rintro ⟨cause, before, d, after, hsplit, hbefore, hstops, -⟩
    exact ⟨before, d, after, hsplit, hbefore, hstops⟩
  · rintro ⟨before, d, after, hsplit, hbefore, hstops⟩
    exact ⟨_, before, d, after, hsplit, hbefore, hstops, rfl⟩

/-- Whatever the schema, the empty query is no wrong argument if all segments of the default order
have names. -/
theorem compile_query_ne_argument
    (h : ∀ d ∈ e.settings.defaultSort, ∀ segment ∈ Path.split d.property,
      Text.trim segment ≠ "") (cause : ArgumentError) :
    e.compile rowType e.query ≠ .error (.argument cause) := by
  intro hargument
  obtain ⟨before, d, after, hsplit, -, good, nameless, rest, hpath, -, hnameless⟩ :=
    compile_query_eq_argument_iff.mp ⟨cause, hargument⟩
  have hd : d ∈ e.settings.defaultSort := by
    rw [hsplit]
    exact List.mem_append_right _ List.mem_cons_self
  refine h d hd nameless ?_ hnameless
  rw [hpath]
  exact List.mem_append_right _ List.mem_cons_self

/-! ## Running it -/

theorem pageInfo_ne_argument {page : PageRequest} (h : 0 < page.rows) (count : UInt64)
    (cause : ArgumentError) : pageInfo page count ≠ .error (.argument cause) := by
  by_cases hcount : count.toNat < 2 ^ 63
  · obtain ⟨info, hinfo, -⟩ := exists_pageInfo_eq_ok hcount h
    rw [UInt64.ofNat_toNat] at hinfo
    rw [hinfo]
    simp
  · unfold pageInfo reportedCount
    rw [Int64.toInt_maxValue, if_neg (by omega)]
    intro hargument
    cases hargument

/-- From a list of rows, the empty query is a wrong argument only if it does not compile. -/
theorem execute_query_eq_argument_iff (rows : List ρ) (shape : ρ → α) (cause : ArgumentError) :
    (e.execute rowType (rowType.sourceOf rows : Source Id ρ) e.query shape).run =
        .error (.argument cause) ↔
      e.compile rowType e.query = .error (.argument cause) := by
  rw [execute_eq_error_iff]
  constructor
  · rintro (h | ⟨compiled, h, hinfo⟩)
    · exact h
    · have hrows : 0 < compiled.page.rows := by
        rw [page_of_compile h]
        exact (PageRequest.rows_clamp e.valid 0 0).1
      exact absurd hinfo (pageInfo_ne_argument hrows _ cause)
  · exact .inl

/-- The empty query of an engine is a wrong argument exactly if the default order blocks it, for
whoever compiles it or runs it on a list of rows. -/
theorem query_eq_argument_iff (e : Engine) (rowType : RowType κ ρ) (rows : List ρ)
    (shape : ρ → α) :
    ((∃ cause, e.compile rowType e.query = .error (.argument cause)) ↔
        e.BlockedByDefault rowType) ∧
      ((∃ cause, (e.execute rowType (rowType.sourceOf rows : Source Id ρ) e.query shape).run =
          .error (.argument cause)) ↔ e.BlockedByDefault rowType) := by
  simp only [execute_query_eq_argument_iff, compile_query_eq_argument_iff, and_self]

/-- Settings that are read without a fault and accepted, for which no query of persons compiles. -/
theorem exists_argument_of_environment :
    ∃ settings e, Settings.ofEnvironment
        (fun name => if name = "DQ_DEFAULT_SORT" then some "Name.:desc" else none) = .ok settings ∧
      make settings = .ok e ∧
      e.compile personRows e.query = .error (.argument (.emptySegment "Name.")) :=
  ⟨_, _, rfl, rfl, rfl⟩

end Engine

end RecordQuery
