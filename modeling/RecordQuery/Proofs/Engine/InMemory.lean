import RecordQuery.Proofs.Paging.Tiling

/-!
# Engines on lists of rows

An engine that runs a query on a list of rows can fail in two places only: the query does not
compile, or there is nothing to be told about its page. A list of rows never fails to be counted or
fetched.

Results:
* `execute_eq_throw`: what does not compile fails on every source.
* `run_execute_sourceOf`: a run on a list of rows, from the compiled query to the page.
* `execute_eq_ok_iff`, `execute_eq_error_iff`: when such a run succeeds, and when it fails.
-/

namespace RecordQuery.Engine

variable {κ ρ α : Type} {m : Type → Type} [Monad m] {e : Engine} {rowType : RowType κ ρ}
  {rows : List ρ} {q : Query} {compiled : CompiledQuery} {err : QueryError}

theorem page_of_compile (h : e.compile rowType q = .ok compiled) : compiled.page = q.page := by
  unfold compile CompiledQuery.ofQuery at h
  simp only [bind_eq_ok_iff] at h
  obtain ⟨predicate, -, plan, -, hc⟩ := h
  cases hc
  rfl

/-! ## Failing steps -/

theorem liftM_error_bind [LawfulMonad m] {β : Type} (err : QueryError)
    (f : α → ExceptT QueryError m β) :
    (liftM (Except.error err : Except QueryError α) : ExceptT QueryError m α) >>= f = throw err := by
  apply ExceptT.ext
  rw [ExceptT.run_bind]
  show (pure (Except.error err) >>= _ : m (Except QueryError β)) = _
  rw [pure_bind]
  rfl

/-- What does not compile fails before the source is asked for anything. -/
theorem execute_eq_throw [LawfulMonad m] {source : Source m ρ}
    (h : e.compile rowType q = .error err) (shape : ρ → α) :
    e.execute rowType source q shape = throw err := by
  unfold execute
  rw [h, liftM_error_bind]

/-- From a list of rows, a query also fails if its page cannot be told about. -/
theorem execute_sourceOf_eq_throw [LawfulMonad m] (h : e.compile rowType q = .ok compiled)
    (hinfo : pageInfo compiled.page (UInt64.ofNat (compiled.count rowType.view rows)) = .error err)
    (shape : ρ → α) :
    e.execute rowType (rowType.sourceOf rows : Source m ρ) q shape = throw err := by
  have hlift : ∀ {β : Type} (b : β),
      (liftM (Except.ok b : Except QueryError β) : ExceptT QueryError m β) = pure b := fun _ => rfl
  unfold CompiledQuery.count at *
  simp only [execute, RowType.sourceOf, h, hinfo, hlift, pure_bind, liftM_error_bind]

/-! ## Whole runs -/

/-- The page of a compiled query on a list of rows, or why there is none. -/
def pageOf (e : Engine) (compiled : CompiledQuery) (view : ρ → Record) (rows : List ρ)
    (shape : ρ → α) : Except QueryError (Page α) :=
  (pageInfo compiled.page (UInt64.ofNat (compiled.count view rows))).map fun info =>
    ⟨info, (served (e.window? compiled.page (UInt64.ofNat (compiled.count view rows)))
      (compiled.apply view rows)).map shape⟩

theorem run_execute_sourceOf (shape : ρ → α) :
    (e.execute rowType (rowType.sourceOf rows : Source Id ρ) q shape).run =
      e.compile rowType q >>= fun compiled => e.pageOf compiled rowType.view rows shape := by
  cases h : e.compile rowType q with
  | error err =>
    rw [execute_eq_throw h]
    rfl
  | ok compiled =>
    show _ = e.pageOf compiled rowType.view rows shape
    unfold pageOf
    cases hinfo : pageInfo compiled.page (UInt64.ofNat (compiled.count rowType.view rows)) with
    | error err =>
      rw [execute_sourceOf_eq_throw h hinfo]
      rfl
    | ok info =>
      rw [execute_sourceOf h hinfo]
      rfl

theorem execute_eq_ok_iff {shape : ρ → α} {page : Page α} :
    (e.execute rowType (rowType.sourceOf rows : Source Id ρ) q shape).run = .ok page ↔
      ∃ compiled, e.compile rowType q = .ok compiled ∧
        e.pageOf compiled rowType.view rows shape = .ok page := by
  rw [run_execute_sourceOf]
  exact bind_eq_ok_iff

/-- A compiled query has a page as soon as something can be told about it. -/
theorem exists_execute_eq_ok (h : e.compile rowType q = .ok compiled) {info : PageInfo}
    (hinfo : pageInfo compiled.page (UInt64.ofNat (compiled.count rowType.view rows)) = .ok info)
    (shape : ρ → α) :
    ∃ page, (e.execute rowType (rowType.sourceOf rows : Source Id ρ) q shape).run = .ok page ∧
      page.info = info :=
  ⟨_, execute_eq_ok_iff.mpr ⟨compiled, h, map_eq_ok_iff.mpr ⟨info, hinfo, rfl⟩⟩, rfl⟩

theorem execute_eq_error_iff {shape : ρ → α} :
    (e.execute rowType (rowType.sourceOf rows : Source Id ρ) q shape).run = .error err ↔
      e.compile rowType q = .error err ∨ ∃ compiled, e.compile rowType q = .ok compiled ∧
        pageInfo compiled.page (UInt64.ofNat (compiled.count rowType.view rows)) = .error err := by
  rw [run_execute_sourceOf]
  refine bind_eq_error_iff.trans ?_
  simp only [pageOf, map_eq_error_iff]

end RecordQuery.Engine
