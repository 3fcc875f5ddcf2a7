import RecordQuery.Proofs.Engine.InMemory

/-!
# Errors come before rows

A source can be watched: every call of it is written down, and nothing else is changed. What an
engine asks of a watched source, whatever the source answers and in whatever monad, is nothing if
the query does not compile, one count if the count cannot be told about, and otherwise one count and
one fetch of the same query.

Results:
* `run_log_bind`: what happens after a call.
* `unlogs_execute`: watching a source changes no answer.
* `errorsFirst_execute`: the calls of a run, and how its answer comes from those of the source.
* `calls_execute`: the same for rows in any shape and for rows that are projected to columns.
-/

namespace RecordQuery

/-- A call of a source. -/
inductive Call where
  | count (q : CompiledQuery)
  | fetch (q : CompiledQuery) (window : Option Window)
  deriving DecidableEq

section Logging

variable {m : Type → Type} [Monad m] {ρ α β : Type}

/-- A call that is written down after the calls before it. -/
def Call.log (call : Call) (x : ExceptT QueryError m α) :
    ExceptT QueryError (StateT (List Call) m) α :=
  ExceptT.mk fun calls => do
    let answer ← x.run
    return (answer, calls ++ [call])

/-- The same source with its calls written down. -/
def Source.logged (source : Source m ρ) : Source (StateT (List Call) m) ρ where
  count q := (Call.count q).log (source.count q)
  fetch q window shape := (Call.fetch q window).log (source.fetch q window shape)

@[simp] theorem Source.logged_count (source : Source m ρ) (q : CompiledQuery) :
    source.logged.count q = (Call.count q).log (source.count q) := rfl

@[simp] theorem Source.logged_fetch (source : Source m ρ) (q : CompiledQuery)
    (window : Option Window) (shape : ρ → α) :
    source.logged.fetch q window shape = (Call.fetch q window).log (source.fetch q window shape) :=
  rfl

/-! ## Watching a source -/

/-- A run is the other one but for the calls that are written down. -/
def Unlogs (x : ExceptT QueryError (StateT (List Call) m) α) (y : ExceptT QueryError m α) : Prop :=
  ∀ calls, Prod.fst <$> x.run.run calls = y.run

theorem run_bind_calls [LawfulMonad m] (x : ExceptT QueryError (StateT (List Call) m) α)
    (f : α → ExceptT QueryError (StateT (List Call) m) β) (calls : List Call) :
    (x >>= f).run.run calls = x.run.run calls >>= fun outcome =>
      match outcome.1 with
      | .ok a => (f a).run.run outcome.2
      | .error err => pure (.error err, outcome.2) := by
  rw [ExceptT.run_bind, StateT.run_bind]
  congr
  funext outcome
  obtain ⟨answer, calls'⟩ := outcome
  cases answer <;> rfl

/-- What happens after a call: its answer is used, and the call is one of those written down. -/
theorem run_log_bind [LawfulMonad m] (call : Call) (x : ExceptT QueryError m α)
    (f : α → ExceptT QueryError (StateT (List Call) m) β) (calls : List Call) :
    (call.log x >>= f).run.run calls = x.run >>= fun answer =>
      match answer with
      | .ok a => (f a).run.run (calls ++ [call])
      | .error err => pure (.error err, calls ++ [call]) := by
  rw [run_bind_calls]
  show (x.run >>= fun answer => pure (answer, calls ++ [call])) >>= _ = _
  simp only [bind_assoc, pure_bind]

theorem run_liftM_bind [LawfulMonad m] (result : Except QueryError α)
    (f : α → ExceptT QueryError (StateT (List Call) m) β) (calls : List Call) :
    ((liftM result : ExceptT QueryError (StateT (List Call) m) α) >>= f).run.run calls =
      match result with
      | .ok a => (f a).run.run calls
      | .error err => pure (.error err, calls) := by
  rw [run_bind_calls]
  cases result <;> exact pure_bind _ _

namespace Unlogs

theorem lift [LawfulMonad m] (result : Except QueryError α) :
    Unlogs (m := m) (liftM result) (liftM result) := by
  intro calls
  exact map_pure _ _

theorem log [LawfulMonad m] (call : Call) (x : ExceptT QueryError m α) : Unlogs (call.log x) x := by
  intro calls
  show Prod.fst <$> (x.run >>= fun answer => pure (answer, calls ++ [call])) = x.run
  rw [map_bind]
  simp only [map_pure, bind_pure]

theorem bind [LawfulMonad m] {x : ExceptT QueryError (StateT (List Call) m) α}
    {y : ExceptT QueryError m α} {f : α → ExceptT QueryError (StateT (List Call) m) β}
    {g : α → ExceptT QueryError m β} (h : Unlogs x y) (hf : ∀ a, Unlogs (f a) (g a)) :
    Unlogs (x >>= f) (y >>= g) := by
  intro calls
  rw [run_bind_calls, map_bind, ExceptT.run_bind, ← h calls, bind_map_left]
  congr
  funext outcome
  obtain ⟨answer, calls'⟩ := outcome
  cases answer with
  | ok a => exact hf a calls'
  | error err => exact map_pure _ _

end Unlogs

end Logging

namespace Engine

variable {m : Type → Type} [Monad m] {κ ρ α : Type} {e : Engine} {rowType : RowType κ ρ}
  {source : Source m ρ} {q : Query} {compiled : CompiledQuery} {shape : ρ → α}

theorem unlogs_execute [LawfulMonad m] (e : Engine) (rowType : RowType κ ρ) (source : Source m ρ)
    (q : Query) (shape : ρ → α) :
    Unlogs (e.execute rowType source.logged q shape) (e.execute rowType source q shape) := by
  refine (Unlogs.lift _).bind fun compiled => ?_
  refine (Unlogs.log _ _).bind fun count => ?_
  refine (Unlogs.lift _).bind fun info => ?_
  refine (Unlogs.log _ _).bind fun rows => ?_
  exact fun calls => map_pure _ _

theorem unlogs_executeProjected [LawfulMonad m] (e : Engine) (rowType : RowType κ ρ)
    (source : Source m ρ) (q : Query) (columns : List String) :
    Unlogs (e.executeProjected rowType source.logged q columns)
      (e.executeProjected rowType source q columns) :=
  (Unlogs.lift _).bind fun _ => unlogs_execute e rowType source q _

/-! ## Runs -/

/-- A run of a watched source, from the calls before it to its answer and all calls. -/
abbrev Run (m : Type → Type) (α : Type) : Type :=
  List Call → m (Except QueryError (Page α) × List Call)

/-- What follows the one count of a run, after these calls. The rows are not touched until the count
can be told about. -/
structure RepliesToCount (e : Engine) (source : Source m ρ) (compiled : CompiledQuery)
    (shape : ρ → α) (calls : List Call)
    (reply : Except QueryError UInt64 → m (Except QueryError (Page α) × List Call)) : Prop where
  failed : ∀ err, reply (.error err) = pure (.error err, calls)
  tooMany : ∀ count : UInt64, Int64.maxValue.toInt < count.toNat →
    reply (.ok count) = pure (.error (.source (.countOutOfRange count)), calls)
  notTold : ∀ (count : UInt64) (cause : ArgumentError), count.toNat ≤ Int64.maxValue.toInt →
    PageInfo.calculate count.toInt64 compiled.page.rows compiled.page.page = .error cause →
    reply (.ok count) = pure (.error (.argument cause), calls)
  /-- One fetch, in the window of the count or in none. Its failure is the failure of the run, and
  its rows are the rows of the page. -/
  fetched : ∀ (count : UInt64) (info : PageInfo), count.toNat ≤ Int64.maxValue.toInt →
    PageInfo.calculate count.toInt64 compiled.page.rows compiled.page.page = .ok info →
    ∃ window, window =
        (if e.settings.paginateData = true then some (compiled.page.window count) else none) ∧
      reply (.ok count) = (source.fetch compiled window shape).run >>= fun answer =>
        pure (answer.map fun rows => ⟨info, rows⟩, calls ++ [.fetch compiled window])

/-- A run that asks the source for nothing unless the query compiles, and then counts once before
anything else. -/
structure ErrorsFirst (e : Engine) (source : Source m ρ)
    (compilation : Except QueryError CompiledQuery) (shape : ρ → α) (run : Run m α) : Prop where
  refused : ∀ err calls, compilation = .error err → run calls = pure (.error err, calls)
  counted : ∀ compiled calls, compilation = .ok compiled → ∃ reply,
    run calls = (source.count compiled).run >>= reply ∧
    RepliesToCount e source compiled shape (calls ++ [.count compiled]) reply

/-! ## What can be told about a count -/

section PageInfo

variable {page : PageRequest} {count : UInt64}

theorem pageInfo_of_tooMany (h : Int64.maxValue.toInt < count.toNat) :
    pageInfo page count = .error (.source (.countOutOfRange count)) := by
  unfold pageInfo reportedCount
  rw [if_neg (by omega)]
  rfl

theorem pageInfo_of_le (h : count.toNat ≤ Int64.maxValue.toInt) :
    pageInfo page count =
      (PageInfo.calculate count.toInt64 page.rows page.page).mapError .argument := by
  unfold pageInfo reportedCount
  rw [if_pos h]
  rfl

end PageInfo

/-! ## The order of calls -/

/-- A run whose query compiles, once the source has counted. -/
def afterCount (e : Engine) (source : Source m ρ) (compiled : CompiledQuery) (shape : ρ → α)
    (calls : List Call) :
    Except QueryError UInt64 → m (Except QueryError (Page α) × List Call)
  | .error err => pure (.error err, calls)
  | .ok count =>
    match pageInfo compiled.page count with
    | .error err => pure (.error err, calls)
    | .ok info => do
      let window := e.window? compiled.page count
      let answer ← (source.fetch compiled window shape).run
      return (answer.map fun rows => ⟨info, rows⟩, calls ++ [.fetch compiled window])

theorem repliesToCount_afterCount (calls : List Call) :
    RepliesToCount e source compiled shape calls
      (afterCount e source compiled shape calls) where
  failed err := rfl
  tooMany count h := by
    unfold afterCount
    simp only [pageInfo_of_tooMany h]
  notTold count cause h hcause := by
    unfold afterCount
    simp only [pageInfo_of_le h, hcause, Except.mapError]
  fetched count info h hinfo := by
    refine ⟨_, rfl, ?_⟩
    unfold afterCount
    simp only [pageInfo_of_le h, hinfo, Except.mapError]
    rfl

theorem errorsFirst_execute [LawfulMonad m] (e : Engine) (rowType : RowType κ ρ)
    (source : Source m ρ) (q : Query) (shape : ρ → α) :
    ErrorsFirst e source (e.compile rowType q) shape
      (e.execute rowType source.logged q shape).run.run where
  refused err calls h := by
    rw [execute_eq_throw h]
    rfl
  counted compiled calls h := by
    refine ⟨_, ?_, repliesToCount_afterCount (calls ++ [.count compiled])⟩
    unfold execute
    simp only [run_liftM_bind, h, Source.logged_count, Source.logged_fetch, run_log_bind]
    congr
    funext answer
    cases answer with
    | error err => rfl
    | ok count =>
      dsimp only [afterCount]
      cases pageInfo compiled.page count with
      | error err => rfl
      | ok info =>
        dsimp only
        congr
        funext answer
        cases answer <;> rfl

/-- Columns that do not compile are refused before the query is looked at. -/
theorem run_executeProjected_of_error [LawfulMonad m] {columns : List String} {err : QueryError}
    (h : Projection.compile rowType.catalog rowType.schema columns = .error err)
    (calls : List Call) :
    (e.executeProjected rowType source.logged q columns).run.run calls =
      pure (.error err, calls) := by
  unfold executeProjected
  rw [run_liftM_bind, h]

theorem errorsFirst_executeProjected [LawfulMonad m] {columns : List String}
    {projection : Projection κ}
    (h : Projection.compile rowType.catalog rowType.schema columns = .ok projection) :
    ErrorsFirst e source (e.compile rowType q) (fun row => projection.project (rowType.view row))
      (e.executeProjected rowType source.logged q columns).run.run := by
  have hrun : (e.executeProjected rowType source.logged q columns).run.run =
      (e.execute rowType source.logged q
        fun row => projection.project (rowType.view row)).run.run := by
    funext calls
    unfold executeProjected
    rw [run_liftM_bind, h]
  rw [hrun]
  exact errorsFirst_execute e rowType source q _

/-- Whatever a source does, an engine asks it for nothing while something is wrong with the columns
or the query, and for one count before anything else. Watching the source changes no answer. -/
theorem calls_execute [LawfulMonad m] (e : Engine) (rowType : RowType κ ρ) (source : Source m ρ)
    (q : Query) (shape : ρ → α) (columns : List String) :
    (ErrorsFirst e source (e.compile rowType q) shape
        (e.execute rowType source.logged q shape).run.run ∧
      Unlogs (e.execute rowType source.logged q shape) (e.execute rowType source q shape)) ∧
    (∀ err calls, Projection.compile rowType.catalog rowType.schema columns = .error err →
      (e.executeProjected rowType source.logged q columns).run.run calls =
        pure (.error err, calls)) ∧
    (∀ projection, Projection.compile rowType.catalog rowType.schema columns = .ok projection →
      ErrorsFirst e source (e.compile rowType q)
        (fun row => projection.project (rowType.view row))
        (e.executeProjected rowType source.logged q columns).run.run) ∧
    Unlogs (e.executeProjected rowType source.logged q columns)
      (e.executeProjected rowType source q columns) := by
  refine ⟨⟨?_, ?_⟩, ?_, ?_, ?_⟩
  · exact errorsFirst_execute e rowType source q shape
  · exact unlogs_execute e rowType source q shape
  · exact fun err calls h => run_executeProjected_of_error h calls
  · exact fun projection h => errorsFirst_executeProjected h
  · exact unlogs_executeProjected e rowType source q columns

/-- A source of three rows that are gone once they are counted. -/
def vanishing : Source (StateM Bool) Person where
  count _ := ExceptT.mk fun _ => (.ok 3, true)
  fetch _ _ _ := ExceptT.mk fun gone =>
    (if gone then .error (.source (.failed "gone")) else .ok [], gone)

theorem calls_vanishing :
    ∃ compiled, ofTeam.compile personRows teamQuery = .ok compiled ∧
      ((ofTeam.execute personRows vanishing.logged teamQuery id).run.run []).run false =
        ((.error (.source (.failed "gone")),
          [.count compiled, .fetch compiled (some ⟨0, 2⟩)]), true) ∧
      (ofTeam.executeProjected personRows vanishing.logged teamQuery ["Name", "Nick"]).run.run [] =
        pure (.error (.schema (.memberNotFound "Nick" "Person")), []) := by
  obtain ⟨compiled, hcompiled, hpage⟩ : ∃ compiled,
      ofTeam.compile personRows teamQuery = .ok compiled ∧ compiled.page = ⟨2, 1⟩ := ⟨_, rfl, rfl⟩
  have hcalls := calls_execute ofTeam personRows vanishing teamQuery id ["Name", "Nick"]
  obtain ⟨reply, hrun, hreply⟩ := hcalls.1.1.counted compiled [] hcompiled
  have hinfo : PageInfo.calculate (UInt64.toInt64 3) compiled.page.rows compiled.page.page =
      .ok ⟨1, 2, 3, 2⟩ := by
    rw [hpage]
    rfl
  obtain ⟨window, hwindow, hfetch⟩ := hreply.fetched 3 _ (by decide) hinfo
  have hfirst : window = some ⟨0, 2⟩ := by
    rw [hwindow, hpage]
    rfl
  refine ⟨compiled, hcompiled, ?_, hcalls.2.1 _ [] rfl⟩
  rw [hrun]
  show (reply (.ok 3)).run true = _
  rw [hfetch, hfirst]
  rfl

end Engine

end RecordQuery
