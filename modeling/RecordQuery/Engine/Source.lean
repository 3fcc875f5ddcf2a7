import RecordQuery.Plan.CompiledQuery

/-!
# Sources of rows

A source counts and fetches the rows that a compiled query wants. What it does to that end, and how
it may fail, is up to the monad it works in; a list of rows is a source in every monad.
-/

namespace RecordQuery

/-- A type of rows: the schema of the rows and the record that each row is seen as. -/
structure RowType (κ ρ : Type) where
  catalog : Catalog κ
  schema : Schema κ
  view : ρ → Record

/-- A place to get rows from. -/
structure Source (m : Type → Type) (ρ : Type) where
  /-- How many rows are wanted, on all pages. -/
  count : CompiledQuery → ExceptT QueryError m UInt64
  /-- The rows that are wanted, in order, in the shape that is asked for: those of a window, or
  without a window all of them. -/
  fetch : {α : Type} → CompiledQuery → Option Window → (ρ → α) → ExceptT QueryError m (List α)

/-- The rows of a list as a source. -/
def RowType.sourceOf {m : Type → Type} [Monad m] {κ ρ : Type} (rowType : RowType κ ρ)
    (rows : List ρ) : Source m ρ where
  count q := pure (UInt64.ofNat (rows.countP fun row => q.wants (rowType.view row)))
  fetch q window shape :=
    let wanted := q.apply rowType.view rows
    let served := match window with
      | some w => w.slice wanted
      | none => wanted
    pure (served.map shape)

end RecordQuery
