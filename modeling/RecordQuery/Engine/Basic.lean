import RecordQuery.Engine.Source
import RecordQuery.Plan.Projection
import RecordQuery.Request.Reader

/-!
# Engines

An engine has valid settings and answers queries from sources. A query is compiled before the source
is asked for anything, so whatever is wrong with it comes to light without reading a row. Then the
wanted rows are counted, the page is worked out, and its rows are fetched.
-/

namespace RecordQuery

/-- What answers queries. -/
structure Engine where
  settings : Settings
  valid : settings.Valid

namespace Engine

/-- The engine with these settings, if they are valid. -/
def make (settings : Settings) : Except SettingsError Engine :=
  match h : settings.validate with
  | .ok () => .ok ⟨settings, Settings.validate_eq_ok_iff.1 h⟩
  | .error e => .error e

/-- The query for all rows, in the default order, and for the default page. -/
def query (e : Engine) : Query := .empty e.settings

/-- The query that a text asks for. -/
def queryOfText (e : Engine) (s : String) : Except QueryError Query :=
  Query.ofText e.settings s

variable {κ ρ α : Type} {m : Type → Type} [Monad m]

/-- The compiled form of a query for rows of a type. -/
def compile (e : Engine) (rowType : RowType κ ρ) (q : Query) : Except QueryError CompiledQuery :=
  CompiledQuery.ofQuery rowType.catalog rowType.schema e.settings.sortComposition q

/-- A count of rows as it is reported. -/
def reportedCount (count : UInt64) : Except QueryError Int64 :=
  if (count.toNat : Int) ≤ Int64.maxValue.toInt then .ok count.toInt64
  else .error (.source (.countOutOfRange count))

/-- What is told about a page of so many rows. -/
def pageInfo (page : PageRequest) (count : UInt64) : Except QueryError PageInfo := do
  let total ← reportedCount count
  (PageInfo.calculate total page.rows page.page).mapError .argument

/-- The window of rows that is served; none if all rows are. -/
def window? (e : Engine) (page : PageRequest) (count : UInt64) : Option Window :=
  if e.settings.paginateData then some (page.window count) else none

/-- Runs a query on a source, giving every row the shape that is asked for. -/
def execute (e : Engine) (rowType : RowType κ ρ) (source : Source m ρ) (q : Query)
    (shape : ρ → α) : ExceptT QueryError m (Page α) := do
  let compiled ← e.compile rowType q
  let count ← source.count compiled
  let info ← pageInfo compiled.page count
  let rows ← source.fetch compiled (e.window? compiled.page count) shape
  return ⟨info, rows⟩

/-- Runs a query on a source, showing the named members of every row. -/
def executeProjected (e : Engine) (rowType : RowType κ ρ) (source : Source m ρ) (q : Query)
    (columns : List String) : ExceptT QueryError m (Page Json) := do
  let projection ← Projection.compile rowType.catalog rowType.schema columns
  e.execute rowType source q fun row => projection.project (rowType.view row)

end Engine

end RecordQuery
