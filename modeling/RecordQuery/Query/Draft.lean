import RecordQuery.Query.Basic

/-!
# Drafts of queries

A query is put together step by step. A step that is wrong changes nothing but the failure of the
draft, and of several failures the first is reported when the query is asked for.

Results:
* `failure_step`: a draft keeps its first failure.
-/

namespace RecordQuery

/-- What has been put together of a query. -/
structure Draft where
  filters : List Filter := []
  search : Option Search := none
  sorts : List SortDirective := []
  rows : Int64 := 0
  page : Int64 := 0
  failure : Option ArgumentError := none

/-- One step in putting a query together. -/
inductive Draft.Step where
  /-- Adds a filter. -/
  | filter (f : Filter)
  /-- Adds the filter with these parts. -/
  | compare (connective : Connective) (property : String) (operand : Operand) (value : String)
  /-- Looks for a term in some properties, instead of what was looked for before. -/
  | search (term : String) (properties : List String)
  /-- Looks for a term in some properties, comparing and joining in a way of its own. -/
  | searchWith (term : String) (properties : List String) (operand : Operand)
      (connective : Connective)
  /-- Adds a sort directive. -/
  | sort (property : String) (ascending : Bool)
  /-- Asks for a page. -/
  | page (n : Int64)
  /-- Asks for a page size. -/
  | rows (n : Int64)

/-- Compares a property for equality. -/
def Draft.Step.equals (property value : String) : Draft.Step := .compare .and property .equals value

/-- Looks for a literal anywhere in a property. -/
def Draft.Step.contains (property value : String) : Draft.Step :=
  .compare .and property .contains value

namespace Draft

/-- Keeps a failure, unless there was one before. -/
def fail (d : Draft) (cause : ArgumentError) : Draft :=
  { d with failure := d.failure <|> some cause }

/-- Adds a filter that may be wrong. -/
def addFilter (d : Draft) : Except ArgumentError Filter → Draft
  | .ok f => { d with filters := d.filters ++ [f] }
  | .error cause => d.fail cause

/-- Adds a sort directive that may be wrong. -/
def addSort (d : Draft) : Except ArgumentError SortDirective → Draft
  | .ok s => { d with sorts := d.sorts ++ [s] }
  | .error cause => d.fail cause

/-- Sets the search, which may be wrong; then there is none. -/
def setSearch (d : Draft) : Except ArgumentError Search → Draft
  | .ok s => { d with search := some s }
  | .error cause => { d.fail cause with search := none }

/-- A draft after one more step. -/
def step (d : Draft) : Step → Draft
  | .filter f => d.addFilter (.ok f)
  | .compare connective property operand value =>
    d.addFilter (Filter.make property operand value connective)
  | .search term properties => d.setSearch (Search.make term properties)
  | .searchWith term properties operand connective =>
    d.setSearch ((Search.make term properties).map
      fun s => (s.withOperand operand).withConnective connective)
  | .sort property ascending => d.addSort (SortDirective.make property ascending)
  | .page n => { d with page := n }
  | .rows n => { d with rows := n }

/-- The query that was put together, or the first failure. -/
def build (d : Draft) (settings : Settings) : Except ArgumentError Query :=
  match d.failure with
  | some cause => .error cause
  | none =>
    .ok (Query.orderedBy
      { Query.empty settings with
        filters := d.filters
        search := d.search
        page := .clamp settings d.rows d.page }
      d.sorts)

theorem failure_fail {d : Draft} {cause : ArgumentError} (h : d.failure = some cause)
    (other : ArgumentError) : (d.fail other).failure = some cause := by
  simp [fail, h]

theorem failure_step {d : Draft} {cause : ArgumentError} (h : d.failure = some cause) (s : Step) :
    (d.step s).failure = some cause := by
  have hfilter : ∀ f, (d.addFilter f).failure = some cause := by
    rintro (e | f)
    · exact failure_fail h e
    · exact h
  have hsort : ∀ s, (d.addSort s).failure = some cause := by
    rintro (e | s)
    · exact failure_fail h e
    · exact h
  have hsearch : ∀ s, (d.setSearch s).failure = some cause := by
    rintro (e | s)
    · exact failure_fail h e
    · exact h
  cases s with
  | filter f => exact hfilter _
  | compare connective property operand value => exact hfilter _
  | search term properties => exact hsearch _
  | searchWith term properties operand connective => exact hsearch _
  | sort property ascending => exact hsort _
  | page n => exact h
  | rows n => exact h

end Draft

/-- The query that steps put together. -/
def Query.ofSteps (settings : Settings) (steps : List Draft.Step) : Except ArgumentError Query :=
  (steps.foldl Draft.step {}).build settings

end RecordQuery
