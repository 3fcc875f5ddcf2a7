import RecordQuery.Plan.Predicate
import RecordQuery.Plan.SortPlan

/-!
# Compiled queries

A query that fits a schema is compiled to a predicate, a sort plan and a page. It can then be run on
any rows of that schema.
-/

namespace RecordQuery

/-- A query that is ready to run. -/
structure CompiledQuery where
  predicate : Predicate
  plan : SortPlan
  page : PageRequest
  deriving DecidableEq

namespace CompiledQuery

/-- Whether two compiled queries are the same. -/
def same (a b : CompiledQuery) : Bool :=
  a.predicate.same b.predicate && a.plan == b.plan && a.page == b.page

/-- Whether a record is wanted. -/
def wants (q : CompiledQuery) (r : Record) : Bool := q.predicate.holds r

/-- The rows that are wanted, in order and on all pages. -/
def apply {ρ : Type} (q : CompiledQuery) (view : ρ → Record) (rows : List ρ) : List ρ :=
  q.plan.sort view (rows.filter fun row => q.wants (view row))

/-- The compiled form of a query. Filters come before the search, and both before the sort
directives. -/
def ofQuery {κ : Type} (catalog : Catalog κ) (schema : Schema κ) (composition : SortComposition)
    (q : Query) : Except QueryError CompiledQuery := do
  let predicate ← Predicate.ofFilters catalog schema q.conditions
  let plan ← SortPlan.ofDirectives catalog schema q.sorts composition
  return ⟨predicate, plan, q.page⟩

end CompiledQuery

end RecordQuery
