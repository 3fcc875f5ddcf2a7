import RecordQuery.Query.Page
import RecordQuery.Query.Search

/-!
# Queries

A query says which records are wanted, in which order, and which page of them. Records must satisfy
the filters and then the search.
-/

namespace RecordQuery

/-- A query for a page of records. -/
structure Query where
  filters : List Filter
  search : Option Search
  sorts : List SortDirective
  page : PageRequest
  deriving DecidableEq

namespace Query

/-- The query for all records, in the default order, and for the default page. -/
def empty (settings : Settings) : Query where
  filters := []
  search := none
  sorts := settings.defaultSort
  page := .default settings

/-- The query with one more filter. -/
def addFilter (q : Query) (f : Filter) : Query := { q with filters := q.filters ++ [f] }

/-- The query with one more sort directive. -/
def addSort (q : Query) (s : SortDirective) : Query := { q with sorts := q.sorts ++ [s] }

/-- The query ordered by these directives, unless there are none. -/
def orderedBy (q : Query) : List SortDirective → Query
  | [] => q
  | s :: ss => { q with sorts := s :: ss }

/-- The filters that a search stands for; none without a search. -/
def searchFilters (q : Query) : List Filter :=
  match q.search with
  | some s => s.expand
  | none => []

/-- All conditions of a query in order: its filters, then those of its search. -/
def conditions (q : Query) : List Filter := q.filters ++ q.searchFilters

/-- Whether a query wants all records: it has no filter, and no search in any property. -/
def isUnfiltered (q : Query) : Bool :=
  q.filters.isEmpty && q.search.all (·.properties.isEmpty)

theorem isUnfiltered_iff {q : Query} : q.isUnfiltered = true ↔ q.conditions = [] := by
  obtain ⟨filters, _ | s, sorts, page⟩ := q
  · simp [isUnfiltered, conditions, searchFilters]
  · have h : s.expand = [] ↔ s.properties = [] := by
      rw [← s.map_property_expand, List.map_eq_nil_iff]
    simp [isUnfiltered, conditions, searchFilters, h]

end Query

end RecordQuery
