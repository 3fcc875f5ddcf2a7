import RecordQuery.Proofs.Queries.StepByStep
import RecordQuery.Request.Basic

/-!
# Requests and drafts agree

A query can be written as a request, or put together step by step. Requests stop at their first
fault, drafts hold it back; requests name operands and connectives by codes, drafts do not. From the
same parts, both make the same query or report the same fault.

Results:
* `mapM_change_step`: what a list of filters, or of sort directives, makes of a draft.
* `toQuery_request`: requests and drafts agree.
-/

namespace RecordQuery

/-! ## Parts of a query -/

/-- The parts of a filter, which need not name a property or have a literal. -/
structure FilterParts where
  property : String
  operand : Operand
  value : String
  connective : Connective

/-- The parts of a search, which need not have a term or name its properties. -/
structure SearchParts where
  term : String
  properties : List String
  operand : Operand
  connective : Connective

/-- The parts of a query. The sort directives need not name a property, and any page may be asked
for, or none. -/
structure QueryParts where
  filters : List FilterParts
  search : Option SearchParts
  sorts : List SortDirective
  page : Option PageRequest

namespace FilterParts

/-- The filter with these parts. -/
def make (f : FilterParts) : Except ArgumentError Filter :=
  Filter.make f.property f.operand f.value f.connective

/-- The filter as a client writes it: with codes, and its literal as a text. -/
def request (f : FilterParts) : FilterRequest :=
  ⟨f.property, .text f.value, some f.operand.code, some f.connective.code⟩

/-- The step that adds the filter. -/
def step (f : FilterParts) : Draft.Step := .compare f.connective f.property f.operand f.value

theorem toFilter_request (f : FilterParts) : f.request.toFilter = f.make := by
  unfold FilterRequest.toFilter request codeOr
  simp only [Operand.ofCode_code, Connective.ofCode_code]
  rfl

end FilterParts

namespace SearchParts

/-- The search with these parts. -/
def make (s : SearchParts) : Except ArgumentError Search :=
  (Search.make s.term s.properties).map
    fun search => (search.withOperand s.operand).withConnective s.connective

/-- The search as a client writes it. -/
def request (s : SearchParts) : SearchRequest :=
  ⟨s.term, s.properties, some s.operand.code, some s.connective.code⟩

/-- The step that sets the search. -/
def step (s : SearchParts) : Draft.Step :=
  .searchWith s.term s.properties s.operand s.connective

theorem toSearch_request (s : SearchParts) : s.request.toSearch = s.make := by
  unfold SearchRequest.toSearch request codeOr make
  simp only [Operand.ofCode_code, Connective.ofCode_code]
  cases Search.make s.term s.properties <;> rfl

end SearchParts

namespace QueryParts

/-- The query as a client writes it. -/
def request (q : QueryParts) : Request where
  filters := q.filters.map FilterParts.request
  search := q.search.map SearchParts.request
  sorts := q.sorts
  page := q.page

/-- The steps that put the query together: its filters, then its search, then its sort directives,
then its page. -/
def steps (q : QueryParts) : List Draft.Step :=
  q.filters.map FilterParts.step ++
    ((q.search.map SearchParts.step).toList ++
      ((q.sorts.map fun s => .sort s.property s.ascending) ++
        q.page.elim [] fun p => [.rows p.rows, .page p.page]))

end QueryParts

/-! ## What the steps change -/

namespace Draft

/-- The change that adds a filter. -/
def withFilter (f : Filter) (d : Draft) : Draft := { d with filters := d.filters ++ [f] }

/-- The change that sets the search. -/
def withSearch (s : Search) (d : Draft) : Draft := { d with search := some s }

/-- The change that adds a sort directive. -/
def withSort (s : SortDirective) (d : Draft) : Draft := { d with sorts := d.sorts ++ [s] }

theorem changed_append (d : Draft) (changes more : List (Draft → Draft)) :
    d.changed (changes ++ more) = (d.changed changes).changed more := List.foldl_append

theorem changed_map_withFilter (d : Draft) (fs : List Filter) :
    d.changed (fs.map withFilter) = { d with filters := d.filters ++ fs } := by
  induction fs generalizing d with
  | nil => rw [List.append_nil]; rfl
  | cons f fs ih =>
    show (withFilter f d).changed (fs.map withFilter) = _
    rw [ih]
    show { d with filters := d.filters ++ [f] ++ fs } = _
    rw [List.append_assoc, List.singleton_append]

theorem changed_map_withSort (d : Draft) (ss : List SortDirective) :
    d.changed (ss.map withSort) = { d with sorts := d.sorts ++ ss } := by
  induction ss generalizing d with
  | nil => rw [List.append_nil]; rfl
  | cons s ss ih =>
    show (withSort s d).changed (ss.map withSort) = _
    rw [ih]
    show { d with sorts := d.sorts ++ [s] ++ ss } = _
    rw [List.append_assoc, List.singleton_append]

theorem mapM_change_filters (fs : List FilterParts) :
    (fs.map FilterParts.step).mapM Step.change =
      (fs.mapM FilterParts.make).map (List.map withFilter) := by
  rw [List.mapM_map, ← mapM_map_eq]
  rfl

theorem mapM_change_search (s : Option SearchParts) :
    (s.map SearchParts.step).toList.mapM Step.change =
      (s.mapM SearchParts.make).map fun s => (s.map withSearch).toList := by
  cases s with
  | none => rfl
  | some s =>
    show [s.step].mapM Step.change = (s.make >>= fun s => .ok (some s)).map _
    unfold SearchParts.step SearchParts.make
    rw [mapM_cons_eq, Step.change]
    cases Search.make s.term s.properties <;> rfl

theorem mapM_change_sorts (ss : List SortDirective) :
    (ss.map fun s => Step.sort s.property s.ascending).mapM Step.change =
      (ss.mapM fun s => SortDirective.make s.property s.ascending).map (List.map withSort) := by
  rw [List.mapM_map, ← mapM_map_eq]
  rfl

end Draft

/-! ## Agreement -/

namespace QueryParts

theorem mapM_toFilter_request (fs : List FilterParts) :
    (fs.map FilterParts.request).mapM FilterRequest.toFilter = fs.mapM FilterParts.make := by
  rw [List.mapM_map]
  exact congrArg (fs.mapM ·) (funext FilterParts.toFilter_request)

theorem mapM_toSearch_request (s : Option SearchParts) :
    (s.map SearchParts.request).mapM SearchRequest.toSearch = s.mapM SearchParts.make := by
  cases s with
  | none => rfl
  | some s =>
    show some <$> s.request.toSearch = some <$> s.make
    rw [s.toSearch_request]

/-- Whatever the parts of a query and the settings, the request and the draft agree: they make the
same query, or report the same fault. -/
theorem toQuery_request (q : QueryParts) (settings : Settings) :
    q.request.toQuery settings = Query.ofSteps settings q.steps := by
  rw [Query.ofSteps_eq]
  unfold steps Request.toQuery request
  rw [List.mapM_append, List.mapM_append, List.mapM_append, Draft.mapM_change_filters,
    Draft.mapM_change_search, Draft.mapM_change_sorts, mapM_toFilter_request,
    mapM_toSearch_request]
  -- of filters, search and directives, the first that is wrong is reported on both sides
  cases q.filters.mapM FilterParts.make with
  | error cause => rfl
  | ok filters =>
    cases q.search.mapM SearchParts.make with
    | error cause => rfl
    | ok search =>
      cases q.sorts.mapM fun s => SortDirective.make s.property s.ascending with
      | error cause => rfl
      | ok sorts =>
        have hdraft (changes : List (Draft → Draft)) :
            Draft.changed {} (filters.map Draft.withFilter ++
              ((search.map Draft.withSearch).toList ++ (sorts.map Draft.withSort ++ changes))) =
              Draft.changed { filters, search, sorts } changes := by
          rw [Draft.changed_append, Draft.changed_append, Draft.changed_append,
            Draft.changed_map_withFilter]
          cases search <;> exact congrArg (Draft.changed · changes) (Draft.changed_map_withSort ..)
        cases q.page with
        | none =>
          show _ = Except.ok ((Draft.changed {} _).query settings)
          rw [hdraft]
          rfl
        | some p =>
          show _ = Except.ok ((Draft.changed {} _).query settings)
          rw [hdraft]
          rfl

end QueryParts

end RecordQuery
