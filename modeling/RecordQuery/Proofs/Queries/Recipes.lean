import RecordQuery.Proofs.Filters.Expansion
import RecordQuery.Proofs.Requests.Defaults

/-!
# What a query is made of

A query is the empty one, or that of a request or of its text, or is put together step by step; and
any query can be given other filters, another search, other sort directives and another page. All
these ways start from parts that nobody has looked at, properties and literals as they were written.
The conditions of a query are what its predicate is compiled from, and each of them is made of such
parts, either directly or by the expansion of a search. So whatever comes to the compiler names a
property and has a literal.

Results:
* `exists_asked_of_toQuery`, `madeOf_of_ofSteps`: requests and steps make what they ask for.
* `MadeOf.edit`, `MadeOf.edits`: a query that is edited is made of what is asked for then.
* `Recipe.exists_madeOf`: every way to make a query makes what is asked for on the way.
* `MadeOf.handsOver`: what a query hands over that is made of what is asked for.
* `checked_conditions`: the conditions of every query that can be made.
-/

namespace RecordQuery

/-! ## What is asked for -/

/-- What is asked for when a query is made: the parts of its filters and those of its search. -/
structure Asked where
  filters : List FilterParts
  search : Option SearchParts

/-- The parts of a filter as a client wrote it, if its codes exist. -/
def FilterRequest.asked (r : FilterRequest) : Except ArgumentError FilterParts := do
  let operand ← codeOr .equals Operand.ofCode r.operand
  let connective ← codeOr .and Connective.ofCode r.connective
  return ⟨r.property, operand, r.value.toText, connective⟩

/-- The parts of a search as a client wrote it, if its codes exist. -/
def SearchRequest.asked (r : SearchRequest) : Except ArgumentError SearchParts := do
  let operand ← codeOr .contains Operand.ofCode r.operand
  let connective ← codeOr .or Connective.ofCode r.connective
  return ⟨r.term, r.properties, operand, connective⟩

/-- What a client asks for. -/
def Request.asked (r : Request) : Except ArgumentError Asked := do
  let filters ← r.filters.mapM FilterRequest.asked
  let search ← r.search.mapM SearchRequest.asked
  return ⟨filters, search⟩

namespace Draft.Step

/-- The parts of the filter that a step adds. -/
def askedFilter? : Step → Option FilterParts
  | .filter f => some ⟨f.property, f.operand, f.value, f.connective⟩
  | .compare connective property operand value => some ⟨property, operand, value, connective⟩
  | _ => none

/-- The parts of the search that a step sets. -/
def askedSearch? : Step → Option SearchParts
  | .search term properties => some ⟨term, properties, .contains, .or⟩
  | .searchWith term properties operand connective => some ⟨term, properties, operand, connective⟩
  | _ => none

end Draft.Step

/-- What steps ask for: all filters, and the last search. -/
def Draft.asked (steps : List Draft.Step) : Asked where
  filters := steps.filterMap Draft.Step.askedFilter?
  search := (steps.filterMap Draft.Step.askedSearch?).getLast?

/-! ## What is made of it -/

/-- A filter can be made exactly of a property with a name and of a literal that is not empty. -/
theorem FilterParts.exists_make_iff {parts : FilterParts} : (∃ f, parts.make = .ok f) ↔
    Text.isBlankText parts.property = false ∧ parts.value ≠ "" := by
  unfold make Filter.make
  constructor
  · rintro ⟨f, h⟩
    split at h
    · next hnamed =>
      split at h
      · next hvalue => exact ⟨hnamed, hvalue⟩
      · cases h
    · cases h
  · rintro ⟨hnamed, hvalue⟩
    rw [dif_pos hnamed, dif_pos hvalue]
    exact ⟨_, rfl⟩

/-- The filters and the search of a query are made of what is asked for. -/
structure Query.MadeOf (q : Query) (asked : Asked) : Prop where
  filters : List.Forall₂ (fun parts f => parts.make = .ok f) asked.filters q.filters
  search : Option.Rel (fun parts s => parts.make = .ok s) asked.search q.search

theorem Query.MadeOf.orderedBy {q : Query} {asked : Asked} (h : q.MadeOf asked)
    (ds : List SortDirective) : (q.orderedBy ds).MadeOf asked := by
  cases ds with
  | nil => exact h
  | cons d ds => exact ⟨h.filters, h.search⟩

/-! ### Requests -/

/-- A filter of a request is made once its codes have been read. -/
theorem FilterRequest.toFilter_eq (r : FilterRequest) :
    r.toFilter = r.asked >>= FilterParts.make := by
  unfold toFilter asked
  cases codeOr .equals Operand.ofCode r.operand with
  | error cause => rfl
  | ok operand => cases codeOr .and Connective.ofCode r.connective <;> rfl

theorem SearchRequest.exists_asked_of_toSearch {r : SearchRequest} {s : Search}
    (h : r.toSearch = .ok s) : ∃ parts, r.asked = .ok parts ∧ parts.make = .ok s := by
  rw [toSearch_eq] at h
  obtain ⟨made, hmade, h⟩ := bind_eq_ok_iff.mp h
  obtain ⟨operand, hoperand, h⟩ := bind_eq_ok_iff.mp h
  obtain ⟨connective, hconnective, rfl⟩ := map_eq_ok_iff.mp h
  refine ⟨⟨r.term, r.properties, operand, connective⟩, ?_, map_eq_ok_iff.mpr ⟨made, hmade, rfl⟩⟩
  unfold asked
  rw [hoperand, hconnective]
  rfl

/-- The query of a request is made of what the request asks for. -/
theorem Request.exists_asked_of_toQuery {r : Request} {settings : Settings} {q : Query}
    (h : r.toQuery settings = .ok q) : ∃ asked, r.asked = .ok asked ∧ q.MadeOf asked := by
  unfold toQuery at h
  simp only [bind_eq_ok_iff] at h
  obtain ⟨filters, hfilters, search, hsearch, sorts, -, hq⟩ := h
  obtain ⟨parts, hparts, hmake⟩ : ∃ parts, r.filters.mapM FilterRequest.asked = .ok parts ∧
      parts.mapM FilterParts.make = .ok filters := by
    rw [← mapM_bind_eq_ok_iff]
    simpa only [← FilterRequest.toFilter_eq] using hfilters
  obtain ⟨sought, hsought, hfound⟩ : ∃ sought, r.search.mapM SearchRequest.asked = .ok sought ∧
      Option.Rel (fun parts s => parts.make = .ok s) sought search := by
    cases hr : r.search with
    | none =>
      rw [hr] at hsearch
      cases hsearch
      exact ⟨none, rfl, .none⟩
    | some given =>
      rw [hr] at hsearch
      obtain ⟨s, hs, rfl⟩ := map_eq_ok_iff.mp hsearch
      obtain ⟨parts, hparts, hmake⟩ := SearchRequest.exists_asked_of_toSearch hs
      exact ⟨some parts, map_eq_ok_iff.mpr ⟨parts, hparts, rfl⟩, .some hmake⟩
  refine ⟨⟨parts, sought⟩, ?_, ?_⟩
  · unfold asked
    rw [hparts, hsought]
    rfl
  · cases hq
    exact Query.MadeOf.orderedBy ⟨mapM_eq_ok_iff.mp hmake, hfound⟩ sorts

/-! ### Steps -/

/-- Lists that go together item by item end alike. -/
theorem rel_getLast? {α β : Type} {R : α → β → Prop} {as : List α} {bs : List β}
    (h : List.Forall₂ R as bs) : Option.Rel R as.getLast? bs.getLast? := by
  have hreverse : List.Forall₂ R as.reverse bs.reverse := List.rel_reverse h
  rw [← List.head?_reverse, ← List.head?_reverse]
  generalize as.reverse = xs, bs.reverse = ys at hreverse
  cases hreverse with
  | nil => exact .none
  | cons hab _ => exact .some hab

namespace Draft

namespace Step

variable {s : Step}

/-- A step that is not wrong adds the filter that it asks for, if it asks for one. -/
theorem rel_filter? (h : ∀ c, ¬s.Faulty c) :
    Option.Rel (fun parts f => parts.make = .ok f) s.askedFilter? s.filter? := by
  cases s with
  | filter f => exact .some (Filter.make_self f)
  | compare connective property operand value =>
    obtain ⟨change, hchange⟩ := exists_change_iff.mpr h
    obtain ⟨f, hf, -⟩ := map_eq_ok_iff.mp hchange
    rw [filter?, toOption_eq_some_iff.mpr hf]
    exact .some hf
  | search | searchWith | sort | page | rows => exact .none

/-- A step that is not wrong sets the search that it asks for, if it asks for one. -/
theorem rel_search? (h : ∀ c, ¬s.Faulty c) :
    Option.Rel (fun parts s => parts.make = .ok s) s.askedSearch? s.search? := by
  cases s with
  | search term properties =>
    obtain ⟨change, hchange⟩ := exists_change_iff.mpr h
    obtain ⟨s, hs, -⟩ := map_eq_ok_iff.mp hchange
    rw [search?, toOption_eq_some_iff.mpr hs]
    -- a search that is not changed is the one without changes
    exact .some ((SearchParts.make_ofChanges term properties []).trans
      (map_eq_ok_iff.mpr ⟨s, hs, rfl⟩))
  | searchWith term properties operand connective =>
    obtain ⟨change, hchange⟩ := exists_change_iff.mpr h
    obtain ⟨s, hs, -⟩ := map_eq_ok_iff.mp hchange
    rw [search?, toOption_eq_some_iff.mpr hs]
    exact .some (map_eq_ok_iff.mpr ⟨s, hs, rfl⟩)
  | filter | compare | sort | page | rows => exact .none

end Step

end Draft

/-- The query that steps put together is made of what the steps ask for. -/
theorem Query.madeOf_of_ofSteps {settings : Settings} {steps : List Draft.Step} {q : Query}
    (h : ofSteps settings steps = .ok q) : q.MadeOf (Draft.asked steps) := by
  obtain ⟨hright, rfl⟩ := ofSteps_eq_ok_iff.mp h
  -- the same steps on both sides, each of which is not wrong
  have hsteps : List.Forall₂ (fun s t => s = t ∧ ∀ c, ¬s.Faulty c) steps steps :=
    List.forall₂_same.mpr fun s hs => ⟨rfl, hright s hs⟩
  constructor
  · refine List.rel_filterMap ?_ hsteps
    rintro s _ ⟨rfl, hs⟩
    exact Draft.Step.rel_filter? hs
  · refine rel_getLast? (List.rel_filterMap ?_ hsteps)
    rintro s _ ⟨rfl, hs⟩
    exact Draft.Step.rel_search? hs

/-! ## Ways to make a query -/

namespace Query

/-- Where a query comes from. -/
inductive Origin where
  | empty (settings : Settings)
  | request (settings : Settings) (r : Request)
  | text (settings : Settings) (s : String)
  | steps (settings : Settings) (taken : List Draft.Step)

/-- What can be done to a query. Filters and searches are made on the way. -/
inductive Edit where
  | addFilter (parts : FilterParts)
  | withFilters (parts : List FilterParts)
  | withSearch (term : String) (properties : List String) (changes : List Search.Change)
  | withoutSearch
  | addSort (d : SortDirective)
  | withSorts (ds : List SortDirective)
  | onPage (page : PageRequest)

/-- A way to make a query. -/
structure Recipe where
  origin : Origin
  edits : List Edit

/-- The query as it comes from its origin. -/
def Origin.make : Origin → Except QueryError Query
  | empty settings => .ok (.empty settings)
  | request settings r => (r.toQuery settings).mapError .argument
  | text settings s => ofText settings s
  | steps settings taken => (ofSteps settings taken).mapError .argument

/-- A query after an edit. -/
def edit (q : Query) : Edit → Except ArgumentError Query
  | .addFilter parts => parts.make.map q.addFilter
  | .withFilters parts => (parts.mapM FilterParts.make).map fun filters => { q with filters }
  | .withSearch term properties changes =>
    (Search.ofChanges term properties changes).map fun s => { q with search := some s }
  | .withoutSearch => .ok { q with search := none }
  | .addSort d => .ok (q.addSort d)
  | .withSorts ds => .ok { q with sorts := ds }
  | .onPage page => .ok { q with page }

/-- The query that is made in some way. -/
def Recipe.make (r : Recipe) : Except QueryError Query := do
  let q ← r.origin.make
  (r.edits.foldlM edit q).mapError .argument

/-- What is asked for where a query comes from. -/
def Origin.asked : Origin → Except QueryError Asked
  | empty _ => .ok ⟨[], none⟩
  | request _ r => r.asked.mapError .argument
  | text _ s => do
    let r ← (Request.ofText s).mapError .payload
    r.asked.mapError .argument
  | steps _ taken => .ok (Draft.asked taken)

/-- What is asked for after an edit. -/
def Edit.asked (before : Asked) : Edit → Asked
  | addFilter parts => { before with filters := before.filters ++ [parts] }
  | withFilters parts => { before with filters := parts }
  | withSearch term properties changes =>
    { before with search := some (.ofChanges term properties changes) }
  | withoutSearch => { before with search := none }
  | addSort _ | withSorts _ | onPage _ => before

/-- What is asked for in the making of a query. -/
def Recipe.asked (r : Recipe) : Except QueryError Asked :=
  r.origin.asked.map fun asked => r.edits.foldl Edit.asked asked

variable {q after : Query} {asked : Asked}

theorem Origin.exists_madeOf {origin : Origin} (h : origin.make = .ok q) :
    ∃ asked, origin.asked = .ok asked ∧ q.MadeOf asked := by
  cases origin with
  | empty settings =>
    cases h
    exact ⟨_, rfl, .nil, .none⟩
  | request settings r =>
    obtain ⟨asked, hasked, hmade⟩ := Request.exists_asked_of_toQuery (mapError_eq_ok_iff.mp h)
    exact ⟨asked, mapError_eq_ok_iff.mpr hasked, hmade⟩
  | text settings s =>
    obtain ⟨r, hr, hq⟩ := bind_eq_ok_iff.mp h
    obtain ⟨asked, hasked, hmade⟩ := Request.exists_asked_of_toQuery (mapError_eq_ok_iff.mp hq)
    exact ⟨asked, bind_eq_ok_iff.mpr ⟨r, hr, mapError_eq_ok_iff.mpr hasked⟩, hmade⟩
  | steps settings taken => exact ⟨_, rfl, madeOf_of_ofSteps (mapError_eq_ok_iff.mp h)⟩

/-- A query that is edited is made of what is asked for then. -/
theorem MadeOf.edit (h : q.MadeOf asked) {e : Edit} (hafter : q.edit e = .ok after) :
    after.MadeOf (e.asked asked) := by
  cases e with
  | addFilter parts =>
    obtain ⟨f, hf, rfl⟩ := map_eq_ok_iff.mp hafter
    exact ⟨List.rel_append h.filters (.cons hf .nil), h.search⟩
  | withFilters parts =>
    obtain ⟨filters, hfilters, rfl⟩ := map_eq_ok_iff.mp hafter
    exact ⟨mapM_eq_ok_iff.mp hfilters, h.search⟩
  | withSearch term properties changes =>
    obtain ⟨s, hs, rfl⟩ := map_eq_ok_iff.mp hafter
    rw [← SearchParts.make_ofChanges] at hs
    exact ⟨h.filters, .some hs⟩
  | withoutSearch =>
    cases hafter
    exact ⟨h.filters, .none⟩
  | addSort d | withSorts ds | onPage page =>
    cases hafter
    exact ⟨h.filters, h.search⟩

theorem MadeOf.edits (h : q.MadeOf asked) {edits : List Edit}
    (hafter : edits.foldlM Query.edit q = .ok after) :
    after.MadeOf (edits.foldl Edit.asked asked) := by
  -- the query and what is asked for change together, so both are general
  induction edits generalizing q asked with
  | nil =>
    cases hafter
    exact h
  | cons e edits ih =>
    rw [List.foldlM_cons] at hafter
    obtain ⟨next, hnext, hafter⟩ := bind_eq_ok_iff.mp hafter
    exact ih (h.edit hnext) hafter

/-- Every query that is made in some way is made of what is asked for on the way. -/
theorem Recipe.exists_madeOf {recipe : Recipe} (h : recipe.make = .ok q) :
    ∃ asked, recipe.asked = .ok asked ∧ q.MadeOf asked := by
  obtain ⟨first, hfirst, hedits⟩ := bind_eq_ok_iff.mp h
  obtain ⟨asked, hasked, hmade⟩ := Origin.exists_madeOf hfirst
  exact ⟨_, map_eq_ok_iff.mpr ⟨asked, hasked, rfl⟩, hmade.edits (mapError_eq_ok_iff.mp hedits)⟩

/-! ## What is handed over -/

/-- What a query hands over to be compiled (see `CompiledQuery.ofQuery`): its conditions, which are
its filters and then the filters of its search. -/
structure HandsOver (q : Query) (asked : Asked) : Prop where
  /-- The filters are made of the parts that are asked for, in order. -/
  filters : asked.filters.mapM FilterParts.make = .ok q.filters
  /-- The filters of the search are the expansion of the one that is asked for. -/
  expansion : ∀ parts ∈ asked.search, parts.Expands q.searchFilters
  /-- There are none if no search is asked for. -/
  no_search : asked.search = none → q.searchFilters = []
  /-- Nothing was passed over: all filters that are asked for name a property and have a literal. -/
  asked_filters : ∀ parts ∈ asked.filters,
    Text.isBlankText parts.property = false ∧ parts.value ≠ ""
  /-- The search that is asked for has a term, and names all its properties. -/
  asked_search : ∀ parts ∈ asked.search,
    parts.term ≠ "" ∧ ∀ p ∈ parts.properties, Text.isBlankText p = false
  /-- So every condition names a property and has a literal. -/
  conditions : ∀ f ∈ q.conditions, Text.isBlankText f.property = false ∧ f.value ≠ ""

variable {parts : SearchParts} {f : Filter}

namespace MadeOf

theorem exists_search (h : q.MadeOf asked) (hparts : asked.search = some parts) :
    ∃ s, q.search = some s ∧ parts.make = .ok s := by
  have hrel := h.search
  rw [hparts] at hrel
  generalize q.search = search at hrel
  cases hrel with
  | some hs => exact ⟨_, rfl, hs⟩

theorem searchFilters_eq_nil (h : q.MadeOf asked) (hnone : asked.search = none) :
    q.searchFilters = [] := by
  have hrel := h.search
  rw [hnone] at hrel
  unfold searchFilters
  generalize q.search = search at hrel
  cases hrel with
  | none => rfl

theorem expands (h : q.MadeOf asked) (hparts : asked.search = some parts) :
    parts.Expands q.searchFilters := by
  obtain ⟨s, hs, hmake⟩ := h.exists_search hparts
  unfold searchFilters
  rw [hs]
  exact SearchParts.expands_of_make hmake

/-- Every condition is made of parts, those that are asked for or those of an expansion. -/
theorem exists_make_of_mem_conditions (h : q.MadeOf asked) (hf : f ∈ q.conditions) :
    ∃ parts : FilterParts, parts.make = .ok f := by
  rcases List.mem_append.mp hf with hf | hf
  · obtain ⟨parts, -, hmake⟩ := (mem_mapM_iff (mapM_eq_ok_iff.mpr h.filters)).mp hf
    exact ⟨parts, hmake⟩
  · cases hsearch : asked.search with
    | none =>
      rw [h.searchFilters_eq_nil hsearch] at hf
      exact absurd hf List.not_mem_nil
    | some parts =>
      exact ⟨⟨f.property, parts.operand, parts.term, parts.connective⟩,
        (h.expands hsearch).made f hf⟩

theorem handsOver (h : q.MadeOf asked) : q.HandsOver asked where
  filters := mapM_eq_ok_iff.mpr h.filters
  expansion _ hparts := h.expands hparts
  no_search := h.searchFilters_eq_nil
  asked_filters parts hparts := by
    have hmade : ∀ parts ∈ asked.filters, ∃ f, parts.make = .ok f :=
      exists_mapM_eq_ok_iff.mp ⟨q.filters, mapM_eq_ok_iff.mpr h.filters⟩
    exact FilterParts.exists_make_iff.mp (hmade parts hparts)
  asked_search parts hparts := by
    obtain ⟨s, -, hmake⟩ := h.exists_search hparts
    exact SearchParts.exists_make_iff.mp ⟨s, hmake⟩
  conditions f hf := by
    obtain ⟨parts, hmake⟩ := h.exists_make_of_mem_conditions hf
    obtain ⟨hproperty, -, hvalue, -⟩ := Filter.make_eq_ok_iff.mp hmake
    rw [hproperty, hvalue]
    exact FilterParts.exists_make_iff.mp ⟨f, hmake⟩

end MadeOf

/-- A search is made exactly of a term that is not empty and of properties with names. However it is
changed then, it expands to one filter for each of its properties, in the order in which they come
first, and these are the filters that are made of the properties one by one. Whatever way a query is
made, its conditions are made of what is asked for on the way, and all of them name a property and
have a literal. -/
theorem checked_conditions (term : String) (properties : List String)
    (changes : List Search.Change) (recipe : Recipe) :
    ((∃ s, Search.ofChanges term properties changes = .ok s) ↔
        term ≠ "" ∧ ∀ p ∈ properties, Text.isBlankText p = false) ∧
      (∀ s, Search.ofChanges term properties changes = .ok s →
        (SearchParts.ofChanges term properties changes).Expands s.expand) ∧
      ∀ q, recipe.make = .ok q → ∃ asked, recipe.asked = .ok asked ∧ q.HandsOver asked := by
  rw [← SearchParts.make_ofChanges]
  refine ⟨SearchParts.exists_make_iff, fun s => SearchParts.expands_of_make, ?_⟩
  intro q hq
  obtain ⟨asked, hasked, hmade⟩ := Recipe.exists_madeOf hq
  exact ⟨asked, hasked, hmade.handsOver⟩

/-- A query that is put together step by step and then given one more filter and another search,
which names a property twice and is changed three times. -/
def layered : Recipe where
  origin := .steps {} [.equals "Age" "30", .search "x" ["Name"]]
  edits := [
    .addFilter ⟨"Name", .contains, "n", .or⟩,
    .withSearch "Jo" ["Name", "Email", "Name"]
      [.operand .endsWith, .connective .and, .operand .startsWith]]

theorem checked_conditions_layered :
    ∃ s q asked, Search.ofChanges "Jo" ["Name", "Email", "Name"]
        [.operand .endsWith, .connective .and, .operand .startsWith] = .ok s ∧
      (SearchParts.mk "Jo" ["Name", "Email", "Name"] .startsWith .and).Expands s.expand ∧
      layered.make = .ok q ∧ layered.asked = .ok asked ∧ q.HandsOver asked ∧
      q.conditions.map Filter.property = ["Age", "Name", "Name", "Email"] := by
  obtain ⟨s, hs⟩ : ∃ s, Search.ofChanges "Jo" ["Name", "Email", "Name"]
      [.operand .endsWith, .connective .and, .operand .startsWith] = .ok s := ⟨_, rfl⟩
  obtain ⟨q, hq, hconditions⟩ : ∃ q, layered.make = .ok q ∧
      q.conditions.map Filter.property = ["Age", "Name", "Name", "Email"] := ⟨_, rfl, rfl⟩
  obtain ⟨-, hexpands, hmade⟩ := checked_conditions "Jo" ["Name", "Email", "Name"]
    [.operand .endsWith, .connective .and, .operand .startsWith] layered
  obtain ⟨asked, hasked, hhands⟩ := hmade q hq
  exact ⟨s, q, asked, hs, hexpands s hs, hq, hasked, hhands, hconditions⟩

end Query

end RecordQuery
