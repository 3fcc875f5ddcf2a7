import RecordQuery.Proofs.Queries.StepByStep

/-!
# Drafts kind by kind

The steps that put a query together are of five kinds: filters, searches, sort directives, pages and
page sizes. Filters and sort directives add up, of the others the last one counts. What comes out
depends on the steps of each kind and their order among themselves alone, however the kinds are
mixed. A step that is wrong is wrong by itself; the first one that is makes the whole draft fail,
even when a later step of its kind would have taken its place.

Results:
* `Step.change_eq_error_iff`: which steps are wrong, and why.
* `changed_eq_extended`: the changes of a list of steps, kind by kind.
* `exists_fault_iff`: a list of steps has a first fault exactly if some step is wrong.
* `clamp_getD`: the page that is served for what was asked for last.
* `ofSteps_kindByKind`: what a list of steps puts together.
-/

namespace RecordQuery

namespace Draft

/-! ## Kinds of steps -/

/-- What a step of a draft is about. -/
inductive Kind where
  | filter | search | sort | page | rows
  deriving DecidableEq

namespace Step

/-- The kind of a step. -/
def kind : Step → Kind
  | .filter _ | .compare .. => .filter
  | .search .. | .searchWith .. => .search
  | .sort .. => .sort
  | .page _ => .page
  | .rows _ => .rows

/-- The filter that a step adds. -/
def filter? : Step → Option Filter
  | .filter f => some f
  | .compare connective property operand value =>
    (Filter.make property operand value connective).toOption
  | _ => none

/-- The search that a step sets. -/
def search? : Step → Option Search
  | .search term properties => (Search.make term properties).toOption
  | .searchWith term properties operand connective =>
    (Search.make term properties).toOption.map
      fun s => (s.withOperand operand).withConnective connective
  | _ => none

/-- The sort directive that a step adds. -/
def sort? : Step → Option SortDirective
  | .sort property ascending => (SortDirective.make property ascending).toOption
  | _ => none

/-- The page that a step asks for. -/
def page? : Step → Option Int64
  | .page n => some n
  | _ => none

/-- The page size that a step asks for. -/
def rows? : Step → Option Int64
  | .rows n => some n
  | _ => none

/-! ## Steps that are wrong -/

/-- A step that is wrong by itself, whatever other steps there are, and why. -/
inductive Faulty : Step → ArgumentError → Prop where
  | blankProperty {property : String} (h : Text.isBlankText property = true)
      (connective : Connective) (operand : Operand) (value : String) :
      Faulty (.compare connective property operand value) .blankFilterProperty
  | emptyValue {property : String} (h : Text.isBlankText property = false)
      (connective : Connective) (operand : Operand) :
      Faulty (.compare connective property operand "") (.emptyFilterValue property)
  | emptyTerm (properties : List String) : Faulty (.search "" properties) .emptySearchTerm
  | emptyTermWith (properties : List String) (operand : Operand) (connective : Connective) :
      Faulty (.searchWith "" properties operand connective) .emptySearchTerm
  | blankAmong {term p : String} {properties : List String} (hterm : term ≠ "")
      (hp : p ∈ properties) (h : Text.isBlankText p = true) :
      Faulty (.search term properties) .blankSearchProperty
  | blankAmongWith {term p : String} {properties : List String} (hterm : term ≠ "")
      (hp : p ∈ properties) (h : Text.isBlankText p = true) (operand : Operand)
      (connective : Connective) :
      Faulty (.searchWith term properties operand connective) .blankSearchProperty
  | blankSort {property : String} (h : Text.isBlankText property = true) (ascending : Bool) :
      Faulty (.sort property ascending) .blankSortProperty

end Step

end Draft

theorem Filter.make_eq_error_iff {property value : String} {operand : Operand}
    {connective : Connective} {cause : ArgumentError} :
    make property operand value connective = .error cause ↔
      (Text.isBlankText property = true ∧ cause = .blankFilterProperty) ∨
        (Text.isBlankText property = false ∧ value = "" ∧ cause = .emptyFilterValue property) := by
  unfold make
  by_cases hnamed : Text.isBlankText property = false
  · by_cases hvalue : value = "" <;> simp [hnamed, hvalue, eq_comm]
  · simp [hnamed, eq_comm]

theorem Search.make_eq_error_iff {term : String} {properties : List String}
    {cause : ArgumentError} :
    make term properties = .error cause ↔
      (term = "" ∧ cause = .emptySearchTerm) ∨
        (term ≠ "" ∧ (∃ p ∈ properties, Text.isBlankText p = true) ∧
          cause = .blankSearchProperty) := by
  unfold make
  constructor
  · intro h
    split at h
    · next hterm =>
      split at h
      · cases h
      · next hnamed =>
        cases h
        exact .inr ⟨hterm, by simpa using hnamed, rfl⟩
    · next hterm =>
      cases h
      exact .inl ⟨not_not.mp hterm, rfl⟩
  · rintro (⟨rfl, rfl⟩ | ⟨hterm, ⟨p, hp, hblank⟩, rfl⟩)
    · rfl
    · have hnamed : ¬∀ p ∈ properties, Text.isBlankText p = false := by
        intro hall
        rw [hall p hp] at hblank
        cases hblank
      rw [dif_pos hterm, dif_neg hnamed]

theorem SortDirective.make_eq_error_iff {property : String} {ascending : Bool}
    {cause : ArgumentError} :
    make property ascending = .error cause ↔
      Text.isBlankText property = true ∧ cause = .blankSortProperty := by
  unfold make
  by_cases hblank : Text.isBlankText property = true <;> simp [hblank, eq_comm]

namespace Draft

theorem Step.change_eq_error_iff {s : Step} {cause : ArgumentError} :
    s.change = .error cause ↔ s.Faulty cause := by
  constructor
  · intro h
    cases s with
    | filter f => cases h
    | compare connective property operand value =>
      rw [change, map_eq_error_iff, Filter.make_eq_error_iff] at h
      obtain ⟨hblank, rfl⟩ | ⟨hnamed, rfl, rfl⟩ := h
      · exact .blankProperty hblank ..
      · exact .emptyValue hnamed ..
    | search term properties =>
      rw [change, map_eq_error_iff, Search.make_eq_error_iff] at h
      obtain ⟨rfl, rfl⟩ | ⟨hterm, ⟨p, hp, hblank⟩, rfl⟩ := h
      · exact .emptyTerm _
      · exact .blankAmong hterm hp hblank
    | searchWith term properties operand connective =>
      rw [change, map_eq_error_iff, Search.make_eq_error_iff] at h
      obtain ⟨rfl, rfl⟩ | ⟨hterm, ⟨p, hp, hblank⟩, rfl⟩ := h
      · exact .emptyTermWith ..
      · exact .blankAmongWith hterm hp hblank ..
    | sort property ascending =>
      rw [change, map_eq_error_iff, SortDirective.make_eq_error_iff] at h
      obtain ⟨hblank, rfl⟩ := h
      exact .blankSort hblank _
    | page n => cases h
    | rows n => cases h
  · intro h
    cases h with
    | blankProperty h =>
      rw [change, map_eq_error_iff, Filter.make_eq_error_iff]
      exact .inl ⟨h, rfl⟩
    | emptyValue h =>
      rw [change, map_eq_error_iff, Filter.make_eq_error_iff]
      exact .inr ⟨h, rfl, rfl⟩
    | emptyTerm | emptyTermWith =>
      rw [change, map_eq_error_iff, Search.make_eq_error_iff]
      exact .inl ⟨rfl, rfl⟩
    | blankAmong hterm hp h | blankAmongWith hterm hp h =>
      rw [change, map_eq_error_iff, Search.make_eq_error_iff]
      exact .inr ⟨hterm, ⟨_, hp, h⟩, rfl⟩
    | blankSort h =>
      rw [change, map_eq_error_iff, SortDirective.make_eq_error_iff]
      exact ⟨h, rfl⟩

/-! ## What steps change, kind by kind -/

/-- A draft with what steps add and set, kind by kind. What a step would give that is wrong is left
out. -/
def extended (d : Draft) (steps : List Step) : Draft where
  filters := d.filters ++ steps.filterMap Step.filter?
  search := (steps.filterMap Step.search?).getLast?.or d.search
  sorts := d.sorts ++ steps.filterMap Step.sort?
  rows := (steps.filterMap Step.rows?).getLast?.getD d.rows
  page := (steps.filterMap Step.page?).getLast?.getD d.page
  failure := d.failure

theorem extended_nil (d : Draft) : d.extended [] = d := by
  simp [extended]

/-- Of the values that a list gives, the last one is that of the tail, or else that of the head. -/
theorem getLast?_filterMap_cons {α β : Type} (f : α → Option β) (a : α) (as : List α) :
    ((a :: as).filterMap f).getLast? = (as.filterMap f).getLast?.or (f a) := by
  rw [List.filterMap_cons]
  cases f a with
  | none => simp
  | some b => cases h : (as.filterMap f).getLast? <;> simp [List.getLast?_cons, h]

theorem extended_cons (d : Draft) (s : Step) (steps : List Step) :
    d.extended (s :: steps) = (d.extended [s]).extended steps := by
  have hadd : ∀ {β : Type} (f : Step → Option β) (bs : List β),
      bs ++ (s :: steps).filterMap f = bs ++ [s].filterMap f ++ steps.filterMap f := by
    intro β f bs
    rw [List.append_assoc, ← List.filterMap_append, List.singleton_append]
  simp only [extended, hadd, getLast?_filterMap_cons, List.filterMap_nil, List.getLast?_nil,
    Option.none_or, Option.or_assoc, Option.getD_or]

/-- A step that is not wrong makes the change of its kind. -/
theorem Step.change_eq_ok {s : Step} {change : Draft → Draft} (h : s.change = .ok change)
    (d : Draft) : change d = d.extended [s] := by
  cases s with
  | filter f | page n | rows n =>
    cases h
    simp [extended, filter?, search?, sort?, page?, rows?]
  | compare connective property operand value =>
    obtain ⟨f, hf, rfl⟩ := map_eq_ok_iff.mp h
    simp [extended, filter?, search?, sort?, page?, rows?, hf, Except.toOption]
  | search term properties | searchWith term properties operand connective =>
    obtain ⟨s, hs, rfl⟩ := map_eq_ok_iff.mp h
    simp [extended, filter?, search?, sort?, page?, rows?, hs, Except.toOption]
  | sort property ascending =>
    obtain ⟨s, hs, rfl⟩ := map_eq_ok_iff.mp h
    simp [extended, filter?, search?, sort?, page?, rows?, hs, Except.toOption]

/-- Steps that are not wrong change a draft kind by kind. -/
theorem changed_eq_extended {steps : List Step} {changes : List (Draft → Draft)}
    (h : steps.mapM Step.change = .ok changes) (d : Draft) :
    d.changed changes = d.extended steps := by
  rw [mapM_eq_ok_iff] at h
  induction h generalizing d with
  | nil => exact (extended_nil d).symm
  | @cons s change steps changes hs _ ih =>
    show (change d).changed changes = _
    rw [ih, Step.change_eq_ok hs, ← extended_cons]

/-! ## The first step that is wrong -/

/-- The first step that is wrong is so for this cause. -/
def FirstFault (steps : List Step) (cause : ArgumentError) : Prop :=
  ∃ before s after, steps = before ++ s :: after ∧ (∀ b ∈ before, ∀ c, ¬b.Faulty c) ∧
    s.Faulty cause

theorem Step.exists_change_iff {s : Step} :
    (∃ change, s.change = .ok change) ↔ ∀ c, ¬s.Faulty c := by
  simp only [← change_eq_error_iff]
  cases s.change <;> simp

theorem mapM_change_eq_error_iff {steps : List Step} {cause : ArgumentError} :
    steps.mapM Step.change = .error cause ↔ FirstFault steps cause := by
  rw [mapM_eq_error_iff]
  simp only [Step.exists_change_iff, Step.change_eq_error_iff]
  rfl

theorem exists_mapM_change_iff {steps : List Step} :
    (∃ changes, steps.mapM Step.change = .ok changes) ↔ ∀ s ∈ steps, ∀ c, ¬s.Faulty c := by
  rw [exists_mapM_eq_ok_iff]
  simp only [Step.exists_change_iff]

/-- Steps have a first fault exactly if one of them is wrong. -/
theorem exists_fault_iff {steps : List Step} :
    (∃ cause, FirstFault steps cause) ↔ ∃ s ∈ steps, ∃ c, s.Faulty c := by
  have hok := @exists_mapM_change_iff steps
  simp only [← mapM_change_eq_error_iff]
  cases h : steps.mapM Step.change with
  | error cause =>
    have hnot : ¬∀ s ∈ steps, ∀ c, ¬s.Faulty c := by
      rw [← hok, h]
      simp
    simpa using hnot
  | ok changes =>
    have hall : ∀ s ∈ steps, ∀ c, ¬s.Faulty c := hok.mp ⟨changes, h⟩
    simpa using hall

/-! ## Other orders of the kinds -/

/-- Two lists have the same steps of each kind, in the same order among themselves. -/
def SameKinds (steps more : List Step) : Prop :=
  ∀ k, steps.filter (·.kind = k) = more.filter (·.kind = k)

namespace SameKinds

variable {steps more : List Step}

theorem symm (h : SameKinds steps more) : SameKinds more steps := fun k => (h k).symm

theorem mem (h : SameKinds steps more) {s : Step} (hs : s ∈ steps) : s ∈ more := by
  have hkind : s ∈ more.filter (·.kind = s.kind) := by
    rw [← h s.kind, List.mem_filter]
    exact ⟨hs, decide_eq_true rfl⟩
  exact (List.mem_filter.mp hkind).1

/-- What is given by steps of one kind only is the same. -/
theorem filterMap_eq (h : SameKinds steps more) {β : Type} {f : Step → Option β} {k : Kind}
    (hf : ∀ s, s.kind ≠ k → f s = none) : steps.filterMap f = more.filterMap f := by
  have hkind : ∀ l : List Step, l.filterMap f = (l.filter (·.kind = k)).filterMap f := by
    intro l
    rw [List.filterMap_filter]
    congr 1
    funext s
    by_cases hs : s.kind = k
    · simp [hs]
    · simp [hs, hf s hs]
  rw [hkind steps, hkind more, h k]

theorem extended_eq (h : SameKinds steps more) (d : Draft) :
    d.extended steps = d.extended more := by
  have hfilter := h.filterMap_eq (f := Step.filter?) (k := .filter)
    (by rintro (_ | _ | _ | _ | _ | _ | _) <;> simp [Step.kind, Step.filter?])
  have hsearch := h.filterMap_eq (f := Step.search?) (k := .search)
    (by rintro (_ | _ | _ | _ | _ | _ | _) <;> simp [Step.kind, Step.search?])
  have hsort := h.filterMap_eq (f := Step.sort?) (k := .sort)
    (by rintro (_ | _ | _ | _ | _ | _ | _) <;> simp [Step.kind, Step.sort?])
  have hpage := h.filterMap_eq (f := Step.page?) (k := .page)
    (by rintro (_ | _ | _ | _ | _ | _ | _) <;> simp [Step.kind, Step.page?])
  have hrows := h.filterMap_eq (f := Step.rows?) (k := .rows)
    (by rintro (_ | _ | _ | _ | _ | _ | _) <;> simp [Step.kind, Step.rows?])
  simp only [extended, hfilter, hsearch, hsort, hpage, hrows]

end SameKinds

end Draft

/-! ## The query of a list of steps -/

namespace Query

open Draft (Step FirstFault SameKinds)

variable {settings : Settings} {steps more : List Step}

/-- The size of the page that is served when this one was asked for last, or none was: a positive
size as far as the greatest one allows, and otherwise the default size. -/
def servedRows (settings : Settings) : Option Int64 → Int64
  | none => settings.defaultRows
  | some n =>
    if n ≤ 0 then settings.defaultRows
    else if n ≤ settings.maxRows then n
    else settings.maxRows

/-- The page that is served when this one was asked for last, or none was: a page from the first one
on, and otherwise the default page. -/
def servedPage (settings : Settings) : Option Int64 → Int64
  | none => settings.defaultPage
  | some n => if n < 1 then settings.defaultPage else n

/-- The query with what steps give, kind by kind: all filters and all sort directives in order, the
last search, and the page of the last size and number. -/
def ofKinds (settings : Settings) (steps : List Step) : Query where
  filters := steps.filterMap Step.filter?
  search := (steps.filterMap Step.search?).getLast?
  sorts := if steps.filterMap Step.sort? = [] then settings.defaultSort
    else steps.filterMap Step.sort?
  page := {
    rows := servedRows settings (steps.filterMap Step.rows?).getLast?
    page := servedPage settings (steps.filterMap Step.page?).getLast? }

/-- A draft starts with zero rows and page zero, and what is not asked for is served like these. -/
theorem clamp_getD (settings : Settings) (rows page : Option Int64) :
    PageRequest.clamp settings (rows.getD 0) (page.getD 0) =
      ⟨servedRows settings rows, servedPage settings page⟩ := by
  cases rows <;> cases page <;> rfl

theorem query_extended (settings : Settings) (steps : List Step) :
    (Draft.extended {} steps).query settings = ofKinds settings steps := by
  unfold Draft.query Draft.extended ofKinds
  simp only [List.nil_append, Option.or_none, clamp_getD]
  cases steps.filterMap Step.sort? <;> rfl

theorem ofSteps_eq_error_iff {cause : ArgumentError} :
    ofSteps settings steps = .error cause ↔ FirstFault steps cause := by
  rw [ofSteps_eq, map_eq_error_iff, Draft.mapM_change_eq_error_iff]

theorem ofSteps_eq_ok (h : ∀ s ∈ steps, ∀ c, ¬s.Faulty c) :
    ofSteps settings steps = .ok (ofKinds settings steps) := by
  obtain ⟨changes, hchanges⟩ := Draft.exists_mapM_change_iff.mpr h
  rw [ofSteps_eq, hchanges]
  show Except.ok ((Draft.changed {} changes).query settings) = _
  rw [Draft.changed_eq_extended hchanges, query_extended]

theorem ofKinds_eq (h : SameKinds steps more) : ofKinds settings steps = ofKinds settings more := by
  rw [← query_extended, ← query_extended, h.extended_eq]

theorem ofSteps_eq_ok_iff {q : Query} :
    ofSteps settings steps = .ok q ↔
      (∀ s ∈ steps, ∀ c, ¬s.Faulty c) ∧ q = ofKinds settings steps := by
  constructor
  · intro h
    have hright : ∀ s ∈ steps, ∀ c, ¬s.Faulty c := by
      intro s hs c hfault
      obtain ⟨cause, hcause⟩ := Draft.exists_fault_iff.mpr ⟨s, hs, c, hfault⟩
      rw [ofSteps_eq_error_iff.mpr hcause] at h
      cases h
    rw [ofSteps_eq_ok hright] at h
    cases h
    exact ⟨hright, rfl⟩
  · rintro ⟨hright, rfl⟩
    exact ofSteps_eq_ok hright

/-- What steps put together: nothing exactly if one of them is wrong, and then the first that is
wrong is reported; else the query of what they give, kind by kind. Steps that are mixed in another
way, but have the same order within each kind, put together the same query. -/
theorem ofSteps_kindByKind (settings : Settings) (steps : List Step) :
    ((∃ cause, ofSteps settings steps = .error cause) ↔ ∃ s ∈ steps, ∃ c, s.Faulty c) ∧
      (∀ cause, ofSteps settings steps = .error cause ↔ FirstFault steps cause) ∧
      ((∀ s ∈ steps, ∀ c, ¬s.Faulty c) →
        ofSteps settings steps = .ok (ofKinds settings steps)) ∧
      ∀ more, SameKinds steps more →
        ∀ q, ofSteps settings steps = .ok q ↔ ofSteps settings more = .ok q := by
  refine ⟨?_, fun cause => ofSteps_eq_error_iff, ofSteps_eq_ok, ?_⟩
  · simp only [ofSteps_eq_error_iff]
    exact Draft.exists_fault_iff
  · intro more hmore q
    have hright : (∀ s ∈ steps, ∀ c, ¬s.Faulty c) ↔ ∀ s ∈ more, ∀ c, ¬s.Faulty c :=
      ⟨fun h s hs => h s (hmore.symm.mem hs), fun h s hs => h s (hmore.mem hs)⟩
    rw [ofSteps_eq_ok_iff, ofSteps_eq_ok_iff, hright, ofKinds_eq hmore]

/-- Settings with the second page as the default one, and few rows on a page. -/
def fewRows : Settings := { defaultPage := 2, defaultRows := 20, maxRows := 50 }

/-- A filter that is ready to be added. -/
def lightFilter : Filter := ⟨"Weight", .less, "90", .and, rfl, by decide⟩

/-- Steps of all kinds, mixed, of which some are taken back by later ones. In the end they ask for
too many rows, and for a page before the first. -/
def mixedSteps : List Step :=
  [.rows 5, .sort "Height" false, .contains "Surname" "n", .search "Jo" ["Surname"], .page 4,
    .filter lightFilter, .rows 500, .sort "Surname" true,
    .searchWith "Al" ["Surname", "City"] .startsWith .and, .page 0,
    .compare .or "Height" .greater "180", .equals "City" "Ulm"]

/-- The same steps, kind after kind. -/
def sortedSteps : List Step :=
  [.contains "Surname" "n", .filter lightFilter, .compare .or "Height" .greater "180",
    .equals "City" "Ulm", .search "Jo" ["Surname"],
    .searchWith "Al" ["Surname", "City"] .startsWith .and, .sort "Height" false,
    .sort "Surname" true, .page 4, .page 0, .rows 5, .rows 500]

/-- The query that they put together, with as many rows as there may be, on the default page. -/
def mixedQuery : Query where
  filters := [⟨"Surname", .contains, "n", .and, rfl, by decide⟩, lightFilter,
    ⟨"Height", .greater, "180", .or, rfl, by decide⟩,
    ⟨"City", .equals, "Ulm", .and, rfl, by decide⟩]
  search := some ⟨"Al", ["Surname", "City"], .startsWith, .and, by decide, by decide, by decide⟩
  sorts := [⟨"Height", false⟩, ⟨"Surname", true⟩]
  page := ⟨50, 2⟩

theorem ofSteps_mixedSteps :
    (∀ s ∈ mixedSteps, ∀ c, ¬s.Faulty c) ∧ SameKinds mixedSteps sortedSteps ∧
      ofSteps fewRows mixedSteps = .ok mixedQuery ∧
      ofSteps fewRows sortedSteps = .ok mixedQuery := by
  have hright : ∀ s ∈ mixedSteps, ∀ c, ¬s.Faulty c := Draft.exists_mapM_change_iff.mp ⟨_, rfl⟩
  have hkinds : SameKinds mixedSteps sortedSteps := by
    intro k
    cases k <;> rfl
  have hquery : ofKinds fewRows mixedSteps = mixedQuery := rfl
  obtain ⟨-, -, hok, hmixed⟩ := ofSteps_kindByKind fewRows mixedSteps
  rw [hquery] at hok
  exact ⟨hright, hkinds, hok hright, (hmixed _ hkinds _).mp (hok hright)⟩

/-- No rows are as many as by default, and a page from the first one on is served as asked for. -/
example : (ofKinds fewRows [.rows 30, .page 7, .rows 0]).page = ⟨20, 7⟩ := rfl

/-- A search without a term is reported, although a later search takes its place. -/
example : ofSteps {} [.search "" ["Name"], .search "Jo" ["Name"]] = .error .emptySearchTerm := rfl

end Query

end RecordQuery
