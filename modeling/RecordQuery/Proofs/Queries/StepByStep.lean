import RecordQuery.Proofs.FirstFailure
import RecordQuery.Query.Draft

/-!
# Drafts step by step

A draft goes on after a step that is wrong and holds the failure back. What comes out in the end is
the same as if it stopped there: every step by itself is a change of the draft or is wrong, and a
query is put together by making all changes, in order, unless some step is wrong.

Results:
* `outcome_step`: what one step makes of a draft.
* `outcome_foldl_step`: what many steps make of it.
* `ofSteps_eq`: the query that steps put together.
-/

namespace RecordQuery

namespace Draft

/-- The change that a step makes, or why the step is wrong. Neither depends on the draft. -/
def Step.change : Step → Except ArgumentError (Draft → Draft)
  | .filter f => .ok fun d => { d with filters := d.filters ++ [f] }
  | .compare connective property operand value =>
    (Filter.make property operand value connective).map
      fun f d => { d with filters := d.filters ++ [f] }
  | .search term properties =>
    (Search.make term properties).map fun s d => { d with search := some s }
  | .searchWith term properties operand connective =>
    (Search.make term properties).map
      fun s d => { d with search := some ((s.withOperand operand).withConnective connective) }
  | .sort property ascending =>
    (SortDirective.make property ascending).map fun s d => { d with sorts := d.sorts ++ [s] }
  | .page n => .ok fun d => { d with page := n }
  | .rows n => .ok fun d => { d with rows := n }

/-- A draft after changes, made one after another. -/
def changed (d : Draft) (changes : List (Draft → Draft)) : Draft :=
  changes.foldl (fun d change => change d) d

/-- A draft, unless it holds a failure back. -/
def outcome (d : Draft) : Except ArgumentError Draft :=
  match d.failure with
  | some cause => .error cause
  | none => .ok d

/-- The query that a draft without a failure stands for. -/
def query (d : Draft) (settings : Settings) : Query :=
  Query.orderedBy
    { Query.empty settings with
      filters := d.filters
      search := d.search
      page := .clamp settings d.rows d.page }
    d.sorts

theorem outcome_of_failure {d : Draft} {cause : ArgumentError} (h : d.failure = some cause) :
    d.outcome = .error cause := by
  unfold outcome
  rw [h]

theorem outcome_of_failure_eq_none {d : Draft} (h : d.failure = none) : d.outcome = .ok d := by
  unfold outcome
  rw [h]

theorem build_eq (d : Draft) (settings : Settings) :
    d.build settings = d.outcome.map (·.query settings) := by
  unfold build outcome
  cases d.failure <;> rfl

/-! ## One step -/

section OneStep

variable {d : Draft} (h : d.failure = none)

include h

theorem outcome_fail (cause : ArgumentError) : (d.fail cause).outcome = .error cause := by
  apply outcome_of_failure
  unfold fail
  rw [h]
  rfl

theorem outcome_addFilter (f : Except ArgumentError Filter) :
    (d.addFilter f).outcome = f.map fun f => { d with filters := d.filters ++ [f] } := by
  cases f with
  | ok f => exact outcome_of_failure_eq_none h
  | error cause => exact outcome_fail h cause

theorem outcome_addSort (s : Except ArgumentError SortDirective) :
    (d.addSort s).outcome = s.map fun s => { d with sorts := d.sorts ++ [s] } := by
  cases s with
  | ok s => exact outcome_of_failure_eq_none h
  | error cause => exact outcome_fail h cause

theorem outcome_setSearch (s : Except ArgumentError Search) :
    (d.setSearch s).outcome = s.map fun s => { d with search := some s } := by
  cases s with
  | ok s => exact outcome_of_failure_eq_none h
  | error cause =>
    apply outcome_of_failure
    show (d.fail cause).failure = some cause
    unfold fail
    rw [h]
    rfl

/-- A draft without a failure is changed by a step, or the step is wrong. -/
theorem outcome_step_of_failure_eq_none (s : Step) :
    (d.step s).outcome = s.change.map (· d) := by
  cases s with
  | filter f => exact outcome_addFilter h (.ok f)
  | compare connective property operand value =>
    rw [step, outcome_addFilter h, Step.change, map_map_eq]
  | search term properties => rw [step, outcome_setSearch h, Step.change, map_map_eq]
  | searchWith term properties operand connective =>
    rw [step, outcome_setSearch h, Step.change, map_map_eq, map_map_eq]
  | sort property ascending => rw [step, outcome_addSort h, Step.change, map_map_eq]
  | page n => exact outcome_of_failure_eq_none h
  | rows n => exact outcome_of_failure_eq_none h

end OneStep

theorem outcome_step (d : Draft) (s : Step) :
    (d.step s).outcome = d.outcome >>= fun d => s.change.map (· d) := by
  cases h : d.failure with
  | some cause =>
    rw [outcome_of_failure h, outcome_of_failure (failure_step h s)]
    rfl
  | none =>
    rw [outcome_of_failure_eq_none h]
    exact outcome_step_of_failure_eq_none h s

/-! ## Many steps -/

/-- Many steps: of the steps that are wrong the first is reported, and if there is none all changes
are made. -/
theorem outcome_foldl_step (d : Draft) (steps : List Step) :
    (steps.foldl step d).outcome =
      d.outcome >>= fun d => (steps.mapM Step.change).map d.changed := by
  induction steps generalizing d with
  | nil =>
    rw [List.foldl_nil, List.mapM_nil]
    cases d.outcome <;> rfl
  | cons s steps ih =>
    rw [List.foldl_cons, ih, outcome_step, mapM_cons_eq]
    cases d.outcome with
    | error cause => rfl
    | ok d =>
      cases s.change with
      | error cause => rfl
      | ok change => cases steps.mapM Step.change <;> rfl

end Draft

theorem Query.ofSteps_eq (settings : Settings) (steps : List Draft.Step) :
    Query.ofSteps settings steps =
      (steps.mapM Draft.Step.change).map
        fun changes => (Draft.changed {} changes).query settings := by
  unfold Query.ofSteps
  rw [Draft.build_eq, Draft.outcome_foldl_step]
  cases steps.mapM Draft.Step.change <;> rfl

end RecordQuery
