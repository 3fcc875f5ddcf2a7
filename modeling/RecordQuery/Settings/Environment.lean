import RecordQuery.Settings.Basic
import RecordQuery.Number.Integer

/-!
# Settings from variables

Settings are read from six variables, each of which may be unset and then leaves its default. The
variables are read in a fixed order, and the first that cannot be read is reported; then the
settings are validated.

Results:
* `valid_ofEnvironment`: settings from variables are valid.
-/

namespace RecordQuery.Settings

/-- The values of variables, by name. -/
abbrev Environment := String → Option String

/-- The integer that a variable holds. -/
def integerOf (variableName value : String) : Except SettingsError Int64 :=
  match Integer.int64OfText? (Text.trim value) with
  | some n => .ok n
  | none => .error (.notInteger variableName value)

/-- The truth value that a variable holds. -/
def booleanOf (variableName value : String) : Except SettingsError Bool :=
  let word := Text.trim value
  if ["true", "1", "yes"].any (Text.eqIgnoringCase word) then .ok true
  else if ["false", "0", "no"].any (Text.eqIgnoringCase word) then .ok false
  else .error (.notBoolean variableName value)

/-- The sort directives that a variable holds. -/
def sortOf (variableName value : String) : Except SettingsError (List SortDirective) :=
  (SortDirective.listOfText value).mapError (.badSort variableName)

/-- The sort composition that a variable holds. -/
def compositionOf (variableName value : String) : Except SettingsError SortComposition :=
  match SortComposition.ofText? value with
  | some c => .ok c
  | none => .error (.unknownComposition variableName value)

/-- What a variable holds, or a default if it is unset. -/
def variableOr {α : Type} (env : Environment) (variableName : String) (default : α)
    (read : String → String → Except SettingsError α) : Except SettingsError α :=
  match env variableName with
  | some value => read variableName value
  | none => .ok default

/-- The settings that variables hold, before they are validated. -/
def readEnvironment (env : Environment) : Except SettingsError Settings := do
  let default : Settings := {}
  let defaultPage ← variableOr env "DQ_DEFAULT_PAGE" default.defaultPage integerOf
  let defaultRows ← variableOr env "DQ_DEFAULT_ROWS" default.defaultRows integerOf
  let maxRows ← variableOr env "DQ_MAX_ROWS" default.maxRows integerOf
  let defaultSort ← variableOr env "DQ_DEFAULT_SORT" default.defaultSort sortOf
  let sortComposition ←
    variableOr env "DQ_SORT_COMPOSITION" default.sortComposition compositionOf
  let paginateData ← variableOr env "DQ_PAGINATE_DATA" default.paginateData booleanOf
  return { defaultPage, defaultRows, maxRows, defaultSort, sortComposition, paginateData }

/-- Settings, if they are valid. -/
def validated (s : Settings) : Except SettingsError Settings :=
  match s.validate with
  | .ok () => .ok s
  | .error e => .error e

/-- The settings that variables hold. -/
def ofEnvironment (env : Environment) : Except SettingsError Settings :=
  (readEnvironment env).bind validated

theorem validated_eq_ok_iff {s t : Settings} : s.validated = .ok t ↔ t = s ∧ s.Valid := by
  rw [← validate_eq_ok_iff, validated]
  cases h : s.validate with
  | ok u => simp [eq_comm]
  | error e => simp

theorem valid_ofEnvironment {env : Environment} {s : Settings} (h : ofEnvironment env = .ok s) :
    s.Valid := by
  rw [ofEnvironment] at h
  cases hr : readEnvironment env with
  | error e => rw [hr] at h; cases h
  | ok t =>
    rw [hr] at h
    obtain ⟨rfl, hv⟩ := validated_eq_ok_iff.1 h
    exact hv

end RecordQuery.Settings
