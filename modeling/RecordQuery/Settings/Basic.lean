import RecordQuery.Query.SortDirective

/-!
# Settings

What an engine is set up with: the page that is served when none is asked for, how large pages may
be, how rows are ordered, and whether pages are cut out at all.

Results:
* `validate_eq_ok_iff`: settings are accepted exactly if they are valid.
-/

namespace RecordQuery

/-- How several sort directives are combined: the first is decisive and later ones settle its ties,
or rows are sorted by one after the other, so that the last is decisive. -/
inductive SortComposition where
  | multiKey | sequential
  deriving DecidableEq, Repr

namespace SortComposition

/-- The name of a composition. -/
def name : SortComposition → String
  | multiKey => "multi_key"
  | sequential => "sequential"

/-- The composition that a text names, without regard to case. -/
def ofText? (s : String) : Option SortComposition :=
  let word := Text.lowercase s
  if word = "multi_key" ∨ word = "multikey" then some multiKey
  else if word = "sequential" then some sequential
  else none

end SortComposition

/-- The settings of an engine. -/
structure Settings where
  /-- The page for requests of a page below one. -/
  defaultPage : Int64 := 1
  /-- The page size for requests of no rows. -/
  defaultRows : Int64 := 10
  /-- The greatest page size. -/
  maxRows : Int64 := 100
  /-- The order of rows for requests that ask for none. -/
  defaultSort : List SortDirective := []
  sortComposition : SortComposition := .multiKey
  /-- Whether only the rows of the page are served, or all of them. -/
  paginateData : Bool := true
  deriving DecidableEq

namespace Settings

/-- Settings that an engine may run with. -/
structure Valid (s : Settings) : Prop where
  page_pos : 1 ≤ s.defaultPage
  rows_pos : 0 < s.defaultRows
  rows_le_max : s.defaultRows ≤ s.maxRows

/-- Whether an engine may run with these settings, and if not, the first reason. -/
def validate (s : Settings) : Except SettingsError Unit :=
  if s.defaultPage < 1 then .error .pageBelowOne
  else if s.defaultRows ≤ 0 then .error .rowsNotPositive
  else if s.maxRows < s.defaultRows then .error (.maxBelowDefault s.maxRows s.defaultRows)
  else .ok ()

theorem validate_eq_ok_iff {s : Settings} : s.validate = .ok () ↔ s.Valid := by
  constructor
  · intro h
    rw [validate] at h
    split at h
    · cases h
    · split at h
      · cases h
      · split at h
        · cases h
        · next hp hr hm =>
          exact ⟨Int64.not_lt.1 hp, Int64.not_le.1 hr, Int64.not_lt.1 hm⟩
  · intro h
    rw [validate, if_neg (Int64.not_lt.2 h.page_pos), if_neg (Int64.not_le.2 h.rows_pos),
      if_neg (Int64.not_lt.2 h.rows_le_max)]

end Settings

end RecordQuery
