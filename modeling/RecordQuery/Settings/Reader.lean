import RecordQuery.Settings.Basic

/-!
# Settings in documents

Settings are read from a structure in which every member may be missing; a missing member has its
default. They are read as they are and not validated.
-/

namespace RecordQuery

namespace SortComposition

/-- The composition of a name, which must be spelled exactly. -/
def ofName? (s : String) : Option SortComposition := [multiKey, sequential].find? (·.name == s)

/-- Reads a composition: its name, or an object with null under its name. -/
def reader : Json.Reader SortComposition
  | .text (some s) | .object [(some s, .null)] => Json.required (ofName? s)
  | _ => .error .malformed

end SortComposition

namespace Settings

/-- What has been read of settings. -/
structure Parts where
  defaultPage : Option Int64 := none
  defaultRows : Option Int64 := none
  maxRows : Option Int64 := none
  defaultSort : Option (List SortDirective) := none
  sortComposition : Option SortComposition := none
  paginateData : Option Bool := none

/-- The members of settings. -/
def slots : List (Json.Slot Parts) := [
  .option "default_page" Parts.defaultPage
    (fun parts n => { parts with defaultPage := some n }) .int64,
  .option "default_rows" Parts.defaultRows
    (fun parts n => { parts with defaultRows := some n }) .int64,
  .option "max_rows" Parts.maxRows (fun parts n => { parts with maxRows := some n }) .int64,
  .option "default_sort" Parts.defaultSort
    (fun parts ss => { parts with defaultSort := some ss }) (.list SortDirective.reader),
  .option "sort_composition" Parts.sortComposition
    (fun parts c => { parts with sortComposition := some c }) SortComposition.reader,
  .option "paginate_data" Parts.paginateData
    (fun parts b => { parts with paginateData := some b }) .bool]

/-- The settings of the parts that were read, with the default for every other part. -/
def ofParts (parts : Parts) : Settings :=
  let default : Settings := {}
  { defaultPage := parts.defaultPage.getD default.defaultPage
    defaultRows := parts.defaultRows.getD default.defaultRows
    maxRows := parts.maxRows.getD default.maxRows
    defaultSort := parts.defaultSort.getD default.defaultSort
    sortComposition := parts.sortComposition.getD default.sortComposition
    paginateData := parts.paginateData.getD default.paginateData }

/-- Reads settings. -/
def reader : Json.Reader Settings := .ofSlots slots {} fun parts => .ok (ofParts parts)

end Settings

end RecordQuery
