import RecordQuery.Request.Basic

/-!
# Reading requests

A request is read from a JSON text. Members that may be left out may be null as well, where null is
a way to leave them out.
-/

namespace RecordQuery

/-- How many levels of containers a value may open inside a filter: a whole text may open 127, and
the request, its filters and the filter take three of them. -/
def ScalarLiteral.levels : Nat := 124

/-- Reads what a filter compares with. -/
def ScalarLiteral.reader : Json.Reader ScalarLiteral := fun d =>
  match d.toJson? levels with
  | some (.text s) => .ok (.text s)
  | some (.number n) => .ok (.number n)
  | some (.bool b) => .ok (.bool b)
  | some found => .error (.notScalar found)
  | none => .error .malformed

namespace FilterRequest

/-- What has been read of a filter. -/
structure Parts where
  property : Option String := none
  value : Option ScalarLiteral := none
  operand : Option (Option String) := none
  connective : Option (Option String) := none

/-- The members of a filter. -/
def slots : List (Json.Slot Parts) := [
  .option "property" Parts.property (fun parts s => { parts with property := some s }) .text,
  .option "value" Parts.value (fun parts v => { parts with value := some v }) ScalarLiteral.reader,
  .option "operand" Parts.operand (fun parts s => { parts with operand := some s })
    (.nullable .text),
  .option "operator" Parts.connective (fun parts s => { parts with connective := some s })
    (.nullable .text)]

/-- The filter of the parts that were read. -/
def ofParts (parts : Parts) : Except Json.Refusal FilterRequest := do
  return ⟨← Json.required parts.property, ← Json.required parts.value, parts.operand.join,
    parts.connective.join⟩

/-- Reads a filter. -/
def reader : Json.Reader FilterRequest := .ofSlots slots {} ofParts

end FilterRequest

namespace SearchRequest

/-- What has been read of a search. -/
structure Parts where
  term : Option String := none
  properties : Option (List String) := none
  operand : Option (Option String) := none
  connective : Option (Option String) := none

/-- The members of a search. -/
def slots : List (Json.Slot Parts) := [
  .option "term" Parts.term (fun parts s => { parts with term := some s }) .text,
  .option "properties" Parts.properties (fun parts ss => { parts with properties := some ss })
    (.list .text),
  .option "operand" Parts.operand (fun parts s => { parts with operand := some s })
    (.nullable .text),
  .option "operator" Parts.connective (fun parts s => { parts with connective := some s })
    (.nullable .text)]

/-- The search of the parts that were read. -/
def ofParts (parts : Parts) : Except Json.Refusal SearchRequest := do
  return ⟨← Json.required parts.term, parts.properties.getD [], parts.operand.join,
    parts.connective.join⟩

/-- Reads a search. -/
def reader : Json.Reader SearchRequest := .ofSlots slots {} ofParts

end SearchRequest

namespace PageRequest

/-- What has been read of a page. -/
structure Parts where
  rows : Option Int64 := none
  page : Option Int64 := none

/-- The members of a page. -/
def slots : List (Json.Slot Parts) := [
  .option "rows" Parts.rows (fun parts n => { parts with rows := some n }) .int64,
  .option "page" Parts.page (fun parts n => { parts with page := some n }) .int64]

/-- Reads a page. What is left out is zero, which asks for the default. -/
def reader : Json.Reader PageRequest :=
  .ofSlots slots {} fun parts => .ok ⟨parts.rows.getD 0, parts.page.getD 0⟩

end PageRequest

namespace Request

/-- What has been read of a request. -/
structure Parts where
  filters : Option (List FilterRequest) := none
  search : Option (Option SearchRequest) := none
  sorts : Option (List SortDirective) := none
  page : Option (Option PageRequest) := none

/-- The members of a request. -/
def slots : List (Json.Slot Parts) := [
  .option "filters" Parts.filters (fun parts fs => { parts with filters := some fs })
    (.list FilterRequest.reader),
  .option "search" Parts.search (fun parts s => { parts with search := some s })
    (.nullable SearchRequest.reader),
  .option "sort" Parts.sorts (fun parts ss => { parts with sorts := some ss })
    (.list SortDirective.reader),
  .option "pagination" Parts.page (fun parts p => { parts with page := some p })
    (.nullable PageRequest.reader)]

/-- Reads a request. -/
def reader : Json.Reader Request :=
  .ofSlots slots {} fun parts =>
    .ok ⟨parts.filters.getD [], parts.search.join, parts.sorts.getD [], parts.page.join⟩

/-- The request that a text is. -/
def ofText (s : String) : Except Json.Refusal Request := reader.ofText s

end Request

/-- The query that a text asks for. -/
def Query.ofText (settings : Settings) (s : String) : Except QueryError Query := do
  let r ← (Request.ofText s).mapError .payload
  (r.toQuery settings).mapError .argument

end RecordQuery
