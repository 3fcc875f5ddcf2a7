import RecordQuery.Error
import RecordQuery.Text.Blank
import RecordQuery.Text.Infix
import RecordQuery.Text.Lowercase

/-!
# Sort directives

A sort directive orders rows by one property, in one direction. A list of them is written as text
with commas in between, each property followed by a colon and a direction or by nothing.
-/

namespace RecordQuery

/-- A property to order rows by, and whether the least value comes first. -/
structure SortDirective where
  property : String
  ascending : Bool
  deriving DecidableEq, Repr

namespace SortDirective

/-- The directive with these parts, if it names a property. -/
def make (property : String) (ascending : Bool) : Except ArgumentError SortDirective :=
  if Text.isBlankText property then .error .blankSortProperty else .ok ⟨property, ascending⟩

/-- The direction that a word stands for. -/
def ascendingOfText (s : String) : Except ArgumentError Bool :=
  let word := Text.lowercase s
  if word = "asc" ∨ word = "ascending" then .ok true
  else if word = "desc" ∨ word = "descending" then .ok false
  else .error (.unknownDirection word)

/-- The directive that one part of a list spells. The direction stands after the last colon. -/
def ofText (s : String) : Except ArgumentError SortDirective :=
  match Text.splitLast? ':' s.toList with
  | some (property, direction) =>
    (ascendingOfText (String.ofList direction)).bind (make (String.ofList property))
  | none => make s true

/-- The directives that a text spells, one in each part between commas that is not blank. -/
def listOfText (s : String) : Except ArgumentError (List SortDirective) :=
  let parts := (s.toList.splitOn ',').map fun part => Text.trim (String.ofList part)
  (parts.filter (· ≠ "")).mapM ofText

/-! ## In documents -/

/-- What has been read of a directive. -/
structure Parts where
  property : Option String := none
  ascending : Option Bool := none

/-- The members of a directive. -/
def slots : List (Json.Slot Parts) := [
  .option "property" Parts.property (fun parts s => { parts with property := some s }) .text,
  .option "ascending" Parts.ascending (fun parts b => { parts with ascending := some b }) .bool]

/-- The directive of the parts that were read. The least value comes first unless the document says
otherwise. -/
def ofParts (parts : Parts) : Except Json.Refusal SortDirective :=
  (Json.required parts.property).map fun property => ⟨property, parts.ascending.getD true⟩

/-- Reads a directive. Whether it names a property is not looked at yet. -/
def reader : Json.Reader SortDirective := .ofSlots slots {} ofParts

end SortDirective

end RecordQuery
