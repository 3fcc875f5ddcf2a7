import RecordQuery.Request.Basic
import RecordQuery.Json.Document

/-!
# Writing requests

A request is written as a JSON text with its members in the order of declaration. A search or a page
that is left out is null; codes that are left out are not written.
-/

namespace RecordQuery

namespace Json.Document

/-- A string. -/
def ofString (s : String) : Document := .text (some s)

/-- An object with these members. -/
def ofMembers (members : List (String × Document)) : Document :=
  .object (members.map fun m => (some m.1, m.2))

/-- Null, or what a value is written as. -/
def ofOption {α : Type} (write : α → Document) : Option α → Document
  | none => .null
  | some a => write a

end Json.Document

open Json (Document)

/-- A scalar literal as a document. -/
def ScalarLiteral.toDocument : ScalarLiteral → Document
  | text s => .ofString s
  | number n => .number n
  | bool b => .bool b

/-- A member of an object, if there is a code for it. -/
def codeMember (name : String) : Option String → List (String × Document)
  | none => []
  | some code => [(name, .ofString code)]

/-- A filter as a document. -/
def FilterRequest.toDocument (r : FilterRequest) : Document :=
  .ofMembers ([("property", .ofString r.property), ("value", r.value.toDocument)] ++
    codeMember "operand" r.operand ++ codeMember "operator" r.connective)

/-- A search as a document. -/
def SearchRequest.toDocument (r : SearchRequest) : Document :=
  .ofMembers ([("term", .ofString r.term),
    ("properties", .array (r.properties.map .ofString))] ++
    codeMember "operand" r.operand ++ codeMember "operator" r.connective)

/-- A sort directive as a document. -/
def SortDirective.toDocument (d : SortDirective) : Document :=
  .ofMembers [("property", .ofString d.property), ("ascending", .bool d.ascending)]

/-- A page as a document. -/
def PageRequest.toDocument (p : PageRequest) : Document :=
  .ofMembers [("rows", .number (.ofInt p.rows.toInt)), ("page", .number (.ofInt p.page.toInt))]

namespace Request

/-- A request as a document. -/
def toDocument (r : Request) : Document :=
  .ofMembers [("filters", .array (r.filters.map FilterRequest.toDocument)),
    ("search", .ofOption SearchRequest.toDocument r.search),
    ("sort", .array (r.sorts.map SortDirective.toDocument)),
    ("pagination", .ofOption PageRequest.toDocument r.page)]

/-- The text of a request. -/
def text (r : Request) : String := r.toDocument.render

end Request

end RecordQuery
