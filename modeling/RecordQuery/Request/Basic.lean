import RecordQuery.Json.Numeral
import RecordQuery.Query.Basic

/-!
# Requests

A request is a query as a client writes it: operands and connectives are codes that need not exist,
paths may be blank, and whatever is left out has a default. Turning it into a query checks all this,
the filters before the search and the search before the sort directives, and reports the first
fault.

Results:
* `toQuery_empty`: a request that leaves out everything is the query for everything.
-/

namespace RecordQuery

/-- What a filter compares with: a string, a number or a truth value. -/
inductive ScalarLiteral where
  | text (s : String)
  | number (n : Numeral)
  | bool (b : Bool)
  deriving DecidableEq, Repr

/-- The text of a scalar literal. A number is spelled with the digits of the request. -/
def ScalarLiteral.toText : ScalarLiteral → String
  | text s => s
  | number n => n.text
  | bool b => if b then "true" else "false"

/-- A filter as a client writes it. -/
structure FilterRequest where
  property : String
  value : ScalarLiteral
  operand : Option String
  connective : Option String
  deriving DecidableEq, Repr

/-- A search as a client writes it. -/
structure SearchRequest where
  term : String
  properties : List String
  operand : Option String
  connective : Option String
  deriving DecidableEq, Repr

/-- A query as a client writes it. -/
structure Request where
  filters : List FilterRequest := []
  search : Option SearchRequest := none
  sorts : List SortDirective := []
  page : Option PageRequest := none
  deriving DecidableEq, Repr

/-- What a code stands for, or a default without one. -/
def codeOr {α : Type} (default : α) (ofCode : String → Except ArgumentError α) :
    Option String → Except ArgumentError α
  | none => .ok default
  | some code => ofCode code

/-- The filter of a request. Without codes it tests for equality, together with the filters before
it. -/
def FilterRequest.toFilter (r : FilterRequest) : Except ArgumentError Filter := do
  let operand ← codeOr .equals Operand.ofCode r.operand
  let connective ← codeOr .and Connective.ofCode r.connective
  Filter.make r.property operand r.value.toText connective

/-- The search of a request. Without codes it is as it is made. -/
def SearchRequest.toSearch (r : SearchRequest) : Except ArgumentError Search := do
  let s ← Search.make r.term r.properties
  let operand ← codeOr s.operand Operand.ofCode r.operand
  let connective ← codeOr s.connective Connective.ofCode r.connective
  return (s.withOperand operand).withConnective connective

namespace Request

/-- The query of a request. Without sort directives it has the default order, and without a page the
default page. -/
def toQuery (r : Request) (settings : Settings) : Except ArgumentError Query := do
  let filters ← r.filters.mapM FilterRequest.toFilter
  let search ← r.search.mapM SearchRequest.toSearch
  let sorts ← r.sorts.mapM fun d => SortDirective.make d.property d.ascending
  let page := match r.page with
    | none => .default settings
    | some p => .clamp settings p.rows p.page
  return Query.orderedBy { Query.empty settings with filters, search, page } sorts

theorem toQuery_empty (settings : Settings) :
    toQuery {} settings = .ok (Query.empty settings) := rfl

end Request

end RecordQuery
