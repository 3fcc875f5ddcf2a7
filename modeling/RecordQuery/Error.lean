import RecordQuery.Json.Shape
import RecordQuery.Number.Integer

/-!
# Why a query is refused

Every failure is a cause: an argument that no query may have, a query that does not fit the schema
of the records, a text that is no value of its type, a payload that cannot be read, settings that no
engine may run with, or a source that does not answer. Each cause has a message, and each kind of
failure a code and a status for an answer over HTTP.
-/

namespace RecordQuery

/-- An argument that is wrong whatever records are queried. -/
inductive ArgumentError where
  /-- A path has no segment at all. -/
  | blankPath
  /-- A path has a segment without a name. -/
  | emptySegment (path : String)
  /-- A filter names no property. -/
  | blankFilterProperty
  /-- A filter has nothing to compare its property with. -/
  | emptyFilterValue (property : String)
  /-- A search has no term. -/
  | emptySearchTerm
  /-- A search lists a path without a name. -/
  | blankSearchProperty
  /-- A sort directive names no property. -/
  | blankSortProperty
  /-- The direction of a sort directive is none. -/
  | unknownDirection (code : String)
  /-- The code of an operand is none. -/
  | unknownOperand (code : String)
  /-- The code of a connective is none. -/
  | unknownConnective (code : String)
  /-- A count of rows is below zero. -/
  | negativeTotal
  /-- A page size is below zero. -/
  | negativePageSize
  /-- A page has no room for a row. -/
  | zeroPageSize
  deriving DecidableEq, Repr

namespace ArgumentError

/-- The name of the argument that is wrong. -/
def argument : ArgumentError → String
  | blankPath | emptySegment _ => "property"
  | blankFilterProperty => "filter.property"
  | emptyFilterValue _ => "filter.value"
  | emptySearchTerm => "search.term"
  | blankSearchProperty => "search.properties"
  | blankSortProperty => "sort.property"
  | unknownDirection _ => "sort.direction"
  | unknownOperand _ => "operand"
  | unknownConnective _ => "operator"
  | negativeTotal => "totalCount"
  | negativePageSize | zeroPageSize => "pageSize"

/-- What is wrong with the argument. -/
def detail : ArgumentError → String
  | blankPath => "path must not be empty"
  | emptySegment path => s!"path '{path}' contains an empty segment"
  | blankFilterProperty | emptySearchTerm | blankSortProperty => "must not be empty"
  | emptyFilterValue property => s!"must not be empty (property '{property}')"
  | blankSearchProperty => "must not contain empty paths"
  | unknownDirection code => s!"unknown direction '{code}'"
  | unknownOperand code => s!"unknown operand '{code}'"
  | unknownConnective code => s!"unknown logical operator '{code}'"
  | negativeTotal | negativePageSize => "must not be negative"
  | zeroPageSize => "must be greater than zero"

/-- The message of an argument that is wrong. -/
def message (cause : ArgumentError) : String :=
  "Invalid argument " ++ cause.argument ++ ": " ++ cause.detail

end ArgumentError

/-- A query that does not fit the schema of the records. -/
inductive SchemaError where
  /-- A type has no member of this name. -/
  | memberNotFound (member typeName : String)
  /-- Members of this type can be neither compared nor shown. -/
  | unsupportedType (typeName : String)
  /-- Members of this type cannot be compared in this way. -/
  | operandNotAllowed (operand typeName : String)
  /-- Rows cannot be ordered by a member of this type. -/
  | notOrderable (property typeName : String)
  deriving DecidableEq, Repr

/-- The message of a query that does not fit the schema. -/
def SchemaError.message : SchemaError → String
  | memberNotFound member typeName => s!"Member '{member}' not found on type {typeName}"
  | unsupportedType typeName => s!"Type {typeName} is not supported for querying"
  | operandNotAllowed operand typeName => s!"Operand '{operand}' is not allowed for type {typeName}"
  | notOrderable property typeName =>
    s!"Property '{property}' of type {typeName} cannot be used for ordering"

/-- Settings that no engine may run with, or that cannot be read. -/
inductive SettingsError where
  /-- The default page is below one. -/
  | pageBelowOne
  /-- The default page size has no room for a row. -/
  | rowsNotPositive
  /-- The greatest page size is below the default one. -/
  | maxBelowDefault (maxRows defaultRows : Int64)
  /-- A variable that must hold an integer does not. -/
  | notInteger (variableName value : String)
  /-- A variable that must hold a truth value does not. -/
  | notBoolean (variableName value : String)
  /-- A variable that must hold sort directives does not. -/
  | badSort (variableName : String) (cause : ArgumentError)
  /-- A variable that must name a sort composition does not. -/
  | unknownComposition (variableName value : String)
  /-- The layers of settings do not make up settings. -/
  | unreadable
  deriving DecidableEq

/-- The message of settings that cannot be used. -/
def SettingsError.message : SettingsError → String
  | pageBelowOne => "default_page must be at least 1"
  | rowsNotPositive => "default_rows must be positive"
  | maxBelowDefault maxRows defaultRows =>
    "max_rows (" ++ Integer.text maxRows.toInt ++ ") must not be below default_rows (" ++
      Integer.text defaultRows.toInt ++ ")"
  | notInteger variableName value => s!"{variableName}: '{value}' is not an integer"
  | notBoolean variableName value => s!"{variableName}: '{value}' is not a boolean"
  | badSort variableName cause => variableName ++ ": " ++ cause.message
  | unknownComposition variableName value => s!"{variableName}: unknown mode '{value}'"
  | unreadable => "load failed"

/-- A source of records that does not answer as it must. -/
inductive SourceError where
  /-- The source gave up, for a reason of its own. -/
  | failed (reason : String)
  /-- The source counted more rows than can be reported. -/
  | countOutOfRange (count : UInt64)
  deriving DecidableEq

/-- The message of a source that does not answer. -/
def SourceError.message : SourceError → String
  | failed reason => reason
  | countOutOfRange count => "row count " ++ Integer.text count.toNat ++ " out of range"

/-- The message of a payload that was refused. -/
def Json.Refusal.message : Json.Refusal → String
  | malformed => "not of the expected form"
  | notScalar found => "filter value must be a string, number or boolean, found " ++ found.render

/-- Why a query was refused or not answered. -/
inductive QueryError where
  /-- An argument is wrong whatever records are queried. -/
  | argument (cause : ArgumentError)
  /-- The query does not fit the schema. -/
  | schema (cause : SchemaError)
  /-- A text is no value of the type that it is compared with. -/
  | value (typeName literal : String)
  /-- The payload cannot be read. -/
  | payload (cause : Json.Refusal)
  /-- The settings cannot be used. -/
  | settings (cause : SettingsError)
  /-- The source does not answer. -/
  | source (cause : SourceError)

namespace QueryError

/-- The message of a failure. -/
def message : QueryError → String
  | argument cause => cause.message
  | schema cause => "Schema error: " ++ cause.message
  | value typeName literal => s!"Cannot parse '{literal}' as {typeName}"
  | payload cause => "Malformed query payload: " ++ cause.message
  | settings cause => "Configuration error: " ++ cause.message
  | source cause => "Query source error: " ++ cause.message

/-- The code of a failure, by which a client may tell it from others. -/
def code : QueryError → String
  | argument _ => "invalid_argument"
  | schema (.memberNotFound _ _) => "unknown_property"
  | schema (.unsupportedType _) => "unsupported_type"
  | schema (.operandNotAllowed _ _) => "operand_not_allowed"
  | schema (.notOrderable _ _) => "not_orderable"
  | value _ _ => "invalid_value"
  | payload _ => "malformed_payload"
  | settings _ => "configuration_error"
  | source _ => "query_source_error"

/-- The HTTP status of an answer that reports a failure: faults of the request itself, faults of the
request against these records, and faults of the host. -/
def status : QueryError → Nat
  | argument _ | payload _ => 400
  | schema _ | value _ _ => 422
  | settings _ | source _ => 500

end QueryError

end RecordQuery
