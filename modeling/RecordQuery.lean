import RecordQuery.Number.Power
import RecordQuery.Text.Blank
import RecordQuery.Text.Lowercase
import RecordQuery.Text.Quoted
import RecordQuery.Number.Decimal
import RecordQuery.Number.Shortest
import RecordQuery.Calendar.Layout
import RecordQuery.Json.Numeral
import RecordQuery.Json.Escape
import RecordQuery.Json.Document
import RecordQuery.Json.Value
import RecordQuery.Json.Shape
import RecordQuery.Error
import RecordQuery.Text.Infix
import RecordQuery.Query.Draft
import RecordQuery.Settings.Reader
import RecordQuery.Settings.Environment
import RecordQuery.Data.Record
import RecordQuery.Data.Schema
import RecordQuery.Plan.CompiledQuery
import RecordQuery.Plan.Projection
import RecordQuery.Request.Printer
import RecordQuery.Request.Reader
import RecordQuery.Engine.Basic
import RecordQuery.Settings.Layered
import RecordQuery.Proofs.Sorting.StableSort
import RecordQuery.Proofs.Sorting.ValueOrder
import RecordQuery.Proofs.Sorting.Composition
import RecordQuery.Proofs.Records.Resolution
import RecordQuery.Proofs.Records.WellTyped
import RecordQuery.Proofs.Filters.TypeSoundness
import RecordQuery.Proofs.Filters.LeftToRight
import RecordQuery.Proofs.Paging.Arithmetic
import RecordQuery.Proofs.Paging.Tiling
import RecordQuery.Proofs.Records.Refusal
import RecordQuery.Proofs.Engine.InMemory
import RecordQuery.Proofs.Engine.DefaultOrder
import RecordQuery.Proofs.Queries.StepByStep
import RecordQuery.Proofs.Queries.Agreement
import RecordQuery.Proofs.Queries.Built
import RecordQuery.Proofs.Queries.PartByPart
import RecordQuery.Proofs.Json.Lexing
import RecordQuery.Proofs.Json.ReadBack
import RecordQuery.Proofs.Requests.RoundTrip
import RecordQuery.Proofs.Json.Members
import RecordQuery.Proofs.Projections.Insertion
import RecordQuery.Proofs.Projections.Exactness
import RecordQuery.Proofs.Paging.Metadata
import RecordQuery.Proofs.Paging.Checked
import RecordQuery.Proofs.Engine.Answers
import RecordQuery.Proofs.Engine.CallOrder
import RecordQuery.Proofs.Literals.Numbers
import RecordQuery.Proofs.Literals.Times
import RecordQuery.Proofs.Literals.ShownValues
import RecordQuery.Proofs.Literals.ExactNumbers
import RecordQuery.Proofs.Queries.Sameness
import RecordQuery.Proofs.Sorting.NotANumber
import RecordQuery.Proofs.Text.WhiteSpace
import RecordQuery.Proofs.Calendar.Scanning
import RecordQuery.Proofs.Calendar.Disjoint
import RecordQuery.Proofs.Calendar.Written
import RecordQuery.Proofs.Calendar.DayNumber
import RecordQuery.Proofs.Literals.Blanks
import RecordQuery.Proofs.Literals.Precision
import RecordQuery.Proofs.Records.NormalForm
import RecordQuery.Proofs.Records.Joined
import RecordQuery.Proofs.Filters.Coherence
import RecordQuery.Proofs.Filters.Narrowing
import RecordQuery.Proofs.Records.SameMembers
import RecordQuery.Proofs.Filters.Searching
import RecordQuery.Proofs.Paging.ExactPages
import RecordQuery.Proofs.Queries.KindByKind
import RecordQuery.Proofs.Text.LetterCase
import RecordQuery.Proofs.Json.Places
import RecordQuery.Proofs.Requests.Defaults
import RecordQuery.Proofs.Requests.ScalarValues
import RecordQuery.Proofs.Records.Building
import RecordQuery.Proofs.Projections.AllScalars
import RecordQuery.Proofs.Queries.SortLists
import RecordQuery.Proofs.Settings.Variables
import RecordQuery.Proofs.Filters.Expansion
import RecordQuery.Proofs.Queries.Recipes
