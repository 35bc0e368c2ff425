import GridQuery.Calendar.Date
import GridQuery.Calendar.Epoch
import GridQuery.Calendar.Fault
import GridQuery.Calendar.IsoText
import GridQuery.Calendar.Timestamp
import GridQuery.Calendar.Zone
import GridQuery.Calendar.ZoneText
import GridQuery.Catalog
import GridQuery.Coercion
import GridQuery.Column
import GridQuery.Condition
import GridQuery.Constraint
import GridQuery.Criterion
import GridQuery.Failure
import GridQuery.FieldError
import GridQuery.Http.Reply
import GridQuery.Json.Reader
import GridQuery.Json.Writer
import GridQuery.Number.Decimal
import GridQuery.Number.Double
import GridQuery.Number.Magnitude
import GridQuery.Number.Reading
import GridQuery.Number.Written
import GridQuery.Operator
import GridQuery.Page
import GridQuery.Pattern.Matcher
import GridQuery.Pattern.Reader
import GridQuery.Pattern.Syntax
import GridQuery.Period
import GridQuery.Predicate
import GridQuery.Projection
import GridQuery.Proofs.Calendar.Civil
import GridQuery.Proofs.Calendar.DateText
import GridQuery.Proofs.Calendar.Kept
import GridQuery.Proofs.Calendar.LocalClock
import GridQuery.Proofs.Calendar.Rereading
import GridQuery.Proofs.Calendar.SortableText
import GridQuery.Proofs.Calendar.SummerTime
import GridQuery.Proofs.Calendar.Utc
import GridQuery.Proofs.Calendar.Weeks
import GridQuery.Proofs.CellOrder
import GridQuery.Proofs.Coercion
import GridQuery.Proofs.Comparison
import GridQuery.Proofs.Conjunction
import GridQuery.Proofs.Constraint
import GridQuery.Proofs.Filters
import GridQuery.Proofs.Json.Grammar
import GridQuery.Proofs.Json.KeyOrder
import GridQuery.Proofs.Json.Limits
import GridQuery.Proofs.Json.Numerals
import GridQuery.Proofs.Json.Reading
import GridQuery.Proofs.Json.Rewriting
import GridQuery.Proofs.Json.Sorting
import GridQuery.Proofs.Json.Texts
import GridQuery.Proofs.Json.Writing
import GridQuery.Proofs.Lexical
import GridQuery.Proofs.Midnight
import GridQuery.Proofs.Number.Order
import GridQuery.Proofs.Number.Quotient
import GridQuery.Proofs.Number.Rereading
import GridQuery.Proofs.Obstacle
import GridQuery.Proofs.PageCount
import GridQuery.Proofs.Paging
import GridQuery.Proofs.Period.Days
import GridQuery.Proofs.Period.LocalDay
import GridQuery.Proofs.Period.Tiling
import GridQuery.Proofs.Place
import GridQuery.Proofs.Predicate
import GridQuery.Proofs.RawForm
import GridQuery.Proofs.Redecoding
import GridQuery.Proofs.Request
import GridQuery.Proofs.Residual
import GridQuery.Proofs.Resolution
import GridQuery.Proofs.Steps
import GridQuery.Proofs.Store.Capability
import GridQuery.Proofs.Store.Complement
import GridQuery.Proofs.Store.Fetch
import GridQuery.Proofs.Store.Held
import GridQuery.Proofs.Store.Instants
import GridQuery.Proofs.Store.Isolation
import GridQuery.Proofs.Store.Keeping
import GridQuery.Proofs.Store.KeyOrder
import GridQuery.Proofs.Store.Order
import GridQuery.Proofs.Store.PastEnd
import GridQuery.Proofs.Store.Presentation
import GridQuery.Proofs.Store.ReferenceEquality
import GridQuery.Proofs.Store.Reread
import GridQuery.Proofs.Store.SameInstant
import GridQuery.Proofs.Store.Search
import GridQuery.Proofs.Store.StructuredEquality
import GridQuery.Proofs.Store.Survivors
import GridQuery.Proofs.Store.TextEquality
import GridQuery.Proofs.Store.TextOperators
import GridQuery.Proofs.Store.Written
import GridQuery.Proofs.Text.Escapes
import GridQuery.Proofs.Text.FixedWidth
import GridQuery.Proofs.Text.LatinLetters
import GridQuery.Proofs.Text.Percent
import GridQuery.Proofs.Text.SmallLetters
import GridQuery.Proofs.Text.Trimming
import GridQuery.Proofs.Text.Utf8
import GridQuery.Proofs.Text.Wildcard
import GridQuery.Proofs.Truth
import GridQuery.Proofs.Usable
import GridQuery.Proofs.Verbatim
import GridQuery.Proofs.Wire
import GridQuery.Request.Basic
import GridQuery.Request.TableId
import GridQuery.Residual
import GridQuery.Resolution
import GridQuery.Response
import GridQuery.Row
import GridQuery.RowOrder
import GridQuery.Sql.Clause
import GridQuery.Store.Assembly
import GridQuery.Store.Basic
import GridQuery.Store.Fetch
import GridQuery.Store.Serving
import GridQuery.Text.Alphanumeric
import GridQuery.Text.Blank
import GridQuery.Text.Case
import GridQuery.Text.CaseContext
import GridQuery.Text.Digit
import GridQuery.Text.LowerRuns
import GridQuery.Text.Percent
import GridQuery.Text.Quoted
import GridQuery.Text.Unprintable
import GridQuery.Text.Utf8
import GridQuery.Text.Wildcard
import GridQuery.Value.Basic
import GridQuery.Value.Obstacle
import GridQuery.Value.Shown
