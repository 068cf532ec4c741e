import StructuredQuery.Main
import StructuredQuery.Proofs.Number.Rounding
import StructuredQuery.Query.Tree.Lemmas
import StructuredQuery.Session
import StructuredQuery.Value.Parts
import StructuredQuery.Proofs.Number.Spelling
import StructuredQuery.Proofs.Number.Reread
import StructuredQuery.Proofs.Query.Pattern
import StructuredQuery.Proofs.Query.Lexing
import StructuredQuery.Proofs.Query.Derivation
import StructuredQuery.Proofs.Query.Evaluation
import StructuredQuery.Proofs.Query.Exact
import StructuredQuery.Proofs.Expression.Reading
import StructuredQuery.Proofs.Expression.Errors
import StructuredQuery.Proofs.Query.Grammar
import StructuredQuery.Proofs.Number.Words
import StructuredQuery.Proofs.Expression.Rules
import StructuredQuery.Proofs.Expression.Validity
import StructuredQuery.Proofs.Expression.Spelled
import StructuredQuery.Proofs.Query.Written
import StructuredQuery.Proofs.Query.RoundTrip
import StructuredQuery.Proofs.Query.Accepted
import StructuredQuery.Proofs.Query.Verbatim
import StructuredQuery.Proofs.Query.Returned
import StructuredQuery.Proofs.Query.Fragment
import StructuredQuery.Proofs.CommandLine.Check
import StructuredQuery.Proofs.Expression.Middle
import StructuredQuery.Proofs.Document.Places
import StructuredQuery.Proofs.Document.Bounds
import StructuredQuery.Proofs.Expression.AsRead
import StructuredQuery.Proofs.Query.Printed
import StructuredQuery.Proofs.Query.Kept
import StructuredQuery.Proofs.Query.Rewritten
import StructuredQuery.Proofs.Query.Spacing
import StructuredQuery.Proofs.Toml.Reread
import StructuredQuery.Proofs.Files.Stored
import StructuredQuery.Proofs.Config
import StructuredQuery.Proofs.Expression.Limits
import StructuredQuery.Proofs.Query.Contained
import StructuredQuery.Proofs.CommandLine.Contained
import StructuredQuery.Proofs.Document.Rows
import StructuredQuery.Proofs.Document.Decoding
import StructuredQuery.Proofs.Json.Decoding
import StructuredQuery.Proofs.Toml.Decoding
import StructuredQuery.Proofs.Document.Contained
import StructuredQuery.Proofs.Files.Refusals
import StructuredQuery.Proofs.CommandLine.Rendered
import StructuredQuery.Proofs.Json.Reread
import StructuredQuery.Proofs.CommandLine.Calls
import StructuredQuery.Proofs.CommandLine.Printed
import StructuredQuery.Proofs.CommandLine.Configured
import StructuredQuery.Proofs.Files.Rooted
import StructuredQuery.Proofs.CommandLine.Kept
import StructuredQuery.Proofs.Session
import StructuredQuery.Proofs.Expression.Sorting
import StructuredQuery.Proofs.Expression.Order
import StructuredQuery.Proofs.Query.Prerendered
import StructuredQuery.Proofs.Query.FieldNames
import StructuredQuery.Proofs.Interval
import StructuredQuery.Proofs.Expression.Rebuilt
import StructuredQuery.Proofs.Document.NormalForm
import StructuredQuery.Proofs.Document.NamedBounds
import StructuredQuery.Proofs.Number.Progression
import StructuredQuery.Proofs.Query.Timestamps
import StructuredQuery.Proofs.Query.Options
import StructuredQuery.Proofs.Query.Nested
import StructuredQuery.Proofs.Expression.Contained
import StructuredQuery.Proofs.CommandLine.Repaired
import StructuredQuery.Proofs.CommandLine.Offered
import StructuredQuery.Proofs.Expression.Words
import StructuredQuery.Proofs.Query.Quoted
