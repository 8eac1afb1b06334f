import Formulary.Calendar.Date
import Formulary.Calendar.DateTime
import Formulary.Calendar.Pattern
import Formulary.Calendar.Reader
import Formulary.Clock
import Formulary.CommandLine.Argument
import Formulary.CommandLine.Command
import Formulary.CommandLine.Failure
import Formulary.CommandLine.Loading
import Formulary.CommandLine.Program
import Formulary.Decimal.Arithmetic
import Formulary.Decimal.Basic
import Formulary.Decimal.Printer
import Formulary.Decimal.Reader
import Formulary.Dependency.Building
import Formulary.Dependency.Coding
import Formulary.Dependency.Graph
import Formulary.Dependency.Order
import Formulary.Dependency.Search
import Formulary.Document.Basic
import Formulary.Document.Printer
import Formulary.Document.Reader
import Formulary.Engine
import Formulary.Evaluation
import Formulary.Expression.Basic
import Formulary.Expression.Operator
import Formulary.Expression.Reader
import Formulary.Expression.Screen
import Formulary.Fault
import Formulary.Field.Basic
import Formulary.Field.Coding
import Formulary.Function.Argument
import Formulary.Function.Arithmetic
import Formulary.Function.Builtin
import Formulary.Function.Coding
import Formulary.Function.Coercion
import Formulary.Function.Dates
import Formulary.Function.Definition
import Formulary.Function.Handler
import Formulary.Function.Registry
import Formulary.Function.Texts
import Formulary.Lexeme.Basic
import Formulary.Lexeme.Reader
import Formulary.Main
import Formulary.NameMap
import Formulary.Options.Cache
import Formulary.Options.Conversion
import Formulary.Options.Provider
import Formulary.Options.Resolver
import Formulary.PowerOfTen
import Formulary.Proofs.Calendar.Civil
import Formulary.Proofs.Calendar.Notation
import Formulary.Proofs.CommandLine.Loading
import Formulary.Proofs.Decimal.Notation
import Formulary.Proofs.Decimal.Operations
import Formulary.Proofs.Decimal.Rational
import Formulary.Proofs.Decimal.Rounding
import Formulary.Proofs.Dependency.Acceptance
import Formulary.Proofs.Dependency.Calculation
import Formulary.Proofs.Dependency.Counting
import Formulary.Proofs.Dependency.Cycles
import Formulary.Proofs.Dependency.Edges
import Formulary.Proofs.Dependency.Figures
import Formulary.Proofs.Dependency.Grounding
import Formulary.Proofs.Dependency.Ordering
import Formulary.Proofs.Dependency.Prediction
import Formulary.Proofs.Dependency.References
import Formulary.Proofs.Document.Grammar
import Formulary.Proofs.Document.Numbers
import Formulary.Proofs.Document.Reading
import Formulary.Proofs.Document.Roundtrip
import Formulary.Proofs.Document.Scanned
import Formulary.Proofs.Document.Settled
import Formulary.Proofs.Document.Soundness
import Formulary.Proofs.Evaluation.Agreement
import Formulary.Proofs.Evaluation.Faults
import Formulary.Proofs.Evaluation.Replay
import Formulary.Proofs.Evaluation.Resolution
import Formulary.Proofs.Evaluation.Taxonomy
import Formulary.Proofs.Evaluation.Volatility
import Formulary.Proofs.Expression.Completeness
import Formulary.Proofs.Expression.Composition
import Formulary.Proofs.Expression.Faults
import Formulary.Proofs.Expression.Grammar
import Formulary.Proofs.Expression.Names
import Formulary.Proofs.Expression.Nesting
import Formulary.Proofs.Expression.Parentheses
import Formulary.Proofs.Expression.Places
import Formulary.Proofs.Expression.Rendering
import Formulary.Proofs.Expression.Safety
import Formulary.Proofs.Expression.Soundness
import Formulary.Proofs.Function.Distances
import Formulary.Proofs.Function.Exactness
import Formulary.Proofs.Function.Outcomes
import Formulary.Proofs.Function.Signatures
import Formulary.Proofs.Lexeme.Brackets
import Formulary.Proofs.Lexeme.Extension
import Formulary.Proofs.Lexeme.Names
import Formulary.Proofs.Lexeme.Parentheses
import Formulary.Proofs.Lexeme.Places
import Formulary.Proofs.Lexeme.Reading
import Formulary.Proofs.Lexeme.Writing
import Formulary.Proofs.Options.Agreement
import Formulary.Proofs.Options.Capacity
import Formulary.Proofs.Options.Deciding
import Formulary.Proofs.Options.Interpretation
import Formulary.Proofs.Options.Kept
import Formulary.Proofs.Options.Keys
import Formulary.Proofs.Options.Limit
import Formulary.Proofs.Options.Literal
import Formulary.Proofs.Options.Queue
import Formulary.Proofs.Options.Registration
import Formulary.Proofs.Options.Traced
import Formulary.Proofs.Options.Transparency
import Formulary.Proofs.Options.Walk
import Formulary.Proofs.Outcome
import Formulary.Proofs.Recalculation.Comparison
import Formulary.Proofs.Recalculation.Consistency
import Formulary.Proofs.Recalculation.Frame
import Formulary.Proofs.Recalculation.Incremental
import Formulary.Proofs.Recalculation.Isolation
import Formulary.Proofs.Recalculation.Pass
import Formulary.Proofs.Recalculation.Permutation
import Formulary.Proofs.Review.Publishing
import Formulary.Proofs.Review.Soundness
import Formulary.Proofs.Screen.Forbidden
import Formulary.Proofs.Screen.Occurrences
import Formulary.Proofs.Screen.Parentheses
import Formulary.Proofs.Screen.Partners
import Formulary.Proofs.Screen.Places
import Formulary.Proofs.Screen.UpperCase
import Formulary.Proofs.Text.Classes
import Formulary.Proofs.Text.Spans
import Formulary.Proofs.Value.Comparison
import Formulary.Proofs.Value.Notation
import Formulary.Proofs.Value.Sameness
import Formulary.Proofs.Version.History
import Formulary.Recalculation
import Formulary.Review
import Formulary.Text.Blank
import Formulary.Text.Case
import Formulary.Text.CaseTable
import Formulary.Text.Letter
import Formulary.Text.Numeral
import Formulary.Text.Quoted
import Formulary.Text.Taken
import Formulary.Value.Basic
import Formulary.Value.Coding
import Formulary.Version.Basic
import Formulary.Version.Selection
