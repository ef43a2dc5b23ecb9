import SparqlExpr.Decimal.Basic
import SparqlExpr.Decimal.Numeral
import SparqlExpr.Decimal.Shortest
import SparqlExpr.Double.Basic
import SparqlExpr.Double.Bits
import SparqlExpr.Double.Text
import SparqlExpr.Error.Basic
import SparqlExpr.Error.Message
import SparqlExpr.Eval.Compile
import SparqlExpr.Eval.Evaluator
import SparqlExpr.Eval.Monad
import SparqlExpr.Eval.Session
import SparqlExpr.Expr.Basic
import SparqlExpr.Expr.Json
import SparqlExpr.Expr.Source
import SparqlExpr.Json.Basic
import SparqlExpr.Json.Number
import SparqlExpr.Json.Printer
import SparqlExpr.Json.Reader
import SparqlExpr.Operator.Arithmetic
import SparqlExpr.Operator.Basic
import SparqlExpr.Operator.Builder
import SparqlExpr.Operator.Catalogue
import SparqlExpr.Operator.Coercion
import SparqlExpr.Operator.Form
import SparqlExpr.Operator.Implementation
import SparqlExpr.Operator.PatternCache
import SparqlExpr.Operator.Registry
import SparqlExpr.Operator.Strings
import SparqlExpr.Operator.Terms
import SparqlExpr.Proofs.Acceptance
import SparqlExpr.Proofs.Outcome
import SparqlExpr.Proofs.Tree
import SparqlExpr.Random.Basic
import SparqlExpr.Random.ChaCha
import SparqlExpr.Random.Source
import SparqlExpr.Regex.Basic
import SparqlExpr.Regex.Bracket
import SparqlExpr.Regex.ByteRange
import SparqlExpr.Regex.Class
import SparqlExpr.Regex.Escape
import SparqlExpr.Regex.Flags
import SparqlExpr.Regex.Machine
import SparqlExpr.Regex.Motion
import SparqlExpr.Regex.Normal
import SparqlExpr.Regex.Pattern
import SparqlExpr.Regex.Piece
import SparqlExpr.Regex.Room
import SparqlExpr.Regex.Words
import SparqlExpr.Row
import SparqlExpr.Term.Basic
import SparqlExpr.Text.Hex
import SparqlExpr.Text.Quoted
import SparqlExpr.Text.Search
import SparqlExpr.Unicode.Age
import SparqlExpr.Unicode.Break
import SparqlExpr.Unicode.Case
import SparqlExpr.Unicode.CaseMap
import SparqlExpr.Unicode.CaseTable
import SparqlExpr.Unicode.Category
import SparqlExpr.Unicode.CodeSet
import SparqlExpr.Unicode.Edition
import SparqlExpr.Unicode.Listed
import SparqlExpr.Unicode.Name
import SparqlExpr.Unicode.Property
import SparqlExpr.Unicode.Script
import SparqlExpr.Unicode.Span
import SparqlExpr.Unicode.WhiteSpace
import SparqlExpr.Value.Basic
import SparqlExpr.Value.Text
import SparqlExpr.Vocabulary
import SparqlExpr.Proofs.Interpreter
import SparqlExpr.Proofs.Refinement
import SparqlExpr.Proofs.Failures
import SparqlExpr.Proofs.Phases
import SparqlExpr.Proofs.Alike
import SparqlExpr.Proofs.Respect
import SparqlExpr.Proofs.Spelling
import SparqlExpr.Proofs.Substitution
import SparqlExpr.Proofs.Congruence
import SparqlExpr.Proofs.Variables
import SparqlExpr.Proofs.Replacement
import SparqlExpr.Proofs.Bindings
import SparqlExpr.Proofs.Drawless
import SparqlExpr.Proofs.Depth
import SparqlExpr.Proofs.LiteralGrammar
import SparqlExpr.Proofs.LiteralRoundTrip
import SparqlExpr.Proofs.Returns
import SparqlExpr.Proofs.LexicalChange
import SparqlExpr.Proofs.JsonRoundTrip
import SparqlExpr.Proofs.JsonOrder
import SparqlExpr.Proofs.JsonGrammar
import SparqlExpr.Proofs.Recording
import SparqlExpr.Proofs.Standard
import SparqlExpr.Proofs.Supply
import SparqlExpr.Proofs.Reached
import SparqlExpr.Proofs.Draws
import SparqlExpr.Proofs.Schedule
import SparqlExpr.Proofs.Blame
import SparqlExpr.Proofs.ShortestDecimal
import SparqlExpr.Proofs.NumberGrammar
import SparqlExpr.Proofs.NumberText
import SparqlExpr.Proofs.ResultDatatype
import SparqlExpr.Proofs.Calculation
import SparqlExpr.Proofs.FormLaws
import SparqlExpr.Proofs.Connectives
import SparqlExpr.Proofs.FixedResult
import SparqlExpr.Proofs.TextOperators
import SparqlExpr.Proofs.TruthValued
import SparqlExpr.Proofs.Search
import SparqlExpr.Proofs.WholeNumber
import SparqlExpr.Proofs.IntegerText
import SparqlExpr.Proofs.Substring
import SparqlExpr.Proofs.Concatenation
import SparqlExpr.Proofs.CallOutcome
import SparqlExpr.Proofs.TermOperators
import SparqlExpr.Proofs.Compatibility
import SparqlExpr.Proofs.AddedKind
import SparqlExpr.Proofs.IriText
import SparqlExpr.Proofs.NearestEven
import SparqlExpr.Proofs.Rounding
import SparqlExpr.Proofs.RoundingCalls
import SparqlExpr.Proofs.LexicalNumber
import SparqlExpr.Proofs.LanguageRange
import SparqlExpr.Proofs.TermText
import SparqlExpr.Proofs.ArgumentKinds
import SparqlExpr.Proofs.OperatorName
import SparqlExpr.Proofs.Registration
import SparqlExpr.Proofs.ValueTruth
import SparqlExpr.Proofs.PatternCache
