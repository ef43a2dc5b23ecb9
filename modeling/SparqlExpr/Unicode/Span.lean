import SparqlExpr.Text.Hex
import SparqlExpr.Unicode.CodeSet

/-! Spans of code points with a step, and sets of characters written as spans in hexadecimal. -/
namespace SparqlExpr.Unicode

/-- Code points from `first` to `last`, `step` apart. -/
structure Span where
  first : Nat
  last : Nat
  step : Nat := 1
deriving DecidableEq, Repr

namespace Span

def contains (s : Span) (code : Nat) : Bool :=
  s.first ≤ code && code ≤ s.last && (code - s.first) % s.step == 0

/-- The code points of a span. -/
def codes (s : Span) : List Nat :=
  (List.range ((s.last - s.first) / s.step + 1)).map fun i => s.first + i * s.step

def ranges (s : Span) : List CodeRange :=
  if s.step = 1 then [⟨s.first, s.last⟩] else s.codes.map fun code => ⟨code, code⟩

end Span

/-- The value of a hexadecimal field; other characters count as nothing. -/
def fieldValue (field : List Char) : Nat :=
  (Text.hexValue? field).getD 0

/-- What stands before and after a separator, or the whole field twice if there is none. -/
def splitField (separator : Char) (field : List Char) : List Char × List Char :=
  match field.span (· != separator) with
  | (whole, []) => (whole, whole)
  | (before, _ :: after) => (before, after)

/-- Reads `a`, `a-b` or `a-b/step`. -/
def Span.ofField (field : List Char) : Span :=
  let (ends, step) := field.span (· != '/')
  let (first, last) := splitField '-' ends
  { first := fieldValue first
    last := fieldValue last
    step := if step.isEmpty then 1 else fieldValue (step.drop 1) }

/-- The fields of a text, between blanks and line ends. -/
def fields (text : String) : List (List Char) :=
  let (word, words) := text.toList.foldr
    (fun c (word, words) =>
      if c = ' ' ∨ c = '\n' then ([], if word.isEmpty then words else word :: words)
      else (c :: word, words))
    ([], [])
  if word.isEmpty then words else word :: words

/-- Reads a set written as spans in hexadecimal. -/
def CodeSet.ofText (text : String) : CodeSet :=
  .ofRanges ((fields text).flatMap fun field => (Span.ofField field).ranges)

end SparqlExpr.Unicode
