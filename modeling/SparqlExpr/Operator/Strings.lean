import SparqlExpr.Double.Text
import SparqlExpr.Operator.Implementation
import SparqlExpr.Text.Search
import SparqlExpr.Unicode.Case

/-! Operators on the lexical forms of literals. A new lexical form keeps the kind of the first
argument. -/
namespace SparqlExpr

/-- What compiles patterns, or says why it refuses one, and tells whether a compiled pattern matches
some part of a text. -/
structure PatternEngine (ρ : Type) where
  compile : String → Except String ρ
  isMatch : ρ → String → Bool

namespace Strings

/-- The number of characters. -/
def strLen : Implementation :=
  .unary fun v => do
    let l ← v.toLiteral Operator.strLen.name
    return .term (.typed (toString l.lexical.length) Vocabulary.xsdInteger)

/-- The number that a literal spells. -/
def numberOf (op : Operator) (v : Value) : Except FilterError Double := do
  let l ← v.toLiteral op.name
  match Double.ofLexical? l.lexical with
  | some x => return x
  | none => throw (.invalidArgument op.name (.notNumeric l.lexical))

/-- Keeps the characters at positions from `first` up to `last`, counted from a given position. -/
def window (first last : Double) (position : Nat) : List Char → List Char
  | [] => []
  | c :: rest =>
    let x := Double.ofNat position
    let tail := window first last (position + 1) rest
    if first.lessOrEqual x && x.less last then c :: tail else tail

/-- The characters from a rounded start for a rounded length; positions count from one. -/
def substr : Implementation :=
  .ternary fun v start length => do
    let t ← v.toTerm Operator.substr.name
    let l ← v.toLiteral Operator.substr.name
    let first := (← numberOf .substr start).round
    let last := first + (← numberOf .substr length).round
    return .term (t.withLexical (String.ofList (window first last 1 l.lexical.toList)))

/-- Changes the lexical form of a literal. -/
def mapLexical (op : Operator) (f : List Char → List Char) : Implementation :=
  .unary fun v => do
    let t ← v.toTerm op.name
    let l ← v.toLiteral op.name
    return .term (t.withLexical (String.ofList (f l.lexical.toList)))

def ucase : Implementation := mapLexical .ucase Unicode.toUpper
def lcase : Implementation := mapLexical .lcase Unicode.toLower

/-- The lexical forms of two compatible literals. -/
def compatible (op : Operator) (v w : Value) : Except FilterError (List Char × List Char) := do
  let s ← v.toTerm op.name
  let t ← w.toTerm op.name
  if s.compatible t then
    let l ← v.toLiteral op.name
    let m ← w.toLiteral op.name
    return (l.lexical.toList, m.lexical.toList)
  else throw (.incompatible op.name s t)

/-- A test of a text against a second one. -/
def test (op : Operator) (f : List Char → List Char → Bool) : Implementation :=
  .binary fun v w => do
    let (text, needle) ← compatible op v w
    return .boolean (f text needle)

def strStarts : Implementation := test .strStarts fun text needle => needle.isPrefixOf text
def strEnds : Implementation := test .strEnds fun text needle => needle.isSuffixOf text

def contains : Implementation :=
  test .contains fun text needle => (Text.splitAtFirst? needle text).isSome

/-- A part of a text around the first occurrence of a needle; without one, the empty simple literal.
-/
def part (op : Operator) (f : List Char × List Char → List Char) : Implementation :=
  .binary fun v w => do
    let (text, needle) ← compatible op v w
    let t ← v.toTerm op.name
    match Text.splitAtFirst? needle text with
    | some parts => return .term (t.withLexical (String.ofList (f parts)))
    | none => return .term (.simple "")

def strBefore : Implementation := part .strBefore (·.1)
def strAfter : Implementation := part .strAfter (·.2)

def concat : Implementation :=
  .binary fun v w => do
    let l ← v.toLiteral Operator.concat.name
    let m ← w.toLiteral Operator.concat.name
    let t ← v.toTerm Operator.concat.name
    return .term (t.withLexical (l.lexical ++ m.lexical))

/-- The range `*` takes every tag but the empty one; any other takes itself and what continues it
with a hyphen. -/
def inRange (tag range : List Char) : Bool :=
  if range = ['*'] then !tag.isEmpty
  else tag == range || (range ++ ['-']).isPrefixOf tag

/-- Matches a language tag against a range, both in the lower case of a function. -/
def langMatchesBy (lower : List Char → List Char) : Implementation :=
  .binary fun v w => do
    let tag ← v.toLiteral Operator.langMatches.name
    let range ← w.toLiteral Operator.langMatches.name
    return .boolean (inRange (lower tag.lexical.toList) (lower range.lexical.toList))

def langMatches : Implementation := langMatchesBy Unicode.toLower

/-- Searches a text for a pattern, which an engine compiles. -/
def matchPattern (engine : PatternEngine ρ) (v w : Value) : Except FilterError Value := do
  let text ← v.toLiteral Operator.regex.name
  let pattern ← w.toLiteral Operator.regex.name
  match engine.compile pattern.lexical with
  | .ok r => return .boolean (engine.isMatch r text.lexical)
  | .error message => throw (.invalidArgument Operator.regex.name (.badPattern message))

def regex (engine : PatternEngine ρ) : Implementation := .binary (matchPattern engine)

end Strings

end SparqlExpr
