import SparqlExpr.Unicode.Edition

/-! Regular expressions, and the lengths of what they match. -/
namespace SparqlExpr

/-- A test of a place in a text, which consumes nothing. -/
inductive Assertion where
  | textStart
  | textEnd
  | lineStart (crlf : Bool)
  | lineEnd (crlf : Bool)
  | wordBoundary (ascii : Bool)
  | noWordBoundary (ascii : Bool)
  | wordStart (ascii : Bool)
  | wordEnd (ascii : Bool)
  | wordStartHalf (ascii : Bool)
  | wordEndHalf (ascii : Bool)
deriving DecidableEq, Repr

inductive Regex where
  | empty
  /-- The characters of a text, one after the other. -/
  | literal (text : List Char)
  /-- One character of a set. -/
  | one (members : Unicode.CodeSet)
  | check (assertion : Assertion)
  /-- At least `min` times, and at most `max` times if that is given. Preferring more or fewer times
  has no bearing on whether a text matches. -/
  | repeated (body : Regex) (min : Nat) (max : Option Nat) (greedy : Bool)
  /-- A group that remembers what it matched, which has no bearing either. -/
  | capture (body : Regex)
  | seq (parts : List Regex)
  | either (branches : List Regex)

namespace Assertion

/-- A character of words, among all characters or ASCII only. -/
def isWord (ascii : Bool) (c : Char) : Bool :=
  if ascii then c.isAlphanum || c == '_' else Unicode.Settled.wordCharacters.contains c

/-- Whether a neighbour exists and belongs to a word. -/
def inWord (ascii : Bool) (neighbour : Option Char) : Bool :=
  neighbour.any (isWord ascii)

/-- Whether an assertion holds between two neighbours. -/
def holds (a : Assertion) (before after : Option Char) : Bool :=
  match a with
  | textStart => before.isNone
  | textEnd => after.isNone
  | lineStart false => before.isNone || before == some '\n'
  | lineEnd false => after.isNone || after == some '\n'
  | lineStart true =>
    before.isNone || before == some '\n' || (before == some '\r' && after != some '\n')
  | lineEnd true =>
    after.isNone || after == some '\r' || (after == some '\n' && before != some '\r')
  | wordBoundary ascii => inWord ascii before != inWord ascii after
  | noWordBoundary ascii => inWord ascii before == inWord ascii after
  | wordStart ascii => !inWord ascii before && inWord ascii after
  | wordEnd ascii => inWord ascii before && !inWord ascii after
  | wordStartHalf ascii => !inWord ascii before
  | wordEndHalf ascii => !inWord ascii after

end Assertion

namespace Regex

/-- Matches nothing, not even the empty text. -/
def never : Regex := one .empty

mutual

/-- The least number of bytes of a match; nothing if there is no match. -/
def minLength : Regex → Option Nat
  | empty => some 0
  | literal text => some (String.ofList text).utf8ByteSize
  | one ⟨[]⟩ => none
  | one ⟨r :: _⟩ => some (Char.ofNat r.first).utf8Size
  | check _ => some 0
  | repeated body min _ _ => body.minLength.map (· * min)
  | capture body => body.minLength
  | seq parts => minLengthSeq parts
  | either branches => minLengthEither branches

/-- The least length of a sequence is the sum of its parts' lengths. -/
def minLengthSeq : List Regex → Option Nat
  | [] => some 0
  | r :: rest => do return (← r.minLength) + (← minLengthSeq rest)

/-- Alternatives have a least length only if each of them has one. -/
def minLengthEither : List Regex → Option Nat
  | [] => none
  | [r] => r.minLength
  | r :: rest => do return Nat.min (← r.minLength) (← minLengthEither rest)

end

mutual

/-- The greatest number of bytes of a match; nothing if there is no bound, or no match. -/
def maxLength : Regex → Option Nat
  | empty => some 0
  | literal text => some (String.ofList text).utf8ByteSize
  | one members => members.ranges.getLast?.map fun r => (Char.ofNat r.last).utf8Size
  | check _ => some 0
  | repeated body _ max _ => do return (← max) * (← body.maxLength)
  | capture body => body.maxLength
  | seq parts => maxLengthSeq parts
  | either branches => maxLengthEither branches

/-- The greatest length of a sequence is the sum of its parts' lengths. -/
def maxLengthSeq : List Regex → Option Nat
  | [] => some 0
  | r :: rest => do return (← r.maxLength) + (← maxLengthSeq rest)

/-- Alternatives have a greatest length only if each of them has one. -/
def maxLengthEither : List Regex → Option Nat
  | [] => none
  | [r] => r.maxLength
  | r :: rest => do return Nat.max (← r.maxLength) (← maxLengthEither rest)

end

end Regex

end SparqlExpr
