import SparqlExpr.Regex.Bracket
import SparqlExpr.Regex.Normal

/-! Pieces of a pattern: what they match, and how deep their notation nests. -/
namespace SparqlExpr.Regex

open Unicode (CodeSet)

structure Piece where
  regex : Regex
  height : Nat

/-- The deepest nesting of groups, classes, repetitions, alternatives and sequences. -/
def maxHeight : Nat := 250

namespace Piece

def empty : Piece := ⟨.empty, 0⟩

def ofSet (members : CodeSet) : Piece :=
  ⟨.ofSet members, 0⟩

def ofAssertion (a : Assertion) : Piece :=
  ⟨.check a, 0⟩

/-- A character, with those that differ in case only where that is asked for. Beyond ASCII, a
pattern on bytes takes a character as it is, and no byte. -/
def ofChar? (flags : Flags) (c : Char) (byte : Bool) : Option Piece :=
  if !flags.unicode && 0x80 ≤ c.toNat then
    if byte then none else some ⟨.literal [c], 0⟩
  else if flags.caseless then some (.ofSet (CharClass.caseClosure flags (.ofCodes [c.toNat])))
  else some ⟨.literal [c], 0⟩

/-- Any character, or any but line ends. A pattern on bytes has no such piece. -/
def dot? (flags : Flags) : Option Piece :=
  if !flags.unicode then none
  else if flags.dotAll then some (.ofSet .everything)
  else
    let ends := if flags.crlf then ['\n', '\r'] else ['\n']
    some (.ofSet (CodeSet.ofCodes (ends.map (·.toNat))).complement)

def lineStart (flags : Flags) : Piece :=
  ofAssertion (if flags.multiline then .lineStart flags.crlf else .textStart)

def lineEnd (flags : Flags) : Piece :=
  ofAssertion (if flags.multiline then .lineEnd flags.crlf else .textEnd)

def ofAtom? (flags : Flags) : Atom → Option Piece
  | .literal c byte => ofChar? flags c byte
  | .cls members => some (.ofSet members)
  | .check a => some (ofAssertion a)

def ofBracket (b : Bracket) : Piece :=
  { ofSet b.members with height := b.height }

def group (captures : Bool) (p : Piece) : Piece :=
  ⟨if captures then .capture p.regex else p.regex, p.height + 1⟩

def repeated (min : Nat) (max : Option Nat) (greedy : Bool) (p : Piece) : Piece :=
  ⟨.ofRepetition p.regex min max greedy, p.height + 1⟩

/-- A sequence of items in reverse. Settings of flags match the empty text. -/
def concat : List (Option Piece) → Piece
  | [] => empty
  | [item] => item.getD empty
  | items =>
    let pieces := items.reverse.map fun item => item.getD empty
    ⟨.ofParts (pieces.map (·.regex)), (pieces.map (·.height)).foldl Nat.max 0 + 1⟩

/-- Alternatives in reverse, the last one given apart. -/
def alternatives (last : Piece) : List Piece → Piece
  | [] => last
  | earlier =>
    let pieces := earlier.reverse ++ [last]
    ⟨.ofBranches (pieces.map (·.regex)), (pieces.map (·.height)).foldl Nat.max 0 + 1⟩

end Piece

end SparqlExpr.Regex
