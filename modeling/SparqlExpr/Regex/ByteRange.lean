import SparqlExpr.Unicode.CodeSet

/-! Ranges of characters as sequences of ranges of bytes in UTF-8. -/
namespace SparqlExpr.Regex

/-- The bytes from `first` to `last`. -/
structure ByteRange where
  first : Nat
  last : Nat
deriving DecidableEq, Repr

namespace ByteRange

/-- The bytes of a code point. -/
def encode (code : Nat) : List Nat :=
  if code < 0x80 then [code]
  else if code < 0x800 then [0xc0 + code / 0x40, 0x80 + code % 0x40]
  else if code < 0x10000 then
    [0xe0 + code / 0x1000, 0x80 + code / 0x40 % 0x40, 0x80 + code % 0x40]
  else
    [0xf0 + code / 0x40000, 0x80 + code / 0x1000 % 0x40, 0x80 + code / 0x40 % 0x40,
      0x80 + code % 0x40]

/-- Whether a range crosses the end of a block and does not start with one. -/
def startsInside (block first last : Nat) : Bool :=
  first / block != last / block && first % block != 0

/-- Whether a range crosses the end of a block and does not end with one. -/
def endsInside (block first last : Nat) : Bool :=
  first / block != last / block && last % block != block - 1

/-- The last code point of the first part of a range, if its code points do not form a single
sequence of byte ranges. Surrogates come first, then the lengths in bytes, then the blocks in which
only the last byte, the last two or the last three change. -/
def cut? (first last : Nat) : Option Nat :=
  if first < 0xe000 ∧ 0xd7ff < last then some 0xd7ff
  else if first ≤ 0x7f ∧ 0x7f < last then some 0x7f
  else if first ≤ 0x7ff ∧ 0x7ff < last then some 0x7ff
  else if first ≤ 0xffff ∧ 0xffff < last then some 0xffff
  else if last ≤ 0x7f then none
  else if startsInside 0x40 first last then some ((first / 0x40 + 1) * 0x40 - 1)
  else if endsInside 0x40 first last then some (last / 0x40 * 0x40 - 1)
  else if startsInside 0x1000 first last then some ((first / 0x1000 + 1) * 0x1000 - 1)
  else if endsInside 0x1000 first last then some (last / 0x1000 * 0x1000 - 1)
  else if startsInside 0x40000 first last then some ((first / 0x40000 + 1) * 0x40000 - 1)
  else if endsInside 0x40000 first last then some (last / 0x40000 * 0x40000 - 1)
  else none

/-- The sequences of byte ranges of the characters from `first` to `last`, in order. -/
def sequences (first last : Nat) : List (List ByteRange) :=
  match cut? first last with
  | none => [List.zipWith ByteRange.mk (encode first) (encode last)]
  | some middle =>
    if first ≤ middle ∧ middle < last then
      sequences first middle ++ sequences (Unicode.nextCode middle) last
    else []
termination_by last - first
decreasing_by
  · omega
  · unfold Unicode.nextCode; split <;> omega

/-- The sequences of byte ranges of a set. -/
def sequencesOf (members : Unicode.CodeSet) : List (List ByteRange) :=
  members.ranges.flatMap fun r => sequences r.first r.last

end ByteRange

end SparqlExpr.Regex
