/-! Sets of characters as ranges of code points in order, with the operations of sets. -/
namespace SparqlExpr.Unicode

/-- The code points from `first` to `last`. -/
structure CodeRange where
  first : Nat
  last : Nat
deriving DecidableEq, Repr

/-- A set of characters. Its ranges stand in order and do not touch. -/
structure CodeSet where
  ranges : List CodeRange
deriving DecidableEq, Repr

/-- The greatest code point. -/
def maxCode : Nat := 0x10ffff

/-- The next code point of a character; surrogates are passed over. -/
def nextCode (code : Nat) : Nat :=
  if code = 0xd7ff then 0xe000 else code + 1

/-- The code point of the character before. -/
def previousCode (code : Nat) : Nat :=
  if code = 0xe000 then 0xd7ff else code - 1

namespace CodeRange

def contains (r : CodeRange) (code : Nat) : Bool :=
  r.first ≤ code && code ≤ r.last

/-- Joins ranges that overlap or follow each other directly. They come in order of their first
code points. -/
def merge : List CodeRange → List CodeRange
  | [] => []
  | [r] => [r]
  | r :: s :: rest =>
    if s.first ≤ r.last + 1 then merge (⟨r.first, Nat.max r.last s.last⟩ :: rest)
    else r :: merge (s :: rest)
termination_by ranges => ranges.length

/-- The common parts of two lists of ranges in order. -/
def inter : List CodeRange → List CodeRange → List CodeRange
  | r :: rs, s :: ss =>
    let common : CodeRange := ⟨Nat.max r.first s.first, Nat.min r.last s.last⟩
    let rest := if r.last < s.last then inter rs (s :: ss) else inter (r :: rs) ss
    if common.first ≤ common.last then common :: rest else rest
  | _, _ => []
termination_by rs ss => rs.length + ss.length

/-- What the ranges of the first list have outside of those of the second. -/
def diff : List CodeRange → List CodeRange → List CodeRange
  | [], _ => []
  | rs, [] => rs
  | r :: rs, s :: ss =>
    if s.last < r.first then diff (r :: rs) ss
    else if r.last < s.first then r :: diff rs (s :: ss)
    else
      let before : List CodeRange :=
        if r.first < s.first then [⟨r.first, previousCode s.first⟩] else []
      if s.last < r.last then before ++ diff (⟨nextCode s.last, r.last⟩ :: rs) ss
      else before ++ diff rs (s :: ss)
termination_by rs ss => rs.length + ss.length

/-- What lies between ranges in order, and above the last of them. The bounds of a gap are taken in
their order, so ranges that meet across the surrogates leave the two characters there. -/
def gapsAfter (last : Nat) : List CodeRange → List CodeRange
  | [] => if last < maxCode then [⟨nextCode last, maxCode⟩] else []
  | r :: rest =>
    let low := nextCode last
    let high := previousCode r.first
    ⟨Nat.min low high, Nat.max low high⟩ :: gapsAfter r.last rest

end CodeRange

namespace CodeSet

def empty : CodeSet := ⟨[]⟩

def everything : CodeSet := ⟨[⟨0, maxCode⟩]⟩

/-- The set with the given ranges, which may come in any order and overlap. -/
def ofRanges (ranges : List CodeRange) : CodeSet :=
  ⟨CodeRange.merge (ranges.mergeSort fun r s => r.first ≤ s.first)⟩

def ofCodes (codes : List Nat) : CodeSet :=
  ofRanges (codes.map fun code => ⟨code, code⟩)

def contains (s : CodeSet) (c : Char) : Bool :=
  s.ranges.any fun r => r.contains c.toNat

def unionAll (sets : List CodeSet) : CodeSet :=
  ofRanges (sets.flatMap (·.ranges))

def union (s t : CodeSet) : CodeSet :=
  unionAll [s, t]

def inter (s t : CodeSet) : CodeSet :=
  ⟨CodeRange.inter s.ranges t.ranges⟩

def diff (s t : CodeSet) : CodeSet :=
  ⟨CodeRange.diff s.ranges t.ranges⟩

/-- What belongs to one of two sets but not to both. -/
def symmDiff (s t : CodeSet) : CodeSet :=
  (s.union t).diff (s.inter t)

def complement (s : CodeSet) : CodeSet :=
  match s.ranges with
  | [] => everything
  | r :: rest =>
    let below : List CodeRange := if 0 < r.first then [⟨0, previousCode r.first⟩] else []
    ⟨below ++ CodeRange.gapsAfter r.last rest⟩

/-- Whether no member lies beyond ASCII. -/
def isAscii (s : CodeSet) : Bool :=
  s.ranges.all fun r => r.last < 0x80

/-- The only member, if there is just one. -/
def single? (s : CodeSet) : Option Char :=
  match s.ranges with
  | [r] => if r.first = r.last then some (Char.ofNat r.first) else none
  | _ => none

end CodeSet

end SparqlExpr.Unicode
