import SparqlExpr.Unicode.CaseTable
import SparqlExpr.Unicode.Property

/-! Upper and lower case of whole texts, and sets that do not tell case apart. -/
namespace SparqlExpr.Unicode

def toUpper (text : List Char) : List Char :=
  text.flatMap upperMap.apply

/-- Whether a letter stands next in a text, characters that do not break words passed over. -/
def letterFollows (text : List Char) : Bool :=
  match text.dropWhile caseIgnorable.contains with
  | c :: _ => cased.contains c
  | [] => false

/-- The lower case of a text whose part before it is given in reverse. A capital sigma that ends a
word becomes the final form. -/
def toLowerAfter (before : List Char) : List Char → List Char
  | [] => []
  | c :: rest =>
    let lower :=
      if c = 'Σ' then if letterFollows before && !letterFollows rest then ['ς'] else ['σ']
      else lowerMap.apply c
    lower ++ toLowerAfter (c :: before) rest

def toLower (text : List Char) : List Char :=
  toLowerAfter [] text

/-- Gathers the code points of pairs by their image, which comes first in each group. Pairs with one
image stand together. -/
def groupByImage : List (Nat × Nat) → List (List Nat)
  | [] => []
  | (code, image) :: rest =>
    match groupByImage rest with
    | [] => [[image, code]]
    | group :: groups =>
      if group.head? = some image then (image :: code :: group.drop 1) :: groups
      else [image, code] :: group :: groups

/-- All characters that differ from another one in case only, in order, each with its group. -/
def caseGroups : List (Nat × List Nat) :=
  let pairs := foldMap.pairs.mergeSort fun p q => p.2 ≤ q.2
  let members := (groupByImage pairs).flatMap fun group => group.map fun code => (code, group)
  members.mergeSort fun p q => p.1 ≤ q.1

/-- The entries whose keys lie in ranges; both lists are in order. -/
def entriesIn : List CodeRange → List (Nat × α) → List α
  | r :: rs, (code, x) :: entries =>
    if code < r.first then entriesIn (r :: rs) entries
    else if r.last < code then entriesIn rs ((code, x) :: entries)
    else x :: entriesIn (r :: rs) entries
  | _, _ => []
termination_by ranges entries => ranges.length + entries.length

namespace CodeSet

/-- Adds all characters that differ from a member in case only. -/
def caseClosure (s : CodeSet) : CodeSet :=
  s.union (.ofCodes (entriesIn s.ranges caseGroups).flatten)

/-- Moves the members in a range by a distance upwards. -/
def shiftUp (range : CodeRange) (distance : Nat) (s : CodeSet) : CodeSet :=
  ⟨(s.inter ⟨[range]⟩).ranges.map fun r => ⟨r.first + distance, r.last + distance⟩⟩

/-- Moves the members in a range by a distance downwards. -/
def shiftDown (range : CodeRange) (distance : Nat) (s : CodeSet) : CodeSet :=
  ⟨(s.inter ⟨[range]⟩).ranges.map fun r => ⟨r.first - distance, r.last - distance⟩⟩

/-- Adds the ASCII letters that differ from a member in case only. -/
def asciiCaseClosure (s : CodeSet) : CodeSet :=
  .unionAll [s, s.shiftUp ⟨0x41, 0x5a⟩ 0x20, s.shiftDown ⟨0x61, 0x7a⟩ 0x20]

end CodeSet

end SparqlExpr.Unicode
