import SparqlExpr.Unicode.Span

/-! Maps of characters, written as shifts of spans in hexadecimal. -/
namespace SparqlExpr.Unicode

/-- Maps a span to one of the same shape, or a single code point to several. -/
structure CaseShift where
  span : Span
  target : List Nat

namespace CaseShift

/-- Reads a span, the sign `>`, and target code points between plus signs. -/
def ofField (field : List Char) : CaseShift :=
  let (source, target) := splitField '>' field
  let (first, rest) := target.span (· != '+')
  { span := .ofField source
    target := fieldValue first ::
      if rest.isEmpty then [] else
        let (second, third) := (rest.drop 1).span (· != '+')
        fieldValue second :: if third.isEmpty then [] else [fieldValue (third.drop 1)] }

/-- The image of a code point. -/
def image? (s : CaseShift) (code : Nat) : Option (List Nat) :=
  if s.span.contains code then
    match s.target with
    | [first] => some [first + (code - s.span.first)]
    | several => some several
  else none

/-- The code points of the span, each with its image if that is a single one. -/
def pairs (s : CaseShift) : List (Nat × Nat) :=
  match s.target with
  | [first] => s.span.codes.map fun code => (code, first + (code - s.span.first))
  | _ => []

end CaseShift

/-- A map of characters as a list of shifts; all other characters are mapped to themselves. -/
structure CaseMap where
  shifts : List CaseShift

namespace CaseMap

def ofText (text : String) : CaseMap :=
  ⟨(fields text).map CaseShift.ofField⟩

/-- The image of a character. -/
def apply (m : CaseMap) (c : Char) : List Char :=
  match m.shifts.findSome? fun shift => shift.image? c.toNat with
  | some codes => codes.map Char.ofNat
  | none => [c]

/-- The code points that are mapped to a single other one, each with its image. -/
def pairs (m : CaseMap) : List (Nat × Nat) :=
  m.shifts.flatMap (·.pairs)

end CaseMap

end SparqlExpr.Unicode
