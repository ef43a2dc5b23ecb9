import SparqlExpr.Decimal.Numeral
import SparqlExpr.Decimal.Shortest
import SparqlExpr.Unicode.WhiteSpace

/-! Number texts: the lexical forms of XML Schema, and the styles that other outputs use. -/
namespace SparqlExpr.Double

/-- How a finite number is written in its fewest digits. -/
structure Style where
  tie : Tie
  /-- The positions of the point that are written in place; others use a power of ten. -/
  inPlace : Int → Bool
  /-- Whether a whole number written in place ends in `.0`. -/
  wholeFraction : Bool
  /-- Whether a power of ten that is not negative has a plus sign. -/
  plus : Bool

def Style.magnitude (style : Style) (units : Nat) : List Char :=
  let d := if units = 0 then ⟨0, 0⟩ else Decimal.shortest style.tie units
  if style.inPlace d.point then
    let text := d.positional
    if style.wholeFraction && !text.contains '.' then text ++ ['.', '0'] else text
  else d.scientific style.plus

/-- Lexical forms are always written in place, with a point only where it is needed. -/
def Style.lexical : Style :=
  { tie := .up, inPlace := fun _ => true, wholeFraction := false, plus := false }

/-- The lexical form of a number; both zeros are `0`. -/
def toLexical : Double → String
  | nan => "NaN"
  | infinity negative => if negative then "-INF" else "INF"
  | finite negative units _ =>
    if units = 0 then "0"
    else String.ofList ((if negative then ['-'] else []) ++ Style.lexical.magnitude units)

/-- The named numbers, in the one spelling that lexical forms have. -/
def named? : List Char → Option Double
  | ['I', 'N', 'F'] | ['+', 'I', 'N', 'F'] => some (infinity false)
  | ['-', 'I', 'N', 'F'] => some (infinity true)
  | ['N', 'a', 'N'] => some nan
  | _ => none

/-- The names of infinity and NaN in any case, a sign before them allowed. -/
def anyCaseNamed? (text : List Char) : Option Double :=
  let (negative, name) := Numeral.sign text
  match name.map Char.toLower with
  | ['i', 'n', 'f'] | ['i', 'n', 'f', 'i', 'n', 'i', 't', 'y'] => some (infinity negative)
  | ['n', 'a', 'n'] => some nan
  | _ => none

/-- Reads a numeral, or a name in any case. -/
def ofText? (text : List Char) : Option Double :=
  match Numeral.parse? text with
  | some n => some n.toDouble
  | none => anyCaseNamed? text

/-- A letter that stands in names only; a numeral has no other letter than that of its power of ten.
-/
def isNameLetter (c : Char) : Bool :=
  c.isAlpha && c != 'e' && c != 'E'

/-- Reads a lexical form, white space around it allowed. Of the names no other spelling counts. -/
def ofLexical? (text : String) : Option Double :=
  let body := Unicode.trim text.toList
  match named? body with
  | some x => some x
  | none => if body.any isNameLetter then none else ofText? body

end SparqlExpr.Double
