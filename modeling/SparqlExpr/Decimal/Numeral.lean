import SparqlExpr.Decimal.Basic

/-! Decimal numerals: an optional sign, digits with an optional point, and an optional power of ten.
-/
namespace SparqlExpr

/-- A numeral split into its parts; the digits are kept as written. -/
structure Numeral where
  negative : Bool
  whole : List Char
  fraction : List Char
  exponent : Int
deriving DecidableEq, Repr

namespace Numeral

/-- An optional sign and what follows it. -/
def sign : List Char → Bool × List Char
  | '+' :: rest => (false, rest)
  | '-' :: rest => (true, rest)
  | rest => (false, rest)

/-- The digits after a point, if there is one. -/
def fractionPart : List Char → List Char × List Char
  | '.' :: rest => rest.span Char.isDigit
  | rest => ([], rest)

/-- A power of ten up to the end of the text; an absent one is zero. -/
def exponentPart : List Char → Option Int
  | [] => some 0
  | c :: rest =>
    let (negative, digits) := sign rest
    if (c = 'e' ∨ c = 'E') ∧ digits ≠ [] ∧ digits.all Char.isDigit then
      some (Double.signed negative (digitsValue digits))
    else none

/-- Reads a whole text; at least one digit must stand beside the point. -/
def parse? (text : List Char) : Option Numeral :=
  let (negative, rest) := sign text
  let (whole, rest) := rest.span Char.isDigit
  let (fraction, rest) := fractionPart rest
  if whole = [] ∧ fraction = [] then none
  else (exponentPart rest).map fun exponent => { negative, whole, fraction, exponent }

def toDecimal (n : Numeral) : Decimal :=
  ⟨digitsValue (n.whole ++ n.fraction), n.exponent - n.fraction.length⟩

def toDouble (n : Numeral) : Double :=
  n.toDecimal.toDouble n.negative

end Numeral

end SparqlExpr
