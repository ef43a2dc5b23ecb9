import SparqlExpr.Double.Basic

/-! Decimal numbers, their digits, and the binary64 nearest to each. -/
namespace SparqlExpr

/-- The number `coefficient * 10 ^ exponent`. -/
structure Decimal where
  coefficient : Nat
  exponent : Int
deriving DecidableEq, Repr

/-- The value of a list of ASCII digits. -/
def digitsValue (digits : List Char) : Nat :=
  digits.foldl (fun value c => 10 * value + (c.toNat - '0'.toNat)) 0

namespace Decimal

/-- The digits of the coefficient. -/
def digits (d : Decimal) : List Char :=
  Nat.toDigits 10 d.coefficient

/-- Where the point stands, counted from the first digit. -/
def point (d : Decimal) : Int :=
  d.digits.length + d.exponent

/-- The nearest binary64. Beyond 10^400 all is infinite and below 10^-400 all is zero, so no larger
power is formed. -/
def toDouble (negative : Bool) (d : Decimal) : Double :=
  if d.coefficient = 0 ∨ d.exponent < -(400 + d.coefficient.log2 : Int) then
    .finite negative 0 representable_zero
  else if 400 < d.exponent then .infinity negative
  else match d.exponent with
    | .ofNat e => .ofRatio negative (d.coefficient * Nat.pow 10 e * Double.unitsPerOne) 1
    | .negSucc e => .ofRatio negative (d.coefficient * Double.unitsPerOne) (Nat.pow 10 (e + 1))

/-- All digits in place, with a point only before decimals. -/
def positional (d : Decimal) : List Char :=
  match d.exponent with
  | .ofNat e => d.digits ++ List.replicate e '0'
  | .negSucc e =>
    let places := e + 1
    let padded := List.replicate (places + 1 - d.digits.length) '0' ++ d.digits
    padded.take (padded.length - places) ++ '.' :: padded.drop (padded.length - places)

/-- One digit before the point, then the power of ten. -/
def scientific (plus : Bool) (d : Decimal) : List Char :=
  let exponent := d.point - 1
  let sign := if exponent < 0 then ['-'] else if plus then ['+'] else []
  let fraction := d.digits.drop 1
  d.digits.take 1 ++ (if fraction.isEmpty then [] else '.' :: fraction)
    ++ 'e' :: sign ++ Nat.toDigits 10 exponent.natAbs

end Decimal

end SparqlExpr
