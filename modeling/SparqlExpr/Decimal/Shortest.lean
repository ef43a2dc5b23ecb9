import SparqlExpr.Decimal.Basic

/-! The fewest decimal digits that read back to a given binary64. -/
namespace SparqlExpr

/-- Which of two equally near decimals is taken. -/
inductive Tie where
  | up
  | even
deriving DecidableEq, Repr

namespace Decimal

/-- Enough places that even the least magnitude has more than seventeen digits once they are moved
before the point. -/
def scalePlaces : Nat := 400

def scale : Nat := Nat.pow 10 scalePlaces

/-- A magnitude in units, scaled so that its leading digits are those of a whole number. -/
def leading (units : Nat) : Nat :=
  units * scale / Double.unitsPerOne

/-- The decimal below a scaled magnitude that leaves out its last digits. -/
def below (leading cut : Nat) : Decimal :=
  ⟨leading / Nat.pow 10 cut, (cut : Int) - scalePlaces⟩

/-- The next decimal on the same grid; a carry into a new digit drops the zero it leaves. -/
def next (size : Nat) (d : Decimal) : Decimal :=
  if d.coefficient + 1 = Nat.pow 10 size then ⟨Nat.pow 10 (size - 1), d.exponent + 1⟩
  else ⟨d.coefficient + 1, d.exponent⟩

/-- Whether a decimal rounds to the given magnitude. -/
def readsBack (units : Nat) (d : Decimal) : Bool :=
  d.toDouble false = Double.ofUnits false units

/-- Whether the upper neighbour of a grid cell is the one to take. -/
def upperIsNearer (tie : Tie) (units : Nat) (d : Decimal) : Bool :=
  let grid := Nat.pow 10 (d.exponent + scalePlaces).toNat * Double.unitsPerOne
  let middle := (2 * d.coefficient + 1) * grid
  let twice := 2 * units * scale
  match compare twice middle, tie with
  | .gt, _ => true
  | .lt, _ => false
  | .eq, .up => true
  | .eq, .even => d.coefficient % 2 == 1

/-- Of a lower decimal and the next one, the one that reads back; the nearer if both do. -/
def choose? (tie : Tie) (units : Nat) (low high : Decimal) : Option Decimal :=
  match readsBack units low, readsBack units high with
  | true, true => some (if upperIsNearer tie units low then high else low)
  | true, false => some low
  | false, true => some high
  | false, false => none

/-- All digits of a magnitude. -/
def exact (units : Nat) : Decimal :=
  ⟨units * Nat.pow 5 1074, -1074⟩

/-- The first size from one to seventeen digits that reads back; every digit if none did. -/
def shortest (tie : Tie) (units : Nat) : Decimal :=
  let leading := leading units
  let places := (Nat.toDigits 10 leading).length
  let ofSize? (size : Nat) : Option Decimal :=
    let low := below leading (places - size)
    choose? tie units low (next size low)
  ((List.range 17).findSome? fun size => ofSize? (size + 1)).getD (exact units)

end Decimal

end SparqlExpr
