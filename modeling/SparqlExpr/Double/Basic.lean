/-! Binary64 numbers as whole multiples of the least positive one. Every operation is computed
exactly and rounded once. -/
namespace SparqlExpr

/-- The least magnitude out of range, 2^1024 in units of 2^-1074. -/
def unitLimit : Nat := Nat.pow 2 2098

theorem unitLimit_pos : 0 < unitLimit := by
  decide +kernel

/-- A magnitude in units of 2^-1074 that binary64 holds: in range, with at most 53 significant bits.
-/
def Representable (units : Nat) : Prop :=
  units % Nat.pow 2 (units.log2 - 52) = 0 ∧ units < unitLimit

instance (units : Nat) : Decidable (Representable units) :=
  inferInstanceAs (Decidable (_ ∧ _))

theorem representable_zero : Representable 0 :=
  ⟨Nat.zero_mod _, unitLimit_pos⟩

inductive Double where
  | nan
  | infinity (negative : Bool)
  | finite (negative : Bool) (units : Nat) (representable : Representable units)
deriving DecidableEq

namespace Double

/-- The number one, counted in units. -/
def unitsPerOne : Nat := Nat.pow 2 1074

def zero : Double := finite false 0 representable_zero

instance : Inhabited Double := ⟨zero⟩

/-- The whole number nearest to `num / den`; a half goes to the even neighbour. -/
def roundHalfEven (num den : Nat) : Nat :=
  let below := num / den
  let rest := num % den
  if 2 * rest < den ∨ (2 * rest = den ∧ below % 2 = 0) then below else below + 1

/-- The units nearest to `num / den` units that have at most 53 significant bits. -/
def roundUnits (num den : Nat) : Nat :=
  let step := Nat.pow 2 ((num / den).log2 - 52)
  roundHalfEven num (den * step) * step

/-- A magnitude that is out of range is infinite. -/
def ofUnits (negative : Bool) (units : Nat) : Double :=
  if h : Representable units then finite negative units h else infinity negative

/-- The number nearest to `num / den` units. -/
def ofRatio (negative : Bool) (num den : Nat) : Double :=
  ofUnits negative (roundUnits num den)

def ofNat (n : Nat) : Double :=
  ofRatio false (n * unitsPerOne) 1

def isNaN : Double → Bool
  | nan => true
  | _ => false

def isZero : Double → Bool
  | finite _ units _ => units == 0
  | _ => false

/-- A sign and a magnitude as one integer. -/
def signed (negative : Bool) (units : Nat) : Int :=
  if negative then -(units : Int) else units

/-- The position on the number line, infinities one step past the range; NaN has none. -/
def rank : Double → Option Int
  | nan => none
  | infinity negative => some (signed negative unitLimit)
  | finite negative units _ => some (signed negative units)

/-- NaN compares with nothing, and both zeros are equal. -/
def compare? (x y : Double) : Option Ordering :=
  match x.rank, y.rank with
  | some a, some b => some (compare a b)
  | _, _ => none

def equals (x y : Double) : Bool :=
  x.compare? y == some .eq

def less (x y : Double) : Bool :=
  x.compare? y == some .lt

def lessOrEqual (x y : Double) : Bool :=
  x.less y || x.equals y

def neg : Double → Double
  | nan => nan
  | infinity negative => infinity (!negative)
  | finite negative units h => finite (!negative) units h

def abs : Double → Double
  | nan => nan
  | infinity _ => infinity false
  | finite _ units h => finite false units h

/-- A sum of zero is negative only when both operands are. -/
def add : Double → Double → Double
  | finite s x _, finite t y _ =>
    let sum := signed s x + signed t y
    if sum = 0 then finite (s && t) 0 representable_zero
    else ofRatio (decide (sum < 0)) sum.natAbs 1
  | infinity s, infinity t => if s = t then infinity s else nan
  | infinity s, finite .. => infinity s
  | finite .., infinity t => infinity t
  | nan, _ => nan
  | _, nan => nan

def sub (x y : Double) : Double :=
  x.add y.neg

def mul : Double → Double → Double
  | finite s x _, finite t y _ => ofRatio (s ^^ t) (x * y) unitsPerOne
  | infinity s, infinity t => infinity (s ^^ t)
  | infinity s, finite t y _ => if y = 0 then nan else infinity (s ^^ t)
  | finite s x _, infinity t => if x = 0 then nan else infinity (s ^^ t)
  | nan, _ => nan
  | _, nan => nan

/-- A zero divisor gives an infinity, or NaN for a zero dividend. -/
def div : Double → Double → Double
  | finite s x _, finite t y _ =>
    if y = 0 then if x = 0 then nan else infinity (s ^^ t)
    else ofRatio (s ^^ t) (x * unitsPerOne) y
  | infinity _, infinity _ => nan
  | infinity s, finite t _ _ => infinity (s ^^ t)
  | finite s _ _, infinity t => finite (s ^^ t) 0 representable_zero
  | nan, _ => nan
  | _, nan => nan

instance : Neg Double := ⟨neg⟩
instance : Add Double := ⟨add⟩
instance : Sub Double := ⟨sub⟩
instance : Mul Double := ⟨mul⟩
instance : Div Double := ⟨div⟩

/-- Whole ones in a magnitude, the rest dropped. -/
def onesBelow (units : Nat) : Nat :=
  units / unitsPerOne * unitsPerOne

/-- Whole ones that cover a magnitude. -/
def onesAbove (units : Nat) : Nat :=
  (units + (unitsPerOne - 1)) / unitsPerOne * unitsPerOne

/-- The greatest whole number that is not above; it keeps the sign of a zero. -/
def floor : Double → Double
  | finite negative units _ =>
    ofUnits negative (if negative then onesAbove units else onesBelow units)
  | x => x

/-- The least whole number that is not below; it keeps the sign of a zero result. -/
def ceil : Double → Double
  | finite negative units _ =>
    ofUnits negative (if negative then onesBelow units else onesAbove units)
  | x => x

def half : Double := ofRatio false unitsPerOne 2

/-- Half is added first, so a half goes up and the sum is rounded before the floor. -/
def round (x : Double) : Double :=
  (x + half).floor

end Double

end SparqlExpr
