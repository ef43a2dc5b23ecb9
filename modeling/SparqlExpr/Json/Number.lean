import SparqlExpr.Decimal.Numeral
import SparqlExpr.Json.Basic

/-! JSON numbers: whole numbers that fit 64 bits stay whole, and all others become binary64 by a few
rounded steps. -/
namespace SparqlExpr.Json

/-- The largest significand that is collected. -/
def significandLimit : Nat := 0xffffffffffffffff

/-- The largest written exponent that is read. -/
def exponentLimit : Nat := 0x7fffffff

/-- Collects leading digits while the significand fits; gives it and the digits left over. -/
def collect (significand : Nat) : List Char → Nat × List Char
  | [] => (significand, [])
  | c :: rest =>
    let longer := 10 * significand + (c.toNat - '0'.toNat)
    if longer ≤ significandLimit then collect longer rest else (significand, c :: rest)

/-- A power of ten as binary64. -/
def tenTo (exponent : Nat) : Double :=
  Decimal.toDouble false ⟨1, exponent⟩

/-- Scales down by 10^308 until the exponent is within range or the number is zero. -/
def scaleDown : Nat → Double → Nat → Double
  | 0, x, exponent => x / tenTo exponent
  | steps + 1, x, exponent =>
    if exponent ≤ 308 then x / tenTo exponent
    else if x.isZero then x
    else scaleDown steps (x / tenTo 308) (exponent - 308)

/-- A significand times a power of ten; an infinite result is refused. -/
def scale? (significand : Nat) (exponent : Int) : Option Double :=
  let x := Double.ofNat significand
  match exponent with
  | .ofNat e =>
    if 308 < e then if x.isZero then some x else none
    else
      let scaled := x * tenTo e
      if scaled = .infinity false then none else some scaled
  | .negSucc e => some (scaleDown (e + 1) x (e + 1))

/-- A power of ten as it is written: a sign and digits. -/
structure Exponent where
  negative : Bool
  value : Nat

/-- A number text split into its parts. -/
structure NumberText where
  negative : Bool
  whole : List Char
  fraction : Option (List Char)
  exponent : Option Exponent

/-- Splits off a number without leading zeros; gives it and the text behind it. -/
def splitNumber? (text : List Char) : Option (NumberText × List Char) := do
  let (negative, rest) := match text with
    | '-' :: rest => (true, rest)
    | rest => (false, rest)
  let (whole, rest) := rest.span Char.isDigit
  if whole = [] ∨ (whole.head? = some '0' ∧ whole ≠ ['0']) then none
  let (fraction, rest) ← match rest with
    | '.' :: rest =>
      let (digits, rest) := rest.span Char.isDigit
      if digits = [] then none else some (some digits, rest)
    | rest => some (none, rest)
  let (exponent, rest) ← match rest with
    | c :: rest' =>
      if c = 'e' ∨ c = 'E' then
        let (negative, rest') := Numeral.sign rest'
        let (digits, rest') := rest'.span Char.isDigit
        if digits = [] then none else some (some ⟨negative, digitsValue digits⟩, rest')
      else some (none, rest)
    | [] => some (none, rest)
  return (⟨negative, whole, fraction, exponent⟩, rest)

/-- The unsigned value of a number text that is not kept whole. -/
def NumberText.magnitude? (n : NumberText) : Option Double :=
  let (significand, dropped) := collect 0 n.whole
  let fraction := n.fraction.getD []
  let (significand, skipped) := collect significand fraction
  let shift : Int := dropped.length - (fraction.length - skipped.length : Nat)
  match n.exponent with
  | none => scale? significand shift
  | some ⟨negative, value⟩ =>
    if exponentLimit < value then
      if significand ≠ 0 ∧ !negative then none else some .zero
    else scale? significand (shift + Double.signed negative value)

/-- Whole numbers that are kept whole: below zero down to -2^63, and from zero on below 2^64. -/
def keepsWhole (negative : Bool) (value : Nat) : Bool :=
  if negative then value ≠ 0 ∧ value ≤ 0x8000000000000000 else value ≤ 0xffffffffffffffff

/-- The value of a number text; zero with a sign is not whole. -/
def NumberText.toJson? (n : NumberText) : Option Json :=
  let value := digitsValue n.whole
  if n.fraction.isNone ∧ n.exponent.isNone ∧ keepsWhole n.negative value then
    some (integer (Double.signed n.negative value))
  else n.magnitude?.map fun x => double (if n.negative then -x else x)

end SparqlExpr.Json
