import SparqlExpr.Double.Basic

/-! The 64-bit interchange encoding. The bits below the sign grow with the magnitude, one step to
the next number. -/
namespace SparqlExpr.Double

/-- The sign bit. -/
def signBit : Nat := 0x8000000000000000

/-- The lowest bit of the exponent field, which is also the leading bit of a significand. -/
def leadingBit : Nat := 0x10000000000000

/-- The exponent field of infinities and NaN. -/
def specialBits : Nat := 0x7ff0000000000000

/-- Significant bits and exponent of a magnitude; below 2^52 units the exponent field is zero. -/
def magnitudeBits (units : Nat) : Nat :=
  let exponent := units.log2 - 52
  exponent * leadingBit + units / Nat.pow 2 exponent

/-- Every NaN gives the same quiet pattern. -/
def toBits : Double → Nat
  | nan => 0x7ff8000000000000
  | infinity negative => cond negative signBit 0 + specialBits
  | finite negative units _ => cond negative signBit 0 + magnitudeBits units

/-- Reads the low 64 bits. -/
def ofBits (bits : Nat) : Double :=
  let negative := bits / signBit % 2 == 1
  let exponent := bits / leadingBit % 2048
  let fraction := bits % leadingBit
  if exponent = 2047 then if fraction = 0 then infinity negative else nan
  else if exponent = 0 then ofUnits negative fraction
  else ofUnits negative ((leadingBit + fraction) * Nat.pow 2 (exponent - 1))

end SparqlExpr.Double
