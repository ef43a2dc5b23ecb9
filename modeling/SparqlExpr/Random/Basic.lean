import SparqlExpr.Double.Basic

/-! What operators draw from: random numbers and identifiers, as a state that each draw moves on. -/
namespace SparqlExpr

/-- A universally unique identifier, first byte first. -/
structure Uuid where
  bytes : Vector UInt8 16
deriving DecidableEq, Repr

namespace Uuid

def nil : Uuid := ⟨.replicate 16 0⟩

/-- Marks random bytes as version 4 of the standard variant. -/
def ofRandomBytes (bytes : Vector UInt8 16) : Uuid :=
  ⟨(bytes.set 6 (bytes[6] &&& 0x0f ||| 0x40)).set 8 (bytes[8] &&& 0x3f ||| 0x80)⟩

/-- Two hexadecimal digits in lower case. -/
def byteText (byte : UInt8) : List Char :=
  [Nat.digitChar (byte.toNat / 16), Nat.digitChar (byte.toNat % 16)]

/-- Five groups of digits with hyphens between them. -/
def toText (u : Uuid) : String :=
  let digits := u.bytes.toList.flatMap byteText
  let group (start size : Nat) : List Char := (digits.drop start).take size
  String.ofList (['-'].intercalate [group 0 8, group 8 4, group 12 4, group 16 4, group 20 12])

end Uuid

/-- A state from which numbers in `[0, 1)` and identifiers are drawn. -/
class RandomSource (σ : Type) where
  nextDouble : σ → Double × σ
  nextUuid : σ → Uuid × σ

end SparqlExpr
