import SparqlExpr.Double.Text
import SparqlExpr.Json.Basic

/-! Compact JSON texts: no blanks, and escapes only where they are required. -/
namespace SparqlExpr.Json

/-- A hexadecimal digit in lower case. -/
def lowerHex (n : Nat) : Char :=
  Nat.digitChar (n % 16)

/-- One character inside a string. -/
def escape (c : Char) : List Char :=
  if c = '"' then ['\\', '"']
  else if c = '\\' then ['\\', '\\']
  else if c = '\x08' then ['\\', 'b']
  else if c = '\t' then ['\\', 't']
  else if c = '\n' then ['\\', 'n']
  else if c = '\x0c' then ['\\', 'f']
  else if c = '\r' then ['\\', 'r']
  else if c.toNat < 0x20 then ['\\', 'u', '0', '0', lowerHex (c.toNat / 16), lowerHex c.toNat]
  else [c]

def quoted (s : String) : String :=
  "\"" ++ String.ofList (s.toList.flatMap escape) ++ "\""

/-- Numbers from 1e-5 up to 1e16 are written in place, with a fraction even if it is zero. -/
def numberStyle : Double.Style :=
  { tie := .even, inPlace := fun point => -5 < point && point ≤ 16,
    wholeFraction := true, plus := true }

/-- A number that JSON cannot write becomes `null`. -/
def numberText : Double → String
  | .finite negative units _ =>
    (if negative then "-" else "") ++ String.ofList (numberStyle.magnitude units)
  | _ => "null"

mutual

def compact : Json → String
  | null => "null"
  | bool value => if value then "true" else "false"
  | integer value => toString value
  | double value => numberText value
  | string value => quoted value
  | array items => "[" ++ compactItems items ++ "]"
  | object members => "\x7b" ++ compactMembers members ++ "\x7d"

def compactItems : List Json → String
  | [] => ""
  | [item] => item.compact
  | item :: rest => item.compact ++ "," ++ compactItems rest

def compactMembers : List (String × Json) → String
  | [] => ""
  | [(key, value)] => quoted key ++ ":" ++ value.compact
  | (key, value) :: rest => quoted key ++ ":" ++ value.compact ++ "," ++ compactMembers rest

end

end SparqlExpr.Json
