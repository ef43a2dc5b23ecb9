import SparqlExpr.Json.Number
import SparqlExpr.Text.Hex

/-! Strict JSON reading: one value from the front of a text, nesting bounded, the last member of a
key kept. -/
namespace SparqlExpr.Json

def isBlank (c : Char) : Bool :=
  c == ' ' || c == '\t' || c == '\n' || c == '\r'

def skipBlanks (text : List Char) : List Char :=
  text.dropWhile isBlank

/-- Four hexadecimal digits. -/
def hexUnit? : List Char → Option (Nat × List Char)
  | a :: b :: c :: d :: rest => (Text.hexValue? [a, b, c, d]).map fun unit => (unit, rest)
  | _ => none

def isHighSurrogate (unit : Nat) : Bool :=
  0xd800 ≤ unit && unit < 0xdc00

def isLowSurrogate (unit : Nat) : Bool :=
  0xdc00 ≤ unit && unit < 0xe000

/-- A character written as one code unit or a surrogate pair; half a pair is refused. -/
def unicodeEscape? (text : List Char) : Option (Char × List Char) := do
  let (unit, rest) ← hexUnit? text
  if isLowSurrogate unit then none
  else if isHighSurrogate unit then
    match rest with
    | '\\' :: 'u' :: rest =>
      let (low, rest) ← hexUnit? rest
      if isLowSurrogate low then
        some (Char.ofNat (0x10000 + (unit - 0xd800) * 0x400 + (low - 0xdc00)), rest)
      else none
    | _ => none
  else some (Char.ofNat unit, rest)

/-- The character of a one-letter escape. -/
def shortEscape? : Char → Option Char
  | '"' => some '"'
  | '\\' => some '\\'
  | '/' => some '/'
  | 'b' => some '\x08'
  | 'f' => some '\x0c'
  | 'n' => some '\n'
  | 'r' => some '\r'
  | 't' => some '\t'
  | _ => none

/-- Reads a string behind its opening quote; control characters must be escaped. -/
def readString? : Nat → List Char → List Char → Option (String × List Char)
  | 0, _, _ => none
  | _ + 1, _, [] => none
  | fuel + 1, seen, c :: rest =>
    if c = '"' then some (String.ofList seen.reverse, rest)
    else if c = '\\' then
      match rest with
      | 'u' :: rest =>
        match unicodeEscape? rest with
        | some (c, rest) => readString? fuel (c :: seen) rest
        | none => none
      | e :: rest =>
        match shortEscape? e with
        | some c => readString? fuel (c :: seen) rest
        | none => none
      | [] => none
    else if c.toNat < 0x20 then none
    else readString? fuel (c :: seen) rest

/-- The three names that are values. -/
def readName? : List Char → Option (Json × List Char)
  | 'n' :: 'u' :: 'l' :: 'l' :: rest => some (null, rest)
  | 't' :: 'r' :: 'u' :: 'e' :: rest => some (bool true, rest)
  | 'f' :: 'a' :: 'l' :: 's' :: 'e' :: rest => some (bool false, rest)
  | _ => none

mutual

/-- Reads one value; `depth` more levels of nesting are allowed. -/
def readValue? : Nat → Nat → List Char → Option (Json × List Char)
  | 0, _, _ => none
  | fuel + 1, depth, text =>
    match skipBlanks text with
    | [] => none
    | '"' :: rest => (readString? rest.length [] rest).map fun (s, rest) => (string s, rest)
    | '[' :: rest =>
      match depth, skipBlanks rest with
      | 0, _ => none
      | _ + 1, ']' :: rest => some (array [], rest)
      | depth + 1, rest =>
        match readValue? fuel depth rest with
        | some (item, rest) => readItems? fuel depth [item] rest
        | none => none
    | '\x7b' :: rest =>
      match depth, skipBlanks rest with
      | 0, _ => none
      | _ + 1, '\x7d' :: rest => some (ofMembers [], rest)
      | depth + 1, rest =>
        match readMember? fuel depth rest with
        | some (member, rest) => readMembers? fuel depth [member] rest
        | none => none
    | c :: rest =>
      if c = '-' ∨ c.isDigit then
        match splitNumber? (c :: rest) with
        | some (number, rest) => number.toJson?.map fun value => (value, rest)
        | none => none
      else readName? (c :: rest)

/-- Reads the rest of an array behind an item; `seen` holds the items in reverse. -/
def readItems? : Nat → Nat → List Json → List Char → Option (Json × List Char)
  | 0, _, _, _ => none
  | fuel + 1, depth, seen, text =>
    match skipBlanks text with
    | ']' :: rest => some (array seen.reverse, rest)
    | ',' :: rest =>
      match readValue? fuel depth rest with
      | some (item, rest) => readItems? fuel depth (item :: seen) rest
      | none => none
    | _ => none

/-- Reads a key, a colon and a value. -/
def readMember? : Nat → Nat → List Char → Option ((String × Json) × List Char)
  | 0, _, _ => none
  | fuel + 1, depth, text =>
    match skipBlanks text with
    | '"' :: rest =>
      match readString? rest.length [] rest with
      | some (key, rest) =>
        match skipBlanks rest with
        | ':' :: rest =>
          match readValue? fuel depth rest with
          | some (value, rest) => some ((key, value), rest)
          | none => none
        | _ => none
      | none => none
    | _ => none

/-- Reads the rest of an object behind a member; `seen` holds the members in reverse. -/
def readMembers? : Nat → Nat → List (String × Json) → List Char → Option (Json × List Char)
  | 0, _, _, _ => none
  | fuel + 1, depth, seen, text =>
    match skipBlanks text with
    | '\x7d' :: rest => some (ofMembers seen.reverse, rest)
    | ',' :: rest =>
      match readMember? fuel depth rest with
      | some (member, rest) => readMembers? fuel depth (member :: seen) rest
      | none => none
    | _ => none

end

/-- Reads one value from the front of a text with at most `depth` levels of arrays and objects. -/
def readFront? (depth : Nat) (text : List Char) : Option (Json × List Char) :=
  readValue? (3 * text.length + 1) depth text

/-- Reads a whole text. -/
def parse? (depth : Nat) (text : String) : Option Json :=
  match readFront? depth text.toList with
  | some (value, rest) => if (skipBlanks rest).isEmpty then some value else none
  | none => none

/-- The nesting that is read by default. -/
def defaultDepth : Nat := 127

end SparqlExpr.Json
