import SparqlExpr.Regex.Basic
import SparqlExpr.Regex.Class

/-! What may follow a backslash in a pattern. -/
namespace SparqlExpr.Regex

open Unicode (CodeSet)

/-- A single item of a pattern. -/
inductive Atom where
  /-- A character; `byte` tells that it was written as a two-digit number. -/
  | literal (c : Char) (byte : Bool)
  | cls (members : CodeSet)
  | check (assertion : Assertion)

namespace Escape

/-- The character of a code point, if there is one. -/
def scalar? (n : Nat) : Option Char :=
  if h : n.isValidChar then some (Char.ofNatAux n h) else none

/-- A given number of hexadecimal digits. -/
def fixedHex? (flags : Flags) : Nat → Nat → List Char → Option (Nat × List Char)
  | 0, value, text => some (value, text)
  | count + 1, value, text =>
    match text with
    | [] => none
    | c :: rest =>
      match Text.hexDigit? c with
      | some digit => fixedHex? flags count (16 * value + digit) (flags.skip rest)
      | none => none

/-- Hexadecimal digits up to a closing brace, at least one. -/
def bracedHex? (flags : Flags) (text : List Char) : Option (Nat × List Char) := do
  let (digits, rest) ← flags.collectBraced? text
  if digits.isEmpty then none
  let value ← Text.hexValue? digits
  return (value, flags.skip rest)

/-- A character by its number, in a fixed count of digits or in braces. -/
def hex? (flags : Flags) (count : Nat) (text : List Char) : Option (Atom × List Char) := do
  match flags.skip text with
  | '\x7b' :: rest =>
    let (value, rest) ← bracedHex? flags rest
    return (.literal (← scalar? value) false, rest)
  | rest =>
    let (value, rest) ← fixedHex? flags count 0 rest
    return (.literal (← scalar? value) (count = 2), rest)

/-- Splits a text around the first occurrence of a separator. -/
def splitAround? (separator : List Char) : List Char → Option (List Char × List Char)
  | [] => none
  | c :: rest =>
    if separator.isPrefixOf (c :: rest) then some ([], (c :: rest).drop separator.length)
    else (splitAround? separator rest).map fun (before, after) => (c :: before, after)

/-- A class by a property and its value. -/
def byValue? (property value : List Char) : Option CodeSet :=
  Unicode.byValue? (Unicode.plainName property) (Unicode.plainName value)

/-- The class that stands in braces: one name, or a property and its value. The sign `!=` between
the two counts as `=`. -/
def classOfName? (name : List Char) : Option CodeSet :=
  match ((splitAround? ['!', '='] name).or (splitAround? [':'] name)).or
      (splitAround? ['='] name) with
  | some (property, value) => byValue? property value
  | none => Unicode.byName? (Unicode.plainName name)

/-- The class that stands behind `p` or `P`: one letter, or a name in braces. -/
def className? (flags : Flags) (text : List Char) : Option (CodeSet × List Char) :=
  match flags.skip text with
  | '\x7b' :: rest => do
    let (name, rest) ← flags.collectBraced? rest
    return (← classOfName? name, rest)
  | '\\' :: _ => none
  | c :: rest => do return (← classOfName? [c], rest)
  | [] => none

/-- A class by a property of characters, which only patterns on characters have. -/
def property? (flags : Flags) (negated : Bool) (text : List Char) : Option (Atom × List Char) := do
  let (members, rest) ← className? flags text
  if !flags.unicode then none
  let members ← CharClass.finish? flags negated members
  return (.cls members, rest)

/-- The kinds of word boundary that are written in braces. -/
def boundary? (ascii : Bool) : String → Option Assertion
  | "start" => some (.wordStart ascii)
  | "end" => some (.wordEnd ascii)
  | "start-half" => some (.wordStartHalf ascii)
  | "end-half" => some (.wordEndHalf ascii)
  | _ => none

/-- A character of a boundary's name. -/
def isBoundaryChar (c : Char) : Bool :=
  c.isAlpha || c == '-'

/-- A word boundary. A brace behind it that is not followed by a letter or hyphen is left to be read
as a count. -/
def wordBoundary? (flags : Flags) (text : List Char) : Option (Atom × List Char) :=
  let plain := some (Atom.check (.wordBoundary !flags.unicode), text)
  match text with
  | '\x7b' :: rest =>
    match flags.skip rest with
    | [] => none
    | c :: rest =>
      if isBoundaryChar c then
        match flags.collect isBoundaryChar (c :: rest) with
        | (name, '\x7d' :: rest) =>
          (boundary? (!flags.unicode) (String.ofList name)).map fun a => (.check a, rest)
        | _ => none
      else plain
  | _ => plain

/-- Characters that stand for themselves behind a backslash. -/
def isEscapable (c : Char) : Bool :=
  c.toNat < 0x80 && !c.isAlphanum && c != '<' && c != '>'

/-- Reads what follows a backslash. -/
def read? (flags : Flags) : List Char → Option (Atom × List Char)
  | [] => none
  | c :: rest =>
    let literal (d : Char) : Option (Atom × List Char) := some (.literal d false, rest)
    let shorthand (negated : Bool) (members : CodeSet) : Option (Atom × List Char) :=
      (CharClass.negateIf? flags negated members).map fun members => (.cls members, rest)
    let check (a : Assertion) : Option (Atom × List Char) := some (.check a, rest)
    match c with
    | 'x' => hex? flags 2 rest
    | 'u' => hex? flags 4 rest
    | 'U' => hex? flags 8 rest
    | 'p' => property? flags false rest
    | 'P' => property? flags true rest
    | 'd' => shorthand false (CharClass.digits flags.unicode)
    | 'D' => shorthand true (CharClass.digits flags.unicode)
    | 's' => shorthand false (CharClass.spaces flags.unicode)
    | 'S' => shorthand true (CharClass.spaces flags.unicode)
    | 'w' => shorthand false (CharClass.wordCharacters flags.unicode)
    | 'W' => shorthand true (CharClass.wordCharacters flags.unicode)
    | 'a' => literal '\x07'
    | 'f' => literal '\x0c'
    | 't' => literal '\t'
    | 'n' => literal '\n'
    | 'r' => literal '\r'
    | 'v' => literal '\x0b'
    | 'A' => check .textStart
    | 'z' => check .textEnd
    | 'b' => wordBoundary? flags rest
    | 'B' => check (.noWordBoundary !flags.unicode)
    | '<' => check (.wordStart !flags.unicode)
    | '>' => check (.wordEnd !flags.unicode)
    | _ => if isEscapable c then literal c else none

end Escape

end SparqlExpr.Regex
