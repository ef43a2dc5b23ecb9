import SparqlExpr.Regex.Basic

/-! Matching by sets of positions. A set is a number whose bit `i` stands for the place before
character `i`. -/
namespace SparqlExpr

/-- A regular expression laid over one text: tests have become sets of positions. -/
inductive Motion where
  /-- Moves the given positions one character on. -/
  | advance (positions : Nat)
  /-- Keeps the given positions. -/
  | keep (positions : Nat)
  | seq (first second : Motion)
  | either (first second : Motion)
  | repeated (body : Motion) (min : Nat) (max : Option Nat)

namespace Motion

/-- Applies a step a number of times; a set that stays the same is final. -/
def iterate (step : Nat → Nat) : Nat → Nat → Nat
  | 0, positions => positions
  | count + 1, positions =>
    let next := step positions
    if next = positions then positions else iterate step count next

/-- Adds what is reached in up to a number of steps from the newest positions. -/
def accumulate (step : Nat → Nat) : Nat → Nat → Nat → Nat
  | 0, reached, _ => reached
  | count + 1, reached, newest =>
    let all := reached ||| step newest
    let fresh := all ^^^ reached
    if fresh = 0 then reached else accumulate step count all fresh

/-- The positions that are reached from a set. Of a count beyond `size`, the number of positions, no
more than `size` steps can matter. -/
def apply (size : Nat) : Motion → Nat → Nat
  | advance positions, start => (start &&& positions) <<< 1
  | keep positions, start => start &&& positions
  | seq first second, start => apply size second (apply size first start)
  | either first second, start => apply size first start ||| apply size second start
  | repeated body min max, start =>
    let first := iterate (apply size body) (Nat.min min size) start
    let more := match max with
      | some max => Nat.min (max - min) size
      | none => size
    accumulate (apply size body) more first first

end Motion

namespace Regex

/-- The places of a text at which a test holds, given the character before the text. -/
def places (test : Option Char → Option Char → Bool) (before : Option Char) : List Char → Nat
  | [] => (test before none).toNat
  | c :: rest => 2 * places test (some c) rest + (test before (some c)).toNat

/-- Every place of a text. -/
def everywhere (text : List Char) : Nat :=
  Nat.pow 2 (text.length + 1) - 1

/-- Moves one character on where it is a given one. -/
def step (text : List Char) (c : Char) : Motion :=
  .advance (places (fun _ after => after == some c) none text)

mutual

/-- Lays a regular expression over a text. -/
def motion (text : List Char) : Regex → Motion
  | empty => .keep (everywhere text)
  | literal word => word.foldr (fun c more => .seq (step text c) more) (.keep (everywhere text))
  | one members => .advance (places (fun _ after => after.any members.contains) none text)
  | check assertion => .keep (places assertion.holds none text)
  | repeated body min max _ => .repeated (body.motion text) min max
  | capture body => body.motion text
  | seq parts => motionSeq text parts
  | either branches => motionEither text branches

def motionSeq (text : List Char) : List Regex → Motion
  | [] => .keep (everywhere text)
  | r :: rest => .seq (r.motion text) (motionSeq text rest)

def motionEither (text : List Char) : List Regex → Motion
  | [] => .keep 0
  | r :: rest => .either (r.motion text) (motionEither text rest)

end

/-- Whether some part of a text matches. -/
def matchesIn (r : Regex) (text : List Char) : Bool :=
  (r.motion text).apply (text.length + 1) (everywhere text) != 0

end Regex

end SparqlExpr
