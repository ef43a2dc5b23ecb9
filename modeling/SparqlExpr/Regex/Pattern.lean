import SparqlExpr.Regex.Piece
import SparqlExpr.Regex.Room

/-! Reading patterns: items are collected from left to right, and groups wait on a stack until they
close. -/
namespace SparqlExpr.Regex

/-- A group that is being read. -/
structure Frame where
  /-- The flags that hold again behind the group. -/
  outer : Flags
  captures : Bool
  /-- The alternatives that are complete, in reverse. -/
  branches : List Piece := []
  /-- The items of the current alternative in reverse; a setting of flags is no piece. -/
  items : List (Option Piece) := []

namespace Frame

def push (f : Frame) (item : Option Piece) : Frame :=
  { f with items := item :: f.items }

/-- Starts the next alternative. -/
def branch (f : Frame) : Frame :=
  { f with branches := Piece.concat f.items :: f.branches, items := [] }

/-- Everything that was read. -/
def value (f : Frame) : Piece :=
  .alternatives (.concat f.items) f.branches

/-- Repeats the last item, which must be a piece. -/
def repeatLast? (f : Frame) (min : Nat) (max : Option Nat) (greedy : Bool) : Option Frame :=
  match f.items with
  | some piece :: items => some { f with items := some (piece.repeated min max greedy) :: items }
  | _ => none

end Frame

/-- How a group opens. -/
inductive Opening where
  | capture (name : Option String)
  | plain (flags : Flags)
  /-- No group: flags for the rest of the enclosing one. -/
  | setting (flags : Flags)

/-- Whether a character may stand in the name of a group. -/
def isNameChar (first : Bool) (c : Char) : Bool :=
  c == '_' || Unicode.alphabetic.contains c
    || (!first && (c == '.' || c == '[' || c == ']' || Unicode.numbers.contains c))

/-- A group's name up to its closing angle bracket. -/
def readGroupName? (text : List Char) : Option (String × List Char) :=
  match text.span (· != '>') with
  | (first :: more, _ :: rest) =>
    if isNameChar true first && more.all (isNameChar false) then
      some (String.ofList (first :: more), rest)
    else none
  | _ => none

/-- Reads what follows an opening parenthesis. Tests of the text around are refused. -/
def readOpening? (flags : Flags) (text : List Char) : Option (Opening × List Char) :=
  match flags.skip text with
  | '?' :: '=' :: _ => none
  | '?' :: '!' :: _ => none
  | '?' :: '<' :: '=' :: _ => none
  | '?' :: '<' :: '!' :: _ => none
  | '?' :: 'P' :: '<' :: rest | '?' :: '<' :: rest =>
    (readGroupName? rest).map fun (name, rest) => (.capture (some name), rest)
  | '?' :: rest =>
    match Flags.read? flags [] rest with
    | some (_, [], .item, _) => none
    | some (flags, _, .item, rest) => some (.setting flags, rest)
    | some (flags, _, .group, rest) => some (.plain flags, rest)
    | none => none
  | rest => some (.capture none, rest)

/-- A count below 2^32, blanks around it allowed. -/
def readCount? (flags : Flags) (text : List Char) : Option (Nat × List Char) :=
  let (digits, rest) := flags.collect Char.isDigit (text.dropWhile Unicode.isWhiteSpace)
  let value := digits.foldl (fun value c => 10 * value + (c.toNat - '0'.toNat)) 0
  if digits.isEmpty || 0xffffffff < value then none
  else some (value, flags.skip (rest.dropWhile Unicode.isWhiteSpace))

/-- Counts behind an opening brace: `n}`, `n,}` or `n,m}`. -/
def readCounts? (flags : Flags) (text : List Char) : Option ((Nat × Option Nat) × List Char) := do
  let (min, rest) ← readCount? flags (flags.skip text)
  match rest with
  | '\x7d' :: rest => some ((min, some min), rest)
  | ',' :: rest =>
    match flags.skip rest with
    | '\x7d' :: rest => some ((min, none), rest)
    | rest =>
      let (max, rest) ← readCount? flags rest
      match rest with
      | '\x7d' :: rest => if max < min then none else some ((min, some max), rest)
      | _ => none
  | _ => none

/-- Reads the mark of a repetition that prefers to be short, or to be long where the flags swap the
two. -/
def readGreed (flags : Flags) : List Char → Bool × List Char
  | '?' :: rest => (flags.swapGreed, rest)
  | rest => (!flags.swapGreed, rest)

/-- The counts of a repetition by its sign, and what follows it. -/
def readRepetition? (flags : Flags) :
    List Char → Option ((Nat × Option Nat) × Bool × List Char)
  | '?' :: rest => some ((0, some 1), readGreed flags rest)
  | '*' :: rest => some ((0, none), readGreed flags rest)
  | '+' :: rest => some ((1, none), readGreed flags rest)
  | '\x7b' :: rest =>
    (readCounts? flags rest).map fun (counts, rest) => (counts, readGreed flags (flags.skip rest))
  | _ => none

/-- A single item outside of brackets. -/
def readAtom? (flags : Flags) : List Char → Option (Piece × List Char)
  | [] => none
  | '\\' :: rest => do
    let (atom, rest) ← Escape.read? flags rest
    return (← Piece.ofAtom? flags atom, rest)
  | '.' :: rest => (Piece.dot? flags).map fun piece => (piece, rest)
  | '^' :: rest => some (.lineStart flags, rest)
  | '$' :: rest => some (.lineEnd flags, rest)
  | '[' :: rest => (Bracket.read? flags rest).map fun (b, rest) => (.ofBracket b, rest)
  | c :: rest => (Piece.ofChar? flags c false).map fun piece => (piece, rest)

/-- Reads a pattern to its end. `names` are the names of groups so far, `stack` the groups around
the current one. -/
def readPattern? : Nat → Flags → List String → Frame → List Frame → List Char → Option Piece
  | 0, _, _, _, _, _ => none
  | fuel + 1, flags, names, frame, stack, text =>
    match flags.skip text with
    | [] => if stack.isEmpty then some frame.value else none
    | '(' :: rest =>
      match readOpening? flags rest with
      | none => none
      | some (.setting flags, rest) => readPattern? fuel flags names (frame.push none) stack rest
      | some (.plain inner, rest) =>
        readPattern? fuel inner names { outer := flags, captures := false } (frame :: stack) rest
      | some (.capture none, rest) =>
        readPattern? fuel flags names { outer := flags, captures := true } (frame :: stack) rest
      | some (.capture (some name), rest) =>
        if names.contains name then none
        else readPattern? fuel flags (name :: names) { outer := flags, captures := true }
          (frame :: stack) rest
    | ')' :: rest =>
      match stack with
      | [] => none
      | parent :: stack =>
        readPattern? fuel frame.outer names
          (parent.push (some (frame.value.group frame.captures))) stack rest
    | '|' :: rest => readPattern? fuel flags names frame.branch stack rest
    | c :: rest =>
      if c = '?' ∨ c = '*' ∨ c = '+' ∨ c = '\x7b' then
        match readRepetition? flags (c :: rest) with
        | none => none
        | some ((min, max), greedy, rest) =>
          match frame.repeatLast? min max greedy with
          | some frame => readPattern? fuel flags names frame stack rest
          | none => none
      else
        match readAtom? flags (c :: rest) with
        | some (piece, rest) => readPattern? fuel flags names (frame.push (some piece)) stack rest
        | none => none

/-- Compiles a pattern. One that cannot be read or nests too deep is refused, and so is one that
takes too much room; the message tells these apart, but not where in the pattern the fault is. -/
def compile (pattern : String) : Except String Regex := do
  let text := pattern.toList
  match readPattern? (text.length + 1) {} [] { outer := {}, captures := true } [] text with
  | some piece =>
    if maxHeight < piece.height then throw "regex parse error"
    if piece.regex.isTooLarge then
      throw ("Compiled regex exceeds size limit of " ++ toString maxRoom ++ " bytes.")
    return piece.regex
  | none => throw "regex parse error"

end SparqlExpr.Regex
