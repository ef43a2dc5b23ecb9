import SparqlExpr.Regex.Machine
import SparqlExpr.Regex.Normal
import SparqlExpr.Regex.Words

/-! The room that a regular expression takes when it is searched for: a machine that reads forwards
and remembers groups, and one that reads backwards. -/
namespace SparqlExpr.Regex

mutual

/-- Whether every match starts where the text does, as far as the parts show it. -/
def startsAtStart : Regex → Bool
  | check .textStart => true
  | repeated body min _ _ => 0 < min && body.startsAtStart
  | capture body => body.startsAtStart
  | seq parts => startsAtStartSeq parts
  | either branches => startsAtStartAll branches
  | _ => false

/-- A sequence is tied to the start by its first part, or by a later one behind parts that match the
empty text only. -/
def startsAtStartSeq : List Regex → Bool
  | [] => false
  | r :: rest => r.startsAtStart || (r.maxLength == some 0 && startsAtStartSeq rest)

def startsAtStartAll : List Regex → Bool
  | [] => true
  | r :: rest => r.startsAtStart && startsAtStartAll rest

end

mutual

/-- Whether every match ends where the text does, as far as the parts show it. -/
def endsAtEnd : Regex → Bool
  | check .textEnd => true
  | repeated body min _ _ => 0 < min && body.endsAtEnd
  | capture body => body.endsAtEnd
  | seq parts => endsAtEndSeq parts
  | either branches => endsAtEndAll branches
  | _ => false

def endsAtEndSeq : List Regex → Bool
  | [] => false
  | r :: rest => endsAtEndSeq rest || (rest.all (maxLength · == some 0) && r.endsAtEnd)

def endsAtEndAll : List Regex → Bool
  | [] => true
  | r :: rest => r.endsAtEnd && endsAtEndAll rest

end

mutual

/-- Whether the states of an expression end in one that branches. -/
def endsInBranch (backward : Bool) : Regex → Bool
  | repeated body 0 none _ => body.minLength.any (0 < ·)
  | repeated _ _ none _ => true
  | repeated body min (some max) _ => min == max && body.endsInBranch backward
  | capture body => backward && body.endsInBranch backward
  | seq parts => if backward then firstEndsInBranch parts else lastEndsInBranch parts
  | _ => false

def firstEndsInBranch : List Regex → Bool
  | [] => false
  | r :: _ => r.endsInBranch true

def lastEndsInBranch : List Regex → Bool
  | [] => false
  | [r] => r.endsInBranch false
  | _ :: rest => lastEndsInBranch rest

end

/-- Leads from the end of an expression to a further state. -/
def link (backward : Bool) (r : Regex) (m : Machine) : Machine :=
  if r.endsInBranch backward then m.addBranch else m

/-- The text of a literal. -/
def word? : Regex → Option (List Char)
  | literal word => some word
  | _ => none

/-- Adds copies of a body, each but the last one linked to the next. -/
def addCopies (link part : Machine → Machine) (count : Nat) (m : Machine) : Machine :=
  match count with
  | 0 => m.addState
  | count + 1 => part (m.times (fun m => link (part m)) count)

/-- Adds the states of a repetition whose body adds `part`, is linked by `link`, and may match the
empty text only if `nullable`. -/
def addRepeated (nullable : Bool) (link part : Machine → Machine) :
    Nat → Option Nat → Machine → Machine
  | 0, none, m =>
    if nullable then (link (part m)).addState.addBranch.addState.addState.addBranches 3
    else link ((part m.addState).addBranch)
  | 1, none, m => (link (part m)).addState.addBranch
  | min, none, m => (link (addCopies link part min m)).addState.addBranch
  | 0, some 1, m => link ((part m.addState).addState.addBranches 2)
  | min, some max, m =>
    let m := addCopies link part min m
    if min = max then m
    else
      let m := if min = 0 then m else link m
      m.addState.times (fun m => link ((part m.addState).addBranches 2)) (max - min)

mutual

/-- Adds the states of an expression. -/
def addTo (backward : Bool) : Regex → Machine → Machine
  | empty, m => m.addState
  | literal word, m => ⟨m.states + (String.ofList word).utf8ByteSize,
      m.room + 32 * (String.ofList word).utf8ByteSize⟩
  | one members, m => m.addSet backward members
  | check _, m => m.addState
  | repeated body min max _, m =>
    addRepeated (!body.minLength.any (0 < ·)) (body.link backward) (body.addTo backward) min max m
  | capture body, m =>
    if backward then body.addTo backward m
    else body.link backward (body.addTo backward m.addState).addState
  | seq parts, m => if backward then addBackward parts m else addForward parts m
  | either branches, m =>
    match branches.mapM word? with
    | some words => m.addWords backward words
    | none => addBranches backward 0 branches m

/-- Adds the parts of a sequence from the first to the last. -/
def addForward : List Regex → Machine → Machine
  | [], m => m
  | [r], m => r.addTo false m
  | r :: rest, m => addForward rest (r.link false (r.addTo false m))

/-- Adds the parts of a sequence from the last to the first. -/
def addBackward : List Regex → Machine → Machine
  | [], m => m
  | [r], m => r.addTo true m
  | r :: next :: rest, m =>
    r.addTo true (next.link true (addBackward (next :: rest) m))

/-- Adds alternatives. The states where they part and meet are added behind the second one. -/
def addBranches (backward : Bool) (before : Nat) : List Regex → Machine → Machine
  | [], m => m
  | r :: rest, m =>
    let m := r.link backward ((r.addTo backward m).addBranch)
    let m := if before = 1 then m.addState.addState else m
    addBranches backward (before + 1) rest m

end

/-- Starts a machine: it skips any bytes first unless its matches are tied to the edge where it
starts. -/
def startMachine (tied : Bool) : Machine :=
  let m : Machine := {}
  if tied then m.addState else ((m.addState.addState.addRanges 1).addBranch).addBranch

/-- The machine that reads forwards. It remembers where the match starts and ends. -/
def forwardMachine (r : Regex) : Machine :=
  ((capture r).addTo false (startMachine r.startsAtStart)).addState

/-- The machine that reads backwards. -/
def backwardMachine (r : Regex) : Machine :=
  (r.link true (r.addTo true (startMachine r.endsAtEnd))).addState

/-- Whether machines are needed and one of them takes more room than it may. -/
def isTooLarge (r : Regex) : Bool :=
  (r.forwardMachine.isFull || r.backwardMachine.isFull) && !r.isWords

end SparqlExpr.Regex
