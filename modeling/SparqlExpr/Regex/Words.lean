import SparqlExpr.Regex.Basic

/-! Regular expressions that match a few words only. They are searched for as words, so the room of
a state machine does not matter for them. -/
namespace SparqlExpr.Regex

/-- The most words that are collected. -/
def maxWords : Nat := 250

/-- The most bytes of a word. -/
def maxWordSize : Nat := 100

/-- The most members of a set whose members are collected, and the most copies of a repetition. -/
def maxChoices : Nat := 10

/-- Words that are few and short enough. -/
def fewWords? (words : List (List Char)) : Option (List (List Char)) :=
  if words.length ≤ maxWords && words.all fun w => (String.ofList w).utf8ByteSize ≤ maxWordSize then
    some words
  else none

/-- Words made of one word from each of two lists. The second list does not matter if the first one
is empty. -/
def joinWords? (first second : Option (List (List Char))) : Option (List (List Char)) := do
  let first ← first
  if first.isEmpty then return []
  let second ← second
  if maxWords < first.length * second.length then none
  fewWords? (first.flatMap fun v => second.map fun w => v ++ w)

/-- Words of repetitions, given those of the body. Only a repetition with one count has words,
unless the body has none. -/
def repeatedWords? (body : Option (List (List Char))) (min : Nat) (max : Option Nat) :
    Option (List (List Char)) := do
  if min = 0 then
    let words ← body
    if max = some 1 then fewWords? (words ++ [[]])
    else if words.isEmpty then return [[]]
    else none
  else
    let copies := List.replicate (Nat.min min maxChoices) body
    let words ← copies.foldl joinWords? (some [[]])
    if words.isEmpty || (max = some min && min ≤ maxChoices) then return words
    none

mutual

/-- All words that match, if they are few, and if no group has to be remembered and no place tested.
-/
def words? : Regex → Option (List (List Char))
  | empty => some [[]]
  | literal word => fewWords? [word]
  | one members =>
    let size := (members.ranges.map fun r => r.last + 1 - r.first).foldl (· + ·) 0
    if size ≤ maxChoices then
      some (members.ranges.flatMap fun r =>
        (List.range (r.last + 1 - r.first)).map fun i => [Char.ofNat (r.first + i)])
    else none
  | repeated body min max _ => repeatedWords? body.words? min max
  | seq parts => wordsSeq? (some [[]]) parts
  | either branches => wordsEither? branches
  | check _ => none
  | capture _ => none

/-- Words of a sequence, given those of the parts before. -/
def wordsSeq? (before : Option (List (List Char))) : List Regex → Option (List (List Char))
  | [] => before
  | r :: rest => wordsSeq? (joinWords? before r.words?) rest

def wordsEither? : List Regex → Option (List (List Char))
  | [] => some []
  | r :: rest => do fewWords? ((← r.words?) ++ (← wordsEither? rest))

end

mutual

/-- Whether no group has to be remembered and no place tested. -/
def isPlain : Regex → Bool
  | check _ => false
  | capture _ => false
  | repeated body _ _ _ => body.isPlain
  | seq parts => isPlainAll parts
  | either branches => isPlainAll branches
  | _ => true

def isPlainAll : List Regex → Bool
  | [] => true
  | r :: rest => r.isPlain && isPlainAll rest

end

/-- Whether an expression is searched for as words: there is one, and none is empty. -/
def isWords (r : Regex) : Bool :=
  r.isPlain && r.words?.any fun words => !words.isEmpty && words.all fun w => !w.isEmpty

end SparqlExpr.Regex
