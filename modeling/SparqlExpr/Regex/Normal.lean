import SparqlExpr.Regex.Basic

/-! Building regular expressions in a normal form: sequences and alternatives are flat, neighbouring
characters form one literal, and alternatives that are characters or sets form one set. -/
namespace SparqlExpr.Regex

mutual

/-- Whether two expressions are built alike. Every group is different from any other. -/
def same : Regex → Regex → Bool
  | empty, empty => true
  | literal s, literal t => s == t
  | one a, one b => a == b
  | check a, check b => a == b
  | repeated r min max greedy, repeated s min' max' greedy' =>
    r.same s && min == min' && max == max' && greedy == greedy'
  | seq parts, seq parts' => sameList parts parts'
  | either branches, either branches' => sameList branches branches'
  | _, _ => false

def sameList : List Regex → List Regex → Bool
  | [], [] => true
  | r :: rs, s :: ss => r.same s && sameList rs ss
  | _, _ => false

end

mutual

/-- The number of expressions inside of an expression, itself included. -/
def size : Regex → Nat
  | repeated body _ _ _ => body.size + 1
  | capture body => body.size + 1
  | seq parts => sizeList parts + 1
  | either branches => sizeList branches + 1
  | _ => 1

def sizeList : List Regex → Nat
  | [] => 0
  | r :: rest => r.size + sizeList rest

end

/-- One character of a set; a set with one member is that character. -/
def ofSet (members : Unicode.CodeSet) : Regex :=
  match members.single? with
  | some c => literal [c]
  | none => one members

/-- A repetition. What matches the empty text only need not be repeated. -/
def ofRepetition (body : Regex) (min : Nat) (max : Option Nat) (greedy : Bool) : Regex :=
  let (min, max) :=
    if body.maxLength = some 0 then (Nat.min min 1, some (max.elim 1 (Nat.min 1)))
    else (min, max)
  if min = 0 ∧ max = some 0 then empty
  else if min = 1 ∧ max = some 1 then body
  else repeated body min max greedy

/-- The parts of a sequence, or the expression itself. -/
def parts : Regex → List Regex
  | empty => []
  | seq parts => parts
  | r => [r]

/-- Puts a part before others; two literals become one. -/
def prepend : Regex → List Regex → List Regex
  | literal s, literal t :: rest => literal (s ++ t) :: rest
  | r, rest => r :: rest

def ofParts (items : List Regex) : Regex :=
  match (items.flatMap parts).foldr prepend [] with
  | [] => empty
  | [r] => r
  | parts => seq parts

/-- The branches of alternatives, or the expression itself. -/
def branches : Regex → List Regex
  | either branches => branches
  | r => [r]

/-- The character of a literal that has just one. -/
def character? : Regex → Option Char
  | literal [c] => some c
  | _ => none

/-- The set of an expression that is one. -/
def set? : Regex → Option Unicode.CodeSet
  | one members => some members
  | _ => none

/-- The length of the common start of two lists of parts. -/
def commonLength : List Regex → List Regex → Nat
  | r :: rs, s :: ss => if r.same s then commonLength rs ss + 1 else 0
  | _, _ => 0

/-- How many parts all branches have in common at their start. All of them must be sequences. -/
def commonStart : List Regex → Nat
  | [seq parts] => parts.length
  | seq parts :: rest =>
    match rest with
    | seq next :: _ => Nat.min (commonLength parts next) (commonStart rest)
    | _ => 0
  | _ => 0

/-- Alternatives from flat branches. A common start is put before them, and what is left is
simplified again; `fuel` bounds how often. -/
def ofFlatBranches : Nat → List Regex → Regex
  | _, [] => never
  | _, [r] => r
  | fuel, flat =>
    match flat.mapM character? with
    | some characters => ofSet (.ofCodes (characters.map (·.toNat)))
    | none =>
      match flat.mapM set? with
      | some sets => ofSet (.unionAll sets)
      | none =>
        match fuel, commonStart flat with
        | 0, _ | _, 0 => either flat
        | fuel + 1, common =>
          let start := (flat.headD empty).parts.take common
          let rest := flat.map fun branch => ofParts (branch.parts.drop common)
          ofParts (start ++ [ofFlatBranches fuel (rest.flatMap branches)])

def ofBranches (items : List Regex) : Regex :=
  let flat := items.flatMap branches
  ofFlatBranches (sizeList flat) flat

end SparqlExpr.Regex
