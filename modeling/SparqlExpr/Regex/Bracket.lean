import SparqlExpr.Regex.Escape

/-! Bracketed classes: unions of characters, ranges and named classes, combined by set operators. -/
namespace SparqlExpr.Regex

open Unicode (CodeRange CodeSet)

inductive SetOperator where
  | inter
  | diff
  | symmDiff
deriving DecidableEq, Repr

def SetOperator.apply : SetOperator → CodeSet → CodeSet → CodeSet
  | inter => CodeSet.inter
  | diff => CodeSet.diff
  | symmDiff => CodeSet.symmDiff

/-- A class and the depth of nesting in its notation. -/
structure Bracket where
  members : CodeSet
  height : Nat

namespace Bracket

/-- What has been read of a class: the items since the last operator, and what stands before it. -/
structure Partial where
  /-- The ranges of the items, in no order. -/
  ranges : List CodeRange := []
  /-- The greatest depth of the items. -/
  height : Nat := 0
  items : Nat := 0
  left : Option (SetOperator × Bracket) := none
  /-- Whether hyphens and a closing bracket still stand for themselves. -/
  fresh : Bool := true

namespace Partial

def add (p : Partial) (item : Bracket) : Partial :=
  { p with
    ranges := item.members.ranges ++ p.ranges
    height := Nat.max p.height item.height
    items := p.items + 1
    fresh := false }

/-- The class read so far; operators group from the left. -/
def value (flags : Flags) (p : Partial) : Bracket :=
  let members := CodeSet.ofRanges p.ranges
  let height := if p.items < 2 then p.height else p.height + 1
  match p.left with
  | none => ⟨members, height⟩
  | some (op, left) =>
    ⟨op.apply (CharClass.caseClosure flags left.members) (CharClass.caseClosure flags members),
      Nat.max left.height height + 1⟩

def operate (flags : Flags) (op : SetOperator) (p : Partial) : Partial :=
  { left := some (op, p.value flags), fresh := false }

end Partial

/-- A class with one member or with the characters of a range. -/
def span (first last : Char) : Bracket :=
  ⟨⟨[⟨first.toNat, last.toNat⟩]⟩, 0⟩

/-- A character as a member; patterns on bytes have ASCII members only. -/
def member? (flags : Flags) (c : Char) : Option Char :=
  if flags.unicode || c.toNat < 0x80 then some c else none

/-- A character, or an escape that stands for a character or a class. -/
def readAtom? (flags : Flags) : List Char → Option (Atom × List Char)
  | [] => none
  | '\\' :: rest => Escape.read? flags rest
  | c :: rest => some (.literal c false, rest)

/-- The literal character of an atom. -/
def literal? (flags : Flags) : Atom → Option Char
  | .literal c _ => member? flags c
  | _ => none

/-- An item: a range, or a single character or class. A hyphen before the closing bracket or another
hyphen makes no range. -/
def readItem? (flags : Flags) (text : List Char) : Option (Bracket × List Char) := do
  let (atom, rest) ← readAtom? flags text
  let alone : Option (Bracket × List Char) :=
    match atom with
    | .cls members => some (⟨members, 0⟩, rest)
    | atom => (literal? flags atom).map fun c => (span c c, rest)
  match flags.skip rest with
  | '-' :: behind =>
    if flags.peek? behind = some ']' ∨ flags.peek? behind = some '-' then alone
    else
      let (last, rest) ← readAtom? flags (flags.skip behind)
      let first ← literal? flags atom
      let last ← literal? flags last
      if last < first then none else some (span first last, rest)
  | _ => alone

/-- A named class behind its opening bracket, if there is one. It may turn out to be refused. -/
def readPosix? (flags : Flags) (text : List Char) : Option (Option Bracket × List Char) :=
  match text with
  | ':' :: rest =>
    let (negated, rest) := match rest with
      | '^' :: rest => (true, rest)
      | rest => (false, rest)
    match rest.span (· != ':') with
    | (name, ':' :: ']' :: rest) =>
      (CharClass.posix? (String.ofList name)).map fun members =>
        ((CharClass.finish? flags negated members).map fun members => ⟨members, 0⟩, rest)
    | _ => none
  | _ => none

/-- Whether a class is negated, behind its opening bracket. -/
def readNegation (flags : Flags) (text : List Char) : Bool × List Char :=
  match flags.skip text with
  | '^' :: rest => (true, rest)
  | rest => (false, rest)

/-- A class in brackets, given what it holds. -/
def enclose? (flags : Flags) (negated : Bool) (inner : Bracket) : Option Bracket :=
  (CharClass.finish? flags negated inner.members).map fun members => ⟨members, inner.height + 1⟩

/-- Reads items up to the closing bracket. -/
def readItems? (flags : Flags) : Nat → Partial → List Char → Option (Bracket × List Char)
  | 0, _, _ => none
  | fuel + 1, p, text =>
    match p.fresh, flags.skip text with
    | _, [] => none
    | true, '-' :: rest => readItems? flags fuel { p.add (span '-' '-') with fresh := true } rest
    | fresh, ']' :: rest =>
      if fresh && p.items = 0 then readItems? flags fuel (p.add (span ']' ']')) rest
      else some (p.value flags, rest)
    | _, '[' :: rest =>
      match readPosix? flags rest with
      | some (some item, rest) => readItems? flags fuel (p.add item) rest
      | some (none, _) => none
      | none =>
        let (negated, rest) := readNegation flags rest
        match readItems? flags fuel {} rest with
        | none => none
        | some (inner, rest) =>
          match enclose? flags negated inner with
          | some item => readItems? flags fuel (p.add item) rest
          | none => none
    | _, '&' :: '&' :: rest => readItems? flags fuel (p.operate flags .inter) rest
    | _, '-' :: '-' :: rest => readItems? flags fuel (p.operate flags .diff) rest
    | _, '~' :: '~' :: rest => readItems? flags fuel (p.operate flags .symmDiff) rest
    | _, rest =>
      match readItem? flags rest with
      | some (item, rest) => readItems? flags fuel (p.add item) rest
      | none => none

/-- Reads a class behind its opening bracket. -/
def read? (flags : Flags) (text : List Char) : Option (Bracket × List Char) := do
  let (negated, rest) := readNegation flags text
  let (inner, rest) ← readItems? flags (text.length + 1) {} rest
  return (← enclose? flags negated inner, rest)

end Bracket

end SparqlExpr.Regex
