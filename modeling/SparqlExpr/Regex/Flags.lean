import SparqlExpr.Unicode.WhiteSpace

/-! Flags of patterns, and the blanks and comments that one of them permits. -/
namespace SparqlExpr.Regex

/-- The settings a pattern is read under. A pattern starts with every one off but `unicode`. -/
structure Flags where
  caseless : Bool := false
  multiline : Bool := false
  dotAll : Bool := false
  swapGreed : Bool := false
  unicode : Bool := true
  crlf : Bool := false
  extended : Bool := false
deriving DecidableEq, Repr

namespace Flags

/-- Sets the flag of a letter. -/
def set? (flags : Flags) (value : Bool) : Char → Option Flags
  | 'i' => some { flags with caseless := value }
  | 'm' => some { flags with multiline := value }
  | 's' => some { flags with dotAll := value }
  | 'U' => some { flags with swapGreed := value }
  | 'u' => some { flags with unicode := value }
  | 'R' => some { flags with crlf := value }
  | 'x' => some { flags with extended := value }
  | _ => none

/-- Where a list of flags ends: in a flag item or in a group. -/
inductive End where
  | item
  | group
deriving DecidableEq, Repr

/-- Reads flag letters up to a closing parenthesis or a colon. No letter and no minus sign may come
twice, and a minus sign needs a letter behind it. -/
def read? (flags : Flags) (seen : List Char) :
    List Char → Option (Flags × List Char × End × List Char)
  | [] => none
  | c :: rest =>
    if c = ')' ∨ c = ':' then
      if seen.head? = some '-' then none
      else some (flags, seen, if c = ')' then .item else .group, rest)
    else if seen.contains c then none
    else if c = '-' then read? flags ('-' :: seen) rest
    else
      match flags.set? (!seen.contains '-') c with
      | some flags => read? flags (c :: seen) rest
      | none => none

/-- Drops white space and comments that run to the end of a line. -/
def skipExtended (inComment : Bool) : List Char → List Char
  | [] => []
  | c :: rest =>
    if inComment then skipExtended (c != '\n') rest
    else if Unicode.isWhiteSpace c then skipExtended false rest
    else if c = '#' then skipExtended true rest
    else c :: rest

/-- Drops what the flags make meaningless. -/
def skip (flags : Flags) (text : List Char) : List Char :=
  if flags.extended then skipExtended false text else text

theorem length_skipExtended_le (text : List Char) (inComment : Bool) :
    (skipExtended inComment text).length ≤ text.length := by
  induction text generalizing inComment with
  | nil => simp [skipExtended]
  | cons c rest ih =>
    simp only [skipExtended]
    split
    · exact Nat.le_succ_of_le (ih _)
    · split
      · exact Nat.le_succ_of_le (ih _)
      · split
        · exact Nat.le_succ_of_le (ih _)
        · exact Nat.le_refl _

/-- Nothing is added by dropping. -/
theorem length_skip_le (flags : Flags) (text : List Char) :
    (flags.skip text).length ≤ text.length := by
  unfold skip
  split
  · exact length_skipExtended_le text false
  · exact Nat.le_refl _

/-- Collects characters that pass a test up to the first one that does not. What the flags make
meaningless is dropped behind each of them. -/
def collect (flags : Flags) (test : Char → Bool) : List Char → List Char × List Char
  | [] => ([], [])
  | c :: rest =>
    if test c then
      let (more, rest) := collect flags test (flags.skip rest)
      (c :: more, rest)
    else ([], c :: rest)
termination_by text => text.length
decreasing_by exact Nat.lt_succ_of_le (length_skip_le flags rest)

/-- Collects characters up to a closing brace, which must be there. -/
def collectBraced? (flags : Flags) (text : List Char) : Option (List Char × List Char) :=
  match flags.collect (· != '\x7d') (flags.skip text) with
  | (inside, _ :: rest) => some (inside, rest)
  | (_, []) => none

/-- The first character that is neither white space nor the sign of a comment. -/
def firstSolid? (inComment : Bool) : List Char → Option Char
  | [] => none
  | c :: rest =>
    if Unicode.isWhiteSpace c then firstSolid? inComment rest
    else if !inComment && c == '#' then firstSolid? true rest
    else some c

/-- The character that follows, seen without reading on. Where white space may be dropped it is
passed over, and so is the sign of a comment but not what the comment says; if nothing else follows
it is the very next character. -/
def peek? (flags : Flags) (text : List Char) : Option Char :=
  if flags.extended then (firstSolid? false text).or text.head? else text.head?

end Flags

end SparqlExpr.Regex
