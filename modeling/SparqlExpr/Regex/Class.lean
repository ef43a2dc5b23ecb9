import SparqlExpr.Regex.Flags
import SparqlExpr.Unicode.Case
import SparqlExpr.Unicode.Name

/-! Classes of characters in patterns. A pattern reads characters or, without the flag `u`, bytes,
whose classes must stay within ASCII. -/
namespace SparqlExpr.Regex

open Unicode (CodeSet)

namespace CharClass

def digits (unicode : Bool) : CodeSet :=
  if unicode then Unicode.Settled.decimalNumbers else ⟨[⟨0x30, 0x39⟩]⟩

def asciiSpaces : CodeSet := ⟨[⟨0x9, 0xd⟩, ⟨0x20, 0x20⟩]⟩

def spaces (unicode : Bool) : CodeSet :=
  if unicode then Unicode.whiteSpace else asciiSpaces

def asciiWord : CodeSet :=
  ⟨[⟨0x30, 0x39⟩, ⟨0x41, 0x5a⟩, ⟨0x5f, 0x5f⟩, ⟨0x61, 0x7a⟩]⟩

def wordCharacters (unicode : Bool) : CodeSet :=
  if unicode then Unicode.Settled.wordCharacters else asciiWord

/-- The named classes that stand in brackets and colons. -/
def posix? : String → Option CodeSet
  | "alnum" => some ⟨[⟨0x30, 0x39⟩, ⟨0x41, 0x5a⟩, ⟨0x61, 0x7a⟩]⟩
  | "alpha" => some ⟨[⟨0x41, 0x5a⟩, ⟨0x61, 0x7a⟩]⟩
  | "ascii" => some ⟨[⟨0, 0x7f⟩]⟩
  | "blank" => some ⟨[⟨0x9, 0x9⟩, ⟨0x20, 0x20⟩]⟩
  | "cntrl" => some ⟨[⟨0, 0x1f⟩, ⟨0x7f, 0x7f⟩]⟩
  | "digit" => some ⟨[⟨0x30, 0x39⟩]⟩
  | "graph" => some ⟨[⟨0x21, 0x7e⟩]⟩
  | "lower" => some ⟨[⟨0x61, 0x7a⟩]⟩
  | "print" => some ⟨[⟨0x20, 0x7e⟩]⟩
  | "punct" => some ⟨[⟨0x21, 0x2f⟩, ⟨0x3a, 0x40⟩, ⟨0x5b, 0x60⟩, ⟨0x7b, 0x7e⟩]⟩
  | "space" => some asciiSpaces
  | "upper" => some ⟨[⟨0x41, 0x5a⟩]⟩
  | "word" => some asciiWord
  | "xdigit" => some ⟨[⟨0x30, 0x39⟩, ⟨0x41, 0x46⟩, ⟨0x61, 0x66⟩]⟩
  | _ => none

/-- Adds what differs from a member in case only. -/
def caseClosure (flags : Flags) (members : CodeSet) : CodeSet :=
  if !flags.caseless then members
  else if flags.unicode then members.caseClosure
  else members.asciiCaseClosure

/-- Complements a class if it is negated. The complement of a class of bytes leaves ASCII. -/
def negateIf? (flags : Flags) (negated : Bool) (members : CodeSet) : Option CodeSet :=
  if !negated then some members
  else if flags.unicode then some members.complement
  else none

/-- Closes a class under case where that is asked for, then complements it if it is negated. -/
def finish? (flags : Flags) (negated : Bool) (members : CodeSet) : Option CodeSet :=
  negateIf? flags negated (caseClosure flags members)

end CharClass

end SparqlExpr.Regex
