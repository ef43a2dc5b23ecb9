import SparqlExpr.Vocabulary

/-! RDF terms in their surface encoding, and the one reading of literals that every operator goes
through. -/
namespace SparqlExpr

/-- A term as text: an IRI, a blank node `_:b`, or a literal `"lexical"`, `"lexical"@tag`,
`"lexical"^^<datatype>`. Nothing in it is escaped. -/
structure Term where
  text : String
deriving DecidableEq, Repr, Inhabited

/-- What a literal carries beside its lexical form. -/
inductive LiteralKind where
  | simple
  | tagged (language : String)
  | typed (datatype : String)
deriving DecidableEq, Repr

structure Literal where
  lexical : String
  kind : LiteralKind
deriving DecidableEq, Repr

namespace LiteralKind

def language? : LiteralKind → Option String
  | tagged language => some language
  | _ => none

/-- The datatype that is written out, if one is. -/
def datatype? : LiteralKind → Option String
  | typed datatype => some datatype
  | _ => none

/-- The datatype that is meant, written out or not. -/
def datatype : LiteralKind → String
  | simple => Vocabulary.xsdString
  | tagged _ => Vocabulary.rdfLangString
  | typed datatype => datatype

end LiteralKind

/-- Splits at the last occurrence of a character, which belongs to neither part. -/
def splitAtLast (c : Char) (text : List Char) : Option (List Char × List Char) :=
  match text.reverse.span (· != c) with
  | (_, []) => none
  | (after, _ :: before) => some (before.reverse, after.reverse)

/-- Takes off one pair of angle brackets; text that lacks either one stays as it is. -/
def unbracket (iri : List Char) : List Char :=
  match iri with
  | '<' :: rest => if rest.getLast? = some '>' then rest.dropLast else iri
  | _ => iri

namespace LiteralKind

/-- Reads what follows the closing quote. -/
def ofSuffix? : List Char → Option LiteralKind
  | [] => some simple
  | '@' :: tag => some (tagged (String.ofList tag))
  | '^' :: '^' :: iri => some (typed (String.ofList (unbracket iri)))
  | _ => none

/-- What is written after the closing quote. -/
def suffix : LiteralKind → String
  | simple => ""
  | tagged language => "@" ++ language
  | typed datatype => "^^<" ++ datatype ++ ">"

end LiteralKind

namespace Term

/-- Reads a literal. The last quote closes it, so the lexical form may hold quotes. -/
def literal? (t : Term) : Option Literal :=
  match t.text.toList with
  | '"' :: body =>
    match splitAtLast '"' body with
    | some (lexical, suffix) =>
      (LiteralKind.ofSuffix? suffix).map fun kind => ⟨String.ofList lexical, kind⟩
    | none => none
  | _ => none

def ofLiteral (l : Literal) : Term :=
  ⟨"\"" ++ l.lexical ++ "\"" ++ l.kind.suffix⟩

def simple (lexical : String) : Term :=
  ofLiteral ⟨lexical, .simple⟩

def typed (lexical datatype : String) : Term :=
  ofLiteral ⟨lexical, .typed datatype⟩

def tagged (lexical language : String) : Term :=
  ofLiteral ⟨lexical, .tagged language⟩

def isLiteral (t : Term) : Bool :=
  t.literal?.isSome

def isBlank (t : Term) : Bool :=
  match t.text.toList with
  | '_' :: ':' :: _ => true
  | _ => false

/-- Anything but the empty text, a blank node and a text that opens with a quote. -/
def isIri (t : Term) : Bool :=
  match t.text.toList with
  | [] => false
  | '"' :: _ => false
  | _ => !t.isBlank

def lexical? (t : Term) : Option String :=
  t.literal?.map (·.lexical)

def language? (t : Term) : Option String :=
  t.literal?.bind (·.kind.language?)

/-- The datatype that a literal writes out. -/
def datatype? (t : Term) : Option String :=
  t.literal?.bind (·.kind.datatype?)

/-- The datatype that a literal denotes. -/
def effectiveDatatype? (t : Term) : Option String :=
  t.literal?.map (·.kind.datatype)

/-- A literal of datatype `xsd:string`, written out or not. -/
def isPlain (t : Term) : Bool :=
  t.effectiveDatatype? == some Vocabulary.xsdString

def isNumeric (t : Term) : Bool :=
  match t.datatype? with
  | some datatype => Vocabulary.numericDatatypes.contains datatype
  | none => false

/-- The kind of a literal; any other term counts as simple. -/
def kind (t : Term) : LiteralKind :=
  (t.literal?.map (·.kind)).getD .simple

/-- A literal with a new lexical form and the kind of this term. -/
def withLexical (t : Term) (lexical : String) : Term :=
  ofLiteral ⟨lexical, t.kind⟩

/-- The two terms that boolean results are written as. -/
def ofBool (value : Bool) : Term :=
  typed (if value then "true" else "false") Vocabulary.xsdBoolean

/-- Only the boolean literal `false` and literals with lexical form `0` are false; every other term
is true. -/
def truth (t : Term) : Bool :=
  match t.literal? with
  | some l =>
    !(l.lexical == "0" || (l.lexical == "false" && l.kind == .typed Vocabulary.xsdBoolean))
  | none => true

/-- Both are literals, and both have the same language tag or none. -/
def compatible (s t : Term) : Bool :=
  match s.literal?, t.literal? with
  | some l, some m => l.kind.language? == m.kind.language?
  | _, _ => false

end Term

end SparqlExpr
