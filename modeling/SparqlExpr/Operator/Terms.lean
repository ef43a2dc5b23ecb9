import SparqlExpr.Operator.Implementation

/-! Operators that look at terms or make them. -/
namespace SparqlExpr.Terms

/-- A test of a term. -/
def test (op : Operator) (f : Term → Bool) : Implementation :=
  .unary fun v => do return .boolean (f (← v.toTerm op.name))

def isIri : Implementation := test .isIri Term.isIri
def isBlank : Implementation := test .isBlank Term.isBlank
def isLiteral : Implementation := test .isLiteral Term.isLiteral
def isNumeric : Implementation := test .isNumeric Term.isNumeric

def sameTerm : Implementation :=
  .binary fun v w => do
    let s ← v.toTerm Operator.sameTerm.name
    let t ← w.toTerm Operator.sameTerm.name
    return .boolean (s == t)

/-- The text of an IRI or the lexical form of a literal, as a simple literal. -/
def str : Implementation :=
  .unary fun v => do
    let t ← v.toTerm Operator.str.name
    if t.isIri then return .term (.simple t.text)
    else return .term (.simple (← v.toLiteral Operator.str.name).lexical)

/-- The language tag of a literal, empty if it has none. -/
def lang : Implementation :=
  .unary fun v => do
    let l ← v.toLiteral Operator.lang.name
    return .term (.simple (l.kind.language?.getD ""))

/-- The datatype that a literal denotes. -/
def datatype : Implementation :=
  .unary fun v => do return .term ⟨(← v.toLiteral Operator.datatype.name).kind.datatype⟩

/-- An IRI as it is, or the one that a plain literal spells. -/
def toIri (op : Operator) : Implementation :=
  .unary fun v => do
    let t ← v.toTerm op.name
    if t.isIri then return .term t
    else match t.literal? with
      | some l =>
        if t.isPlain then return .term ⟨l.lexical⟩
        else throw (.invalidArgument op.name (.notIriNorSimple t))
      | none => throw (.invalidArgument op.name (.notIriNorSimple t))

def iri : Implementation := toIri .iri
def uri : Implementation := toIri .uri

/-- The lexical form of a plain literal. -/
def plainLexical (op : Operator) (t : Term) : Except FilterError String :=
  match t.literal? with
  | some l => if t.isPlain then .ok l.lexical else .error (.invalidArgument op.name (.notSimple t))
  | none => .error (.invalidArgument op.name (.notSimple t))

/-- A plain literal with a datatype added. -/
def strDt : Implementation :=
  .binary fun v w => do
    let t ← v.toTerm Operator.strDt.name
    let datatype ← w.toTerm Operator.strDt.name
    let lexical ← plainLexical .strDt t
    if datatype.isIri then return .term (.typed lexical datatype.text)
    else throw (.invalidArgument Operator.strDt.name (.notIri datatype))

/-- A plain literal with a language tag added. -/
def strLang : Implementation :=
  .binary fun v w => do
    let t ← v.toTerm Operator.strLang.name
    let _ ← w.toTerm Operator.strLang.name
    let lexical ← plainLexical .strLang t
    let tag := (← w.toLiteral Operator.strLang.name).lexical
    if tag = "" then throw (.invalidArgument Operator.strLang.name .emptyTag)
    else return .term (.tagged lexical tag)

/-- A fresh identifier as an IRI. -/
def uuid : Implementation :=
  .nullary (.uuid fun u => .term ⟨"urn:uuid:" ++ u.toText⟩)

/-- A fresh identifier as a simple literal. -/
def strUuid : Implementation :=
  .nullary (.uuid fun u => .term (.simple u.toText))

end SparqlExpr.Terms
