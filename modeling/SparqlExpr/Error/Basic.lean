import SparqlExpr.Value.Basic

/-! The ways in which an expression is refused or fails. -/
namespace SparqlExpr

/-- What is wrong with an argument. -/
inductive Fault where
  | notLiteral (t : Term)
  | notNumeric (text : String)
  | notSimple (t : Term)
  | notIri (t : Term)
  | notIriNorSimple (t : Term)
  | notVariable (text : String)
  | emptyTag
  /-- What the compiler of patterns has to say. -/
  | badPattern (message : String)
  | wrongKind (expected : ValueKind) (got : Value)
deriving DecidableEq

inductive FilterError where
  /-- A tree node of another shape, as compact text. -/
  | unsupportedExpression (node : String)
  | unboundVariable (name : String)
  /-- An operator that is unknown, not registered or not implemented. -/
  | unsupportedOperator (name : String)
  | arityMismatch (operator : String) (expected actual : Nat)
  /-- Two literals whose language tags do not fit, or terms that are no literals. -/
  | incompatible (operator : String) (left right : Term)
  | invalidArgument (operator : String) (fault : Fault)
  | tooDeep (maxDepth : Nat)
deriving DecidableEq

namespace FilterError

/-- The operator that an error is about. -/
def operator? : FilterError → Option String
  | unsupportedOperator name => some name
  | arityMismatch operator _ _ => some operator
  | incompatible operator _ _ => some operator
  | invalidArgument operator _ => some operator
  | unsupportedExpression _ | unboundVariable _ | tooDeep _ => none

/-- Errors that arise before any row is seen. -/
def isStatic : FilterError → Bool
  | unsupportedExpression _ | unsupportedOperator _ | arityMismatch .. | tooDeep _ => true
  | unboundVariable _ | incompatible .. | invalidArgument .. => false

end FilterError

namespace Value

/-- The term that an operator asks for. -/
def toTerm (operator : String) : Value → Except FilterError Term
  | term t => .ok t
  | v => .error (.invalidArgument operator (.wrongKind .term v))

/-- The number that an operator asks for. -/
def toNumber (operator : String) : Value → Except FilterError Double
  | number x => .ok x
  | v => .error (.invalidArgument operator (.wrongKind .number v))

/-- The truth value that an operator asks for. -/
def toBoolean (operator : String) : Value → Except FilterError Bool
  | boolean b => .ok b
  | v => .error (.invalidArgument operator (.wrongKind .boolean v))

/-- The literal that an operator asks for. -/
def toLiteral (operator : String) (v : Value) : Except FilterError Literal := do
  let t ← v.toTerm operator
  match t.literal? with
  | some l => return l
  | none => throw (.invalidArgument operator (.notLiteral t))

end Value

end SparqlExpr
