import SparqlExpr.Double.Text
import SparqlExpr.Error.Basic
import SparqlExpr.Operator.Basic

/-! Conversions between the terms of an expression and the values of an operator. -/
namespace SparqlExpr

inductive Coercion where
  /-- Terms pass unchanged. -/
  | asIs
  /-- Lexical forms are read as numbers, and numbers written back with a datatype. -/
  | numeric
  /-- Terms count as their truth values. -/
  | boolean
deriving DecidableEq, Repr

namespace Coercion

/-- Converts an evaluated argument. -/
def argument (c : Coercion) (operator : String) (t : Term) : Except FilterError Value :=
  match c with
  | asIs => .ok (.term t)
  | boolean => .ok (.boolean t.truth)
  | numeric =>
    match t.literal? with
    | none => .error (.invalidArgument operator (.notLiteral t))
    | some l =>
      match Double.ofLexical? l.lexical with
      | none => .error (.invalidArgument operator (.notNumeric t.text))
      | some x => .ok (.number x)

/-- The datatype of a numeric result: the one that the first argument writes out, or `xsd:integer`.
-/
def resultDatatype (first : Option Term) : String :=
  (first.bind (·.datatype?)).getD Vocabulary.xsdInteger

/-- Converts a returned value, given the first argument as it was before its own conversion. -/
def result (c : Coercion) (first : Option Term) (v : Value) : Term :=
  match v with
  | .term t => t
  | .number x =>
    match c with
    | numeric => .typed x.toLexical (resultDatatype first)
    | boolean => .ofBool v.truth
    | asIs => .typed x.toLexical Vocabulary.xsdDouble
  | .boolean b => .ofBool b

end Coercion

end SparqlExpr
