import SparqlExpr.Error.Basic
import SparqlExpr.Value.Text

/-! The wording of errors. -/
namespace SparqlExpr

def ValueKind.name : ValueKind → String
  | term => "term"
  | number => "number"
  | boolean => "boolean"

def Fault.message : Fault → String
  | notLiteral t => t.text ++ " is not a literal"
  | notNumeric text => text ++ " is not numeric"
  | notSimple t => t.text ++ " is not a simple literal"
  | notIri t => t.text ++ " is not an IRI"
  | notIriNorSimple t => t.text ++ " is neither an IRI nor a simple literal"
  | notVariable text => text ++ " is not a variable"
  | emptyTag => "language tag is empty"
  | badPattern message => "invalid pattern: " ++ message
  | wrongKind expected got => "expected a " ++ expected.name ++ ", got " ++ got.toText

def FilterError.message : FilterError → String
  | unsupportedExpression node => "Unsupported expression type: " ++ node
  | unboundVariable name => "Unbound variable: " ++ name
  | unsupportedOperator name => "Unsupported operator: " ++ name
  | arityMismatch operator expected actual =>
    "Arity mismatch: " ++ operator ++ " expects " ++ toString expected ++ " argument(s), got "
      ++ toString actual
  | incompatible operator left right =>
    "Incompatible arguments for " ++ operator ++ ": " ++ left.text ++ " and " ++ right.text
  | invalidArgument operator fault => "Invalid argument for " ++ operator ++ ": " ++ fault.message
  | tooDeep maxDepth => "Expression nesting exceeds maximum depth of " ++ toString maxDepth

end SparqlExpr
