import SparqlExpr.Error.Basic
import SparqlExpr.Expr.Json
import SparqlExpr.Json.Printer
import SparqlExpr.Json.Reader

/-! Expressions as JSON values and texts. -/
namespace SparqlExpr

/-- Why a text is no expression. -/
inductive SourceError where
  /-- The text is not JSON. -/
  | malformed
  /-- The text opens with a JSON value that holds a node of another shape. -/
  | shape (node : Json)

namespace Expr

/-- Decodes a tree; the error shows the first node of another shape as it is printed. -/
def decodeBy (print : Json → String) (node : Json) : Except FilterError Expr :=
  (ofJson node).mapError fun node => .unsupportedExpression (print node)

def decode : Json → Except FilterError Expr := decodeBy Json.compact

/-- Reads an expression. The first value of the text is decoded before anything behind it is looked
at, so a node of another shape is reported even if more text follows. -/
def ofSource (text : String) : Except SourceError Expr :=
  match Json.readFront? Json.defaultDepth text.toList with
  | none => .error .malformed
  | some (value, rest) =>
    match ofJson value with
    | .error node => .error (.shape node)
    | .ok e => if (Json.skipBlanks rest).isEmpty then .ok e else .error .malformed

/-- Writes an expression. -/
def toSource (e : Expr) : String :=
  e.toJson.compact

end Expr

end SparqlExpr
