import SparqlExpr.Expr.Basic
import SparqlExpr.Json.Basic

/-! The JSON form of expressions: a string is a leaf, an object with `operator` and `args` an
operation. -/
namespace SparqlExpr.Expr

mutual

/-- Decodes a tree; the error is the first node of another shape. -/
def ofJson : Json → Except Json Expr
  | .string text => .ok (ofText text)
  | .object members =>
    match Json.find? "operator" members, ofArgs members with
    | some (.string operator), some args => do return call operator (← args)
    | _, _ => .error (.object members)
  | node => .error node

/-- Decodes the arguments among an operation's members, if they are an array. -/
def ofArgs : List (String × Json) → Option (Except Json (List Expr))
  | [] => none
  | (key, value) :: rest =>
    if key = "args" then
      match value with
      | .array items => some (ofJsonList items)
      | _ => none
    else ofArgs rest

def ofJsonList : List Json → Except Json (List Expr)
  | [] => .ok []
  | node :: rest => do
    let e ← ofJson node
    let es ← ofJsonList rest
    return e :: es

end

mutual

def toJson : Expr → Json
  | const t => .string t.text
  | var name => .string name
  | call operator args =>
    .object [("args", .array (toJsonList args)), ("operator", .string operator)]

def toJsonList : List Expr → List Json
  | [] => []
  | e :: es => e.toJson :: toJsonList es

end

end SparqlExpr.Expr
