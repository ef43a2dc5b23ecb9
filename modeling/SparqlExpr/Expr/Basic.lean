import SparqlExpr.Term.Basic

/-! Expression trees: constants, variables and operations on ordered arguments. -/
namespace SparqlExpr

/-- A filter expression. A variable's name includes its question mark. -/
inductive Expr where
  | const (term : Term)
  | var (name : String)
  | call (operator : String) (args : List Expr)
deriving Repr, Inhabited

namespace Expr

mutual

def decEq : (d e : Expr) → Decidable (d = e)
  | const s, const t => decidable_of_iff (s = t) (by simp)
  | var m, var n => decidable_of_iff (m = n) (by simp)
  | call f ds, call g es =>
    have : Decidable (ds = es) := decEqList ds es
    decidable_of_iff (f = g ∧ ds = es) (by simp)
  | const _, var _ | const _, call _ _ | var _, const _ | var _, call _ _
  | call _ _, const _ | call _ _, var _ => isFalse (by simp)

def decEqList : (ds es : List Expr) → Decidable (ds = es)
  | [], [] => isTrue rfl
  | d :: ds, e :: es =>
    have : Decidable (d = e) := decEq d e
    have : Decidable (ds = es) := decEqList ds es
    decidable_of_iff (d = e ∧ ds = es) (by simp)
  | [], _ :: _ | _ :: _, [] => isFalse (by simp)

end

instance : DecidableEq Expr := decEq

/-- Names starting with a question mark are variables. -/
def isVariableName (text : String) : Bool :=
  text.toList.head? == some '?'

/-- A variable by name, the question mark added if it is missing. -/
def ofName (name : String) : Expr :=
  var (if isVariableName name then name else "?" ++ name)

/-- The leaf that a text stands for. -/
def ofText (text : String) : Expr :=
  if isVariableName text then var text else const ⟨text⟩

/-- The operator name of an operation. -/
def operator? : Expr → Option String
  | call operator _ => some operator
  | _ => none

mutual

/-- Levels of nesting; a leaf has one. -/
def depth : Expr → Nat
  | const _ => 1
  | var _ => 1
  | call _ args => 1 + depthList args

/-- The greatest depth in a list. -/
def depthList : List Expr → Nat
  | [] => 0
  | e :: es => max e.depth (depthList es)

end

mutual

/-- Adds the variables of a tree that were not seen before. -/
def collectVariables (seen : List String) : Expr → List String
  | const _ => seen
  | var name => if seen.contains name then seen else seen ++ [name]
  | call _ args => collectVariablesList seen args

def collectVariablesList (seen : List String) : List Expr → List String
  | [] => seen
  | e :: es => collectVariablesList (collectVariables seen e) es

end

/-- Every variable name once, by first occurrence from left to right. -/
def variableNames (e : Expr) : List String :=
  e.collectVariables []

mutual

/-- Leaves as they are, operations as `name(first, second)`. -/
def toText : Expr → String
  | const t => t.text
  | var name => name
  | call operator args => operator ++ "(" ++ toTextList args ++ ")"

def toTextList : List Expr → String
  | [] => ""
  | [e] => e.toText
  | e :: es => e.toText ++ ", " ++ toTextList es

end

end Expr

end SparqlExpr
