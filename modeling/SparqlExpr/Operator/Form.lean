import SparqlExpr.Eval.Monad
import SparqlExpr.Expr.Basic
import SparqlExpr.Operator.Basic
import SparqlExpr.Row

/-! The forms that decide themselves which of their arguments are evaluated. -/
namespace SparqlExpr

inductive Form where
  | bound
  | cond
  | coalesce
deriving DecidableEq, Repr

/-- An argument that is not evaluated yet. -/
structure Operand (σ : Type) where
  source : Expr
  run : EvalM σ Term

namespace Form

/-- Whether a variable has a term; nothing but a variable is accepted. -/
def isBound (row : Row) : Expr → EvalM σ Term
  | .var name => pure (.ofBool (row.contains name))
  | e => throw (.invalidArgument Operator.bound.name (.notVariable e.toText))

/-- The first success from left to right; after the last failure that one stands. -/
def firstSuccess (error : FilterError) : List (Operand σ) → EvalM σ Term
  | [] => throw error
  | x :: rest => tryCatch x.run fun error => firstSuccess error rest

/-- Evaluates a form under the operator that it is registered for. -/
def eval (form : Form) (operator : Operator) (row : Row) (operands : List (Operand σ)) :
    EvalM σ Term :=
  match form, operands with
  | bound, [x] => isBound row x.source
  | bound, xs => throw (.arityMismatch operator.name 1 xs.length)
  | cond, [condition, yes, no] => do
    let t ← condition.run
    if t.truth then yes.run else no.run
  | cond, xs => throw (.arityMismatch operator.name 3 xs.length)
  | coalesce, xs => firstSuccess (.arityMismatch operator.name 2 xs.length) xs

end Form

end SparqlExpr
