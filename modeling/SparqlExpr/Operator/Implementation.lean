import SparqlExpr.Operator.Form

/-! Implementations of operators, shaped by the arguments that they take. -/
namespace SparqlExpr

/-- One draw from the random source and the value that it becomes. -/
inductive Draw where
  | double (value : Double → Value)
  | uuid (value : Uuid → Value)

/-- Takes the draw. -/
def Draw.run [RandomSource σ] : Draw → EvalM σ Value
  | double value => do return value (← modifyGet RandomSource.nextDouble)
  | uuid value => do return value (← modifyGet RandomSource.nextUuid)

inductive Implementation where
  | nullary (draw : Draw)
  | unary (call : Value → Except FilterError Value)
  | binary (call : Value → Value → Except FilterError Value)
  | ternary (call : Value → Value → Value → Except FilterError Value)
  /-- Takes its arguments unevaluated. -/
  | raw (arity : Nat) (form : Form)
  /-- Known by name and arity only. -/
  | unsupported (arity : Nat)

namespace Implementation

/-- The number of arguments. -/
def arity : Implementation → Nat
  | nullary _ => 0
  | unary _ => 1
  | binary _ => 2
  | ternary _ => 3
  | raw arity _ => arity
  | unsupported arity => arity

def isUnsupported : Implementation → Bool
  | unsupported _ => true
  | _ => false

/-- Calls with converted arguments; forms and stubs are never called with values. -/
def invoke [RandomSource σ] (i : Implementation) (operator : Operator) (args : List Value) :
    EvalM σ Value :=
  match i, args with
  | nullary draw, [] => draw.run
  | unary call, [a] => call a
  | binary call, [a, b] => call a b
  | ternary call, [a, b, c] => call a b c
  | raw _ _, _ => throw (.unsupportedOperator operator.name)
  | unsupported _, _ => throw (.unsupportedOperator operator.name)
  | i, args => throw (.arityMismatch operator.name i.arity args.length)

/-- The shape in one word, with the arity where the shape leaves it open. -/
def describe : Implementation → String
  | nullary _ => "Nullary"
  | unary _ => "Unary"
  | binary _ => "Binary"
  | ternary _ => "Ternary"
  | raw arity _ => "Raw(" ++ toString arity ++ ")"
  | unsupported arity => "Unsupported(" ++ toString arity ++ ")"

end Implementation

end SparqlExpr
