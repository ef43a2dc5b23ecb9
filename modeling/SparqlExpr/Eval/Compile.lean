import SparqlExpr.Operator.Registry

/-! Compiling: all names, arities and depths are checked before any row is seen. -/
namespace SparqlExpr

/-- What a compiled expression does with a row. -/
abbrev Evaluation (σ : Type) := Row → EvalM σ Term

/-- A registry and the deepest nesting that is accepted. -/
structure Compiler where
  registry : Registry
  maxDepth : Nat

namespace Compiler

/-- Refuses a node that stands too deep. -/
def checkDepth (c : Compiler) (depth : Nat) : Except FilterError Unit :=
  if c.maxDepth < depth then throw (.tooDeep c.maxDepth) else pure ()

mutual

/-- Checks a tree that stands at a depth, without building it. -/
def validate (c : Compiler) (depth : Nat) : Expr → Except FilterError Unit
  | .const _ => c.checkDepth depth
  | .var _ => c.checkDepth depth
  | .call name args => do
    c.checkDepth depth
    let _ ← c.registry.check name args.length
    c.validateList (depth + 1) args

def validateList (c : Compiler) (depth : Nat) : List Expr → Except FilterError Unit
  | [] => pure ()
  | e :: es => do
    c.validate depth e
    c.validateList depth es

end

/-- The term of a variable in a row. -/
def lookUp (name : String) : Evaluation σ := fun row =>
  match row.get? name with
  | some t => pure t
  | none => throw (.unboundVariable name)

/-- Evaluates arguments from left to right. -/
def evalAll (args : List (Evaluation σ)) (row : Row) : EvalM σ (List Term) :=
  args.mapM fun arg => arg row

/-- Calls an operator on values: all arguments are evaluated before the first is converted. -/
def callValue [RandomSource σ] (op : Operator) (d : Descriptor) (args : List (Evaluation σ)) :
    Evaluation σ := fun row => do
  let terms ← evalAll args row
  let values ← (terms.mapM fun t => d.argument.argument op.name t : Except FilterError _)
  let value ← d.implementation.invoke op values
  return d.result.result terms.head? value

/-- Calls a form on unevaluated arguments. -/
def callRaw (op : Operator) (d : Descriptor) (operands : Row → List (Operand σ)) : Evaluation σ :=
  fun row =>
    match d.implementation with
    | .raw _ form => form.eval op row (operands row)
    | _ => throw (.unsupportedOperator op.name)

mutual

/-- Builds the evaluation of a tree that stands at a depth. Raw arguments are only checked here and
built when they are run. -/
def build [RandomSource σ] (c : Compiler) (depth : Nat) : Expr → Except FilterError (Evaluation σ)
  | .const t => do
    c.checkDepth depth
    return fun _ => pure t
  | .var name => do
    c.checkDepth depth
    return lookUp name
  | .call name args => do
    c.checkDepth depth
    let (op, d) ← c.registry.check name args.length
    if d.raw then
      c.validateList (depth + 1) args
      return callRaw op d (c.operands (depth + 1) args)
    else
      return callValue op d (← c.buildList (depth + 1) args)

def buildList [RandomSource σ] (c : Compiler) (depth : Nat) :
    List Expr → Except FilterError (List (Evaluation σ))
  | [] => pure []
  | e :: es => do
    let first ← c.build depth e
    let rest ← c.buildList depth es
    return first :: rest

/-- Arguments that are built each time they are run. -/
def operands [RandomSource σ] (c : Compiler) (depth : Nat) (args : List Expr) (row : Row) :
    List (Operand σ) :=
  match args with
  | [] => []
  | e :: es => ⟨e, do (← c.build depth e) row⟩ :: c.operands depth es row

end

/-- Compiles a whole tree. -/
def compile [RandomSource σ] (c : Compiler) (e : Expr) : Except FilterError (Evaluation σ) :=
  c.build 1 e

end Compiler

/-- An expression with its evaluation; without an expression there is nothing to evaluate. -/
structure Compiled (σ : Type) where
  root? : Option (Expr × Evaluation σ)

namespace Compiled

def noop : Compiled σ := ⟨none⟩

def isNoop (p : Compiled σ) : Bool :=
  p.root?.isNone

def expr? (p : Compiled σ) : Option Expr :=
  p.root?.map (·.1)

/-- The term for a row; none for an absent expression. -/
def eval (p : Compiled σ) (row : Row) : EvalM σ (Option Term) :=
  match p.root? with
  | some (_, run) => do return some (← run row)
  | none => pure none

/-- The truth value for a row; an absent expression holds for every row. -/
def test (p : Compiled σ) (row : Row) : EvalM σ Bool := do
  match ← p.eval row with
  | some t => return t.truth
  | none => return true

/-- The results for all rows in order, each with its own outcome. -/
def evalAll (p : Compiled σ) (rows : List Row) :
    StateM σ (List (Except FilterError (Option Term))) :=
  rows.mapM fun row => (p.eval row).run

/-- The expression that was compiled, in brackets. -/
def describe (p : Compiled σ) : String :=
  "CompiledEvaluator(" ++ (match p.expr? with | some e => e.toText | none => "noop") ++ ")"

end Compiled

/-- Compiles an expression that may be absent. -/
def Compiler.compile? [RandomSource σ] (c : Compiler) :
    Option Expr → Except FilterError (Compiled σ)
  | some e => do return ⟨some (e, ← c.compile e)⟩
  | none => return .noop

end SparqlExpr
