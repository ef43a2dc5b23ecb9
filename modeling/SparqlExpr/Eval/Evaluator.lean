import SparqlExpr.Eval.Compile
import SparqlExpr.Operator.Catalogue
import SparqlExpr.Random.Source

/-! Evaluators: a configuration and the registry that names are resolved against. -/
namespace SparqlExpr

structure Config where
  maxDepth : Nat := 256
  /-- The seed of the random source; without one it is not predictable. -/
  seed : Option UInt64 := none
deriving DecidableEq

structure Evaluator where
  config : Config
  registry : Registry

namespace Evaluator

def standard : Evaluator := ⟨{}, .standard⟩

def compiler (e : Evaluator) : Compiler :=
  ⟨e.registry, e.config.maxDepth⟩

/-- Compiles and evaluates at once. -/
def evalOnce [RandomSource σ] (e : Evaluator) (expr : Expr) (row : Row) : EvalM σ Term := do
  (← e.compiler.compile expr) row

/-- The configuration and the size of the registry in one line. -/
def describe (e : Evaluator) : String :=
  let seed := match e.config.seed with
    | some seed => "Some(" ++ toString seed ++ ")"
    | none => "None"
  let depth := toString e.config.maxDepth
  "FilterEvaluator \x7b config: EvaluatorConfig \x7b max_depth: " ++ depth ++ ", rng_seed: " ++ seed
    ++ " \x7d, compiler: Compiler \x7b operators: " ++ toString e.registry.size ++ ", max_depth: "
    ++ depth ++ ", .. \x7d \x7d"

end Evaluator

end SparqlExpr
