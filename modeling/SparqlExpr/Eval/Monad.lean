import SparqlExpr.Error.Basic
import SparqlExpr.Random.Basic

/-! Evaluation: a result or an error, and in both cases the state that the draws have reached. -/
namespace SparqlExpr

abbrev EvalM (σ : Type) := ExceptT FilterError (StateM σ)

namespace EvalM

/-- Runs from a state of the random source. -/
def runFrom (x : EvalM σ α) (state : σ) : Except FilterError α × σ :=
  x.run state

end EvalM

end SparqlExpr
