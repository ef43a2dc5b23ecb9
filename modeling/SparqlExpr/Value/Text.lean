import SparqlExpr.Double.Text
import SparqlExpr.Text.Quoted
import SparqlExpr.Value.Basic

/-! Values as they are shown in messages. -/
namespace SparqlExpr.Value

/-- Numbers from 1e-4 up to 1e16 are written in place, with a fraction even if it is zero. -/
def numberStyle : Double.Style :=
  { tie := .up, inPlace := fun point => -4 < point && point ≤ 16,
    wholeFraction := true, plus := false }

def numberText : Double → String
  | .nan => "NaN"
  | .infinity negative => if negative then "-inf" else "inf"
  | .finite negative units _ =>
    (if negative then "-" else "") ++ String.ofList (numberStyle.magnitude units)

/-- The kind of a value and its content. -/
def toText : Value → String
  | term t => "Term(" ++ Text.quoted t.text ++ ")"
  | number x => "Number(" ++ numberText x ++ ")"
  | boolean b => "Boolean(" ++ (if b then "true" else "false") ++ ")"

end SparqlExpr.Value
