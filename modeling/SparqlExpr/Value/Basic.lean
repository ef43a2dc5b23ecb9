import SparqlExpr.Double.Basic
import SparqlExpr.Term.Basic

/-! Values that operators take and return: terms as they are, numbers and truth values. -/
namespace SparqlExpr

inductive Value where
  | term (t : Term)
  | number (x : Double)
  | boolean (b : Bool)
deriving DecidableEq

/-- The three kinds of value. -/
inductive ValueKind where
  | term
  | number
  | boolean
deriving DecidableEq, Repr

namespace Value

def term? : Value → Option Term
  | term t => some t
  | _ => none

def number? : Value → Option Double
  | number x => some x
  | _ => none

def boolean? : Value → Option Bool
  | boolean b => some b
  | _ => none

/-- Numbers are true unless they are zero or NaN; terms have their own truth. -/
def truth : Value → Bool
  | term t => t.truth
  | number x => !x.isZero && !x.isNaN
  | boolean b => b

/-- Equality with numbers compared as numbers. -/
def equals : Value → Value → Bool
  | term s, term t => s == t
  | number x, number y => x.equals y
  | boolean a, boolean b => a == b
  | _, _ => false

end Value

end SparqlExpr
