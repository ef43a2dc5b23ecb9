import SparqlExpr.Operator.Coercion
import SparqlExpr.Operator.Implementation

/-! Registries: for each operator, how it is called. -/
namespace SparqlExpr

/-- How an operator is called. -/
structure Descriptor where
  argument : Coercion
  result : Coercion
  /-- Whether arguments are handed over unevaluated. -/
  raw : Bool
  implementation : Implementation

def Descriptor.arity (d : Descriptor) : Nat :=
  d.implementation.arity

structure Registry where
  get? : Operator → Option Descriptor

namespace Registry

def empty : Registry := ⟨fun _ => none⟩

/-- Puts a descriptor in, whatever was there before. -/
def insert (r : Registry) (operator : Operator) (d : Descriptor) : Registry :=
  ⟨fun op => if op = operator then some d else r.get? op⟩

/-- Registers an operator on values. -/
def register (r : Registry) (operator : Operator) (argument result : Coercion)
    (implementation : Implementation) : Registry :=
  r.insert operator { argument, result, raw := false, implementation }

/-- Registers an operator on unevaluated arguments. -/
def registerRaw (r : Registry) (operator : Operator) (implementation : Implementation) :
    Registry :=
  r.insert operator { argument := .asIs, result := .asIs, raw := true, implementation }

/-- Registers a name that cannot be called. -/
def unsupported (r : Registry) (operator : Operator) (arity : Nat) : Registry :=
  r.insert operator
    { argument := .asIs, result := .asIs, raw := false, implementation := .unsupported arity }

/-- The registered operators with their descriptors, in catalogue order. -/
def toList (r : Registry) : List (Operator × Descriptor) :=
  Operator.all.filterMap fun op => (r.get? op).map fun d => (op, d)

def size (r : Registry) : Nat :=
  r.toList.length

/-- Finds an operator by the name that an expression uses. -/
def resolve (r : Registry) (name : String) : Except FilterError (Operator × Descriptor) :=
  match Operator.ofName? name with
  | none => .error (.unsupportedOperator name)
  | some op =>
    match r.get? op with
    | none => .error (.unsupportedOperator name)
    | some d => .ok (op, d)

/-- Resolves a name that is about to be called: stubs are refused first, then a wrong number of
arguments. -/
def check (r : Registry) (name : String) (actual : Nat) :
    Except FilterError (Operator × Descriptor) := do
  let (op, d) ← r.resolve name
  if d.implementation.isUnsupported then throw (.unsupportedOperator name)
  if actual ≠ d.arity then throw (.arityMismatch name d.arity actual)
  return (op, d)

end Registry

end SparqlExpr
