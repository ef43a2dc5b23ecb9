import Mathlib.Data.List.AList
import SparqlExpr.Operator.Registry

/-! Registries as they are built and stored: a map from operators to entries, which repeat the
operator and say how many arguments it takes. -/
namespace SparqlExpr

/-- How an operator is called, as it is stored. -/
structure Entry extends Descriptor where
  operator : Operator
  arity : Nat

/-- Entries under operators, at most one under each. -/
abbrev Entries := AList fun _ : Operator => Entry

structure RegistryBuilder where
  entries : Entries

/-- A registry that is finished. -/
structure StoredRegistry where
  entries : Entries

namespace RegistryBuilder

def empty : RegistryBuilder := ⟨∅⟩

def insert (b : RegistryBuilder) (operator : Operator) (argument result : Coercion) (raw : Bool)
    (implementation : Implementation) : RegistryBuilder :=
  ⟨b.entries.insert operator
    { operator, arity := implementation.arity, argument, result, raw, implementation }⟩

/-- Registers an operator on values. -/
def register (b : RegistryBuilder) (operator : Operator) (argument result : Coercion)
    (implementation : Implementation) : RegistryBuilder :=
  b.insert operator argument result false implementation

/-- Registers an operator on unevaluated arguments. -/
def registerRaw (b : RegistryBuilder) (operator : Operator) (implementation : Implementation) :
    RegistryBuilder :=
  b.insert operator .asIs .asIs true implementation

/-- Registers a name that cannot be called. -/
def unsupported (b : RegistryBuilder) (operator : Operator) (arity : Nat) : RegistryBuilder :=
  b.insert operator .asIs .asIs false (.unsupported arity)

def build (b : RegistryBuilder) : StoredRegistry := ⟨b.entries⟩

end RegistryBuilder

namespace StoredRegistry

def get? (r : StoredRegistry) (operator : Operator) : Option Entry :=
  r.entries.lookup operator

/-- Finds an operator by the name that an expression uses. -/
def resolve (r : StoredRegistry) (name : String) : Except FilterError Entry :=
  match (Operator.ofName? name).bind r.get? with
  | some e => .ok e
  | none => .error (.unsupportedOperator name)

/-- The number of operators that are registered. -/
def size (r : StoredRegistry) : Nat :=
  r.entries.entries.length

/-- The entries in catalogue order. -/
def toList (r : StoredRegistry) : List Entry :=
  Operator.all.filterMap r.get?

/-- The registry that evaluation works with, where an operator is known from where it is found. -/
def toRegistry (r : StoredRegistry) : Registry :=
  ⟨fun op => (r.get? op).map Entry.toDescriptor⟩

end StoredRegistry

end SparqlExpr
