import SparqlExpr.Random.ChaCha

/-! The sources that an evaluator is given: a seeded stream, or a script that starts over at its
end. -/
namespace SparqlExpr

/-- Draws in the order of two lists, each with its own position. -/
structure Script where
  doubles : List Double
  uuids : List Uuid
  doublePosition : Nat := 0
  uuidPosition : Nat := 0
deriving DecidableEq

namespace Script

/-- The item at a position of the list repeated without end. -/
def cycle (items : List α) (position : Nat) (default : α) : α :=
  items.getD (position % items.length) default

instance : RandomSource Script where
  nextDouble s :=
    (cycle s.doubles s.doublePosition .zero, { s with doublePosition := s.doublePosition + 1 })
  nextUuid s :=
    (cycle s.uuids s.uuidPosition .nil, { s with uuidPosition := s.uuidPosition + 1 })

end Script

inductive Source where
  | seeded (stream : ChaCha.Stream)
  | scripted (script : Script)
deriving DecidableEq

namespace Source

def ofSeed (seed : UInt64) : Source :=
  seeded (.ofSeed seed)

instance : RandomSource Source where
  nextDouble
    | seeded s => let (x, s) := RandomSource.nextDouble s; (x, seeded s)
    | scripted s => let (x, s) := RandomSource.nextDouble s; (x, scripted s)
  nextUuid
    | seeded s => let (u, s) := RandomSource.nextUuid s; (u, seeded s)
    | scripted s => let (u, s) := RandomSource.nextUuid s; (u, scripted s)

end Source

end SparqlExpr
