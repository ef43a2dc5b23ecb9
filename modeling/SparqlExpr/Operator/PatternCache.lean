import SparqlExpr.Operator.Strings

/-! Searches that keep compiled patterns for later calls. -/
namespace SparqlExpr

/-- A store of compiled patterns. A look-up may change it as well. -/
structure PatternCache (ρ γ : Type) where
  empty : γ
  get : String → γ → Option ρ × γ
  put : String → ρ → γ → γ

/-- Compiled patterns in the order of their last use, the latest one first. -/
structure RecentPatterns (ρ : Type) (capacity : Nat) where
  entries : List (String × ρ)
  length_le : entries.length ≤ capacity

namespace RecentPatterns

def empty : RecentPatterns ρ capacity := ⟨[], Nat.zero_le capacity⟩

/-- Puts a pattern in front. Where there is no room for all, the last one is dropped. -/
def put (pattern : String) (r : ρ) (s : RecentPatterns ρ capacity) : RecentPatterns ρ capacity :=
  ⟨((pattern, r) :: s.entries.filter fun e => e.1 != pattern).take capacity,
    List.length_take_le capacity _⟩

/-- Finds a pattern, which counts as a use of it. -/
def get (pattern : String) (s : RecentPatterns ρ capacity) :
    Option ρ × RecentPatterns ρ capacity :=
  match s.entries.lookup pattern with
  | some r => (some r, s.put pattern r)
  | none => (none, s)

end RecentPatterns

/-- Keeps as many patterns as there is room for. -/
def PatternCache.recent (capacity : Nat) : PatternCache ρ (RecentPatterns ρ capacity) :=
  ⟨RecentPatterns.empty, RecentPatterns.get, RecentPatterns.put⟩

namespace Strings

/-- Searches a text for a pattern, which an engine compiles only if the cache does not have it. -/
def matchCached (engine : PatternEngine ρ) (cache : PatternCache ρ γ) (v w : Value) :
    EvalM γ Value := do
  let text ← v.toLiteral Operator.regex.name
  let pattern ← w.toLiteral Operator.regex.name
  match ← modifyGet (cache.get pattern.lexical) with
  | some r => return .boolean (engine.isMatch r text.lexical)
  | none =>
    match engine.compile pattern.lexical with
    | .ok r =>
      modify (cache.put pattern.lexical r)
      return .boolean (engine.isMatch r text.lexical)
    | .error message => throw (.invalidArgument Operator.regex.name (.badPattern message))

/-- The results of searches one after the other, and the cache that they leave. -/
def matchEach (engine : PatternEngine ρ) (cache : PatternCache ρ γ) :
    List (Value × Value) → γ → List (Except FilterError Value) × γ
  | [], s => ([], s)
  | (v, w) :: calls, s =>
    let (result, s) := (matchCached engine cache v w).runFrom s
    let (results, s) := matchEach engine cache calls s
    (result :: results, s)

end Strings

end SparqlExpr
