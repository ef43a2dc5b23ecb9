import SparqlExpr.Term.Basic

/-! One solution row: the terms that variables are bound to. -/
namespace SparqlExpr

/-- Bindings of variable names, the question mark included; the first entry of a name counts. -/
structure Row where
  entries : List (String × Term)
deriving DecidableEq, Repr, Inhabited

namespace Row

def empty : Row := ⟨[]⟩

def ofList (entries : List (String × Term)) : Row := ⟨entries⟩

/-- The term bound to a variable. -/
def get? (r : Row) (name : String) : Option Term :=
  r.entries.lookup name

def contains (r : Row) (name : String) : Bool :=
  (r.get? name).isSome

def erase (r : Row) (name : String) : Row :=
  ⟨r.entries.filter fun entry => entry.1 != name⟩

/-- Binds a variable, whatever it was bound to before. -/
def set (r : Row) (name : String) (t : Term) : Row :=
  ⟨(name, t) :: (r.erase name).entries⟩

theorem get?_erase (r : Row) (name other : String) :
    (r.erase name).get? other = if other = name then none else r.get? other := by
  obtain ⟨entries⟩ := r
  simp only [get?, erase]
  induction entries with
  | nil => simp
  | cons entry rest ih =>
    obtain ⟨key, t⟩ := entry
    by_cases hk : key = name <;> by_cases ho : other = key <;> grind

theorem get?_set (r : Row) (name other : String) (t : Term) :
    (r.set name t).get? other = if other = name then some t else r.get? other := by
  have h := get?_erase r name other
  simp only [get?, set] at h ⊢
  by_cases ho : other = name <;> grind

end Row

end SparqlExpr
