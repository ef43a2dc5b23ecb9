import SparqlExpr.Operator.Implementation
import SparqlExpr.Proofs.Outcome

/-! What implementations return: a relation between the values that they are called with and the one
that they come to, which says nothing about failing calls. -/
namespace SparqlExpr

variable {σ : Type}

theorem Value.toTerm_eq_ok {op : String} {v : Value} {t : Term} (h : v.toTerm op = .ok t) :
    v = .term t := by
  cases v with
  | term s => cases h; rfl
  | number x => cases h
  | boolean b => cases h

theorem Value.toLiteral_eq_ok {op : String} {v : Value} {l : Literal}
    (h : v.toLiteral op = .ok l) : ∃ t, v = .term t ∧ t.literal? = some l := by
  obtain ⟨t, ht, hl⟩ := bind_eq_ok h
  refine ⟨t, toTerm_eq_ok ht, ?_⟩
  cases hm : t.literal? with
  | none => rw [hm] at hl; cases hl
  | some m => rw [hm] at hl; cases hl; rfl

/-- Whatever an implementation returns is related to the values that it is called with. -/
def Implementation.Ensures (Q : List Value → Value → Prop) : Implementation → Prop
  | nullary (.double value) => ∀ x, Q [] (value x)
  | nullary (.uuid value) => ∀ u, Q [] (value u)
  | unary call => ∀ v w, call v = .ok w → Q [v] w
  | binary call => ∀ u v w, call u v = .ok w → Q [u, v] w
  | ternary call => ∀ t u v w, call t u v = .ok w → Q [t, u, v] w
  | raw .. | unsupported _ => True

theorem Implementation.Ensures.mono {Q Q' : List Value → Value → Prop} {i : Implementation}
    (h : i.Ensures Q) (hQ : ∀ args w, Q args w → Q' args w) : i.Ensures Q' := by
  match i with
  | .nullary (.double _) => exact fun x => hQ _ _ (h x)
  | .nullary (.uuid _) => exact fun u => hQ _ _ (h u)
  | .unary _ => exact fun v w hw => hQ _ _ (h v w hw)
  | .binary _ => exact fun u v w hw => hQ _ _ (h u v w hw)
  | .ternary _ => exact fun t u v w hw => hQ _ _ (h t u v w hw)
  | .raw .. | .unsupported _ => trivial

/-- A call with another number of values than the implementation takes returns nothing. -/
theorem Implementation.Ensures.of_invoke [RandomSource σ] {Q : List Value → Value → Prop}
    {i : Implementation} (h : i.Ensures Q) {op : Operator} {args : List Value} {w : Value}
    {s s' : σ} (hw : (i.invoke op args).runFrom s = (.ok w, s')) : Q args w := by
  match i, args with
  | .nullary (.double value), [] => cases hw; exact h _
  | .nullary (.uuid value), [] => cases hw; exact h _
  | .unary call, [v] => exact h v w (congrArg Prod.fst hw)
  | .binary call, [u, v] => exact h u v w (congrArg Prod.fst hw)
  | .ternary call, [t, u, v] => exact h t u v w (congrArg Prod.fst hw)
  | .nullary _, _ :: _ | .unary _, [] | .unary _, _ :: _ :: _ => cases hw
  | .binary _, [] | .binary _, [_] | .binary _, _ :: _ :: _ :: _ => cases hw
  | .ternary _, [] | .ternary _, [_] | .ternary _, [_, _] => cases hw
  | .ternary _, _ :: _ :: _ :: _ :: _ => cases hw
  | .raw .., _ | .unsupported _, _ => cases hw

end SparqlExpr
