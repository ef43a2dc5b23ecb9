import SparqlExpr.Proofs.Congruence

/-! Trees without draws: what they come to does not depend on the random source, and they leave it
as it is. -/
namespace SparqlExpr

/-- An implementation that takes a draw. -/
def Implementation.Draws : Implementation → Prop
  | nullary _ => True
  | unary _ | binary _ | ternary _ | raw .. | unsupported _ => False

/-- No operation in a tree takes a draw. -/
def Expr.Drawless (r : Registry) (e : Expr) : Prop :=
  ∀ name args, (call name args).Occurs e → ∀ op d, r.resolve name = .ok (op, d) →
    ¬d.implementation.Draws

/-- The operators that take a draw by default. -/
def Operator.drawing : List Operator :=
  [.rand, .uuid, .strUuid]

theorem mem_drawing_of_draws {op : Operator} (h : (Descriptor.standard op).implementation.Draws) :
    op ∈ Operator.drawing := by
  cases op with
  | rand | uuid | strUuid => decide
  | _ => exact h.elim

/-- In the standard registry, no call of a drawing operator means no draw. -/
theorem Expr.drawless_standard {e : Expr} (h : ∀ op ∈ Operator.drawing, ¬e.Calls op) :
    e.Drawless .standard := by
  intro name args ho op d hres hdraws
  obtain ⟨hop, rfl⟩ := Registry.resolve_standard hres
  exact h op (mem_drawing_of_draws hdraws) ⟨name, args, ho, hop⟩

section Evaluation
variable {σ σ' : Type} [RandomSource σ] [RandomSource σ'] {r : Registry} {row row' : Row}

theorem invoke_eq_of_not_draws {i : Implementation} (h : ¬i.Draws) (op : Operator)
    (values : List Value) : ∃ x, ∀ (σ : Type) [RandomSource σ] (s : σ),
      (i.invoke op values).runFrom s = (x, s) := by
  cases i with
  | nullary draw => exact absurd trivial h
  | unary call =>
    match values with
    | [v] => exact ⟨call v, fun _ _ _ => rfl⟩
    | [] | _ :: _ :: _ => exact ⟨.error _, fun _ _ _ => rfl⟩
  | binary call =>
    match values with
    | [v, w] => exact ⟨call v w, fun _ _ _ => rfl⟩
    | [] | [_] | _ :: _ :: _ :: _ => exact ⟨.error _, fun _ _ _ => rfl⟩
  | ternary call =>
    match values with
    | [v, w, x] => exact ⟨call v w x, fun _ _ _ => rfl⟩
    | [] | [_] | [_, _] | _ :: _ :: _ :: _ :: _ => exact ⟨.error _, fun _ _ _ => rfl⟩
  | raw arity form => exact ⟨.error _, fun _ _ _ => rfl⟩
  | unsupported arity => exact ⟨.error _, fun _ _ _ => rfl⟩

theorem Descriptor.apply_eq_of_not_draws {d : Descriptor} (h : ¬d.implementation.Draws)
    (op : Operator) (ts : List Term) : ∃ x, ∀ (σ : Type) [RandomSource σ] (s : σ),
      d.apply op ts s = (x, s) := by
  unfold apply
  cases ts.mapM (d.argument.argument op.name) with
  | error x => exact ⟨.error x, fun _ _ _ => rfl⟩
  | ok values =>
    obtain ⟨x, hx⟩ := invoke_eq_of_not_draws h op values
    simp only [hx]
    cases x with
    | error x => exact ⟨.error x, fun _ _ _ => rfl⟩
    | ok value => exact ⟨.ok _, fun _ _ _ => rfl⟩

theorem Descriptor.relatedBy_pinned {d : Descriptor} (h : ¬d.implementation.Draws) (op : Operator)
    (s : σ) (s' : σ') : d.RelatedBy (.pinned s s') op := by
  rintro ts ts' t t' hts ⟨rfl, rfl⟩
  obtain rfl : ts = ts' := List.forall₂_eq_eq_eq ▸ hts
  obtain ⟨x, hx⟩ := apply_eq_of_not_draws h op ts
  rw [hx, hx]
  exact .of_agree (.refl (fun _ => rfl) (fun _ => rfl) x) ⟨rfl, rfl⟩

/-- Without draws, the result in rows that agree on the variables of a tree is the same from every
state of every source, and the state stays as it is. -/
theorem interpret_eq_of_drawless {e : Expr} (h : e.Drawless r)
    (hrow : ∀ name, (Expr.var name).Occurs e → row.get? name = row'.get? name) (s : σ) (s' : σ') :
    interpret r row' e s' = ((interpret r row e s).1, s') := by
  have hrelated : Expr.RelatedIn (.pinned s s') r row row' e e :=
    .of_get?_eq hrow (fun name args ho op d hres =>
      Descriptor.relatedBy_pinned (h name args ho op d hres) op s s') fun _ => not_false
  obtain ⟨hx, -, hs⟩ := hrelated s s' ⟨rfl, rfl⟩ fun _ _ => not_false
  exact Prod.ext hx.eq.symm hs

end Evaluation

end SparqlExpr
