import SparqlExpr.Proofs.Congruence
import SparqlExpr.Proofs.Failures

/-! What can be called in the standard registry: an operator on values, which rejects them under its
own name, or one of the three forms under the name that it is made for. -/
namespace SparqlExpr

variable {op : Operator}

theorem Descriptor.standard_cases (h : (standard op).implementation.isUnsupported = false) :
    (standard op).raw = false ∧ (standard op).implementation.TakesValues ∨
      (standard op).raw = true ∧ ∃ form : Form, op = form.operator ∧
        (standard op).implementation = .raw form.arity form := by
  cases op with
  | bound => exact Or.inr ⟨rfl, .bound, rfl, rfl⟩
  | cond => exact Or.inr ⟨rfl, .cond, rfl, rfl⟩
  | coalesce => exact Or.inr ⟨rfl, .coalesce, rfl, rfl⟩
  | _ => first | exact Or.inl ⟨rfl, trivial⟩ | cases h

namespace Registry

theorem resolve_of_ofName? {name : String} (h : Operator.ofName? name = some op) :
    standard.resolve name = .ok (op, Descriptor.standard op) := by
  simp [resolve, h, standard]

theorem Callable.standard {name : String} {arity : Nat}
    (h : Registry.standard.Callable name arity) :
    ∃ op, Operator.ofName? name = some op ∧
      Registry.standard.resolve name = .ok (op, Descriptor.standard op) ∧
      (Descriptor.standard op).implementation.isUnsupported = false ∧
      (Descriptor.standard op).arity = arity := by
  obtain ⟨d, hf, hs, ha⟩ := h
  obtain ⟨op, hres, -⟩ := find?_eq_some hf
  obtain ⟨hop, rfl⟩ := resolve_standard hres
  exact ⟨op, hop, hres, hs, ha⟩

end Registry

section Evaluation
variable {σ : Type} [RandomSource σ]

/-- The test for IRIs rejects values under one name for two operators. It is only ever called with
terms, though, and these it takes. -/
theorem Descriptor.apply_isUri_failsOnly {P : FilterError → Prop} {terms : List Term}
    (hl : terms.length = 1) (s : σ) : FailsOnly P ((standard .isUri).apply .isUri terms s).1 := by
  obtain ⟨t, rfl⟩ := List.length_eq_one_iff.mp hl
  exact .ok _

/-- On as many terms as it takes, an operator fails only by rejecting them under its own name. -/
theorem Descriptor.apply_standard_rejects (takes : (standard op).implementation.TakesValues)
    {terms : List Term} (hl : terms.length = (standard op).arity) (s : σ) :
    FailsOnly (FilterError.Rejects op) ((standard op).apply op terms s).1 := by
  by_cases huri : op = .isUri
  · subst huri
    exact apply_isUri_failsOnly hl s
  · have hreporting : op.reporting = op := by
      cases op with
      | isUri => exact absurd rfl huri
      | _ => rfl
    have hrejects := standard_rejects op takes
    rw [hreporting] at hrejects
    exact apply_failsOnly hrejects hl (fun _ h => h) (fun _ h => h) s

/-- An operation of the standard registry fails only by rejecting its arguments, `coalesce` and `if`
not even so. -/
theorem Registry.Callable.callFailsOnly {name : String} {size : Nat}
    (h : Registry.standard.Callable name size) {P : FilterError → Prop}
    (hP : ∀ op, Operator.ofName? name = some op → ∀ error, error.Rejects op → P error) :
    Registry.standard.CallFailsOnly σ P name size := by
  obtain ⟨op, hop, hres, hs, ha⟩ := h.standard
  refine ⟨op, .standard op, hres, ?_⟩
  rcases Descriptor.standard_cases hs with ⟨hraw, takes⟩ | ⟨hraw, form, rfl, hi⟩
  · refine Or.inl ⟨hraw, fun terms s hl => ?_⟩
    exact (Descriptor.apply_standard_rejects takes (hl.trans ha.symm) s).mono (hP op hop)
  · refine Or.inr ⟨hraw, form, hi, ?_, ?_⟩
    · rw [← ha, Descriptor.arity, hi]
      rfl
    · rintro rfl
      exact hP .bound hop

end Evaluation

end SparqlExpr
