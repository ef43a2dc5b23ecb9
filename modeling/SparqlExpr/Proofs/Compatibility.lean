import SparqlExpr.Proofs.CallOutcome
import SparqlExpr.Proofs.TextOperators
import SparqlExpr.Random.Source

/-! Compatibility of terms: an equivalence among the literals, by language tag alone. The operators
that ask for it succeed together and fail together. -/
namespace SparqlExpr

namespace Operator
variable {op : Operator} {s t : Term}

theorem comparison_cases (h : op ∈ comparisons) :
    (∃ f, Descriptor.standard op = ⟨.asIs, .boolean, false, Strings.test op f⟩) ∨
      ∃ f, Descriptor.standard op = ⟨.asIs, .asIs, false, Strings.part op f⟩ := by
  simp only [comparisons, List.mem_cons, List.not_mem_nil, or_false] at h
  rcases h with rfl | rfl | rfl | rfl | rfl
  · exact Or.inl ⟨_, rfl⟩
  · exact Or.inl ⟨_, rfl⟩
  · exact Or.inl ⟨_, rfl⟩
  · exact Or.inr ⟨_, rfl⟩
  · exact Or.inr ⟨_, rfl⟩

theorem onValues_of_comparison (h : op ∈ comparisons) : op.OnValues 2 := by
  rcases comparison_cases h with ⟨f, hop⟩ | ⟨f, hop⟩
  · exact ⟨by rw [hop], by rw [hop]; rfl, by rw [hop]; rfl⟩
  · exact ⟨by rw [hop], by rw [hop]; rfl, by rw [hop]; rfl⟩

theorem comparison_makes (h : op ∈ comparisons) (hst : s.compatible t = true) :
    ∃ r, op.Makes [s, t] (.ok r) := by
  obtain ⟨hs, ht, -⟩ := Term.compatible_iff.mp hst
  obtain ⟨l, hl⟩ := Term.exists_literal?_of_isLiteral hs
  obtain ⟨m, hm⟩ := Term.exists_literal?_of_isLiteral ht
  rcases comparison_cases h with ⟨f, hop⟩ | ⟨f, hop⟩
  · exact ⟨_, Strings.test_makes op f hop hl hm hst⟩
  · cases hfound : Text.splitAtFirst? m.lexical.toList l.lexical.toList with
    | none => exact ⟨_, Strings.part_makes_of_none op f hop hl hm hst hfound⟩
    | some parts => exact ⟨_, Strings.part_makes_of_some op f hop hl hm hst hfound⟩

theorem comparison_makes_error (h : op ∈ comparisons) (hst : s.compatible t = false) :
    op.Makes [s, t] (.error (.incompatible op.name s t)) := by
  rcases comparison_cases h with ⟨f, hop⟩ | ⟨f, hop⟩
  · exact Strings.test_makes_error op f hop hst
  · exact Strings.part_makes_error op f hop hst

end Operator

/-- Compatibility is symmetric and transitive, and reflexive for literals alone; a literal counts by
its language tag only. On terms that are compatible all comparisons succeed, and on any others each
of them refuses the two, in their order. -/
theorem compatible_laws_and_comparisons (s t : Term) :
    s.compatible t = t.compatible s ∧
    (∀ u, s.compatible t = true → t.compatible u = true → s.compatible u = true) ∧
    (s.compatible s = true ↔ s.isLiteral = true) ∧
    (s.isLiteral = true → ∀ lexical, (s.withLexical lexical).compatible t = s.compatible t ∧
      t.compatible (s.withLexical lexical) = t.compatible s) ∧
    (s.isLiteral = true → s.language? = none →
      ∀ s', Term.isLiteral s' = true → s'.language? = none →
        s'.compatible t = s.compatible t ∧ t.compatible s' = t.compatible s) ∧
    ∀ {σ : Type} [RandomSource σ] {row : Row} {a b c : σ} {d e : Expr},
      d.ComesTo row a (.ok s, b) → e.ComesTo row b (.ok t, c) →
      (s.compatible t = true → ∀ op ∈ Operator.comparisons,
        ∃ r, (Expr.call op.name [d, e]).ComesTo row a (.ok r, c)) ∧
      (s.compatible t = false → ∀ op ∈ Operator.comparisons,
        (Expr.call op.name [d, e]).ComesTo row a (.error (.incompatible op.name s t), c)) := by
  refine ⟨s.compatible_comm t, fun u => Term.compatible_trans, Term.compatible_self_iff, ?_, ?_, ?_⟩
  · intro hs lexical
    have htag := s.language?_withLexical lexical
    exact Term.compatible_congr (s.isLiteral_withLexical lexical) hs htag t
  · intro hs htag s' hs' htag'
    exact Term.compatible_congr hs' hs (htag'.trans htag.symm) t
  · intro σ _ row a b c d e hd he
    constructor
    · intro hst op hop
      obtain ⟨r, hr⟩ := Operator.comparison_makes hop hst
      exact ⟨r, hd.call₂ he op (Operator.onValues_of_comparison hop) hr⟩
    · intro hst op hop
      have hr := Operator.comparison_makes_error hop hst
      exact hd.call₂ he op (Operator.onValues_of_comparison hop) hr

/-- An empty language tag is a tag, so the first literal is compatible with no simple one, quotes in
its lexical form or not; a datatype does not count. -/
theorem compatible_laws_and_comparisons_empty_tag :
    let s : Term := ⟨"\"say \"hi\"\"@"⟩
    let t : Term := ⟨"\"hi\""⟩
    let row : Row := .ofList [("?t", t)]
    let start : Script := { doubles := [], uuids := [] }
    (∀ op ∈ Operator.comparisons, (Expr.call op.name [.const s, .var "?t"]).ComesTo row start
      (.error (.incompatible op.name s t), start)) ∧
    ∀ op ∈ Operator.comparisons,
      ∃ r, (Expr.call op.name [.const ⟨"\"5\"^^integer"⟩, .var "?t"]).ComesTo row start
        (.ok r, start) := by
  intro s t row start
  have ht : (Expr.var "?t").ComesTo row start (.ok t, start) := Expr.comesTo_var rfl start
  constructor
  · have hs : (Expr.const s).ComesTo row start (.ok s, start) := Expr.comesTo_const s row start
    exact ((compatible_laws_and_comparisons s t).2.2.2.2.2 hs ht).2 (by decide)
  · have hfive := Expr.comesTo_const ⟨"\"5\"^^integer"⟩ row start
    exact ((compatible_laws_and_comparisons _ t).2.2.2.2.2 hfive ht).1 (by decide)

end SparqlExpr
