import SparqlExpr.Proofs.Connectives
import SparqlExpr.Proofs.NumberText
import SparqlExpr.Proofs.ResultDatatype

/-! The truth of a value is that of the term that it becomes, whatever datatype the term is given.
Only NaN is false as a number and true as a literal. -/
namespace SparqlExpr

namespace Double

theorem dropZeroSign_eq_zero_iff {x : Double} : x.dropZeroSign = zero ↔ x.isZero = true := by
  constructor
  · intro h
    by_contra hzero
    rw [dropZeroSign, if_neg hzero] at h
    exact hzero (by rw [h]; rfl)
  · intro h
    exact if_pos h

/-- No other number is written as zero is, since it would be read back as zero. -/
theorem toLexical_eq_zero_iff {x : Double} : x.toLexical = "0" ↔ x.isZero = true := by
  have hread : ofLexical? "0" = some zero := rfl
  constructor
  · intro h
    have hx := ofLexical?_toLexical x
    rw [h, hread] at hx
    exact dropZeroSign_eq_zero_iff.mp (Option.some.inj hx).symm
  · intro h
    rw [← toLexical_dropZeroSign, dropZeroSign_eq_zero_iff.mpr h]
    rfl

theorem toLexical_ne_false (x : Double) : x.toLexical ≠ "false" := by
  intro h
  have hx := ofLexical?_toLexical x
  rw [h] at hx
  cases hx

end Double

/-- A number that is written as a literal is true unless it is zero, also under `xsd:boolean`. -/
theorem Term.truth_typed_toLexical {datatype : String}
    (h : (LiteralKind.typed datatype).QuoteFree) (x : Double) :
    (typed x.toLexical datatype).truth = !x.isZero := by
  have hread : (typed x.toLexical datatype).literal? = some ⟨x.toLexical, .typed datatype⟩ :=
    literal?_ofLiteral_iff.mpr h
  have hfalse : (x.toLexical == "false") = false := beq_eq_false_iff_ne.mpr x.toLexical_ne_false
  have hzero : (x.toLexical == "0") = x.isZero := by
    rw [Bool.eq_iff_iff, beq_iff_eq, Double.toLexical_eq_zero_iff]
  simp only [truth, hread, hfalse, hzero, Bool.false_and, Bool.or_false]

theorem Value.truth_number_of_ne_nan {x : Double} (h : x ≠ .nan) :
    (number x).truth = !x.isZero := by
  have hnan : x.isNaN = false := by
    cases x with
    | nan => exact absurd rfl h
    | infinity negative => rfl
    | finite negative units representable => rfl
  rw [truth, hnan, Bool.not_false, Bool.and_true]

namespace Coercion
variable {c : Coercion} (first : Option Term)

/-- A number is as true as its literal, or as what is written for its own truth. -/
theorem truth_result_number (x : Double) :
    (c.result first (.number x)).truth =
      if c = .boolean then (Value.number x).truth else !x.isZero := by
  cases c with
  | asIs =>
    have hdouble : (LiteralKind.typed Vocabulary.xsdDouble).QuoteFree := by decide
    exact Term.truth_typed_toLexical hdouble x
  | numeric => exact Term.truth_typed_toLexical (resultDatatype_quoteFree first) x
  | boolean => exact Term.truth_ofBool _

theorem truth_result_nan (h : c = .asIs ∨ c = .numeric) :
    (c.result first (.number .nan)).truth = true := by
  rw [truth_result_number]
  rcases h with rfl | rfl <;> rfl

theorem truth_result_eq {v : Value} (h : ¬(v = .number .nan ∧ (c = .asIs ∨ c = .numeric))) :
    (c.result first v).truth = v.truth := by
  cases v with
  | term t => rfl
  | boolean b => exact Term.truth_ofBool b
  | number x =>
    rw [truth_result_number]
    cases c with
    | boolean => rfl
    | asIs =>
      have hx : x ≠ .nan := fun hx => h ⟨congrArg Value.number hx, Or.inl rfl⟩
      exact (Value.truth_number_of_ne_nan hx).symm
    | numeric =>
      have hx : x ≠ .nan := fun hx => h ⟨congrArg Value.number hx, Or.inr rfl⟩
      exact (Value.truth_number_of_ne_nan hx).symm

/-- With every first argument, or none, the term that is written for a value is as true as the value
itself. Only NaN, which is false, becomes a true literal where numbers are written as numbers. -/
theorem truth_result_iff (c : Coercion) (first : Option Term) (v : Value) :
    ((c.result first v).truth = v.truth ↔ ¬(v = .number .nan ∧ (c = .asIs ∨ c = .numeric))) ∧
      (v = .number .nan ∧ (c = .asIs ∨ c = .numeric) ↔
        v.truth = false ∧ (c.result first v).truth = true) := by
  by_cases h : v = .number .nan ∧ (c = .asIs ∨ c = .numeric)
  · obtain ⟨rfl, hc⟩ := h
    have hfalse : (Value.number .nan).truth = false := rfl
    simp [truth_result_nan first hc, hfalse, hc]
  · simp [truth_result_eq first h, h]

/-- The sign of a zero is lost, and a datatype that was read says nothing about the truth. -/
example : (numeric.result (some ⟨"\"x\"^^http://www.w3.org/2001/XMLSchema#boolean"⟩)
    (.number (.finite true 0 representable_zero))).truth = false := by decide

end Coercion

end SparqlExpr
