import SparqlExpr.Proofs.CallOutcome
import SparqlExpr.Proofs.TermOperators
import SparqlExpr.Random.Source

/-! Literals as IRIs: the lexical form of a plain literal is returned as it is, whatever kind of term
it is then read as. It is an IRI exactly where its text is the one that the literal stands for. -/
namespace SparqlExpr

theorem Term.simple_inj {x y : String} : Term.simple x = Term.simple y ↔ x = y := by
  refine ⟨fun h => ?_, congrArg _⟩
  have hx := Term.literal?_simple x
  rw [h, Term.literal?_simple y] at hx
  cases hx
  rfl

theorem Term.isSome_plainText?_iff {t : Term} :
    t.plainText?.isSome = true ↔ t.isIri = true ∨ t.isLiteral = true := by
  rw [plainText?, isLiteral]
  by_cases h : t.isIri = true
  · simp [h]
  · simp [h, lexical?]

namespace Expr
variable {σ : Type} [RandomSource σ] {row : Row} {a b c : σ} {e : Expr} {t q : Term}
  {text : String}

theorem ComesTo.exists_of_str (he : e.ComesTo row a (.ok t, b))
    (h : (call "str" [e]).ComesTo row a (.ok q, c)) :
    c = b ∧ ∃ text, t.plainText? = some text ∧ q = .simple text := by
  cases htext : t.plainText? with
  | none =>
    have hfails := he.call₁ .str ⟨rfl, rfl, rfl⟩ (Terms.str_makes_error htext)
    cases h.unique hfails
  | some text =>
    have hstr := he.call₁ .str ⟨rfl, rfl, rfl⟩ (Terms.str_makes htext)
    cases h.unique hstr
    exact ⟨rfl, text, rfl, rfl⟩

theorem ComesTo.str_iff (he : e.ComesTo row a (.ok t, b)) :
    (call "str" [e]).ComesTo row a (.ok q, b) ↔ ∃ text, t.plainText? = some text ∧
      q = .simple text := by
  refine ⟨fun h => (he.exists_of_str h).2, ?_⟩
  rintro ⟨text, htext, rfl⟩
  exact he.call₁ .str ⟨rfl, rfl, rfl⟩ (Terms.str_makes htext)

theorem toIri_cases {op : Operator} (h : op ∈ [Operator.iri, Operator.uri]) :
    Descriptor.standard op = ⟨.asIs, .asIs, false, Terms.toIri op⟩ := by
  simp only [List.mem_cons, List.not_mem_nil, or_false] at h
  rcases h with rfl | rfl
  · rfl
  · rfl

/-- Of IRIs and plain literals alone there is a result, and it has the text that the argument stands
for. Where this text is that of an IRI, the result is one and stands for the same; any other result
is no IRI, and stands for something else or for nothing. -/
theorem toIri_isIri_iff (he : e.ComesTo row a (.ok t, b)) :
    ∀ op ∈ [Operator.iri, Operator.uri],
      (t.isIri = false → t.isPlain = false → (call op.name [e]).ComesTo row a
        (.error (.invalidArgument op.name (.notIriNorSimple t)), b)) ∧
      (t.isIri = true ∨ t.isPlain = true → ∃ r q,
        (call op.name [e]).ComesTo row a (.ok r, b) ∧ (call "str" [e]).ComesTo row a (.ok q, b) ∧
        (r.isIri = true ↔
          t.isIri = true ∨ ∃ l, t.literal? = some l ∧ (Term.mk l.lexical).isIri = true) ∧
        (r.isIri = true ↔ (call "str" [call op.name [e]]).ComesTo row a (.ok q, b)) ∧
        (r.isIri = true ∨ r.isLiteral = true ↔
          ∃ q, (call "str" [call op.name [e]]).ComesTo row a (.ok q, b))) := by
  intro op hmem
  have hop := toIri_cases hmem
  have hvalues : op.OnValues 1 := ⟨by rw [hop], by rw [hop]; rfl, by rw [hop]; rfl⟩
  constructor
  · intro hiri hplain
    exact he.call₁ op hvalues (Terms.toIri_makes_error op hop hiri hplain)
  · intro h
    obtain ⟨text, htext⟩ : ∃ text, t.plainText? = some text := by
      refine Option.isSome_iff_exists.mp (Term.isSome_plainText?_iff.mpr (h.imp_right fun hp => ?_))
      obtain ⟨l, hl⟩ := Term.exists_literal?_of_isPlain hp
      exact Term.isLiteral_of_literal? hl
    have hr := he.call₁ op hvalues (Terms.toIri_makes op hop h htext)
    refine ⟨⟨text⟩, .simple text, hr, he.str_iff.mpr ⟨text, htext, rfl⟩, ?_, ?_, ?_⟩
    · cases hiri : t.isIri with
      | true =>
        rw [Term.plainText?_of_isIri hiri] at htext
        cases htext
        simp [hiri]
      | false =>
        obtain ⟨l, hl, rfl⟩ := Term.exists_literal?_of_plainText? hiri htext
        simp [hl]
    · rw [hr.str_iff, ← Term.plainText?_eq_text_iff]
      simp only [Term.simple_inj, exists_eq_right']
    · rw [← Term.isSome_plainText?_iff, Option.isSome_iff_exists]
      constructor
      · rintro ⟨other, hother⟩
        exact ⟨_, hr.str_iff.mpr ⟨other, hother, rfl⟩⟩
      · rintro ⟨q, hq⟩
        obtain ⟨other, hother, -⟩ := hr.str_iff.mp hq
        exact ⟨other, hother⟩

/-- A lexical form in quotes becomes a literal, which then stands for less than the argument did. -/
theorem toIri_isIri_iff_quoted :
    let t : Term := ⟨"\"\"hi\"\""⟩
    let row : Row := .ofList [("?t", t)]
    let start : Script := { doubles := [], uuids := [] }
    (var "?t").ComesTo row start (.ok t, start) ∧
    ∃ r q q', (call "uri" [.var "?t"]).ComesTo row start (.ok r, start) ∧ r.isIri = false ∧
      (call "str" [.var "?t"]).ComesTo row start (.ok q, start) ∧
      (call "str" [call "uri" [.var "?t"]]).ComesTo row start (.ok q', start) ∧ q ≠ q' := by
  intro t row start
  have ht : (var "?t").ComesTo row start (.ok t, start) := comesTo_var rfl start
  obtain ⟨r, q, hr, hq, hiri, hsame, hsome⟩ :=
    (toIri_isIri_iff ht .uri (by decide)).2 (Or.inr (by decide))
  have hl : t.literal? = some ⟨"\"hi\"", .simple⟩ := by decide
  have hnot : r.isIri = false := by
    rw [Bool.eq_false_iff, ne_eq, hiri]
    rintro (h | ⟨l, h, h'⟩)
    · exact absurd h (by decide)
    · cases hl.symm.trans h
      exact absurd h' (by decide)
  -- The result is the text between the outer quotes.
  have hresult := ht.call₁ .uri ⟨rfl, rfl, rfl⟩
    (Terms.toIri_makes .uri rfl (Or.inr (by decide)) (Term.plainText?_of_literal? hl))
  cases hr.unique hresult
  obtain ⟨q', hq'⟩ := hsome.mp (Or.inr (by decide))
  refine ⟨ht, _, q, q', hr, hnot, hq, hq', ?_⟩
  rintro rfl
  rw [hsame.mpr hq'] at hnot
  cases hnot

/-- The text of a blank node is returned as a blank node, of which there is no text. -/
theorem iri_of_blank_text :
    let t : Term := ⟨"\"_:b0\""⟩
    let start : Script := { doubles := [], uuids := [] }
    (call "iri" [.const t]).ComesTo .empty start (.ok ⟨"_:b0"⟩, start) ∧
      (Term.mk "_:b0").isIri = false ∧
      (call "str" [.const t]).ComesTo .empty start (.ok (.simple "_:b0"), start) ∧
      (call "str" [call "iri" [.const t]]).ComesTo .empty start
        (.error (.invalidArgument "str" (.notLiteral ⟨"_:b0"⟩)), start) := by
  intro t start
  have ht := comesTo_const t .empty start
  have htext : t.plainText? = some "_:b0" := by decide
  have hiri := ht.call₁ .iri ⟨rfl, rfl, rfl⟩
    (Terms.toIri_makes .iri rfl (Or.inr (by decide)) htext)
  refine ⟨hiri, by decide, ht.call₁ .str ⟨rfl, rfl, rfl⟩ (Terms.str_makes htext), ?_⟩
  exact hiri.call₁ .str ⟨rfl, rfl, rfl⟩ (Terms.str_makes_error (by decide))

end Expr

end SparqlExpr
