import SparqlExpr.Proofs.AddedKind
import SparqlExpr.Proofs.IriText

/-! Texts of terms as simple literals. Nothing is escaped between the quotes, and still nothing is
lost: the text is read back whole, and an IRI is made of its own text again. -/
namespace SparqlExpr.Expr

variable {σ : Type} [RandomSource σ] {row : Row} {a b c : σ} {e : Expr} {t q : Term}
  {text : String} {error : FilterError}

theorem ComesTo.str_error_iff (he : e.ComesTo row a (.ok t, b)) :
    (call "str" [e]).ComesTo row a (.error error, c) ↔
      t.isIri = false ∧ t.isLiteral = false ∧
        error = .invalidArgument "str" (.notLiteral t) ∧ c = b := by
  have hnone : t.plainText? = none ↔ t.isIri = false ∧ t.isLiteral = false := by
    rw [← Option.not_isSome_iff_eq_none, Term.isSome_plainText?_iff, not_or, Bool.not_eq_true,
      Bool.not_eq_true]
  constructor
  · intro h
    cases htext : t.plainText? with
    | some text => cases h.unique (he.str htext)
    | none =>
      have hfails := he.call₁ .str ⟨rfl, rfl, rfl⟩ (Terms.str_makes_error htext)
      obtain ⟨hiri, hliteral⟩ := hnone.mp htext
      cases h.unique hfails
      exact ⟨hiri, hliteral, rfl, rfl⟩
  · rintro ⟨hiri, hliteral, rfl, rfl⟩
    exact he.call₁ .str ⟨rfl, rfl, rfl⟩ (Terms.str_makes_error (hnone.mpr ⟨hiri, hliteral⟩))

/-- What STR makes has only a text: the text is its own, without a tag, and of the datatype of
strings. -/
theorem ComesTo.of_simple (he : e.ComesTo row a (.ok (.simple text), b)) :
    (call "str" [e]).ComesTo row a (.ok (.simple text), b) ∧
      (call "lang" [e]).ComesTo row a (.ok (.simple ""), b) ∧
      (call "datatype" [e]).ComesTo row a (.ok ⟨Vocabulary.xsdString⟩, b) := by
  have hl := Term.literal?_simple text
  have hlang := Terms.lang_makes hl
  have hdatatype := Terms.datatype_makes hl
  simp only [LiteralKind.language?, Option.getD_none] at hlang
  simp only [LiteralKind.datatype] at hdatatype
  exact ⟨he.str (Term.plainText?_of_literal? hl), he.call₁ .lang ⟨rfl, rfl, rfl⟩ hlang,
    he.call₁ .datatype ⟨rfl, rfl, rfl⟩ hdatatype⟩

/-- Behind its text in quotes, an IRI is the plain literal that spells it. -/
theorem ComesTo.toIri_str (he : e.ComesTo row a (.ok t, b)) (hiri : t.isIri = true)
    (op : Operator) (hmem : op ∈ [Operator.iri, Operator.uri]) :
    (call op.name [call "str" [e]]).ComesTo row a (.ok t, b) := by
  have hop := toIri_cases hmem
  have hvalues : op.OnValues 1 := ⟨by rw [hop], by rw [hop]; rfl, by rw [hop]; rfl⟩
  have hstr := he.str (Term.plainText?_of_isIri hiri)
  have hplain := Term.isPlain_simple t.text
  have htext := Term.plainText?_of_literal? (Term.literal?_simple t.text)
  exact hstr.call₁ op hvalues (Terms.toIri_makes op hop (Or.inr hplain) htext)

/-- STR takes IRIs and literals, and fails on any other text under its own name. What it makes is a
simple literal: STR changes it no more, its language tag is empty, and its datatype that of strings.
Of the text of an IRI, quotes in it included, IRI and URI make the same IRI. -/
theorem str_laws (he : e.ComesTo row a (.ok t, b)) :
    (∀ q c, (call "str" [e]).ComesTo row a (.ok q, c) →
      c = b ∧ (∃ text, q = .simple text ∧ q.literal? = some ⟨text, .simple⟩) ∧
        (call "str" [call "str" [e]]).ComesTo row a (.ok q, b) ∧
        (call "lang" [call "str" [e]]).ComesTo row a (.ok (.simple ""), b) ∧
        (call "datatype" [call "str" [e]]).ComesTo row a (.ok ⟨Vocabulary.xsdString⟩, b)) ∧
    (t.isIri = true → (call "iri" [call "str" [e]]).ComesTo row a (.ok t, b) ∧
      (call "uri" [call "str" [e]]).ComesTo row a (.ok t, b)) ∧
    ((∃ q c, (call "str" [e]).ComesTo row a (.ok q, c)) ↔
      t.isIri = true ∨ t.isLiteral = true) ∧
    ∀ error c, (call "str" [e]).ComesTo row a (.error error, c) ↔
      t.isIri = false ∧ t.isLiteral = false ∧
        error = .invalidArgument "str" (.notLiteral t) ∧ c = b := by
  refine ⟨?_, fun hiri => ⟨?_, ?_⟩, ?_, fun error c => he.str_error_iff⟩
  · intro q c hq
    obtain ⟨rfl, text, htext, rfl⟩ := he.exists_of_str hq
    exact ⟨rfl, ⟨text, rfl, Term.literal?_simple text⟩, hq.of_simple⟩
  · exact he.toIri_str hiri .iri (by decide)
  · exact he.toIri_str hiri .uri (by decide)
  · rw [← Term.isSome_plainText?_iff, Option.isSome_iff_exists]
    constructor
    · rintro ⟨q, c, hq⟩
      obtain ⟨-, text, htext, -⟩ := he.exists_of_str hq
      exact ⟨text, htext⟩
    · rintro ⟨text, htext⟩
      exact ⟨_, _, he.str htext⟩

/-- The quotes in an IRI stay in its text, where they would end a literal with a tag. -/
theorem str_laws_quote :
    let i : Term := ⟨"http://a/\"b\"@c"⟩
    let row : Row := .ofList [("?x", i), ("?y", ⟨"_:b\"\""⟩)]
    let start : Script := { doubles := [], uuids := [] }
    (var "?x").ComesTo row start (.ok i, start) ∧
      (call "iri" [call "str" [var "?x"]]).ComesTo row start (.ok i, start) ∧
      (call "lang" [call "str" [var "?x"]]).ComesTo row start (.ok (.simple ""), start) ∧
      (call "str" [var "?y"]).ComesTo row start
        (.error (.invalidArgument "str" (.notLiteral ⟨"_:b\"\""⟩)), start) := by
  intro i row start
  have hi : (var "?x").ComesTo row start (.ok i, start) := comesTo_var rfl start
  have hb : (var "?y").ComesTo row start (.ok ⟨"_:b\"\""⟩, start) := comesTo_var rfl start
  have hiri : i.isIri = true := by decide
  obtain ⟨hmakes, hback, htaken, -⟩ := str_laws hi
  obtain ⟨-, -, -, hfails⟩ := str_laws hb
  obtain ⟨q, c, hq⟩ := htaken.mpr (Or.inl hiri)
  obtain ⟨rfl, -, -, hlang, -⟩ := hmakes q c hq
  exact ⟨hi, (hback hiri).1, hlang, (hfails _ _).mpr ⟨by decide, by decide, rfl, rfl⟩⟩

end SparqlExpr.Expr
