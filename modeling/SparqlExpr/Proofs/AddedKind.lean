import SparqlExpr.Proofs.CallOutcome
import SparqlExpr.Proofs.TermOperators
import SparqlExpr.Random.Source

/-! Datatypes and language tags that are added to plain literals, against the operators that take
them off again. Nothing is escaped: a quote in what is added takes over as the closing one. -/
namespace SparqlExpr

namespace Term
variable {t : Term} {lexical datatype tag : String}

theorem quoteFree_typed_iff : (LiteralKind.typed datatype).QuoteFree ↔ '"' ∉ datatype.toList := by
  simp [LiteralKind.QuoteFree, LiteralKind.suffix]

theorem quoteFree_tagged_iff : (LiteralKind.tagged tag).QuoteFree ↔ '"' ∉ tag.toList := by
  simp [LiteralKind.QuoteFree, LiteralKind.suffix]

theorem literal?_typed_iff :
    (typed lexical datatype).literal? = some ⟨lexical, .typed datatype⟩ ↔
      '"' ∉ datatype.toList :=
  literal?_ofLiteral_iff.trans quoteFree_typed_iff

theorem literal?_tagged_iff :
    (tagged lexical tag).literal? = some ⟨lexical, .tagged tag⟩ ↔ '"' ∉ tag.toList :=
  literal?_ofLiteral_iff.trans quoteFree_tagged_iff

/-- Only a datatype can be written in two ways. -/
theorem eq_tagged_of_literal? (h : t.literal? = some ⟨lexical, .tagged tag⟩) :
    t = tagged lexical tag := by
  refine eq_ofLiteral h fun datatype hbare => ?_
  obtain ⟨other, hother⟩ := literal?_of_writesBare hbare
  cases h.symm.trans hother

end Term

namespace Expr
variable {σ : Type} [RandomSource σ] {row : Row} {a b c : σ} {d e : Expr} {s t : Term}
  {text datatype tag : String}

theorem ComesTo.str (hd : d.ComesTo row a (.ok t, b)) (h : t.plainText? = some text) :
    (call "str" [d]).ComesTo row a (.ok (.simple text), b) :=
  hd.call₁ .str ⟨rfl, rfl, rfl⟩ (Terms.str_makes h)

theorem strDt_str_datatype (hd : d.ComesTo row a (.ok t, b)) (he : e.ComesTo row b (.ok t, c))
    (h : t.datatype? = some datatype) (hiri : (Term.mk datatype).isIri = true) :
    ∃ r, (call "strdt" [call "str" [d], call "datatype" [e]]).ComesTo row a (.ok r, c) ∧
      r.literal? = t.literal? := by
  obtain ⟨lexical, hl⟩ := Term.exists_literal?_of_datatype? h
  have hstr := hd.str (Term.plainText?_of_literal? hl)
  have hdatatype := he.call₁ .datatype ⟨rfl, rfl, rfl⟩ (Terms.datatype_makes hl)
  have hmakes := Terms.strDt_makes (Term.literal?_simple lexical) (Term.isPlain_simple lexical) hiri
  refine ⟨_, hstr.call₂ hdatatype .strDt ⟨rfl, rfl, rfl⟩ hmakes, ?_⟩
  rw [hl]
  exact Term.literal?_ofLiteral_iff.mpr (Term.quoteFree_of_datatype? h)

theorem strLang_str_lang (hd : d.ComesTo row a (.ok t, b)) (he : e.ComesTo row b (.ok t, c))
    (h : t.language? = some tag) (htag : tag ≠ "") :
    (call "strlang" [call "str" [d], call "lang" [e]]).ComesTo row a (.ok t, c) := by
  obtain ⟨lexical, hl⟩ := Term.exists_literal?_of_language? h
  have hstr := hd.str (Term.plainText?_of_literal? hl)
  have hread := Terms.lang_makes hl
  simp only [LiteralKind.language?, Option.getD_some] at hread
  have hlang := he.call₁ .lang ⟨rfl, rfl, rfl⟩ hread
  have hmakes := Terms.strLang_makes (Term.literal?_simple lexical) (Term.isPlain_simple lexical)
    (Term.literal?_simple tag) htag
  rw [Term.eq_tagged_of_literal? hl]
  exact hstr.call₂ hlang .strLang ⟨rfl, rfl, rfl⟩ hmakes

/-- A datatype or a language tag that is added to a plain literal is read back from the result
exactly if there is no quote in it. What has been taken off a literal makes that literal again, in
the second case to the letter. No other arguments are taken. -/
theorem strDt_strLang_laws (hd : d.ComesTo row a (.ok s, b)) (he : e.ComesTo row b (.ok t, c)) :
    (∀ l, s.literal? = some l → s.isPlain = true → t.isIri = true →
      ∃ r, (call "strdt" [d, e]).ComesTo row a (.ok r, c) ∧
        (r.literal? = some ⟨l.lexical, .typed t.text⟩ ↔ '"' ∉ t.text.toList)) ∧
    (∀ l m, s.literal? = some l → s.isPlain = true → t.literal? = some m → m.lexical ≠ "" →
      ∃ r, (call "strlang" [d, e]).ComesTo row a (.ok r, c) ∧
        (r.literal? = some ⟨l.lexical, .tagged m.lexical⟩ ↔ '"' ∉ m.lexical.toList)) ∧
    (s = t → ∀ datatype, t.datatype? = some datatype → (Term.mk datatype).isIri = true →
      ∃ r, (call "strdt" [call "str" [d], call "datatype" [e]]).ComesTo row a (.ok r, c) ∧
        r.literal? = t.literal?) ∧
    (s = t → ∀ tag, t.language? = some tag → tag ≠ "" →
      (call "strlang" [call "str" [d], call "lang" [e]]).ComesTo row a (.ok t, c)) ∧
    (¬(s.isPlain = true ∧ t.isIri = true) →
      ∃ fault, (call "strdt" [d, e]).ComesTo row a (.error (.invalidArgument "strdt" fault), c)) ∧
    (¬(s.isPlain = true ∧ ∃ m, t.literal? = some m ∧ m.lexical ≠ "") →
      ∃ fault,
        (call "strlang" [d, e]).ComesTo row a (.error (.invalidArgument "strlang" fault), c)) := by
  refine ⟨?_, ?_, ?_, ?_, ?_, ?_⟩
  · intro l hl hplain hiri
    have hmakes := Terms.strDt_makes hl hplain hiri
    exact ⟨_, hd.call₂ he .strDt ⟨rfl, rfl, rfl⟩ hmakes, Term.literal?_typed_iff⟩
  · intro l m hl hplain hm htag
    have hmakes := Terms.strLang_makes hl hplain hm htag
    exact ⟨_, hd.call₂ he .strLang ⟨rfl, rfl, rfl⟩ hmakes, Term.literal?_tagged_iff⟩
  · rintro rfl datatype h hiri
    exact strDt_str_datatype hd he h hiri
  · rintro rfl tag h htag
    exact strLang_str_lang hd he h htag
  · intro h
    obtain ⟨fault, hmakes⟩ := Terms.strDt_makes_error h
    exact ⟨fault, hd.call₂ he .strDt ⟨rfl, rfl, rfl⟩ hmakes⟩
  · intro h
    obtain ⟨fault, hmakes⟩ := Terms.strLang_makes_error h
    exact ⟨fault, hd.call₂ he .strLang ⟨rfl, rfl, rfl⟩ hmakes⟩

/-- The quote in the datatype closes the literal, which is then read as tagged. Datatypes and tags
that were read hold none. -/
theorem strDt_strLang_laws_quote :
    let s : Term := .typed "say \"hi\"" Vocabulary.xsdString
    let quoted : Term := ⟨"a\"@b"⟩
    let five : Term := ⟨"\"5\"^^integer"⟩
    let tagged : Term := ⟨"\"\"5\"@en"⟩
    let row : Row := .ofList [("?iri", quoted), ("?five", five)]
    let start : Script := { doubles := [], uuids := [] }
    (∃ r, (call "strdt" [.const s, .var "?iri"]).ComesTo row start (.ok r, start) ∧
      r.literal? ≠ some ⟨"say \"hi\"", .typed "a\"@b"⟩) ∧
    (∃ r, (call "strlang" [.const s, .var "?five"]).ComesTo row start (.ok r, start) ∧
      r.literal? = some ⟨"say \"hi\"", .tagged "5"⟩) ∧
    (∃ r, (call "strdt" [call "str" [.var "?five"], call "datatype" [.var "?five"]]).ComesTo row
      start (.ok r, start) ∧ r.literal? = some ⟨"5", .typed "integer"⟩) ∧
    (call "strlang" [call "str" [.const tagged], call "lang" [.const tagged]]).ComesTo row start
      (.ok tagged, start) ∧
    (∃ fault, (call "strdt" [.var "?iri", .const s]).ComesTo row start
      (.error (.invalidArgument "strdt" fault), start)) ∧
    ∃ fault, (call "strlang" [.const s, .var "?iri"]).ComesTo row start
      (.error (.invalidArgument "strlang" fault), start) := by
  intro s quoted five tagged row start
  have hs : (const s).ComesTo row start (.ok s, start) := comesTo_const s row start
  have hiri : (var "?iri").ComesTo row start (.ok quoted, start) := comesTo_var rfl start
  have hfive : (var "?five").ComesTo row start (.ok five, start) := comesTo_var rfl start
  have htagged : (const tagged).ComesTo row start (.ok tagged, start) :=
    comesTo_const tagged row start
  have hl : s.literal? = some ⟨"say \"hi\"", .typed Vocabulary.xsdString⟩ := by decide
  refine ⟨?_, ?_, ?_, ?_, ?_, ?_⟩
  · obtain ⟨r, hr, hread⟩ := (strDt_strLang_laws hs hiri).1 _ hl (by decide) (by decide)
    exact ⟨r, hr, fun h => absurd (hread.mp h) (by decide)⟩
  · obtain ⟨r, hr, hread⟩ := (strDt_strLang_laws hs hfive).2.1 _ ⟨"5", .typed "integer"⟩ hl
      (by decide) (by decide) (by decide)
    exact ⟨r, hr, hread.mpr (by decide)⟩
  · obtain ⟨r, hr, hread⟩ := (strDt_strLang_laws hfive hfive).2.2.1 rfl "integer" (by decide)
      (by decide)
    exact ⟨r, hr, hread.trans (by decide)⟩
  · exact (strDt_strLang_laws htagged htagged).2.2.2.1 rfl "en" (by decide) (by decide)
  · exact (strDt_strLang_laws hiri hs).2.2.2.2.1 (by decide)
  · refine (strDt_strLang_laws hs hiri).2.2.2.2.2 ?_
    rintro ⟨-, m, hm, -⟩
    have hnone : quoted.literal? = none := by decide
    cases hnone.symm.trans hm

end Expr

end SparqlExpr
