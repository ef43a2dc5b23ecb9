import SparqlExpr.Proofs.TextOperators

/-! What the operators that take terms apart, or make them, make of each term. -/
namespace SparqlExpr

theorem Value.toLiteral_of_literal?_eq_none {t : Term} (h : t.literal? = none)
    (operator : String) :
    (Value.term t).toLiteral operator = .error (.invalidArgument operator (.notLiteral t)) := by
  simp only [toLiteral, toTerm, ok_bind, h, throw_eq_error]

namespace Term
variable {t : Term} {l : Literal} {text : String}

/-- The text that a term stands for: that of an IRI, the lexical form of a literal. -/
def plainText? (t : Term) : Option String :=
  if t.isIri then some t.text else t.lexical?

theorem literal?_simple (text : String) : (simple text).literal? = some ⟨text, .simple⟩ :=
  literal?_ofLiteral_iff.mpr fun h => nomatch h

theorem isPlain_simple (text : String) : (simple text).isPlain = true := by
  rw [isPlain, effectiveDatatype?, literal?_simple]
  rfl

theorem exists_literal?_of_isPlain (h : t.isPlain = true) : ∃ l, t.literal? = some l := by
  cases hl : t.literal? with
  | none =>
    rw [isPlain, effectiveDatatype?, hl] at h
    cases h
  | some l => exact ⟨l, rfl⟩

theorem plainText?_of_isIri (h : t.isIri = true) : t.plainText? = some t.text := if_pos h

theorem plainText?_of_literal? (h : t.literal? = some l) : t.plainText? = some l.lexical := by
  rw [plainText?, isIri_of_literal? h, lexical?, h]
  rfl

theorem exists_literal?_of_plainText? (hiri : t.isIri = false) (h : t.plainText? = some text) :
    ∃ l, t.literal? = some l ∧ l.lexical = text := by
  rw [plainText?, hiri] at h
  exact Option.map_eq_some_iff.mp h

theorem literal?_of_plainText?_eq_none (h : t.plainText? = none) :
    t.isIri = false ∧ t.literal? = none := by
  rw [plainText?] at h
  split at h
  · cases h
  · next hiri => exact ⟨Bool.eq_false_iff.mpr hiri, Option.map_eq_none_iff.mp h⟩

/-- Without its quotes a literal is shorter, so only an IRI stands for its own text. -/
theorem plainText?_eq_text_iff : t.plainText? = some t.text ↔ t.isIri = true := by
  refine ⟨fun h => ?_, plainText?_of_isIri⟩
  by_contra hiri
  rw [plainText?, if_neg hiri] at h
  obtain ⟨l, hl, hlexical⟩ := Option.map_eq_some_iff.mp h
  obtain ⟨suffix, htext, -⟩ := literal?_eq_some_iff_of_toList.mp hl
  have hlength := congrArg List.length htext
  rw [hlexical] at hlength
  simp at hlength
  omega

end Term

namespace Terms
variable {op : Operator} {s t : Term} {l m : Literal} {text : String}

theorem str_makes (h : t.plainText? = some text) :
    Operator.str.Makes [t] (.ok (.simple text)) := by
  refine Operator.makes_unary .str rfl (v := .ok (.term (.simple text))) ?_
  simp only [Value.toTerm, ok_bind]
  cases hiri : t.isIri with
  | true =>
    rw [Term.plainText?_of_isIri hiri] at h
    cases h
    rfl
  | false =>
    obtain ⟨l, hl, rfl⟩ := Term.exists_literal?_of_plainText? hiri h
    simp only [Value.toLiteral_of_literal? hl, ok_bind]
    rfl

theorem str_makes_error (h : t.plainText? = none) :
    Operator.str.Makes [t] (.error (.invalidArgument "str" (.notLiteral t))) := by
  obtain ⟨hiri, hl⟩ := Term.literal?_of_plainText?_eq_none h
  refine Operator.makes_unary .str rfl (v := .error (.invalidArgument "str" (.notLiteral t))) ?_
  simp only [Value.toTerm, ok_bind, hiri, Value.toLiteral_of_literal?_eq_none hl, error_bind]
  rfl

theorem lang_makes (h : t.literal? = some l) :
    Operator.lang.Makes [t] (.ok (.simple (l.kind.language?.getD ""))) := by
  refine Operator.makes_unary .lang rfl
    (v := .ok (.term (.simple (l.kind.language?.getD "")))) ?_
  simp only [Value.toLiteral_of_literal? h, ok_bind, pure_eq_ok]

theorem datatype_makes (h : t.literal? = some l) :
    Operator.datatype.Makes [t] (.ok ⟨l.kind.datatype⟩) := by
  refine Operator.makes_unary .datatype rfl (v := .ok (.term ⟨l.kind.datatype⟩)) ?_
  simp only [Value.toLiteral_of_literal? h, ok_bind, pure_eq_ok]

section ToIri
variable (op) (hop : Descriptor.standard op = ⟨.asIs, .asIs, false, toIri op⟩)
include hop

theorem toIri_makes (h : t.isIri = true ∨ t.isPlain = true) (htext : t.plainText? = some text) :
    op.Makes [t] (.ok ⟨text⟩) := by
  refine Operator.makes_unary op hop (v := .ok (.term ⟨text⟩)) ?_
  simp only [Value.toTerm, ok_bind]
  cases hiri : t.isIri with
  | true =>
    rw [Term.plainText?_of_isIri hiri] at htext
    cases htext
    rfl
  | false =>
    have hplain : t.isPlain = true := h.resolve_left (by simp [hiri])
    obtain ⟨l, hl⟩ := Term.exists_literal?_of_isPlain hplain
    rw [Term.plainText?_of_literal? hl] at htext
    cases htext
    simp only [hl, hplain]
    rfl

theorem toIri_makes_error (hiri : t.isIri = false) (hplain : t.isPlain = false) :
    op.Makes [t] (.error (.invalidArgument op.name (.notIriNorSimple t))) := by
  refine Operator.makes_unary op hop
    (v := .error (.invalidArgument op.name (.notIriNorSimple t))) ?_
  simp only [Value.toTerm, ok_bind, hiri, hplain]
  cases t.literal? <;> rfl

end ToIri

theorem plainLexical_of_isPlain (hl : t.literal? = some l) (h : t.isPlain = true)
    (op : Operator) : plainLexical op t = .ok l.lexical := by
  rw [plainLexical, hl]
  exact if_pos h

theorem plainLexical_eq_error (h : t.isPlain = false) (op : Operator) :
    plainLexical op t = .error (.invalidArgument op.name (.notSimple t)) := by
  rw [plainLexical, h]
  cases t.literal? <;> rfl

theorem strDt_makes (hl : s.literal? = some l) (hplain : s.isPlain = true)
    (hiri : t.isIri = true) : Operator.strDt.Makes [s, t] (.ok (.typed l.lexical t.text)) := by
  refine Operator.makes_binary .strDt rfl (v := .ok (.term (.typed l.lexical t.text))) ?_
  simp only [Value.toTerm, ok_bind, plainLexical_of_isPlain hl hplain, hiri]
  rfl

theorem strDt_makes_notSimple (hplain : s.isPlain = false) (t : Term) :
    Operator.strDt.Makes [s, t] (.error (.invalidArgument "strdt" (.notSimple s))) := by
  refine Operator.makes_binary .strDt rfl
    (v := .error (.invalidArgument "strdt" (.notSimple s))) ?_
  simp only [Value.toTerm, ok_bind, plainLexical_eq_error hplain, error_bind]
  rfl

theorem strDt_makes_notIri (hplain : s.isPlain = true) (hiri : t.isIri = false) :
    Operator.strDt.Makes [s, t] (.error (.invalidArgument "strdt" (.notIri t))) := by
  obtain ⟨l, hl⟩ := Term.exists_literal?_of_isPlain hplain
  refine Operator.makes_binary .strDt rfl
    (v := .error (.invalidArgument "strdt" (.notIri t))) ?_
  simp only [Value.toTerm, ok_bind, plainLexical_of_isPlain hl hplain, hiri]
  rfl

theorem strLang_makes (hl : s.literal? = some l) (hplain : s.isPlain = true)
    (hm : t.literal? = some m) (htag : m.lexical ≠ "") :
    Operator.strLang.Makes [s, t] (.ok (.tagged l.lexical m.lexical)) := by
  refine Operator.makes_binary .strLang rfl (v := .ok (.term (.tagged l.lexical m.lexical))) ?_
  simp only [Value.toTerm, ok_bind, plainLexical_of_isPlain hl hplain,
    Value.toLiteral_of_literal? hm, if_neg htag, pure_eq_ok]

theorem strLang_makes_notSimple (hplain : s.isPlain = false) (t : Term) :
    Operator.strLang.Makes [s, t] (.error (.invalidArgument "strlang" (.notSimple s))) := by
  refine Operator.makes_binary .strLang rfl
    (v := .error (.invalidArgument "strlang" (.notSimple s))) ?_
  simp only [Value.toTerm, ok_bind, plainLexical_eq_error hplain, error_bind]
  rfl

theorem strLang_makes_notLiteral (hplain : s.isPlain = true) (hm : t.literal? = none) :
    Operator.strLang.Makes [s, t] (.error (.invalidArgument "strlang" (.notLiteral t))) := by
  obtain ⟨l, hl⟩ := Term.exists_literal?_of_isPlain hplain
  refine Operator.makes_binary .strLang rfl
    (v := .error (.invalidArgument "strlang" (.notLiteral t))) ?_
  simp only [Value.toTerm, ok_bind, plainLexical_of_isPlain hl hplain,
    Value.toLiteral_of_literal?_eq_none hm, error_bind]
  rfl

theorem strLang_makes_emptyTag (hplain : s.isPlain = true) (hm : t.literal? = some m)
    (htag : m.lexical = "") :
    Operator.strLang.Makes [s, t] (.error (.invalidArgument "strlang" .emptyTag)) := by
  obtain ⟨l, hl⟩ := Term.exists_literal?_of_isPlain hplain
  refine Operator.makes_binary .strLang rfl (v := .error (.invalidArgument "strlang" .emptyTag)) ?_
  simp only [Value.toTerm, ok_bind, plainLexical_of_isPlain hl hplain,
    Value.toLiteral_of_literal? hm, if_pos htag]
  rfl

/-- What is not a plain literal and an IRI is refused. -/
theorem strDt_makes_error (h : ¬(s.isPlain = true ∧ t.isIri = true)) :
    ∃ fault, Operator.strDt.Makes [s, t] (.error (.invalidArgument "strdt" fault)) := by
  cases hplain : s.isPlain with
  | false => exact ⟨_, strDt_makes_notSimple hplain t⟩
  | true =>
    cases hiri : t.isIri with
    | false => exact ⟨_, strDt_makes_notIri hplain hiri⟩
    | true => exact absurd ⟨hplain, hiri⟩ h

/-- What is not a plain literal and a literal with something in it is refused. -/
theorem strLang_makes_error
    (h : ¬(s.isPlain = true ∧ ∃ m, t.literal? = some m ∧ m.lexical ≠ "")) :
    ∃ fault, Operator.strLang.Makes [s, t] (.error (.invalidArgument "strlang" fault)) := by
  cases hplain : s.isPlain with
  | false => exact ⟨_, strLang_makes_notSimple hplain t⟩
  | true =>
    cases hm : t.literal? with
    | none => exact ⟨_, strLang_makes_notLiteral hplain hm⟩
    | some m =>
      by_cases htag : m.lexical = ""
      · exact ⟨_, strLang_makes_emptyTag hplain hm htag⟩
      · exact absurd ⟨hplain, m, hm, htag⟩ h

end Terms

end SparqlExpr
