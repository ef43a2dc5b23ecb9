import SparqlExpr.Proofs.LiteralGrammar

/-! Writing literals and reading them back. What has been read holds no quote behind its lexical
form, so a new lexical form, quotes and all, leaves language tag and datatype as they were. -/
namespace SparqlExpr

theorem LiteralKind.writtenAs_suffix (kind : LiteralKind) : kind.WrittenAs kind.suffix := by
  cases kind with
  | simple => exact .simple
  | tagged language => exact .tagged language
  | typed datatype => exact .bracketed datatype

/-- There is no quote in the language tag or the datatype. -/
def LiteralKind.QuoteFree (kind : LiteralKind) : Prop :=
  '"' ∉ kind.suffix.toList

instance (kind : LiteralKind) : Decidable kind.QuoteFree :=
  inferInstanceAs (Decidable (_ ∉ _))

theorem LiteralKind.WrittenAs.quoteFree {kind : LiteralKind} {suffix : String}
    (h : kind.WrittenAs suffix) (hquote : '"' ∉ suffix.toList) : kind.QuoteFree := by
  cases h with
  | simple => exact hquote
  | tagged language => exact hquote
  | bracketed datatype => exact hquote
  | bare datatype _ => simpa [LiteralKind.QuoteFree, LiteralKind.suffix] using hquote

theorem Literal.WrittenAs.quoteFree {l : Literal} {text : String} (h : l.WrittenAs text) :
    l.kind.QuoteFree := by
  obtain ⟨suffix, -, hquote, hkind⟩ := h
  exact hkind.quoteFree hquote

namespace Term
variable {t : Term} {l : Literal} {datatype tag : String}

/-- What is written is read back exactly if no quote stands behind the closing one. -/
theorem literal?_ofLiteral_iff : (ofLiteral l).literal? = some l ↔ l.kind.QuoteFree := by
  rw [literal?_eq_some_iff]
  exact ⟨Literal.WrittenAs.quoteFree, fun h => ⟨l.kind.suffix, rfl, h, l.kind.writtenAs_suffix⟩⟩

theorem kind_of_literal? (h : t.literal? = some l) : t.kind = l.kind := by
  rw [kind, h]
  rfl

theorem kind_of_literal?_eq_none (h : t.literal? = none) : t.kind = .simple := by
  rw [kind, h]
  rfl

theorem kind_quoteFree (t : Term) : t.kind.QuoteFree := by
  cases h : t.literal? with
  | none =>
    rw [kind_of_literal?_eq_none h]
    simp [LiteralKind.QuoteFree, LiteralKind.suffix]
  | some l =>
    rw [kind_of_literal? h]
    exact (literal?_eq_some_iff.mp h).quoteFree

theorem exists_literal?_of_datatype? (h : t.datatype? = some datatype) :
    ∃ lexical, t.literal? = some ⟨lexical, .typed datatype⟩ := by
  obtain ⟨⟨lexical, kind⟩, hl, hkind⟩ := Option.bind_eq_some_iff.mp h
  cases kind with
  | simple => cases hkind
  | tagged language => cases hkind
  | typed other =>
    cases hkind
    exact ⟨lexical, hl⟩

theorem exists_literal?_of_language? (h : t.language? = some tag) :
    ∃ lexical, t.literal? = some ⟨lexical, .tagged tag⟩ := by
  obtain ⟨⟨lexical, kind⟩, hl, hkind⟩ := Option.bind_eq_some_iff.mp h
  cases kind with
  | simple => cases hkind
  | tagged language =>
    cases hkind
    exact ⟨lexical, hl⟩
  | typed other => cases hkind

/-- A datatype that was read can be written behind any lexical form. -/
theorem quoteFree_of_datatype? (h : t.datatype? = some datatype) :
    (LiteralKind.typed datatype).QuoteFree := by
  obtain ⟨lexical, hl⟩ := exists_literal?_of_datatype? h
  exact (literal?_eq_some_iff.mp hl).quoteFree

/-- A new lexical form is read back, whatever it holds, with the kind of the old one. -/
theorem literal?_withLexical (t : Term) (lexical : String) :
    (t.withLexical lexical).literal? = some ⟨lexical, t.kind⟩ :=
  literal?_ofLiteral_iff.mpr t.kind_quoteFree

theorem language?_withLexical (t : Term) (lexical : String) :
    (t.withLexical lexical).language? = t.language? := by
  rw [language?, language?, literal?_withLexical, kind]
  cases t.literal? <;> rfl

theorem datatype?_withLexical (t : Term) (lexical : String) :
    (t.withLexical lexical).datatype? = t.datatype? := by
  rw [datatype?, datatype?, literal?_withLexical, kind]
  cases t.literal? <;> rfl

theorem effectiveDatatype?_withLexical (h : t.literal? = some l) (lexical : String) :
    (t.withLexical lexical).effectiveDatatype? = t.effectiveDatatype? := by
  rw [effectiveDatatype?, effectiveDatatype?, literal?_withLexical, kind_of_literal? h, h]
  rfl

/-- A literal whose datatype is written without the pair of brackets. -/
def WritesBare (t : Term) (datatype : String) : Prop :=
  ∃ lexical, t.text = "\"" ++ lexical ++ "\"^^" ++ datatype ∧ '"' ∉ datatype.toList ∧
    ∀ inner, datatype ≠ "<" ++ inner ++ ">"

theorem literal?_of_writesBare (h : t.WritesBare datatype) :
    ∃ lexical, t.literal? = some ⟨lexical, .typed datatype⟩ := by
  obtain ⟨lexical, htext, hquote, hbare⟩ := h
  refine ⟨lexical, literal?_eq_some_iff.mpr ⟨"^^" ++ datatype, ?_, ?_, .bare datatype hbare⟩⟩
  · rw [htext]
    exact String.toList_inj.mp (by simp)
  · simpa using hquote

/-- Every other literal is written as its reading would be. -/
theorem eq_ofLiteral (h : t.literal? = some l) (hbare : ∀ datatype, ¬t.WritesBare datatype) :
    t = ofLiteral l := by
  obtain ⟨lexical, kind⟩ := l
  obtain ⟨suffix, htext, hquote, hkind⟩ := literal?_eq_some_iff.mp h
  obtain ⟨text⟩ := t
  obtain rfl : text = _ := htext
  cases hkind with
  | simple => rfl
  | tagged language => rfl
  | bracketed datatype => rfl
  | bare datatype hno =>
    refine absurd ⟨lexical, ?_, ?_, hno⟩ (hbare datatype)
    · exact String.toList_inj.mp (by simp)
    · simpa using hquote

theorem withLexical_self (h : t.literal? = some l) : t.withLexical l.lexical = ofLiteral l := by
  rw [withLexical, kind_of_literal? h]

/-- With its own lexical form a literal is the same, except that its datatype is in brackets. -/
theorem withLexical_self_cases (h : t.literal? = some l) :
    ((∀ datatype, ¬t.WritesBare datatype) → t.withLexical l.lexical = t) ∧
      ∀ datatype, t.WritesBare datatype → t.withLexical l.lexical = typed l.lexical datatype := by
  rw [withLexical_self h]
  refine ⟨fun hbare => (eq_ofLiteral h hbare).symm, fun datatype hbare => ?_⟩
  obtain ⟨lexical, hl⟩ := literal?_of_writesBare hbare
  obtain rfl : l = ⟨lexical, .typed datatype⟩ := Option.some.inj (h.symm.trans hl)
  rfl

theorem withLexical_withLexical (t : Term) (lexical other : String) :
    (t.withLexical lexical).withLexical other = t.withLexical other := by
  rw [withLexical, kind_of_literal? (literal?_withLexical t lexical)]
  rfl

end Term

end SparqlExpr
