import SparqlExpr.Operator.Catalogue
import SparqlExpr.Proofs.LiteralRoundTrip
import SparqlExpr.Proofs.Returns
import SparqlExpr.Random.Source

/-! Operators that return their first argument with another lexical form. -/
namespace SparqlExpr

variable {v w : Value} {op : Operator}

namespace Strings

/-- The first argument is a literal, and the value is that literal with a new lexical form. -/
def ChangesLexical (args : List Value) (w : Value) : Prop :=
  ∃ t l rest lexical, args = .term t :: rest ∧ t.literal? = some l ∧
    w = .term (t.withLexical lexical)

/-- The lexical form of a literal occurs in that of the literal before it. -/
def FindsNeedle (args : List Value) : Prop :=
  ∃ t n l m, args = [.term t, .term n] ∧ t.literal? = some l ∧ n.literal? = some m ∧
    m.lexical.toList <:+: l.lexical.toList

/-- A literal that was asked for as a term and as a literal. -/
theorem ChangesLexical.of_eq_ok {name : String} {t : Term} {l : Literal}
    (ht : v.toTerm name = .ok t) (hl : v.toLiteral name = .ok l) (rest : List Value)
    (lexical : String) :
    ChangesLexical (v :: rest) (.term (t.withLexical lexical)) := by
  obtain ⟨s, rfl, hs⟩ := Value.toLiteral_eq_ok hl
  obtain rfl : s = t := Value.term.inj (Value.toTerm_eq_ok ht)
  exact ⟨s, l, rest, lexical, rfl, hs, rfl⟩

theorem mapLexical_changesLexical (op : Operator) (f : List Char → List Char) :
    (mapLexical op f).Ensures ChangesLexical := by
  intro v w hw
  obtain ⟨t, ht, hw⟩ := bind_eq_ok hw
  obtain ⟨l, hl, hw⟩ := bind_eq_ok hw
  cases hw
  exact .of_eq_ok ht hl [] _

theorem substr_changesLexical : substr.Ensures ChangesLexical := by
  intro v start length w hw
  obtain ⟨t, ht, hw⟩ := bind_eq_ok hw
  obtain ⟨l, hl, hw⟩ := bind_eq_ok hw
  obtain ⟨x, -, hw⟩ := bind_eq_ok hw
  obtain ⟨y, -, hw⟩ := bind_eq_ok hw
  cases hw
  exact .of_eq_ok ht hl [start, length] _

theorem concat_changesLexical : concat.Ensures ChangesLexical := by
  intro v w u hu
  obtain ⟨l, hl, hu⟩ := bind_eq_ok hu
  obtain ⟨m, -, hu⟩ := bind_eq_ok hu
  obtain ⟨t, ht, hu⟩ := bind_eq_ok hu
  cases hu
  exact .of_eq_ok ht hl [w] _

theorem compatible_eq_ok {text needle : List Char} (h : compatible op v w = .ok (text, needle)) :
    ∃ s t l m, v = .term s ∧ w = .term t ∧ s.literal? = some l ∧ t.literal? = some m ∧
      text = l.lexical.toList ∧ needle = m.lexical.toList := by
  obtain ⟨s, hs, hrest⟩ := bind_eq_ok h
  obtain ⟨t, ht, htest⟩ := bind_eq_ok hrest
  cases hst : s.compatible t with
  | true =>
    rw [if_pos hst] at htest
    obtain ⟨l, hl, hrest⟩ := bind_eq_ok htest
    obtain ⟨m, hm, hparts⟩ := bind_eq_ok hrest
    cases hparts
    obtain ⟨s, hv, hs⟩ := Value.toLiteral_eq_ok hl
    obtain ⟨t, hw, ht⟩ := Value.toLiteral_eq_ok hm
    exact ⟨s, t, l, m, hv, hw, hs, ht, rfl, rfl⟩
  | false =>
    rw [if_neg (by simp [hst])] at htest
    cases htest

/-- Without the needle the value is a simple literal, whatever the first argument is. -/
theorem part_changesLexical (op : Operator) (f : List Char × List Char → List Char) :
    (part op f).Ensures fun args w => FindsNeedle args → ChangesLexical args w := by
  rintro v v' w hw ⟨t, n, l, m, hargs, hl, hm, hfound⟩
  cases hargs
  obtain ⟨⟨text, needle⟩, hparts, hrest⟩ := bind_eq_ok hw
  obtain ⟨s, n', l', m', hs, hn, hl', hm', rfl, rfl⟩ := compatible_eq_ok hparts
  cases hs
  cases hn
  obtain rfl : l = l' := Option.some.inj (hl.symm.trans hl')
  obtain rfl : m = m' := Option.some.inj (hm.symm.trans hm')
  obtain ⟨t', ht, hsplit⟩ := bind_eq_ok hrest
  cases ht
  obtain ⟨parts, hsome⟩ := Option.isSome_iff_exists.mp (Text.isSome_splitAtFirst?_iff.mpr hfound)
  simp only [hsome] at hsplit
  cases hsplit
  exact ⟨t, l, [.term n], _, rfl, hl, rfl⟩

end Strings

/-- The operators whose value is their first argument with a new lexical form. -/
def Operator.lexicalChanging : List Operator :=
  [.ucase, .lcase, .substr, .concat, .strBefore, .strAfter]

theorem standard_changesLexical (h : op ∈ Operator.lexicalChanging) :
    (Descriptor.standard op).implementation.Ensures fun args w =>
      (op ∈ [.strBefore, .strAfter] → Strings.FindsNeedle args) →
        Strings.ChangesLexical args w := by
  simp only [Operator.lexicalChanging, List.mem_cons, List.not_mem_nil, or_false] at h
  rcases h with rfl | rfl | rfl | rfl | rfl | rfl
  · exact (Strings.mapLexical_changesLexical .ucase _).mono fun _ _ h _ => h
  · exact (Strings.mapLexical_changesLexical .lcase _).mono fun _ _ h _ => h
  · exact Strings.substr_changesLexical.mono fun _ _ h _ => h
  · exact Strings.concat_changesLexical.mono fun _ _ h _ => h
  · exact (Strings.part_changesLexical .strBefore _).mono fun _ _ h hfound => h (hfound (by decide))
  · exact (Strings.part_changesLexical .strAfter _).mono fun _ _ h hfound => h (hfound (by decide))

/-- A new lexical form is read back with the language tag and the datatype of the literal that it
was given to, or with none if it was given to another term. A literal that is given its own lexical
form stays as it is, except that its datatype gets the pair of brackets. So operators that give
their first argument a new lexical form keep its language tag and its datatype. -/
theorem literal?_withLexical_and_operators_keep_kind {σ : Type} [RandomSource σ] :
    (∀ (s : Term) (l : Literal) (lexical : String), s.literal? = some l →
      (s.withLexical lexical).literal? = some ⟨lexical, l.kind⟩) ∧
    (∀ (s : Term) (lexical : String), s.literal? = none →
      (s.withLexical lexical).literal? = some ⟨lexical, .simple⟩) ∧
    (∀ (t : Term) (l : Literal), t.literal? = some l →
      (t.withLexical l.lexical).literal? = some l ∧
      ((∀ datatype, ¬t.WritesBare datatype) → t.withLexical l.lexical = t) ∧
      (∀ datatype, t.WritesBare datatype → t.withLexical l.lexical = .typed l.lexical datatype) ∧
      (t.withLexical l.lexical).withLexical l.lexical = t.withLexical l.lexical) ∧
    ∀ op ∈ Operator.lexicalChanging, ∀ (args : List Value) (w : Value) (s s' : σ),
      ((Descriptor.standard op).implementation.invoke op args).runFrom s = (.ok w, s') →
      (op ∈ [.strBefore, .strAfter] → Strings.FindsNeedle args) →
      ∃ t rest u, args = .term t :: rest ∧ w = .term u ∧ u.language? = t.language? ∧
        u.datatype? = t.datatype? ∧ u.effectiveDatatype? = t.effectiveDatatype? := by
  refine ⟨fun s l lexical hl => ?_, fun s lexical hl => ?_, fun t l hl => ?_, ?_⟩
  · rw [Term.literal?_withLexical, Term.kind_of_literal? hl]
  · rw [Term.literal?_withLexical, Term.kind_of_literal?_eq_none hl]
  · obtain ⟨hself, hbare⟩ := Term.withLexical_self_cases hl
    refine ⟨?_, hself, hbare, Term.withLexical_withLexical t _ _⟩
    rw [Term.literal?_withLexical, Term.kind_of_literal? hl]
  · intro op hop args w s s' hw hfound
    obtain ⟨t, l, rest, lexical, hargs, hl, hu⟩ := (standard_changesLexical hop).of_invoke hw hfound
    exact ⟨t, rest, t.withLexical lexical, hargs, hu, t.language?_withLexical lexical,
      t.datatype?_withLexical lexical, Term.effectiveDatatype?_withLexical hl lexical⟩

/-- The needle is a quote, and half a bracket is part of the datatype. -/
theorem strAfter_quote_keeps_kind :
    let t : Term := ⟨"\"a\"b\"^^<d"⟩
    let n : Term := ⟨"\"\"\""⟩
    let u : Term := ⟨"\"b\"^^<<d>"⟩
    let s : Script := { doubles := [], uuids := [] }
    (t.WritesBare "<d" ∧ t.literal? = some ⟨"a\"b", .typed "<d"⟩ ∧
      t.withLexical "a\"b" = .typed "a\"b" "<d") ∧
    Strings.FindsNeedle [.term t, .term n] ∧
    ((Descriptor.standard .strAfter).implementation.invoke .strAfter [.term t, .term n]).runFrom s =
      (.ok (.term u), s) ∧
    u.language? = t.language? ∧ u.datatype? = t.datatype? ∧
      u.effectiveDatatype? = t.effectiveDatatype? := by
  intro t n u s
  have hl : t.literal? = some ⟨"a\"b", .typed "<d"⟩ := by decide
  have hbare : t.WritesBare "<d" := by
    refine ⟨"a\"b", by decide, by decide, fun inner h => ?_⟩
    have hlast := congrArg (fun text : String => text.toList.reverse.head?) h
    simp at hlast
  have hfound : Strings.FindsNeedle [.term t, .term n] :=
    ⟨t, n, _, ⟨"\"", .simple⟩, rfl, hl, by decide, by decide⟩
  have hrun : ((Descriptor.standard .strAfter).implementation.invoke .strAfter
      [.term t, .term n]).runFrom s = (.ok (.term u), s) := by
    subst t n u s
    rfl
  obtain ⟨-, -, hself, hkeep⟩ := literal?_withLexical_and_operators_keep_kind (σ := Script)
  obtain ⟨t', rest, u', hargs, hu, hkinds⟩ :=
    hkeep .strAfter (by decide) _ _ _ _ hrun fun _ => hfound
  cases hargs
  cases hu
  exact ⟨⟨hbare, hl, (hself t _ hl).2.2.1 "<d" hbare⟩, hfound, hrun, hkinds⟩

end SparqlExpr
