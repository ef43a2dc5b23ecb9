import SparqlExpr.Proofs.TextOperators

/-! Searching one literal for the text of another: the operators that test for it and those that cut
at it all speak of the same, first occurrence. -/
namespace SparqlExpr

namespace Text
variable {needle text before after : List Char}

theorem isPrefixOf_iff_of_splitAtFirst? (h : splitAtFirst? needle text = some (before, after)) :
    needle.isPrefixOf text = true ↔ before = [] := by
  obtain ⟨htext, hfirst⟩ := splitAtFirst?_eq_some h
  rw [List.isPrefixOf_iff_prefix]
  constructor
  · rintro ⟨rest, hrest⟩
    exact List.eq_nil_of_length_eq_zero (Nat.le_zero.mp (hfirst [] rest hrest.symm))
  · rintro rfl
    exact ⟨after, htext.symm⟩

theorem isSuffixOf_of_splitAtFirst? (h : splitAtFirst? needle text = some (before, [])) :
    needle.isSuffixOf text = true := by
  obtain ⟨htext, -⟩ := splitAtFirst?_eq_some h
  rw [List.append_nil] at htext
  exact List.isSuffixOf_iff_suffix.mpr ⟨before, htext.symm⟩

/-- A needle that is not found stands neither at the start nor at the end. -/
theorem not_infix_of_splitAtFirst? (h : splitAtFirst? needle text = none) : ¬needle <:+: text := by
  rw [← isSome_splitAtFirst?_iff, h]
  exact Bool.false_ne_true

theorem isPrefixOf_eq_false_of_splitAtFirst? (h : splitAtFirst? needle text = none) :
    needle.isPrefixOf text = false := by
  rw [← Bool.not_eq_true, List.isPrefixOf_iff_prefix]
  exact fun hprefix => not_infix_of_splitAtFirst? h hprefix.isInfix

theorem isSuffixOf_eq_false_of_splitAtFirst? (h : splitAtFirst? needle text = none) :
    needle.isSuffixOf text = false := by
  rw [← Bool.not_eq_true, List.isSuffixOf_iff_suffix]
  exact fun hsuffix => not_infix_of_splitAtFirst? h hsuffix.isInfix

end Text

theorem eq_append_iff_toList {text needle p q : String} :
    text = p ++ needle ++ q ↔ text.toList = p.toList ++ needle.toList ++ q.toList := by
  rw [← String.toList_inj, String.toList_append, String.toList_append]

/-- A text occurs in another exactly if it is an infix of its characters. -/
theorem exists_eq_append_iff {text needle : String} :
    (∃ p q, text = p ++ needle ++ q) ↔ needle.toList <:+: text.toList := by
  constructor
  · rintro ⟨p, q, h⟩
    exact ⟨p.toList, q.toList, (eq_append_iff_toList.mp h).symm⟩
  · rintro ⟨p, q, h⟩
    exact ⟨String.ofList p, String.ofList q, eq_append_iff_toList.mpr (by simp [h])⟩

section Operators
variable {s n : Term} {l m : Literal} {name : String} {op : Operator}

/-- An operator on two constants. -/
theorem evaluates_on_constants {result : Except FilterError Term}
    (hname : Operator.ofName? name = some op) (hcall : Registry.standard.Callable name 2)
    (hraw : (Descriptor.standard op).raw = false) (h : op.Makes [s, n] result) :
    (Expr.call name [.const s, .const n]).Evaluates result :=
  (Expr.Reduces.call₂ hname hcall hraw (Expr.reduces_const s) (Expr.reduces_const n) h).evaluates

/-- The tests for a needle, on constants. -/
theorem evaluates_tests (hs : s.literal? = some l) (hn : n.literal? = some m)
    (h : s.compatible n = true) :
    (Expr.call "strstarts" [.const s, .const n]).Evaluates
        (.ok (.ofBool (m.lexical.toList.isPrefixOf l.lexical.toList))) ∧
      (Expr.call "strends" [.const s, .const n]).Evaluates
        (.ok (.ofBool (m.lexical.toList.isSuffixOf l.lexical.toList))) ∧
      (Expr.call "contains" [.const s, .const n]).Evaluates
        (.ok (.ofBool (Text.splitAtFirst? m.lexical.toList l.lexical.toList).isSome)) := by
  have hstarts := Strings.test_makes .strStarts _ rfl hs hn h
  have hends := Strings.test_makes .strEnds _ rfl hs hn h
  have hcontains := Strings.test_makes .contains _ rfl hs hn h
  exact ⟨evaluates_on_constants (by decide) ⟨_, rfl, rfl, rfl⟩ rfl hstarts,
    evaluates_on_constants (by decide) ⟨_, rfl, rfl, rfl⟩ rfl hends,
    evaluates_on_constants (by decide) ⟨_, rfl, rfl, rfl⟩ rfl hcontains⟩

/-- The operators that cut at a needle, on constants. -/
theorem evaluates_parts_of_some (hs : s.literal? = some l) (hn : n.literal? = some m)
    (h : s.compatible n = true) {before after : List Char}
    (hfound : Text.splitAtFirst? m.lexical.toList l.lexical.toList = some (before, after)) :
    (Expr.call "strbefore" [.const s, .const n]).Evaluates
        (.ok (s.withLexical (String.ofList before))) ∧
      (Expr.call "strafter" [.const s, .const n]).Evaluates
        (.ok (s.withLexical (String.ofList after))) := by
  have hbefore := Strings.part_makes_of_some .strBefore _ rfl hs hn h hfound
  have hafter := Strings.part_makes_of_some .strAfter _ rfl hs hn h hfound
  exact ⟨evaluates_on_constants (by decide) ⟨_, rfl, rfl, rfl⟩ rfl hbefore,
    evaluates_on_constants (by decide) ⟨_, rfl, rfl, rfl⟩ rfl hafter⟩

theorem evaluates_parts_of_none (hs : s.literal? = some l) (hn : n.literal? = some m)
    (h : s.compatible n = true)
    (hmissing : Text.splitAtFirst? m.lexical.toList l.lexical.toList = none) :
    (Expr.call "strbefore" [.const s, .const n]).Evaluates (.ok (.simple "")) ∧
      (Expr.call "strafter" [.const s, .const n]).Evaluates (.ok (.simple "")) := by
  have hbefore := Strings.part_makes_of_none .strBefore _ rfl hs hn h hmissing
  have hafter := Strings.part_makes_of_none .strAfter _ rfl hs hn h hmissing
  exact ⟨evaluates_on_constants (by decide) ⟨_, rfl, rfl, rfl⟩ rfl hbefore,
    evaluates_on_constants (by decide) ⟨_, rfl, rfl, rfl⟩ rfl hafter⟩

/-- For compatible literals, the operators that search a text speak of one occurrence. If the needle
occurs, the parts before and after it have the kind of the literal that is searched, the text is
made of them and the needle between, and no occurrence stands further to the left. Otherwise the
parts are empty simple literals, and the text neither starts nor ends with the needle. -/
theorem search_operators_agree (hs : s.literal? = some l) (hn : n.literal? = some m)
    (h : s.compatible n = true) :
    ∃ (starts ends found : Bool) (before after : Term),
      (Expr.call "strstarts" [.const s, .const n]).Evaluates (.ok (.ofBool starts)) ∧
      (Expr.call "strends" [.const s, .const n]).Evaluates (.ok (.ofBool ends)) ∧
      (Expr.call "contains" [.const s, .const n]).Evaluates (.ok (.ofBool found)) ∧
      (Expr.call "strbefore" [.const s, .const n]).Evaluates (.ok before) ∧
      (Expr.call "strafter" [.const s, .const n]).Evaluates (.ok after) ∧
      (found = true ↔ ∃ p q, l.lexical = p ++ m.lexical ++ q) ∧
      (found = true → ∃ p q, l.lexical = p ++ m.lexical ++ q ∧
        (∀ p' q', l.lexical = p' ++ m.lexical ++ q' → p.length ≤ p'.length) ∧
        before.literal? = some ⟨p, l.kind⟩ ∧ after.literal? = some ⟨q, l.kind⟩ ∧
        (starts = true ↔ p = "") ∧ (q = "" → ends = true)) ∧
      (found = false →
        before = .simple "" ∧ after = .simple "" ∧ starts = false ∧ ends = false) := by
  obtain ⟨hstarts, hends, hcontains⟩ := evaluates_tests hs hn h
  cases hsplit : Text.splitAtFirst? m.lexical.toList l.lexical.toList with
  | some parts =>
    obtain ⟨before, after⟩ := parts
    obtain ⟨hbefore, hafter⟩ := evaluates_parts_of_some hs hn h hsplit
    obtain ⟨htext, hfirst⟩ := Text.splitAtFirst?_eq_some hsplit
    have hoccurs : l.lexical = String.ofList before ++ m.lexical ++ String.ofList after := by
      rw [eq_append_iff_toList, String.toList_ofList, String.toList_ofList, htext]
    rw [hsplit] at hcontains
    refine ⟨_, _, true, _, _, hstarts, hends, hcontains, hbefore, hafter, ?_, ?_, ?_⟩
    · exact iff_of_true rfl ⟨_, _, hoccurs⟩
    · intro _
      refine ⟨_, _, hoccurs, ?_, ?_, ?_, ?_, ?_⟩
      · intro p' q' hother
        rw [String.length_ofList, ← String.length_toList]
        exact hfirst _ _ (eq_append_iff_toList.mp hother)
      · rw [Term.literal?_withLexical, Term.kind_of_literal? hs]
      · rw [Term.literal?_withLexical, Term.kind_of_literal? hs]
      · rw [Text.isPrefixOf_iff_of_splitAtFirst? hsplit, String.ofList_eq_empty_iff]
      · intro hempty
        rw [String.ofList_eq_empty_iff] at hempty
        exact Text.isSuffixOf_of_splitAtFirst? (hempty ▸ hsplit)
    · exact fun hfalse => nomatch hfalse
  | none =>
    obtain ⟨hbefore, hafter⟩ := evaluates_parts_of_none hs hn h hsplit
    rw [hsplit] at hcontains
    rw [Text.isPrefixOf_eq_false_of_splitAtFirst? hsplit] at hstarts
    rw [Text.isSuffixOf_eq_false_of_splitAtFirst? hsplit] at hends
    refine ⟨false, false, false, _, _, hstarts, hends, hcontains, hbefore, hafter, ?_, ?_, ?_⟩
    · rw [exists_eq_append_iff]
      exact iff_of_false Bool.false_ne_true (Text.not_infix_of_splitAtFirst? hsplit)
    · exact fun htrue => nomatch htrue
    · exact fun _ => ⟨rfl, rfl, rfl, rfl⟩

/-- Occurrences may overlap, and the lexical form holds a quote. -/
theorem search_operators_agree_overlapping :
    let s : Term := ⟨"\"say \"no no no\"@en"⟩
    let n : Term := ⟨"\"no no\"@en"⟩
    s.compatible n = true ∧
      (Expr.call "contains" [.const s, .const n]).Evaluates (.ok (.ofBool true)) ∧
      (Expr.call "strbefore" [.const s, .const n]).Evaluates (.ok ⟨"\"say \"\"@en"⟩) ∧
      (Expr.call "strafter" [.const s, .const n]).Evaluates (.ok ⟨"\" no\"@en"⟩) := by
  intro s n
  have hs : s.literal? = some ⟨"say \"no no no", .tagged "en"⟩ := by decide
  have hn : n.literal? = some ⟨"no no", .tagged "en"⟩ := by decide
  have hcompatible : s.compatible n = true := by decide
  obtain ⟨starts, ends, found, before, after, -, -, hfound, hbefore, hafter, hoccurs, -⟩ :=
    search_operators_agree hs hn hcompatible
  obtain rfl : found = true := hoccurs.mpr ⟨"say \"", " no", by decide⟩
  -- The parts are the same in every run, so that one run tells what they are.
  have hbefore' : (Except.ok before, _) = (.ok ⟨"\"say \"\"@en"⟩, _) :=
    (hbefore Script {} (by decide) .empty ⟨[], [], 0, 0⟩).symm.trans (by subst s n; rfl)
  have hafter' : (Except.ok after, _) = (.ok ⟨"\" no\"@en"⟩, _) :=
    (hafter Script {} (by decide) .empty ⟨[], [], 0, 0⟩).symm.trans (by subst s n; rfl)
  cases hbefore'
  cases hafter'
  exact ⟨hcompatible, hfound, hbefore, hafter⟩

end Operators

end SparqlExpr
