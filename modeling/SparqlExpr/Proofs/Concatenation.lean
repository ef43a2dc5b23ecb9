import SparqlExpr.Proofs.IntegerText
import SparqlExpr.Proofs.TextOperators

/-! The laws of concatenation, and what the other operators on texts find in a concatenation. -/
namespace SparqlExpr

/-- The concatenation of what two trees come to. -/
def Expr.concat (d e : Expr) : Expr :=
  call "concat" [d, e]

theorem Expr.Reduces.concat {d e : Expr} {s t : Term} {l m : Literal} (hd : d.Reduces (.ok s))
    (he : e.Reduces (.ok t)) (hs : s.literal? = some l) (ht : t.literal? = some m) :
    (d.concat e).Reduces (.ok (s.withLexical (l.lexical ++ m.lexical))) :=
  call₂ (by decide) ⟨_, rfl, rfl, rfl⟩ rfl hd he (Strings.concat_makes hs ht)

section Laws
variable {a b c : Term} {la lb lc : Literal}

theorem concat_reduces (ha : a.literal? = some la) (hb : b.literal? = some lb) :
    ((Expr.const a).concat (.const b)).Reduces
      (.ok (a.withLexical (la.lexical ++ lb.lexical))) :=
  (Expr.reduces_const a).concat (Expr.reduces_const b) ha hb

theorem concat_assoc (ha : a.literal? = some la) (hb : b.literal? = some lb)
    (hc : c.literal? = some lc) :
    ∃ t, (((Expr.const a).concat (.const b)).concat (.const c)).Reduces (.ok t) ∧
      ((Expr.const a).concat ((Expr.const b).concat (.const c))).Reduces (.ok t) := by
  have hleft := (concat_reduces ha hb).concat (Expr.reduces_const c)
    (Term.literal?_withLexical a _) hc
  have hright := (Expr.reduces_const a).concat (concat_reduces hb hc) ha
    (Term.literal?_withLexical b _)
  rw [Term.withLexical_withLexical, String.append_assoc] at hleft
  exact ⟨_, hleft, hright⟩

theorem concat_empty (ha : a.literal? = some la) :
    ∃ t, ((Expr.const a).concat (.const (.simple ""))).Reduces (.ok t) ∧
      t.literal? = a.literal? := by
  have hempty : (Term.simple "").literal? = some ⟨"", .simple⟩ := by decide
  refine ⟨_, concat_reduces ha hempty, ?_⟩
  rw [String.append_empty, Term.literal?_withLexical, Term.kind_of_literal? ha, ha]

theorem strLen_concat (ha : a.literal? = some la) (hb : b.literal? = some lb) :
    (Expr.call "strlen" [(Expr.const a).concat (.const b)]).Reduces (.ok (.typed
      (toString (la.lexical.length + lb.lexical.length)) Vocabulary.xsdInteger)) := by
  have h := (concat_reduces ha hb).strLen (Term.literal?_withLexical a _)
  rwa [String.length_append] at h

section Tests
variable (op : Operator) (f : List Char → List Char → Bool)
  (hop : Descriptor.standard op = ⟨.asIs, .boolean, false, Strings.test op f⟩) {name : String}
  (hname : Operator.ofName? name = some op) (hcall : Registry.standard.Callable name 2)
  (ha : a.literal? = some la) (hb : b.literal? = some lb)
include hop hname hcall ha hb

/-- A test of a concatenation against a literal that is compatible with its first part. -/
theorem test_concat (hc : c.literal? = some lc) (h : a.compatible c = true) :
    (Expr.call name [(Expr.const a).concat (.const b), .const c]).Evaluates
      (.ok (.ofBool (f (la.lexical.toList ++ lb.lexical.toList) lc.lexical.toList))) := by
  have hab := concat_reduces ha hb
  have hcompatible := (Term.compatible_withLexical ha (la.lexical ++ lb.lexical) c).trans h
  have hmakes := Strings.test_makes op f hop (Term.literal?_withLexical a _) hc hcompatible
  rw [String.toList_append] at hmakes
  exact (Expr.Reduces.call₂ hname hcall (hop ▸ rfl) hab (Expr.reduces_const c) hmakes).evaluates

theorem test_concat_error (h : a.compatible c = false) :
    (Expr.call name [(Expr.const a).concat (.const b), .const c]).Evaluates
      (.error (.incompatible op.name (a.withLexical (la.lexical ++ lb.lexical)) c)) := by
  have hab := concat_reduces ha hb
  have hcompatible := (Term.compatible_withLexical ha (la.lexical ++ lb.lexical) c).trans h
  have hmakes := Strings.test_makes_error op f hop hcompatible
  exact (Expr.Reduces.call₂ hname hcall (hop ▸ rfl) hab (Expr.reduces_const c) hmakes).evaluates

end Tests

/-- Concatenation is associative up to the text of the result, the empty simple literal is neutral
on the right, and lengths add up. A concatenation starts with its first part; it ends with its
second part and contains it if the two are compatible, and otherwise these tests are refused. -/
theorem concat_laws (ha : a.literal? = some la) (hb : b.literal? = some lb)
    (hc : c.literal? = some lc) :
    let ab := (Expr.const a).concat (.const b)
    (∃ t, (ab.concat (.const c)).Evaluates (.ok t) ∧
      ((Expr.const a).concat ((Expr.const b).concat (.const c))).Evaluates (.ok t)) ∧
    (∃ t, ((Expr.const a).concat (.const (.simple ""))).Evaluates (.ok t) ∧
      t.literal? = a.literal?) ∧
    (∃ u v w : Term, (Expr.call "strlen" [.const a]).Evaluates (.ok u) ∧
      (Expr.call "strlen" [.const b]).Evaluates (.ok v) ∧
      (Expr.call "strlen" [ab]).Evaluates (.ok w) ∧
      u.DenotesInteger la.lexical.length ∧ v.DenotesInteger lb.lexical.length ∧
      w.DenotesInteger (la.lexical.length + lb.lexical.length)) ∧
    (Expr.call "strstarts" [ab, .const a]).Evaluates (.ok (.ofBool true)) ∧
    (a.compatible b = true →
      (Expr.call "strends" [ab, .const b]).Evaluates (.ok (.ofBool true)) ∧
      (Expr.call "contains" [ab, .const b]).Evaluates (.ok (.ofBool true))) ∧
    (a.compatible b = false → ∃ t, ab.Evaluates (.ok t) ∧
      (Expr.call "strends" [ab, .const b]).Evaluates (.error (.incompatible "strends" t b)) ∧
      (Expr.call "contains" [ab, .const b]).Evaluates (.error (.incompatible "contains" t b))) := by
  intro ab
  have hstarts : Operator.ofName? "strstarts" = some .strStarts := by decide
  have hends : Operator.ofName? "strends" = some .strEnds := by decide
  have hcontains : Operator.ofName? "contains" = some .contains := by decide
  refine ⟨?assoc, ?empty, ?length, ?starts, ?compatible, ?incompatible⟩
  case assoc =>
    obtain ⟨t, hleft, hright⟩ := concat_assoc ha hb hc
    exact ⟨t, hleft.evaluates, hright.evaluates⟩
  case empty =>
    obtain ⟨t, ht, hliteral⟩ := concat_empty ha
    exact ⟨t, ht.evaluates, hliteral⟩
  case length =>
    have hu := (Expr.reduces_const a).strLen ha
    have hv := (Expr.reduces_const b).strLen hb
    have hw := strLen_concat ha hb
    exact ⟨_, _, _, hu.evaluates, hv.evaluates, hw.evaluates, Term.denotesInteger_toString _,
      Term.denotesInteger_toString _, Term.denotesInteger_toString _⟩
  case starts =>
    have htest := test_concat .strStarts _ rfl hstarts ⟨_, rfl, rfl, rfl⟩ ha hb ha
      (Term.compatible_self ha)
    rwa [List.isPrefixOf_iff_prefix.mpr (List.prefix_append _ _)] at htest
  case compatible =>
    intro h
    have htest := test_concat .strEnds _ rfl hends ⟨_, rfl, rfl, rfl⟩ ha hb hb h
    have htest' := test_concat .contains _ rfl hcontains ⟨_, rfl, rfl, rfl⟩ ha hb hb h
    rw [List.isSuffixOf_iff_suffix.mpr (List.suffix_append _ _)] at htest
    rw [Text.isSome_splitAtFirst?_iff.mpr (List.suffix_append _ _).isInfix] at htest'
    exact ⟨htest, htest'⟩
  case incompatible =>
    intro h
    have htest := test_concat_error .strEnds _ rfl hends ⟨_, rfl, rfl, rfl⟩ ha hb h
    have htest' := test_concat_error .contains _ rfl hcontains ⟨_, rfl, rfl, rfl⟩ ha hb h
    exact ⟨_, (concat_reduces ha hb).evaluates, htest, htest'⟩

/-- A quote in a lexical form, a datatype without brackets, and a language tag. -/
theorem concat_laws_quoted :
    let a : Term := ⟨"\"say \"\""⟩
    let b : Term := ⟨"\"5\"^^http://www.w3.org/2001/XMLSchema#integer"⟩
    let c : Term := ⟨"\"x\"@fr"⟩
    let ab := (Expr.const a).concat (.const b)
    (∃ t, (ab.concat (.const c)).Evaluates (.ok t) ∧
      ((Expr.const a).concat ((Expr.const b).concat (.const c))).Evaluates (.ok t)) ∧
    (Expr.call "strends" [ab, .const b]).Evaluates (.ok (.ofBool true)) ∧
    ∃ t, (Expr.call "strends" [(Expr.const a).concat (.const c), .const c]).Evaluates
      (.error (.incompatible "strends" t c)) := by
  intro a b c ab
  have ha : a.literal? = some ⟨"say \"", .simple⟩ := by decide
  have hb : b.literal? = some ⟨"5", .typed Vocabulary.xsdInteger⟩ := by decide
  have hc : c.literal? = some ⟨"x", .tagged "fr"⟩ := by decide
  obtain ⟨hassoc, -, -, -, htests, -⟩ := concat_laws ha hb hc
  obtain ⟨-, -, -, -, -, hrefused⟩ := concat_laws ha hc hb
  obtain ⟨t, -, hends, -⟩ := hrefused (by decide)
  exact ⟨hassoc, (htests (by decide)).1, t, hends⟩

end Laws

end SparqlExpr
