import SparqlExpr.Operator.Catalogue
import SparqlExpr.Proofs.Alike

/-! The operators of the catalogue respect alike values: all but `sameterm` agree on them. -/
namespace SparqlExpr

variable {v v' w w' x x' : Value} {s t : Term}

/-- Called with alike values, an implementation agrees; where it fails, it rejects them under the
name of an operator. -/
def Implementation.Respects (op : Operator) : Implementation → Prop
  | unary call => ∀ v v', v.Alike v' →
    Agree (FilterError.RejectAlike op) Value.Alike (call v) (call v')
  | binary call => ∀ v v' w w', v.Alike v' → w.Alike w' →
    Agree (FilterError.RejectAlike op) Value.Alike (call v w) (call v' w')
  | ternary call => ∀ v v' w w' x x', v.Alike v' → w.Alike w' → x.Alike x' →
    Agree (FilterError.RejectAlike op) Value.Alike (call v w x) (call v' w' x')
  | nullary _ | raw .. | unsupported _ => True

section Accessors
variable (op : Operator)

theorem toTerm_agree (h : v.Alike v') :
    Agree (FilterError.RejectAlike op) Term.Alike (v.toTerm op.name) (v'.toTerm op.name) := by
  cases h with
  | term h => exact .ok h
  | number x => exact .error (.invalid _ _)
  | boolean b => exact .error (.invalid _ _)

theorem toNumber_agree (h : v.Alike v') :
    Agree (FilterError.RejectAlike op) Eq (v.toNumber op.name) (v'.toNumber op.name) := by
  cases h with
  | term h => exact .error (.invalid _ _)
  | number x => exact .ok rfl
  | boolean b => exact .error (.invalid _ _)

theorem toBoolean_agree (h : v.Alike v') :
    Agree (FilterError.RejectAlike op) Eq (v.toBoolean op.name) (v'.toBoolean op.name) := by
  cases h with
  | term h => exact .error (.invalid _ _)
  | number x => exact .error (.invalid _ _)
  | boolean b => exact .ok rfl

theorem toLiteral_agree (h : v.Alike v') :
    Agree (FilterError.RejectAlike op) Eq (v.toLiteral op.name) (v'.toLiteral op.name) := by
  refine .bind (toTerm_agree op h) fun s t hst => ?_
  rw [hst.literal?_eq]
  cases t.literal? with
  | some l => exact .ok rfl
  | none => exact .error (.invalid _ _)

theorem numberOf_agree (h : v.Alike v') :
    Agree (FilterError.RejectAlike op) Eq (Strings.numberOf op v) (Strings.numberOf op v') := by
  refine .bind_eq (toLiteral_agree op h) fun l => ?_
  cases Double.ofLexical? l.lexical with
  | some x => exact .ok rfl
  | none => exact .error (.invalid _ _)

theorem compatible_agree (mem : op ∈ Operator.comparisons) (h : v.Alike v') (h' : w.Alike w') :
    Agree (FilterError.RejectAlike op) Eq (Strings.compatible op v w)
      (Strings.compatible op v' w') := by
  refine .bind (toTerm_agree op h) fun s t hst => .bind (toTerm_agree op h') fun s' t' hst' => ?_
  have hcompatible := hst.compatible_eq hst'
  rw [hcompatible]
  cases ht : t.compatible t' with
  | true =>
    exact .bind_eq (toLiteral_agree op h) fun l => .bind_eq (toLiteral_agree op h') fun m => .ok rfl
  | false => exact .error (.incompatible mem (hcompatible.trans ht) ht)

theorem plainLexical_agree (h : s.Alike t) :
    Agree (FilterError.RejectAlike op) Eq (Terms.plainLexical op s) (Terms.plainLexical op t) := by
  unfold Terms.plainLexical
  rw [h.literal?_eq, h.isPlain_eq]
  cases t.literal? with
  | none => exact .error (.invalid _ _)
  | some l =>
    cases t.isPlain with
    | true => exact .ok rfl
    | false => exact .error (.invalid _ _)

end Accessors

namespace Arithmetic

theorem onNumber_respects (op : Operator) (f : Double → Value) : (onNumber op f).Respects op :=
  fun _ _ h => .bind_eq (toNumber_agree op h) fun x => .ok (.refl (f x))

theorem onNumbers_respects (op : Operator) (f : Double → Double → Value) :
    (onNumbers op f).Respects op :=
  fun _ _ _ _ h h' => .bind_eq (toNumber_agree op h) fun x =>
    .bind_eq (toNumber_agree op h') fun y => .ok (.refl (f x y))

theorem not_respects : Arithmetic.not.Respects .not :=
  fun _ _ h => .bind_eq (toBoolean_agree .not h) fun _ => .ok (.boolean _)

theorem and_respects : Arithmetic.and.Respects .and := by
  refine fun _ _ _ _ h h' => .bind_eq (toBoolean_agree .and h) fun b => ?_
  cases b with
  | true => exact .bind_eq (toBoolean_agree .and h') fun _ => .ok (.boolean _)
  | false => exact .ok (.boolean _)

theorem or_respects : Arithmetic.or.Respects .or := by
  refine fun _ _ _ _ h h' => .bind_eq (toBoolean_agree .or h) fun b => ?_
  cases b with
  | true => exact .ok (.boolean _)
  | false => exact .bind_eq (toBoolean_agree .or h') fun _ => .ok (.boolean _)

end Arithmetic

namespace Terms

/-- A test respects alike terms if it comes out the same on them. -/
theorem test_respects (op : Operator) {f : Term → Bool} (hf : ∀ s t, s.Alike t → f s = f t) :
    (test op f).Respects op := by
  refine fun _ _ h => .bind (toTerm_agree op h) fun s t hst => ?_
  rw [hf s t hst]
  exact .ok (.boolean _)

theorem str_respects : str.Respects .str := by
  refine fun v v' h => .bind (toTerm_agree .str h) fun s t hst => ?_
  rw [hst.isIri_eq]
  cases hi : t.isIri with
  | true => exact .ok (.term (.of_eq (by rw [hst.eq_of_isIri hi])))
  | false => exact .bind_eq (toLiteral_agree .str h) fun l => .ok (.refl _)

theorem lang_respects : lang.Respects .lang :=
  fun _ _ h => .bind_eq (toLiteral_agree .lang h) fun _ => .ok (.refl _)

theorem datatype_respects : datatype.Respects .datatype :=
  fun _ _ h => .bind_eq (toLiteral_agree .datatype h) fun _ => .ok (.refl _)

theorem toIri_respects (op : Operator) : (toIri op).Respects op := by
  refine fun v v' h => .bind (toTerm_agree op h) fun s t hst => ?_
  rw [hst.isIri_eq, hst.literal?_eq, hst.isPlain_eq]
  cases t.isIri with
  | true => exact .ok (.term hst)
  | false =>
    cases t.literal? with
    | none => exact .error (.invalid _ _)
    | some l =>
      cases t.isPlain with
      | true => exact .ok (.refl _)
      | false => exact .error (.invalid _ _)

theorem strDt_respects : strDt.Respects .strDt := by
  refine fun v v' w w' h h' => .bind (toTerm_agree .strDt h) fun s t hst =>
    .bind (toTerm_agree .strDt h') fun d d' hd =>
    .bind_eq (plainLexical_agree .strDt hst) fun l => ?_
  rw [hd.isIri_eq]
  cases hi : d'.isIri with
  | true => exact .ok (.term (.of_eq (by rw [hd.eq_of_isIri hi])))
  | false => exact .error (.invalid _ _)

theorem strLang_respects : strLang.Respects .strLang := by
  refine fun v v' w w' h h' => .bind (toTerm_agree .strLang h) fun s t hst =>
    .bind (toTerm_agree .strLang h') fun _ _ _ =>
    .bind_eq (plainLexical_agree .strLang hst) fun l =>
    .bind_eq (toLiteral_agree .strLang h') fun tag => ?_
  by_cases htag : tag.lexical = ""
  · rw [if_pos htag]
    exact .error (.invalid _ _)
  · rw [if_neg htag]
    exact .ok (.refl _)

end Terms

namespace Strings

theorem strLen_respects : strLen.Respects .strLen :=
  fun _ _ h => .bind_eq (toLiteral_agree .strLen h) fun _ => .ok (.refl _)

theorem substr_respects : substr.Respects .substr := by
  refine fun _ _ _ _ _ _ h hstart hlength => .bind (toTerm_agree .substr h) fun s t hst =>
    .bind_eq (toLiteral_agree .substr h) fun l => .bind_eq (numberOf_agree .substr hstart) fun x =>
    .bind_eq (numberOf_agree .substr hlength) fun y => ?_
  exact .ok (.term (.of_eq (hst.withLexical_eq _)))

theorem mapLexical_respects (op : Operator) (f : List Char → List Char) :
    (mapLexical op f).Respects op :=
  fun _ _ h => .bind (toTerm_agree op h) fun _ _ hst => .bind_eq (toLiteral_agree op h) fun _ =>
    .ok (.term (.of_eq (hst.withLexical_eq _)))

theorem test_respects (op : Operator) (f : List Char → List Char → Bool)
    (mem : op ∈ Operator.comparisons) : (test op f).Respects op :=
  fun _ _ _ _ h h' => .bind_eq (compatible_agree op mem h h') fun _ => .ok (.boolean _)

theorem strStarts_respects : strStarts.Respects .strStarts := test_respects .strStarts _ (by decide)

theorem strEnds_respects : strEnds.Respects .strEnds := test_respects .strEnds _ (by decide)

theorem contains_respects : contains.Respects .contains := test_respects .contains _ (by decide)

theorem part_respects (op : Operator) (f : List Char × List Char → List Char)
    (mem : op ∈ Operator.comparisons) : (part op f).Respects op := by
  refine fun _ _ _ _ h h' => .bind_eq (compatible_agree op mem h h') fun p =>
    .bind (toTerm_agree op h) fun s t hst => ?_
  cases Text.splitAtFirst? p.2 p.1 with
  | some parts => exact .ok (.term (.of_eq (hst.withLexical_eq _)))
  | none => exact .ok (.refl _)

theorem strBefore_respects : strBefore.Respects .strBefore := part_respects .strBefore _ (by decide)

theorem strAfter_respects : strAfter.Respects .strAfter := part_respects .strAfter _ (by decide)

theorem concat_respects : concat.Respects .concat :=
  fun _ _ _ _ h h' => .bind_eq (toLiteral_agree .concat h) fun _ =>
    .bind_eq (toLiteral_agree .concat h') fun _ => .bind (toTerm_agree .concat h) fun _ _ hst =>
    .ok (.term (.of_eq (hst.withLexical_eq _)))

theorem langMatches_respects : langMatches.Respects .langMatches :=
  fun _ _ _ _ h h' => .bind_eq (toLiteral_agree .langMatches h) fun _ =>
    .bind_eq (toLiteral_agree .langMatches h') fun _ => .ok (.boolean _)

theorem regex_respects {ρ : Type} (engine : PatternEngine ρ) :
    (regex engine).Respects .regex := by
  refine fun _ _ _ _ h h' => .bind_eq (toLiteral_agree .regex h) fun text =>
    .bind_eq (toLiteral_agree .regex h') fun pattern => ?_
  cases engine.compile pattern.lexical with
  | ok r => exact .ok (.boolean _)
  | error message => exact .error (.invalid _ _)

end Strings

/-- The operator under whose name an implementation of the catalogue reports. -/
def Operator.reporting : Operator → Operator
  | isUri => isIri
  | op => op

/-- Only `sameterm` tells alike terms apart. -/
theorem standard_respects {op : Operator} (h : op ≠ .sameTerm) :
    (Descriptor.standard op).implementation.Respects op.reporting := by
  cases op with
  | add | subtract | multiply | divide | equal | notEqual | less | lessOrEqual | greater
  | greaterOrEqual => exact Arithmetic.onNumbers_respects _ _
  | abs | round | ceil | floor | xsdDouble => exact Arithmetic.onNumber_respects _ _
  | not => exact Arithmetic.not_respects
  | and => exact Arithmetic.and_respects
  | or => exact Arithmetic.or_respects
  | isIri | isUri => exact Terms.test_respects _ fun _ _ h => h.isIri_eq
  | isBlank => exact Terms.test_respects _ fun _ _ h => h.isBlank_eq
  | isLiteral => exact Terms.test_respects _ fun _ _ h => h.isLiteral_eq
  | isNumeric => exact Terms.test_respects _ fun _ _ h => h.isNumeric_eq
  | sameTerm => exact absurd rfl h
  | str => exact Terms.str_respects
  | lang => exact Terms.lang_respects
  | datatype => exact Terms.datatype_respects
  | iri | uri => exact Terms.toIri_respects _
  | strDt => exact Terms.strDt_respects
  | strLang => exact Terms.strLang_respects
  | strLen => exact Strings.strLen_respects
  | substr => exact Strings.substr_respects
  | ucase | lcase => exact Strings.mapLexical_respects _ _
  | strStarts => exact Strings.strStarts_respects
  | strEnds => exact Strings.strEnds_respects
  | contains => exact Strings.contains_respects
  | strBefore => exact Strings.strBefore_respects
  | strAfter => exact Strings.strAfter_respects
  | concat => exact Strings.concat_respects
  | langMatches => exact Strings.langMatches_respects
  | regex => exact Strings.regex_respects _
  | _ => trivial

/-- Both conversions of a literal read no more than its parts. -/
theorem argument_agree (c : Coercion) (op : Operator) (h : s.Alike t) :
    Agree (FilterError.RejectAlike op) Value.Alike (c.argument op.name s)
      (c.argument op.name t) := by
  cases c with
  | asIs => exact .ok (.term h)
  | boolean =>
    simp only [Coercion.argument, h.truth_eq]
    exact .ok (.boolean _)
  | numeric =>
    simp only [Coercion.argument, h.literal?_eq]
    split
    · exact .error (.invalid _ _)
    · split
      · exact .error (.invalid _ _)
      · exact .ok (.number _)

theorem resultDatatype_eq {first first' : Option Term} (h : Option.Rel Term.Alike first first') :
    Coercion.resultDatatype first = Coercion.resultDatatype first' := by
  cases h with
  | none => rfl
  | some h =>
    simp only [Coercion.resultDatatype, Option.bind_some, h.datatype?_eq]

/-- A result is tagged alike by alike first arguments. -/
theorem result_alike (c : Coercion) {first first' : Option Term}
    (hfirst : Option.Rel Term.Alike first first') (h : v.Alike v') :
    (c.result first v).Alike (c.result first' v') := by
  cases h with
  | term h => exact h
  | number x =>
    cases c with
    | numeric => exact .of_eq (by simp only [Coercion.result, resultDatatype_eq hfirst])
    | boolean => exact .refl _
    | asIs => exact .refl _
  | boolean b => exact .refl _

section Invocation
variable {σ : Type} [RandomSource σ]

/-- A wrong number of values is refused alike too. -/
theorem invoke_agree {source : Operator} {i : Implementation} (hi : i.Respects source)
    (op : Operator)
    {values values' : List Value} (h : List.Forall₂ Value.Alike values values') (s : σ) :
    Outcome.Agree Value.Alike ((i.invoke op values).runFrom s)
      ((i.invoke op values').runFrom s) := by
  cases i with
  | nullary draw =>
    cases h with
    | nil =>
      cases draw with
      | double value => exact .ok (.refl _) _
      | uuid value => exact .ok (.refl _) _
    | cons _ _ => exact .error (.arity _ _ _ _ _) s
  | unary call =>
    rcases h with _ | ⟨hv, _ | ⟨_, _⟩⟩
    · exact .error (.refl _) s
    · exact ⟨(hi _ _ hv).mono fun _ _ h => h.alike, rfl⟩
    · exact .error (.arity _ _ _ _ _) s
  | binary call =>
    rcases h with _ | ⟨hv, _ | ⟨hw, _ | ⟨_, _⟩⟩⟩
    · exact .error (.refl _) s
    · exact .error (.refl _) s
    · exact ⟨(hi _ _ _ _ hv hw).mono fun _ _ h => h.alike, rfl⟩
    · exact .error (.arity _ _ _ _ _) s
  | ternary call =>
    rcases h with _ | ⟨hv, _ | ⟨hw, _ | ⟨hx, _ | ⟨_, _⟩⟩⟩⟩
    · exact .error (.refl _) s
    · exact .error (.refl _) s
    · exact .error (.refl _) s
    · exact ⟨(hi _ _ _ _ _ _ hv hw hx).mono fun _ _ h => h.alike, rfl⟩
    · exact .error (.arity _ _ _ _ _) s
  | raw arity form => exact .error (.refl _) s
  | unsupported arity => exact .error (.refl _) s

end Invocation

end SparqlExpr
