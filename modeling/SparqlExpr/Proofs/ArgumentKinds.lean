import SparqlExpr.Proofs.CallOutcome
import SparqlExpr.Proofs.LexicalNumber
import SparqlExpr.Random.Source

/-! Kinds of arguments: each operator on values reads its arguments as the kind that its own
coercion makes of them. Operators on numbers and truth values have no other reason to fail, so that
only their coercion can. -/
namespace SparqlExpr

variable {P : FilterError → Prop}

/-- What a reader of values returns for a value of another kind. -/
def FilterError.OfReader (error : FilterError) : Prop :=
  ∃ (operator : String) (v : Value), v.toTerm operator = .error error ∨
    v.toNumber operator = .error error ∨ v.toBoolean operator = .error error

/-- Errors about arguments whose kind is right. -/
def FilterError.AboutTerms : FilterError → Prop
  | invalidArgument _ (.wrongKind ..) => False
  | invalidArgument .. | incompatible .. => True
  | _ => False

theorem FilterError.AboutTerms.not_ofReader {error : FilterError} (h : error.AboutTerms) :
    ¬error.OfReader := by
  rintro ⟨operator, v, hv⟩
  cases v with
  | term t => rcases hv with hv | hv | hv <;> cases hv <;> exact h
  | number x => rcases hv with hv | hv | hv <;> cases hv <;> exact h
  | boolean b => rcases hv with hv | hv | hv <;> cases hv <;> exact h

namespace Value
variable {v : Value} {operator : String}

def kind : Value → ValueKind
  | term _ => .term
  | number _ => .number
  | boolean _ => .boolean

theorem toTerm_failsOnly (h : v.kind = .term) : FailsOnly P (v.toTerm operator) := by
  cases v with
  | term t => exact .ok t
  | number x => cases h
  | boolean b => cases h

theorem toNumber_failsOnly (h : v.kind = .number) : FailsOnly P (v.toNumber operator) := by
  cases v with
  | term t => cases h
  | number x => exact .ok x
  | boolean b => cases h

theorem toBoolean_failsOnly (h : v.kind = .boolean) : FailsOnly P (v.toBoolean operator) := by
  cases v with
  | term t => cases h
  | number x => cases h
  | boolean b => exact .ok b

theorem toLiteral_failsOnly (h : v.kind = .term) :
    FailsOnly FilterError.AboutTerms (v.toLiteral operator) := by
  refine (toTerm_failsOnly h).bind fun t => ?_
  cases t.literal? with
  | none => exact .error trivial
  | some l => exact .ok l

end Value

namespace Coercion
variable {c : Coercion} {operator : String} {t : Term} {v : Value}

/-- The kind of the values that arguments are converted to. -/
def kind : Coercion → ValueKind
  | asIs => .term
  | numeric => .number
  | boolean => .boolean

theorem kind_of_argument (h : c.argument operator t = .ok v) : v.kind = c.kind := by
  cases c with
  | asIs =>
    cases h
    rfl
  | numeric =>
    obtain ⟨x, -, rfl⟩ := argument_numeric_eq_ok_iff.mp h
    rfl
  | boolean =>
    cases h
    rfl

theorem kind_of_mapM {ts : List Term} {values : List Value}
    (h : ts.mapM (c.argument operator) = .ok values) : ∀ v ∈ values, v.kind = c.kind :=
  forall_of_mapM (fun _ _ ht => kind_of_argument ht) h

/-- Only what is to be a number can be refused. -/
theorem exists_argument_eq_ok (h : c = .numeric → t.SpellsNumber) :
    ∃ v, c.argument operator t = .ok v := by
  cases c with
  | asIs => exact ⟨.term t, rfl⟩
  | numeric => exact argument_numeric_iff.mpr (h rfl)
  | boolean => exact ⟨.boolean t.truth, rfl⟩

end Coercion

/-- Why a term is not a number. -/
def Term.numberFault (t : Term) : Fault :=
  if t.isLiteral then .notNumeric t.text else .notLiteral t

theorem Coercion.argument_numeric_eq_error {operator : String} {t : Term} (h : ¬t.SpellsNumber) :
    numeric.argument operator t = .error (.invalidArgument operator t.numberFault) := by
  unfold argument Term.numberFault Term.isLiteral
  cases hl : t.literal? with
  | none => rfl
  | some l =>
    cases hx : Double.ofLexical? l.lexical with
    | none => simp [hx]
    | some x =>
      refine absurd ⟨l, hl, Double.isSome_ofLexical?_iff.mp ?_⟩ h
      rw [hx]
      rfl

namespace Implementation
variable {op : Operator}

theorem onNumber_failsOnly (f : Double → Value) :
    (Arithmetic.onNumber op f).FailsOnlyOn (fun v => v.kind = .number) P :=
  fun _ hv => (Value.toNumber_failsOnly hv).bind fun x => .ok (f x)

theorem onNumbers_failsOnly (f : Double → Double → Value) :
    (Arithmetic.onNumbers op f).FailsOnlyOn (fun v => v.kind = .number) P :=
  fun _ _ hv hw => (Value.toNumber_failsOnly hv).bind fun x =>
    (Value.toNumber_failsOnly hw).bind fun y => .ok (f x y)

theorem not_failsOnly : Arithmetic.not.FailsOnlyOn (fun v => v.kind = .boolean) P :=
  fun _ hv => (Value.toBoolean_failsOnly hv).bind fun b => .ok (Value.boolean !b)

theorem and_failsOnly : Arithmetic.and.FailsOnlyOn (fun v => v.kind = .boolean) P := by
  intro v w hv hw
  refine (Value.toBoolean_failsOnly hv).bind fun b => ?_
  cases b with
  | false => exact .ok _
  | true => exact (Value.toBoolean_failsOnly hw).bind fun b => .ok _

theorem or_failsOnly : Arithmetic.or.FailsOnlyOn (fun v => v.kind = .boolean) P := by
  intro v w hv hw
  refine (Value.toBoolean_failsOnly hv).bind fun b => ?_
  cases b with
  | false => exact (Value.toBoolean_failsOnly hw).bind fun b => .ok _
  | true => exact .ok _

end Implementation

section Terms
open FilterError (AboutTerms)

/-- Called with terms, the implementation asks for no other kind of value. -/
abbrev Implementation.ReadsTerms (i : Implementation) : Prop :=
  i.FailsOnlyOn (fun v => v.kind = .term) AboutTerms

namespace Terms
variable {op : Operator}

theorem test_readsTerms (f : Term → Bool) : (test op f).ReadsTerms :=
  fun _ hv => (Value.toTerm_failsOnly hv).bind fun _ => .ok _

theorem sameTerm_readsTerms : sameTerm.ReadsTerms :=
  fun _ _ hv hw => (Value.toTerm_failsOnly hv).bind fun _ =>
    (Value.toTerm_failsOnly hw).bind fun _ => .ok _

theorem str_readsTerms : str.ReadsTerms := by
  intro v hv
  refine (Value.toTerm_failsOnly hv).bind fun t => ?_
  split
  · exact .ok _
  · exact (Value.toLiteral_failsOnly hv).bind fun _ => .ok _

theorem lang_readsTerms : lang.ReadsTerms :=
  fun _ hv => (Value.toLiteral_failsOnly hv).bind fun _ => .ok _

theorem datatype_readsTerms : datatype.ReadsTerms :=
  fun _ hv => (Value.toLiteral_failsOnly hv).bind fun _ => .ok _

theorem toIri_readsTerms : (toIri op).ReadsTerms := by
  intro v hv
  refine (Value.toTerm_failsOnly hv).bind fun t => ?_
  split
  · exact .ok _
  · split
    · split
      · exact .ok _
      · exact .error trivial
    · exact .error trivial

theorem plainLexical_failsOnly (op : Operator) (t : Term) :
    FailsOnly AboutTerms (plainLexical op t) := by
  unfold plainLexical
  split
  · split
    · exact .ok _
    · exact .error trivial
  · exact .error trivial

theorem strDt_readsTerms : strDt.ReadsTerms := by
  intro v w hv hw
  refine (Value.toTerm_failsOnly hv).bind fun t => (Value.toTerm_failsOnly hw).bind fun u =>
    (plainLexical_failsOnly .strDt t).bind fun _ => ?_
  split
  · exact .ok _
  · exact .error trivial

theorem strLang_readsTerms : strLang.ReadsTerms := by
  intro v w hv hw
  refine (Value.toTerm_failsOnly hv).bind fun t => (Value.toTerm_failsOnly hw).bind fun _ =>
    (plainLexical_failsOnly .strLang t).bind fun _ =>
      (Value.toLiteral_failsOnly hw).bind fun l => ?_
  dsimp only
  split
  · exact .error trivial
  · exact .ok _

end Terms

namespace Strings
variable {op : Operator}

theorem strLen_readsTerms : strLen.ReadsTerms :=
  fun _ hv => (Value.toLiteral_failsOnly hv).bind fun _ => .ok _

theorem numberOf_failsOnly {v : Value} (hv : v.kind = .term) :
    FailsOnly AboutTerms (numberOf op v) := by
  refine (Value.toLiteral_failsOnly hv).bind fun l => ?_
  cases Double.ofLexical? l.lexical with
  | none => exact .error trivial
  | some x => exact .ok x

theorem substr_readsTerms : substr.ReadsTerms :=
  fun _ _ _ hv hw hx => (Value.toTerm_failsOnly hv).bind fun _ =>
    (Value.toLiteral_failsOnly hv).bind fun _ => (numberOf_failsOnly hw).bind fun _ =>
      (numberOf_failsOnly hx).bind fun _ => .ok _

theorem mapLexical_readsTerms (f : List Char → List Char) : (mapLexical op f).ReadsTerms :=
  fun _ hv => (Value.toTerm_failsOnly hv).bind fun _ =>
    (Value.toLiteral_failsOnly hv).bind fun _ => .ok _

theorem compatible_failsOnly {v w : Value} (hv : v.kind = .term) (hw : w.kind = .term) :
    FailsOnly AboutTerms (compatible op v w) := by
  refine (Value.toTerm_failsOnly hv).bind fun s => (Value.toTerm_failsOnly hw).bind fun t => ?_
  split
  · exact (Value.toLiteral_failsOnly hv).bind fun _ =>
      (Value.toLiteral_failsOnly hw).bind fun _ => .ok _
  · exact .error trivial

theorem test_readsTerms (f : List Char → List Char → Bool) : (test op f).ReadsTerms :=
  fun _ _ hv hw => (compatible_failsOnly hv hw).bind fun _ => .ok _

theorem part_readsTerms (f : List Char × List Char → List Char) : (part op f).ReadsTerms := by
  intro v w hv hw
  refine (compatible_failsOnly hv hw).bind fun texts => (Value.toTerm_failsOnly hv).bind fun t => ?_
  cases Text.splitAtFirst? texts.2 texts.1 with
  | none => exact .ok _
  | some parts => exact .ok _

theorem concat_readsTerms : concat.ReadsTerms :=
  fun _ _ hv hw => (Value.toLiteral_failsOnly hv).bind fun _ =>
    (Value.toLiteral_failsOnly hw).bind fun _ => (Value.toTerm_failsOnly hv).bind fun _ => .ok _

theorem langMatchesBy_readsTerms (lower : List Char → List Char) :
    (langMatchesBy lower).ReadsTerms :=
  fun _ _ hv hw => (Value.toLiteral_failsOnly hv).bind fun _ =>
    (Value.toLiteral_failsOnly hw).bind fun _ => .ok _

theorem regex_readsTerms {ρ : Type} (engine : PatternEngine ρ) : (regex engine).ReadsTerms := by
  intro v w hv hw
  refine (Value.toLiteral_failsOnly hv).bind fun text =>
    (Value.toLiteral_failsOnly hw).bind fun pattern => ?_
  cases engine.compile pattern.lexical with
  | error message => exact .error trivial
  | ok r => exact .ok _

end Strings

end Terms

/-- The operators on numbers and truth values. -/
def Operator.unfailing : List Operator :=
  [.add, .subtract, .multiply, .divide, .equal, .notEqual, .less, .lessOrEqual, .greater,
    .greaterOrEqual, .abs, .round, .ceil, .floor, .xsdDouble, .not, .and, .or]

section Standard
variable {op : Operator}

theorem Operator.onValues_of_unfailing (h : op ∈ unfailing) :
    op.OnValues (Descriptor.standard op).arity ∧ (Descriptor.standard op).arity ≠ 0 := by
  have hall : ∀ op ∈ unfailing, (Descriptor.standard op).raw = false ∧
      (Descriptor.standard op).implementation.isUnsupported = false ∧
      (Descriptor.standard op).arity ≠ 0 := by decide
  obtain ⟨hraw, himplemented, harity⟩ := hall op h
  exact ⟨⟨hraw, himplemented, rfl⟩, harity⟩

/-- On values of the kind that its coercion makes, such an operator has no errors at all. -/
theorem Descriptor.standard_unfailing (h : op ∈ Operator.unfailing) :
    (standard op).implementation.FailsOnlyOn (fun v => v.kind = (standard op).argument.kind) P := by
  cases op with
  | add | subtract | multiply | divide | equal | notEqual | less | lessOrEqual | greater
  | greaterOrEqual => exact Implementation.onNumbers_failsOnly _
  | abs | round | ceil | floor | xsdDouble => exact Implementation.onNumber_failsOnly _
  | not => exact Implementation.not_failsOnly
  | and => exact Implementation.and_failsOnly
  | or => exact Implementation.or_failsOnly
  | _ => exact absurd h (by decide)

/-- Each operator on values reads its arguments as what its coercion makes of them. -/
theorem Descriptor.standard_reads (takes : (standard op).implementation.TakesValues) :
    (standard op).implementation.FailsOnlyOn (fun v => v.kind = (standard op).argument.kind)
      FilterError.AboutTerms := by
  by_cases h : op ∈ Operator.unfailing
  · exact standard_unfailing h
  cases op with
  | sameTerm => exact Terms.sameTerm_readsTerms
  | isIri | isUri | isBlank | isLiteral | isNumeric => exact Terms.test_readsTerms _
  | str => exact Terms.str_readsTerms
  | lang => exact Terms.lang_readsTerms
  | datatype => exact Terms.datatype_readsTerms
  | iri | uri => exact Terms.toIri_readsTerms
  | strDt => exact Terms.strDt_readsTerms
  | strLang => exact Terms.strLang_readsTerms
  | uuid | strUuid | rand => trivial
  | strLen => exact Strings.strLen_readsTerms
  | substr => exact Strings.substr_readsTerms
  | ucase | lcase => exact Strings.mapLexical_readsTerms _
  | strStarts => exact Strings.test_readsTerms fun text needle => needle.isPrefixOf text
  | strEnds => exact Strings.test_readsTerms fun text needle => needle.isSuffixOf text
  | contains =>
    exact Strings.test_readsTerms fun text needle => (Text.splitAtFirst? needle text).isSome
  | strBefore | strAfter => exact Strings.part_readsTerms _
  | concat => exact Strings.concat_readsTerms
  | langMatches => exact Strings.langMatchesBy_readsTerms _
  | regex => exact Strings.regex_readsTerms _
  | _ => first | exact absurd (by decide) h | exact takes.elim

end Standard

/-- An implementation without errors and without a draw gives a value. -/
theorem Implementation.FailsOnlyOn.exists_gives {K : Value → Prop} {i : Implementation}
    (h : i.FailsOnlyOn K fun _ => False) (hdraw : i.arity ≠ 0) {values : List Value}
    (hl : values.length = i.arity) (hK : ∀ v ∈ values, K v) : ∃ w, i.Gives values (.ok w) := by
  cases i with
  | nullary draw => exact absurd rfl hdraw
  | unary call =>
    obtain ⟨v, rfl⟩ := List.length_eq_one_iff.mp hl
    obtain ⟨w, hw⟩ := (h v (hK v (by simp))).exists_ok
    exact ⟨w, fun σ _ op s => congrArg (·, s) hw⟩
  | binary call =>
    obtain ⟨v, v', rfl⟩ := List.length_eq_two.mp hl
    obtain ⟨w, hw⟩ := (h v v' (hK v (by simp)) (hK v' (by simp))).exists_ok
    exact ⟨w, fun σ _ op s => congrArg (·, s) hw⟩
  | ternary call =>
    obtain ⟨v, v', v'', rfl⟩ := List.length_eq_three.mp hl
    obtain ⟨w, hw⟩ := (h v v' v'' (hK v (by simp)) (hK v' (by simp)) (hK v'' (by simp))).exists_ok
    exact ⟨w, fun σ _ op s => congrArg (·, s) hw⟩
  | raw arity form => exact h.elim
  | unsupported arity => exact h.elim

/-- The first term that is not a number. -/
theorem Term.exists_first_not_spellsNumber {ts : List Term} (h : ∃ t ∈ ts, ¬t.SpellsNumber) :
    ∃ before t after, ts = before ++ t :: after ∧ (∀ u ∈ before, u.SpellsNumber) ∧
      ¬t.SpellsNumber := by
  induction ts with
  | nil =>
    obtain ⟨t, ht, -⟩ := h
    cases ht
  | cons t ts ih =>
    by_cases ht : t.SpellsNumber
    · obtain ⟨u, hu, hbad⟩ := h
      have hmem : u ∈ ts := by
        rcases List.mem_cons.mp hu with rfl | hu
        · exact absurd ht hbad
        · exact hu
      obtain ⟨before, u, after, rfl, hbefore, hu⟩ := ih ⟨u, hmem, hbad⟩
      exact ⟨t :: before, u, after, rfl, List.forall_mem_cons.mpr ⟨ht, hbefore⟩, hu⟩
    · exact ⟨[], t, ts, rfl, List.forall_mem_nil _, ht⟩

namespace Expr.AllComeTo
variable {σ : Type} [RandomSource σ] {row : Row} {name : String} {op : Operator} {es : List Expr}
  {a b : σ} {ts : List Term}

theorem call_unfailing (hes : AllComeTo row es a ts b) (hname : Operator.ofName? name = some op)
    (hop : op ∈ Operator.unfailing) (hl : es.length = (Descriptor.standard op).arity)
    (h : (Descriptor.standard op).argument = .numeric → ∀ t ∈ ts, t.SpellsNumber) :
    ∃ q, (Expr.call name es).ComesTo row a (.ok q, b) := by
  obtain ⟨hvalues, hdraw⟩ := Operator.onValues_of_unfailing hop
  have hlength : ts.length = (Descriptor.standard op).arity := hes.length_eq.trans hl
  obtain ⟨values, hmap⟩ : ∃ values,
      ts.mapM ((Descriptor.standard op).argument.argument op.name) = .ok values :=
    exists_mapM_eq_ok fun t ht => Coercion.exists_argument_eq_ok fun hnumeric => h hnumeric t ht
  obtain ⟨w, hw⟩ := (Descriptor.standard_unfailing hop).exists_gives hdraw
    ((length_of_mapM hmap).trans hlength) (Coercion.kind_of_mapM hmap)
  rw [← hlength] at hvalues
  refine ⟨(Descriptor.standard op).result.result ts.head? w,
    hes.call_of_apply hname hvalues fun s => ?_⟩
  rw [Descriptor.apply, hmap]
  simp only [hw σ op s, Outcome.andThen_ok]

theorem call_of_not_spellsNumber {before after : List Term} {t : Term}
    (hes : AllComeTo row es a (before ++ t :: after) b) (hname : Operator.ofName? name = some op)
    (hop : op ∈ Operator.unfailing) (hl : es.length = (Descriptor.standard op).arity)
    (hnumeric : (Descriptor.standard op).argument = .numeric)
    (hbefore : ∀ u ∈ before, u.SpellsNumber) (ht : ¬t.SpellsNumber) :
    (Expr.call name es).ComesTo row a (.error (.invalidArgument op.name t.numberFault), b) := by
  obtain ⟨hvalues, -⟩ := Operator.onValues_of_unfailing hop
  rw [← hes.length_eq.trans hl] at hvalues
  refine hes.call_of_apply hname hvalues fun s => ?_
  have hmap := mapM_append_cons_eq_error
    (fun u hu => Coercion.argument_numeric_iff.mpr (hbefore u hu))
    (@Coercion.argument_numeric_eq_error op.name t ht) after
  rw [Descriptor.apply, hnumeric, hmap]

end Expr.AllComeTo

open SparqlExpr.Expr in
/-- Arguments that an operator's own coercion has converted are all of the kind that it makes. No
implementation asks one of them for another kind, or is refused for their number. An operator on
numbers or truth values has no errors of its own: a call of it on arguments that come to terms fails
exactly if one that is to be a number is none, and then for the first such argument. -/
theorem argument_kinds_fit :
    (∀ op d, Registry.standard.get? op = some d → d.raw = false →
      d.implementation.isUnsupported = false →
      ∀ (ts : List Term) (values : List Value), ts.length = d.arity →
      ts.mapM (d.argument.argument op.name) = .ok values →
      (∀ v ∈ values, v.kind = d.argument.kind) ∧
      ∀ (σ : Type) [RandomSource σ] (s s' : σ) (error : FilterError),
        (d.implementation.invoke op values).runFrom s = (.error error, s') →
          ¬error.OfReader ∧ (∀ name m n, error ≠ .arityMismatch name m n) ∧
            ∀ name, error ≠ .unsupportedOperator name) ∧
    (∀ op ∈ Operator.unfailing, ∀ (ts : List Term) (values : List Value),
      ts.length = (Descriptor.standard op).arity →
      ts.mapM ((Descriptor.standard op).argument.argument op.name) = .ok values →
      ∃ w, (Descriptor.standard op).implementation.Gives values (.ok w)) ∧
    ∀ (σ : Type) [RandomSource σ] (row : Row) (name : String) (es : List Expr) (a b : σ)
      (ts : List Term), ∀ op ∈ Operator.unfailing, Operator.ofName? name = some op →
      es.length = (Descriptor.standard op).arity → AllComeTo row es a ts b →
      ((∃ error c, (call name es).ComesTo row a (.error error, c)) ↔
        (Descriptor.standard op).argument = .numeric ∧ ∃ t ∈ ts, ¬t.SpellsNumber) ∧
      ((∃ q, (call name es).ComesTo row a (.ok q, b)) ↔
        ¬((Descriptor.standard op).argument = .numeric ∧ ∃ t ∈ ts, ¬t.SpellsNumber)) ∧
      ∀ error c, (call name es).ComesTo row a (.error error, c) →
        c = b ∧ ∃ before t after, ts = before ++ t :: after ∧
          (∀ u ∈ before, u.SpellsNumber) ∧ ¬t.SpellsNumber ∧
          error = .invalidArgument op.name t.numberFault := by
  refine ⟨?_, ?_, ?_⟩
  · rintro op d hd hraw himplemented ts values hl hmap
    refine ⟨Coercion.kind_of_mapM hmap, fun σ _ s s' error hrun => ?_⟩
    cases hd
    obtain ⟨-, takes⟩ | ⟨hform, -⟩ := Descriptor.standard_cases himplemented
    · have hfails := invoke_failsOnly (Descriptor.standard_reads takes) op
        ((length_of_mapM hmap).trans hl) (Coercion.kind_of_mapM hmap) s
      have habout : error.AboutTerms := hfails error (congrArg Prod.fst hrun)
      refine ⟨habout.not_ofReader, ?_, ?_⟩
      · rintro name m n rfl
        exact habout
      · rintro name rfl
        exact habout
    · rw [hraw] at hform
      cases hform
  · intro op hop ts values hl hmap
    obtain ⟨-, hdraw⟩ := Operator.onValues_of_unfailing hop
    exact (Descriptor.standard_unfailing hop).exists_gives hdraw ((length_of_mapM hmap).trans hl)
      (Coercion.kind_of_mapM hmap)
  · intro σ _ row name es a b ts op hop hname hl hes
    by_cases hbad : (Descriptor.standard op).argument = .numeric ∧ ∃ t ∈ ts, ¬t.SpellsNumber
    · obtain ⟨before, t, after, rfl, hbefore, ht⟩ := Term.exists_first_not_spellsNumber hbad.2
      have hfails := hes.call_of_not_spellsNumber hname hop hl hbad.1 hbefore ht
      refine ⟨iff_of_true ⟨_, _, hfails⟩ hbad, iff_of_false ?_ (not_not_intro hbad), ?_⟩
      · rintro ⟨q, hq⟩
        cases hq.unique hfails
      · intro error c herror
        cases herror.unique hfails
        exact ⟨rfl, before, t, after, rfl, hbefore, ht, rfl⟩
    · obtain ⟨q, hq⟩ := hes.call_unfailing hname hop hl fun hnumeric t ht =>
        by_contra fun hspells => hbad ⟨hnumeric, t, ht, hspells⟩
      have hnever (error : FilterError) (c : σ) :
          ¬(call name es).ComesTo row a (.error error, c) := by
        intro herror
        cases herror.unique hq
      exact ⟨iff_of_false (fun ⟨error, c, h⟩ => hnever error c h) hbad, iff_of_true ⟨q, hq⟩ hbad,
        fun error c h => absurd h (hnever error c)⟩

open SparqlExpr.Expr in
/-- A sum with a numeral of another base for its second argument, the same argument as a truth
value, and an operator on literals that has an IRI for its argument. -/
theorem argument_kinds_fit_numeral :
    let one : Term := ⟨"\" +1.e0 \"@en"⟩
    let hex : Term := ⟨"\"0x1F\""⟩
    let iri : Term := ⟨"http://a/1"⟩
    let row : Row := .ofList [("?x", one), ("?y", hex)]
    let start : Script := { doubles := [], uuids := [] }
    (∃ error c, (call "+" [var "?x", var "?y"]).ComesTo row start (.error error, c) ∧
      error = .invalidArgument "+" (.notNumeric "\"0x1F\"")) ∧
    (∃ q, (call "&&" [var "?x", var "?y"]).ComesTo row start (.ok q, start)) ∧
    (∃ w, Arithmetic.not.Gives [.boolean true] (.ok w)) ∧
    ∃ error, (Strings.strLen.invoke .strLen [.term iri]).runFrom start = (.error error, start) ∧
      ¬error.OfReader := by
  intro one hex iri row start
  have hx : (var "?x").ComesTo row start (.ok one, start) := comesTo_var rfl start
  have hy : (var "?y").ComesTo row start (.ok hex, start) := comesTo_var rfl start
  have hes : AllComeTo row [var "?x", var "?y"] start [one, hex] start :=
    .cons hx (.cons hy (.nil start))
  have hone : one.SpellsNumber := Term.isSome_number?_iff.mp (by decide)
  have hhex : ¬hex.SpellsNumber := by
    rw [← Term.isSome_number?_iff]
    decide
  obtain ⟨hreads, hgives, hcall⟩ := argument_kinds_fit
  obtain ⟨hfails, -, hfirst⟩ :=
    hcall Script row "+" _ start start _ .add (by decide) (by decide) rfl hes
  obtain ⟨-, hholds, -⟩ :=
    hcall Script row "&&" _ start start _ .and (by decide) (by decide) rfl hes
  refine ⟨?_, ?_, ?_, ?_⟩
  · obtain ⟨error, c, h⟩ := hfails.mpr ⟨rfl, hex, by simp, hhex⟩
    obtain ⟨-, before, t, after, hsplit, hbefore, ht, rfl⟩ := hfirst error c h
    refine ⟨_, c, h, ?_⟩
    rcases before with _ | ⟨u, _ | ⟨v, rest⟩⟩
    · cases hsplit
      exact absurd hone ht
    · cases hsplit
      decide
    · simp at hsplit
  · refine hholds.mpr fun hnumeric => ?_
    cases hnumeric.1
  · exact hgives .not (by decide) [iri] [.boolean true] rfl (by decide)
  · have hrun : (Strings.strLen.invoke .strLen [.term iri]).runFrom start =
        (.error (.invalidArgument "strlen" (.notLiteral iri)), start) := by decide
    exact ⟨_, hrun,
      ((hreads .strLen _ rfl rfl rfl [iri] [.term iri] rfl rfl).2 Script start start _ hrun).1⟩

end SparqlExpr
