import SparqlExpr.Proofs.Connectives
import SparqlExpr.Proofs.Returns

/-! Trees that come to truth values: tests and connectives return one of the two boolean literals or
fail, and so does every choice between such trees. -/
namespace SparqlExpr

/-- The operators that test their arguments or connect the truth values of these. -/
def Operator.testing : List Operator :=
  [.equal, .notEqual, .less, .lessOrEqual, .greater, .greaterOrEqual, .not, .and, .or, .bound,
    .sameTerm, .isIri, .isUri, .isBlank, .isLiteral, .isNumeric, .strStarts, .strEnds, .contains,
    .langMatches, .regex]

/-- A test or a connective, or a choice between truth-valued trees, on whatever condition. -/
inductive Expr.TruthValued : Expr → Prop where
  | test {name : String} {args : List Expr} {op : Operator}
    (operator : Operator.ofName? name = some op) (mem : op ∈ Operator.testing) :
    TruthValued (.call name args)
  | cond {name : String} {condition yes no : Expr} (operator : Operator.ofName? name = some .cond)
    (hyes : TruthValued yes) (hno : TruthValued no) : TruthValued (.call name [condition, yes, no])
  | coalesce {name : String} {first second : Expr}
    (operator : Operator.ofName? name = some .coalesce) (hfirst : TruthValued first)
    (hsecond : TruthValued second) : TruthValued (.call name [first, second])

section Operation
variable {op : Operator}

/-- A truth value is returned, whatever the arguments are. -/
def Value.IsTruth (_ : List Value) (w : Value) : Prop :=
  ∃ b, w = .boolean b

namespace Arithmetic

theorem compare_isTruth (op : Operator) (f : Double → Double → Bool) :
    (compare op f).Ensures Value.IsTruth := by
  intro v v' w hw
  obtain ⟨x, -, hw⟩ := bind_eq_ok hw
  obtain ⟨y, -, hw⟩ := bind_eq_ok hw
  cases hw
  exact ⟨f x y, rfl⟩

theorem not_isTruth : Arithmetic.not.Ensures Value.IsTruth := by
  intro v w hw
  obtain ⟨b, -, hw⟩ := bind_eq_ok hw
  cases hw
  exact ⟨!b, rfl⟩

theorem and_isTruth : Arithmetic.and.Ensures Value.IsTruth := by
  intro v v' w hw
  obtain ⟨b, -, hw⟩ := bind_eq_ok hw
  cases b with
  | true =>
    obtain ⟨b', -, hw⟩ := bind_eq_ok hw
    cases hw
    exact ⟨b', rfl⟩
  | false => cases hw; exact ⟨false, rfl⟩

theorem or_isTruth : Arithmetic.or.Ensures Value.IsTruth := by
  intro v v' w hw
  obtain ⟨b, -, hw⟩ := bind_eq_ok hw
  cases b with
  | true => cases hw; exact ⟨true, rfl⟩
  | false =>
    obtain ⟨b', -, hw⟩ := bind_eq_ok hw
    cases hw
    exact ⟨b', rfl⟩

end Arithmetic

namespace Terms

theorem test_isTruth (op : Operator) (f : Term → Bool) : (test op f).Ensures Value.IsTruth := by
  intro v w hw
  obtain ⟨t, -, hw⟩ := bind_eq_ok hw
  cases hw
  exact ⟨f t, rfl⟩

theorem sameTerm_isTruth : sameTerm.Ensures Value.IsTruth := by
  intro v v' w hw
  obtain ⟨s, -, hw⟩ := bind_eq_ok hw
  obtain ⟨t, -, hw⟩ := bind_eq_ok hw
  cases hw
  exact ⟨s == t, rfl⟩

end Terms

namespace Strings

theorem test_isTruth (op : Operator) (f : List Char → List Char → Bool) :
    (test op f).Ensures Value.IsTruth := by
  intro v v' w hw
  obtain ⟨⟨text, needle⟩, -, hw⟩ := bind_eq_ok hw
  cases hw
  exact ⟨f text needle, rfl⟩

theorem langMatches_isTruth : langMatches.Ensures Value.IsTruth := by
  intro v v' w hw
  obtain ⟨tag, -, hw⟩ := bind_eq_ok hw
  obtain ⟨range, -, hw⟩ := bind_eq_ok hw
  cases hw
  exact ⟨_, rfl⟩

/-- A pattern that cannot be read is an error, so that nothing is returned for it. -/
theorem regex_isTruth {ρ : Type} (engine : PatternEngine ρ) :
    (regex engine).Ensures Value.IsTruth := by
  intro v v' w hw
  obtain ⟨text, -, hw⟩ := bind_eq_ok hw
  obtain ⟨pattern, -, hw⟩ := bind_eq_ok hw
  cases hr : engine.compile pattern.lexical with
  | error message => rw [hr] at hw; cases hw
  | ok r => rw [hr] at hw; cases hw; exact ⟨_, rfl⟩

end Strings

theorem Descriptor.standard_isTruth (h : op ∈ Operator.testing) :
    (standard op).implementation.Ensures Value.IsTruth := by
  cases op with
  | equal => exact Arithmetic.compare_isTruth .equal _
  | notEqual => exact Arithmetic.compare_isTruth .notEqual _
  | less => exact Arithmetic.compare_isTruth .less _
  | lessOrEqual => exact Arithmetic.compare_isTruth .lessOrEqual _
  | greater => exact Arithmetic.compare_isTruth .greater _
  | greaterOrEqual => exact Arithmetic.compare_isTruth .greaterOrEqual _
  | not => exact Arithmetic.not_isTruth
  | and => exact Arithmetic.and_isTruth
  | or => exact Arithmetic.or_isTruth
  | bound => trivial
  | sameTerm => exact Terms.sameTerm_isTruth
  | isIri => exact Terms.test_isTruth .isIri _
  | isUri => exact Terms.test_isTruth .isIri _
  | isBlank => exact Terms.test_isTruth .isBlank _
  | isLiteral => exact Terms.test_isTruth .isLiteral _
  | isNumeric => exact Terms.test_isTruth .isNumeric _
  | strStarts => exact Strings.test_isTruth .strStarts fun text needle => needle.isPrefixOf text
  | strEnds => exact Strings.test_isTruth .strEnds fun text needle => needle.isSuffixOf text
  | contains =>
    exact Strings.test_isTruth .contains fun text needle =>
      (Text.splitAtFirst? needle text).isSome
  | langMatches => exact Strings.langMatches_isTruth
  | regex => exact Strings.regex_isTruth _
  | _ => simp [Operator.testing] at h

theorem Descriptor.standard_testing_raw (h : op ∈ Operator.testing) (hbound : op ≠ .bound) :
    (standard op).raw = false := by
  revert op
  decide

/-- A truth value is written as a boolean literal, whatever the conversion of the result. -/
theorem Descriptor.apply_testing_eq_ok {σ : Type} [RandomSource σ] (h : op ∈ Operator.testing)
    {ts : List Term} {t : Term} {s s' : σ} (ht : (standard op).apply op ts s = (.ok t, s')) :
    ∃ b, t = .ofBool b := by
  unfold apply at ht
  split at ht
  · cases ht
  · obtain ⟨w, s₁, hw, hresult⟩ := Outcome.andThen_eq_ok ht
    obtain ⟨b, rfl⟩ := (standard_isTruth h).of_invoke hw
    cases hresult
    exact ⟨b, rfl⟩

end Operation

section Evaluation
variable {σ : Type} [RandomSource σ] {row : Row} {name : String} {args : List Expr} {e : Expr}
  {t : Term} {s s' : σ}

theorem testBound_eq_ok (h : testBound row e = .ok t) : ∃ b, t = .ofBool b := by
  cases e with
  | var name => cases h; exact ⟨_, rfl⟩
  | const _ => cases h
  | call _ _ => cases h

theorem interpret_testing_eq_ok {op : Operator} (hname : Operator.ofName? name = some op)
    (hop : op ∈ Operator.testing)
    (h : interpret .standard row (.call name args) s = (.ok t, s')) : ∃ b, t = .ofBool b := by
  have hres := Registry.resolve_of_ofName? hname
  by_cases hbound : op = .bound
  · subst hbound
    rw [interpret_form hres rfl rfl] at h
    rcases args with _ | ⟨e, _ | ⟨e', es⟩⟩
    · cases h
    · exact testBound_eq_ok (congrArg Prod.fst h)
    · cases h
  · rw [interpret_value hres (Descriptor.standard_testing_raw hop hbound)] at h
    obtain ⟨ts, s₁, -, happly⟩ := Outcome.andThen_eq_ok h
    exact Descriptor.apply_testing_eq_ok hop happly

theorem interpret_truthValued_eq_ok (he : e.TruthValued)
    (h : interpret .standard row e s = (.ok t, s')) : ∃ b, t = .ofBool b := by
  induction he generalizing s with
  | test hname hop => exact interpret_testing_eq_ok hname hop h
  | cond hname _ _ ihyes ihno =>
    rw [interpret_cond hname] at h
    obtain ⟨u, s₁, -, hbranch⟩ := Outcome.andThen_eq_ok h
    split at hbranch
    · exact ihyes hbranch
    · exact ihno hbranch
  | @coalesce name first second hname _ _ ihfirst ihsecond =>
    rw [interpret_coalesce hname] at h
    cases hfirst : interpret .standard row first s with
    | mk result s₁ =>
      rw [hfirst] at h
      cases result with
      | ok u => exact ihfirst (hfirst.trans h)
      | error error => exact ihsecond h

end Evaluation

/-- If a truth-valued tree succeeds, its result is the text of one of the two boolean literals, and a
test on it gives the truth value that this spells. -/
theorem compiled_eval_of_truthValued {σ : Type} [RandomSource σ] (config : Config) {e : Expr}
    {p : Compiled σ} (hp : (Evaluator.compiler ⟨config, .standard⟩).compile? (some e) = .ok p)
    (he : e.TruthValued) {row : Row} {s s' : σ} {result : Option Term}
    (h : (p.eval row).runFrom s = (.ok result, s')) :
    result = some ⟨"\"true\"^^<http://www.w3.org/2001/XMLSchema#boolean>"⟩ ∧
        (p.test row).runFrom s = (.ok true, s') ∨
      result = some ⟨"\"false\"^^<http://www.w3.org/2001/XMLSchema#boolean>"⟩ ∧
        (p.test row).runFrom s = (.ok false, s') := by
  have hrun := Compiler.runFrom_eval hp row s
  rw [h] at hrun
  obtain ⟨t, s₁, ht, hresult⟩ := Outcome.andThen_eq_ok hrun.symm
  cases hresult
  obtain ⟨b, rfl⟩ := interpret_truthValued_eq_ok he ht
  have htest : (p.test row).runFrom s = (.ok b, s') := by
    rw [Compiled.runFrom_test, h, Outcome.andThen_ok, Option.elim_some, Term.truth_ofBool]
  cases b with
  | true => exact Or.inl ⟨rfl, htest⟩
  | false => exact Or.inr ⟨rfl, htest⟩

/-- The number that is drawn counts as false, and the first alternative of the branch fails. -/
theorem cond_rand_coalesce_truthValued :
    let e : Expr := .call "if" [.call "rand" [], .call "bound" [.var "?y"],
      .call "coalesce" [.call "langmatches" [.var "?x", .const ⟨"\"*\""⟩],
        .call "isuri" [.var "?x"]]]
    let row : Row := .ofList [("?x", ⟨"http://example.org/a"⟩)]
    let s : Script := { doubles := [], uuids := [] }
    let s' : Script := { s with doublePosition := 1 }
    e.TruthValued ∧ ∃ p : Compiled Script,
      Evaluator.standard.compiler.compile? (some e) = .ok p ∧
        (p.eval row).runFrom s = (.ok (some (.ofBool true)), s') ∧
        (p.test row).runFrom s = (.ok true, s') := by
  intro e row s s'
  have he : e.TruthValued := by
    have hif : Operator.ofName? "if" = some .cond := by decide
    have hbound : Operator.ofName? "bound" = some .bound := by decide
    have hcoalesce : Operator.ofName? "coalesce" = some .coalesce := by decide
    have hmatches : Operator.ofName? "langmatches" = some .langMatches := by decide
    have huri : Operator.ofName? "isuri" = some .isUri := by decide
    refine .cond hif (.test hbound (by decide)) (.coalesce hcoalesce ?_ ?_)
    · exact .test hmatches (by decide)
    · exact .test huri (by decide)
  have hmeaning : interpret .standard row e s = (.ok (.ofBool true), s') := by
    subst e row s s'
    rfl
  obtain ⟨p, hp⟩ : ∃ p : Compiled Script, Evaluator.standard.compiler.compile? (some e) = .ok p :=
    ⟨_, rfl⟩
  have heval := (Compiler.runFrom_eval_eq_ok_iff hp).mpr hmeaning
  rcases compiled_eval_of_truthValued {} hp he heval with ⟨-, htest⟩ | ⟨hfalse, -⟩
  · exact ⟨he, p, hp, heval, htest⟩
  · exact absurd hfalse (by decide)

end SparqlExpr
