import SparqlExpr.Proofs.FormLaws
import SparqlExpr.Proofs.Replacement

/-! Laws of the connectives: `!`, `&&` and `||` evaluate all their arguments and form a Boolean
algebra on the truth values of these, which conditions and tests see as well. -/
namespace SparqlExpr

theorem Term.truth_ofBool (b : Bool) : (ofBool b).truth = b := by
  cases b <;> decide

section Operation
variable {σ : Type} [RandomSource σ]

theorem Descriptor.apply_not (t : Term) (s : σ) :
    (standard .not).apply .not [t] s = (.ok (.ofBool !t.truth), s) := rfl

theorem Descriptor.apply_and (t u : Term) (s : σ) :
    (standard .and).apply .and [t, u] s = (.ok (.ofBool (t.truth && u.truth)), s) := by
  change Outcome.andThen ((Arithmetic.and.invoke .and
    [.boolean t.truth, .boolean u.truth]).runFrom s) _ = _
  cases t.truth <;> rfl

theorem Descriptor.apply_or (t u : Term) (s : σ) :
    (standard .or).apply .or [t, u] s = (.ok (.ofBool (t.truth || u.truth)), s) := by
  change Outcome.andThen ((Arithmetic.or.invoke .or
    [.boolean t.truth, .boolean u.truth]).runFrom s) _ = _
  cases t.truth <;> rfl

variable {row : Row} (a b : Expr) (s : σ)

theorem interpret_not :
    interpret .standard row (.call "!" [a]) s =
      (interpret .standard row a s).andThen fun t s => (.ok (.ofBool !t.truth), s) := by
  have hop : Operator.ofName? "!" = some .not := by decide
  rw [interpret_value_cons (Registry.resolve_of_ofName? hop) rfl]
  simp only [interpretAll, Outcome.andThen_ok, Descriptor.apply_not]

/-- Both arguments are evaluated, also if the first is false. -/
theorem interpret_and :
    interpret .standard row (.call "&&" [a, b]) s =
      (interpret .standard row a s).andThen fun t s =>
        (interpret .standard row b s).andThen fun u s =>
          (.ok (.ofBool (t.truth && u.truth)), s) := by
  have hop : Operator.ofName? "&&" = some .and := by decide
  rw [interpret_value_cons (Registry.resolve_of_ofName? hop) rfl]
  simp only [interpretAll, Outcome.andThen_assoc, Outcome.andThen_ok, Descriptor.apply_and]

/-- Both arguments are evaluated, also if the first is true. -/
theorem interpret_or :
    interpret .standard row (.call "||" [a, b]) s =
      (interpret .standard row a s).andThen fun t s =>
        (interpret .standard row b s).andThen fun u s =>
          (.ok (.ofBool (t.truth || u.truth)), s) := by
  have hop : Operator.ofName? "||" = some .or := by decide
  rw [interpret_value_cons (Registry.resolve_of_ofName? hop) rfl]
  simp only [interpretAll, Outcome.andThen_assoc, Outcome.andThen_ok, Descriptor.apply_or]

theorem interpret_not_and :
    interpret .standard row (.call "!" [.call "&&" [a, b]]) s =
      interpret .standard row (.call "||" [.call "!" [a], .call "!" [b]]) s := by
  simp only [interpret_not, interpret_and, interpret_or, Outcome.andThen_assoc, Outcome.andThen_ok,
    Term.truth_ofBool, Bool.not_and]

theorem interpret_not_or :
    interpret .standard row (.call "!" [.call "||" [a, b]]) s =
      interpret .standard row (.call "&&" [.call "!" [a], .call "!" [b]]) s := by
  simp only [interpret_not, interpret_and, interpret_or, Outcome.andThen_assoc, Outcome.andThen_ok,
    Term.truth_ofBool, Bool.not_or]

theorem interpret_cond_not (c : Expr) :
    interpret .standard row (.call "if" [.call "!" [c], b, a]) s =
      interpret .standard row (.call "if" [c, a, b]) s := by
  have hop : Operator.ofName? "if" = some .cond := by decide
  simp only [interpret_cond hop, interpret_not, Outcome.andThen_assoc, Outcome.andThen_ok,
    Term.truth_ofBool, Bool.not_eq_true', ← Bool.not_eq_true, ite_not]

/-- A truth value by way of two negations. -/
theorem interpret_not_not :
    interpret .standard row (.call "!" [.call "!" [a]]) s =
      (interpret .standard row a s).andThen fun t s => (.ok (.ofBool t.truth), s) := by
  simp only [interpret_not, Outcome.andThen_assoc, Outcome.andThen_ok, Term.truth_ofBool,
    Bool.not_not]

/-- A truth value by way of a condition. -/
theorem interpret_cond_ofBool :
    interpret .standard row
        (.call "if" [a, .const (.ofBool true), .const (.ofBool false)]) s =
      (interpret .standard row a s).andThen fun t s => (.ok (.ofBool t.truth), s) := by
  have hop : Operator.ofName? "if" = some .cond := by decide
  rw [interpret_cond hop]
  congr 1
  funext t s
  cases t.truth <;> rfl

end Operation

namespace Compiler
variable {c : Compiler} {level : Nat}

theorem validate_call {name : String} {args : List Expr}
    (h : c.registry.Callable name args.length) :
    c.validate level (.call name args) = (do
      c.checkDepth level
      c.validateList (level + 1) args) := by
  rcases c.registry.check_cases name args.length with ⟨error, -, ho⟩ | ⟨op, d, hc, -⟩
  · rw [Registry.offence?_eq_none_iff.mpr h] at ho
    cases ho
  · rw [validate, hc]
    rfl

/-- With one argument outside and two inside, or the other way round, the two arguments stand at the
same level and are checked in the same order. -/
theorem validate_deMorgan {outer inner outer' inner' : String} (ho : c.registry.Callable outer 1)
    (hi : c.registry.Callable inner 2) (ho' : c.registry.Callable outer' 2)
    (hi' : c.registry.Callable inner' 1) (a b : Expr) :
    c.validate level (.call outer [.call inner [a, b]]) =
      c.validate level (.call outer' [.call inner' [a], .call inner' [b]]) := by
  have htwo : c.registry.Callable inner [a, b].length := hi
  have hone (e : Expr) : c.registry.Callable inner' [e].length := hi'
  rw [validate_call ho, validate_call ho']
  simp only [validateList, validate_call htwo, validate_call (hone a), validate_call (hone b)]
  cases c.checkDepth level with
  | error error => rfl
  | ok =>
    cases c.checkDepth (level + 1) with
    | error error => rfl
    | ok =>
      cases c.validate (level + 1 + 1) a with
      | error error => rfl
      | ok => cases c.validate (level + 1 + 1) b <;> rfl

end Compiler

/-- Two trees are refused with the same error, or both compile and come to the same in every row,
from every state and with the same state behind. -/
def Evaluator.SameOutcome (σ : Type) [RandomSource σ] (evaluator : Evaluator) (e e' : Expr) :
    Prop :=
  Agree Eq
      (fun p p' : Compiled σ => ∀ row s, (p.eval row).runFrom s = (p'.eval row).runFrom s)
      (evaluator.compiler.compile? (some e)) (evaluator.compiler.compile? (some e')) ∧
    ∀ row (s : σ),
      (evaluator.evalOnce e row).runFrom s = (evaluator.evalOnce e' row).runFrom s

theorem Evaluator.SameOutcome.of_interpret {σ : Type} [RandomSource σ] {evaluator : Evaluator}
    {e e' : Expr} (hv : evaluator.compiler.validate 1 e = evaluator.compiler.validate 1 e')
    (h : ∀ row (s : σ),
      interpret evaluator.registry row e s = interpret evaluator.registry row e' s) :
    evaluator.SameOutcome σ e e' := by
  constructor
  · refine Compiler.compile?_agree hv fun p p' hp hp' row s => ?_
    exact (Compiler.runFrom_eval_eq_iff hp hp').mpr (h row s)
  · intro row s
    rw [runFrom_evalOnce, runFrom_evalOnce, hv, h]

/-- De Morgan's laws hold for compiling and evaluating alike. A negated condition exchanges the
branches. Two negations, a condition with truth values for branches and a test see the same truth
value of a tree, or fail with its own error. -/
theorem compiled_eval_connectives {σ : Type} [RandomSource σ] (config : Config) :
    let evaluator : Evaluator := ⟨config, .standard⟩
    (∀ a b : Expr,
      evaluator.SameOutcome σ (.call "!" [.call "&&" [a, b]])
        (.call "||" [.call "!" [a], .call "!" [b]]) ∧
      evaluator.SameOutcome σ (.call "!" [.call "||" [a, b]])
        (.call "&&" [.call "!" [a], .call "!" [b]])) ∧
    (∀ (a b c : Expr) (p p' : Compiled σ),
      evaluator.compiler.compile? (some (.call "if" [.call "!" [c], b, a])) = .ok p →
      evaluator.compiler.compile? (some (.call "if" [c, a, b])) = .ok p' →
      ∀ row s, (p.eval row).runFrom s = (p'.eval row).runFrom s) ∧
    ∀ (a : Expr) (p q q' : Compiled σ), evaluator.compiler.compile? (some a) = .ok p →
      evaluator.compiler.compile? (some (.call "!" [.call "!" [a]])) = .ok q →
      evaluator.compiler.compile?
        (some (.call "if" [a, .const (.ofBool true), .const (.ofBool false)])) = .ok q' →
      ∀ row s,
        (∃ error s', (p.eval row).runFrom s = (.error error, s') ∧
          (p.test row).runFrom s = (.error error, s') ∧
          (q.eval row).runFrom s = (.error error, s') ∧
          (q'.eval row).runFrom s = (.error error, s')) ∨
        ∃ b s', (p.test row).runFrom s = (.ok b, s') ∧
          (q.eval row).runFrom s = (.ok (some (.ofBool b)), s') ∧
          (q'.eval row).runFrom s = (.ok (some (.ofBool b)), s') := by
  intro evaluator
  have hnot : Registry.standard.Callable "!" 1 := ⟨_, rfl, rfl, rfl⟩
  have hand : Registry.standard.Callable "&&" 2 := ⟨_, rfl, rfl, rfl⟩
  have hor : Registry.standard.Callable "||" 2 := ⟨_, rfl, rfl, rfl⟩
  refine ⟨fun a b => ⟨?_, ?_⟩, fun a b c p p' hp hp' row s => ?_,
    fun a p q q' hp hq hq' row s => ?_⟩
  · exact .of_interpret (Compiler.validate_deMorgan hnot hand hor hnot a b)
      fun row s => interpret_not_and a b s
  · exact .of_interpret (Compiler.validate_deMorgan hnot hor hand hnot a b)
      fun row s => interpret_not_or a b s
  · exact (Compiler.runFrom_eval_eq_iff hp hp').mpr (interpret_cond_not a b s c)
  · have hp₀ : (p.eval row).runFrom s =
        (interpret .standard row a s).andThen fun t s => (.ok (some t), s) :=
      Compiler.runFrom_eval hp row s
    have hq₀ := Compiler.runFrom_eval hq row s
    have hq₁ := Compiler.runFrom_eval hq' row s
    have hstandard : evaluator.compiler.registry = .standard := rfl
    rw [hstandard, interpret_not_not] at hq₀
    rw [hstandard, interpret_cond_ofBool] at hq₁
    rw [hq₀, hq₁, Compiled.runFrom_test, hp₀]
    obtain ⟨error | t, s'⟩ := interpret .standard row a s
    · exact Or.inl ⟨error, s', rfl, rfl, rfl, rfl⟩
    · exact Or.inr ⟨t.truth, s', rfl, rfl, rfl⟩

/-- The comparison is false after its draw, so the branch with the unbound variable is not taken. -/
theorem sameTerm_rand_connectives :
    let evaluator := Evaluator.standard
    let a : Expr := .call "sameterm" [.call "rand" [], .var "?x"]
    let b : Expr := .var "?y"
    let row : Row := .ofList [("?x", ⟨"_:b"⟩)]
    let s : Script := { doubles := [], uuids := [] }
    let s' : Script := { s with doublePosition := 1 }
    evaluator.SameOutcome Script (.call "!" [.call "&&" [a, b]])
        (.call "||" [.call "!" [a], .call "!" [b]]) ∧
      (∃ p p' : Compiled Script,
        evaluator.compiler.compile? (some (.call "if" [.call "!" [a], a, b])) = .ok p ∧
        evaluator.compiler.compile? (some (.call "if" [a, b, a])) = .ok p' ∧
        (p.eval row).runFrom s = (p'.eval row).runFrom s ∧
        (p.eval row).runFrom s = (.ok (some (.ofBool false)), { s with doublePosition := 2 })) ∧
      ∃ p q q' : Compiled Script, evaluator.compiler.compile? (some a) = .ok p ∧
        evaluator.compiler.compile? (some (.call "!" [.call "!" [a]])) = .ok q ∧
        evaluator.compiler.compile?
          (some (.call "if" [a, .const (.ofBool true), .const (.ofBool false)])) = .ok q' ∧
        (p.test row).runFrom s = (.ok false, s') ∧
        (q.eval row).runFrom s = (.ok (some (.ofBool false)), s') ∧
        (q'.eval row).runFrom s = (.ok (some (.ofBool false)), s') := by
  intro evaluator a b row s s'
  have hcond : interpret .standard row (.call "if" [.call "!" [a], a, b]) s =
      (.ok (.ofBool false), { s with doublePosition := 2 }) := by
    subst a b row s
    rfl
  have ha : interpret .standard row a s = (.ok (.ofBool false), s') := by
    subst a row s s'
    rfl
  obtain ⟨p₀, hp₀⟩ : ∃ p : Compiled Script,
      evaluator.compiler.compile? (some (.call "if" [.call "!" [a], a, b])) = .ok p := ⟨_, rfl⟩
  obtain ⟨p, hp⟩ : ∃ p : Compiled Script, evaluator.compiler.compile? (some a) = .ok p := ⟨_, rfl⟩
  have htest : (p.test row).runFrom s = (.ok false, s') := by
    rw [Compiled.runFrom_test, (Compiler.runFrom_eval_eq_ok_iff hp).mpr ha]
    rfl
  obtain ⟨hmorgan, hbranches, hagree⟩ := compiled_eval_connectives (σ := Script) {}
  refine ⟨(hmorgan a b).1, ⟨p₀, _, hp₀, rfl, hbranches b a a _ _ hp₀ rfl row s, ?_⟩, p, _, _, hp,
    rfl, rfl, htest, ?_⟩
  · exact (Compiler.runFrom_eval_eq_ok_iff hp₀).mpr hcond
  · rcases hagree a p _ _ hp rfl rfl row s with ⟨error, _, -, hfails, -⟩ | ⟨truth, _, h, hq, hq'⟩
    · cases htest.symm.trans hfails
    · cases htest.symm.trans h
      exact ⟨hq, hq'⟩

end SparqlExpr
