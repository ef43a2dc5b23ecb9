import SparqlExpr.Eval.Evaluator
import SparqlExpr.Proofs.Acceptance
import SparqlExpr.Proofs.Interpreter

/-! Compiling keeps the meaning: what is built from a tree runs as the interpreter does, whether its
arguments were built in advance or are built again for each row. -/
namespace SparqlExpr

variable {σ : Type} [RandomSource σ]

/-- An argument that runs as the interpreter does. -/
def interpretedOperand (r : Registry) (row : Row) (e : Expr) : Operand σ :=
  ⟨e, .ofRun (interpret r row e)⟩

theorem firstSuccess_interpreted (r : Registry) (row : Row) (error : FilterError) (es : List Expr)
    (s : σ) :
    (Form.firstSuccess error (es.map (interpretedOperand r row))).runFrom s =
      interpretFirst r row error es s := by
  induction es generalizing error s with
  | nil => rfl
  | cons e es ih =>
    rw [List.map_cons, Form.firstSuccess, EvalM.runFrom_tryCatch, interpretFirst]
    simp only [ih, interpretedOperand, EvalM.runFrom_ofRun]

theorem cond_interpreted (r : Registry) (row : Row) (op : Operator) (condition yes no : Expr)
    (s : σ) :
    (Form.cond.eval op row ([condition, yes, no].map (interpretedOperand r row))).runFrom s =
      interpretForm r row op .cond [condition, yes, no] s := by
  change EvalM.runFrom (EvalM.ofRun (interpret r row condition) >>= fun t =>
    if t.truth then EvalM.ofRun (interpret r row yes) else .ofRun (interpret r row no)) s = _
  rw [EvalM.runFrom_bind, interpretForm, EvalM.runFrom_ofRun]
  congr 1
  funext t s
  split <;> rfl

/-- A form decides about its arguments as the interpreter does. -/
theorem form_eval_interpreted (r : Registry) (row : Row) (op : Operator) (form : Form)
    (es : List Expr) (s : σ) :
    (form.eval op row (es.map (interpretedOperand r row))).runFrom s =
      interpretForm r row op form es s := by
  have mismatch (n : Nat) (es : List Expr) :
      ((.error (.arityMismatch op.name n (es.map (interpretedOperand (σ := σ) r row)).length), s) :
        Outcome σ Term) = (.error (.arityMismatch op.name n es.length), s) := by
    rw [List.length_map]
  match form, es with
  | .bound, [.var _] | .bound, [.const _] | .bound, [.call _ _] => rfl
  | .cond, [condition, yes, no] => exact cond_interpreted r row op condition yes no s
  | .coalesce, e :: es =>
    exact firstSuccess_interpreted r row (.arityMismatch op.name 2 0) (e :: es) s
  | .bound, [] | .cond, [] | .cond, [_] | .cond, [_, _] | .coalesce, [] => rfl
  | .bound, d :: e :: es => exact mismatch 1 (d :: e :: es)
  | .cond, d :: e :: f :: g :: es => exact mismatch 3 (d :: e :: f :: g :: es)

namespace Compiler

/-- A run comes to what the interpreter says of a tree. -/
def Means (r : Registry) (e : Expr) (run : Evaluation σ) : Prop :=
  ∀ row s, (run row).runFrom s = interpret r row e s

theorem checkDepth_bind_eq_ok {c : Compiler} {level : Nat} {x : Except FilterError α} {a : α}
    (h : (c.checkDepth level >>= fun _ => x) = .ok a) : x = .ok a := by
  obtain ⟨_, -, hx⟩ := bind_eq_ok h
  exact hx

/-- An operation is built in advance if it takes values, and only checked if it is a form. -/
theorem build_call_eq_ok {c : Compiler} {level : Nat} {name : String} {args : List Expr}
    {run : Evaluation σ} (h : c.build level (.call name args) = .ok run) :
    ∃ op d, c.registry.resolve name = .ok (op, d) ∧
      (d.raw = true ∧ c.validateList (level + 1) args = .ok () ∧
          run = callRaw op d (c.operands (level + 1) args) ∨
        d.raw = false ∧ ∃ runs, c.buildList (level + 1) args = .ok runs ∧
          run = callValue op d runs) := by
  rw [build] at h
  replace h := checkDepth_bind_eq_ok h
  rcases c.registry.check_cases name args.length with ⟨error, hc, -⟩ | ⟨op, d, hc, -, hr, -⟩
  · rw [hc] at h; cases h
  · rw [hc, ok_bind] at h
    refine ⟨op, d, hr, ?_⟩
    cases hd : d.raw with
    | true =>
      simp only [hd, if_true] at h
      obtain ⟨_, hv, hrun⟩ := bind_eq_ok h
      cases hrun
      exact Or.inl ⟨rfl, hv, rfl⟩
    | false =>
      simp only [hd] at h
      obtain ⟨runs, hb, hrun⟩ := bind_eq_ok h
      cases hrun
      exact Or.inr ⟨rfl, runs, hb, rfl⟩

theorem buildList_cons_eq_ok {c : Compiler} {level : Nat} {e : Expr} {es : List Expr}
    {runs : List (Evaluation σ)} (h : c.buildList level (e :: es) = .ok runs) :
    ∃ first rest, c.build level e = .ok first ∧ c.buildList level es = .ok rest ∧
      runs = first :: rest := by
  rw [buildList] at h
  obtain ⟨first, hf, hrest⟩ := bind_eq_ok h
  obtain ⟨rest, hr, hruns⟩ := bind_eq_ok hrest
  cases hruns
  exact ⟨first, rest, hf, hr, rfl⟩

/-- Arguments built in advance run from left to right as the interpreter does. -/
theorem evalAll_interpreted {c : Compiler} {level : Nat} {es : List Expr}
    (ih : ∀ e ∈ es, ∀ run : Evaluation σ, c.build level e = .ok run → Means c.registry e run)
    {runs : List (Evaluation σ)} (h : c.buildList level es = .ok runs) (row : Row) (s : σ) :
    (evalAll runs row).runFrom s = interpretAll c.registry row es s := by
  induction es generalizing runs s with
  | nil => cases h; rfl
  | cons e es ihs =>
    rw [List.forall_mem_cons] at ih
    obtain ⟨first, rest, hf, hr, rfl⟩ := buildList_cons_eq_ok h
    have hrest := ihs ih.2 hr
    simp only [evalAll] at hrest
    simp only [evalAll, List.mapM_cons, EvalM.runFrom_bind, EvalM.runFrom_pure, hrest,
      ih.1 first hf row, interpretAll]

theorem validateList_cons_eq_ok {c : Compiler} {level : Nat} {e : Expr} {es : List Expr}
    (h : c.validateList level (e :: es) = .ok ()) :
    c.validate level e = .ok () ∧ c.validateList level es = .ok () := by
  rw [validateList] at h
  obtain ⟨_, he, hes⟩ := bind_eq_ok h
  exact ⟨he, hes⟩

/-- Arguments that are checked can be built for each row, and then run as the interpreter does. -/
theorem operands_interpreted {c : Compiler} {level : Nat} {es : List Expr}
    (ih : ∀ e ∈ es, ∀ run : Evaluation σ, c.build level e = .ok run → Means c.registry e run)
    (h : c.validateList level es = .ok ()) (row : Row) :
    c.operands level es row = es.map (interpretedOperand (σ := σ) c.registry row) := by
  induction es with
  | nil => rfl
  | cons e es ihs =>
    rw [List.forall_mem_cons] at ih
    obtain ⟨he, hes⟩ := validateList_cons_eq_ok h
    obtain ⟨run, hb⟩ := (exists_build_iff (σ := σ)).mpr (validate_eq_ok_iff.mp he)
    have hrun : ((do (← c.build level e) row) : EvalM σ Term) =
        .ofRun (interpret c.registry row e) := by
      refine EvalM.eq_of_runFrom fun s => ?_
      rw [EvalM.runFrom_bind, hb, EvalM.runFrom_lift, EvalM.runFrom_ofRun, ← ih.1 run hb row s]
      rfl
    rw [operands, hrun, ihs ih.2 hes]
    rfl

theorem callValue_interpreted {r : Registry} {op : Operator} {d : Descriptor} {args : List Expr}
    {runs : List (Evaluation σ)} {row : Row}
    (h : ∀ s, (evalAll runs row).runFrom s = interpretAll r row args s) (s : σ) :
    (callValue op d runs row).runFrom s = (interpretAll r row args s).andThen (d.apply op) := by
  unfold callValue
  rw [EvalM.runFrom_bind, h]
  congr 1
  funext terms s
  rw [EvalM.runFrom_bind, EvalM.runFrom_lift, Descriptor.apply]
  cases terms.mapM (d.argument.argument op.name) with
  | error error => rfl
  | ok values => rw [Outcome.andThen_ok, EvalM.runFrom_bind]; rfl

/-- What is built from a tree, wherever it stands, is what the tree means. -/
theorem build_means {c : Compiler} {level : Nat} {e : Expr} {run : Evaluation σ}
    (h : c.build level e = .ok run) : Means c.registry e run := by
  induction e generalizing level run with
  | const t =>
    rw [build] at h
    cases checkDepth_bind_eq_ok h
    exact fun row s => rfl
  | var name =>
    rw [build] at h
    cases checkDepth_bind_eq_ok h
    intro row s
    rw [interpret, lookUp]
    cases row.get? name <;> rfl
  | call name args ih =>
    have ih' (e : Expr) (he : e ∈ args) (run : Evaluation σ)
        (h : c.build (level + 1) e = .ok run) := ih e he h
    obtain ⟨op, d, hr, ⟨hd, hv, rfl⟩ | ⟨hd, runs, hb, rfl⟩⟩ := build_call_eq_ok h
    · intro row s
      rw [interpret, hr, callRaw, operands_interpreted ih' hv row]
      simp only [hd]
      cases d.implementation with
      | raw arity form => exact form_eval_interpreted c.registry row op form args s
      | _ => rfl
    · intro row s
      rw [interpret, hr, callValue_interpreted (evalAll_interpreted ih' hb row)]
      simp only [hd]

theorem compile?_some (c : Compiler) (e : Expr) :
    c.compile? (σ := σ) (some e) = (c.build 1 e).map fun run => ⟨some (e, run)⟩ := by
  rw [compile?, compile]
  cases c.build (σ := σ) 1 e <;> rfl

theorem compile?_some_eq_ok {c : Compiler} {e : Expr} {p : Compiled σ}
    (h : c.compile? (some e) = .ok p) : ∃ run, c.compile e = .ok run ∧ p = ⟨some (e, run)⟩ := by
  rw [compile?_some] at h
  cases hb : c.build (σ := σ) 1 e with
  | error error => rw [hb] at h; cases h
  | ok run => rw [hb] at h; cases h; exact ⟨run, hb, rfl⟩

theorem compile?_some_eq_error {c : Compiler} {e : Expr} {error : FilterError}
    (h : c.compile? (σ := σ) (some e) = .error error) : c.compile (σ := σ) e = .error error := by
  rw [compile?_some] at h
  cases hb : c.build (σ := σ) 1 e with
  | error _ => rw [hb] at h; cases h; exact hb
  | ok run => rw [hb] at h; cases h

theorem exists_compile?_iff {c : Compiler} {e : Expr} :
    (∃ p : Compiled σ, c.compile? (some e) = .ok p) ↔ c.WellFormed 1 e := by
  rw [← exists_build_iff (σ := σ)]
  simp only [compile?_some]
  cases c.build (σ := σ) 1 e <;> simp [Except.map]

/-- What occurs in a compiled tree can be compiled on its own. -/
theorem exists_compile?_of_occurs {c : Compiler} {d e : Expr} {p : Compiled σ}
    (h : c.compile? (some e) = .ok p) (ho : d.Occurs e) :
    ∃ p' : Compiled σ, c.compile? (some d) = .ok p' :=
  exists_compile?_iff.mpr ((exists_compile?_iff.mp ⟨p, h⟩).of_occurs ho)

theorem exists_compile?_of_mem {c : Compiler} {name : String} {args : List Expr} {d : Expr}
    {p : Compiled σ} (h : c.compile? (some (.call name args)) = .ok p) (hd : d ∈ args) :
    ∃ p' : Compiled σ, c.compile? (some d) = .ok p' :=
  exists_compile?_of_occurs h (.inside hd .here)

end Compiler

omit [RandomSource σ] in
theorem Compiled.runFrom_eval (e : Expr) (run : Evaluation σ) (row : Row) (s : σ) :
    (Compiled.eval ⟨some (e, run)⟩ row).runFrom s =
      Outcome.andThen ((run row).runFrom s) fun t s => (.ok (some t), s) := by
  change (run row >>= fun t => pure (some t)).runFrom s = _
  rw [EvalM.runFrom_bind]
  rfl

omit [RandomSource σ] in
theorem Compiled.runFrom_test (p : Compiled σ) (row : Row) (s : σ) :
    (p.test row).runFrom s =
      Outcome.andThen ((p.eval row).runFrom s) fun o s => (.ok (o.elim true Term.truth), s) := by
  rw [test, EvalM.runFrom_bind]
  congr 1
  funext o s
  cases o <;> rfl

theorem Compiler.runFrom_eval {c : Compiler} {e : Expr} {p : Compiled σ}
    (h : c.compile? (some e) = .ok p) (row : Row) (s : σ) :
    (p.eval row).runFrom s =
      (interpret c.registry row e s).andThen fun t s => (.ok (some t), s) := by
  obtain ⟨run, hc, rfl⟩ := compile?_some_eq_ok h
  rw [Compiled.runFrom_eval, build_means hc row s]

/-- Compiled trees come to the same exactly if the interpreter says so. -/
theorem Compiler.runFrom_eval_eq_iff {c c' : Compiler} {e e' : Expr} {p p' : Compiled σ}
    (hp : c.compile? (some e) = .ok p) (hp' : c'.compile? (some e') = .ok p') {row row' : Row}
    {s s' : σ} :
    (p.eval row).runFrom s = (p'.eval row').runFrom s' ↔
      interpret c.registry row e s = interpret c'.registry row' e' s' := by
  rw [runFrom_eval hp, runFrom_eval hp']
  generalize interpret c.registry row e s = o
  generalize interpret c'.registry row' e' s' = o'
  constructor
  · intro h
    obtain ⟨error | t, s⟩ := o <;> obtain ⟨error' | t', s'⟩ := o' <;> cases h <;> rfl
  · rintro rfl
    rfl

theorem Compiler.runFrom_eval_eq_ok_iff {c : Compiler} {e : Expr} {p : Compiled σ}
    (h : c.compile? (some e) = .ok p) {row : Row} {s s' : σ} {t : Term} :
    (p.eval row).runFrom s = (.ok (some t), s') ↔
      interpret c.registry row e s = (.ok t, s') := by
  rw [runFrom_eval h]
  obtain ⟨error | u, s₁⟩ := interpret c.registry row e s
  · simp only [Outcome.andThen_error, Prod.mk.injEq, reduceCtorEq, false_and]
  · simp only [Outcome.andThen_ok, Prod.mk.injEq, Except.ok.injEq, Option.some.injEq]

theorem Compiler.fst_runFrom_eval_eq_ok_iff {c : Compiler} {e : Expr} {p : Compiled σ}
    (h : c.compile? (some e) = .ok p) {row : Row} {s : σ} {t : Term} :
    ((p.eval row).runFrom s).1 = .ok (some t) ↔ (interpret c.registry row e s).1 = .ok t := by
  rw [runFrom_eval h]
  obtain ⟨error | u, s'⟩ := interpret c.registry row e s
  · simp only [Outcome.andThen_error, reduceCtorEq]
  · simp only [Outcome.andThen_ok, Except.ok.injEq, Option.some.injEq]

theorem Compiler.fst_runFrom_eval_eq_error_iff {c : Compiler} {e : Expr} {p : Compiled σ}
    (h : c.compile? (some e) = .ok p) {row : Row} {s : σ} {error : FilterError} :
    ((p.eval row).runFrom s).1 = .error error ↔
      (interpret c.registry row e s).1 = .error error := by
  rw [runFrom_eval h]
  obtain ⟨error | u, s'⟩ := interpret c.registry row e s
  · simp only [Outcome.andThen_error, Except.error.injEq]
  · simp only [Outcome.andThen_ok, reduceCtorEq]

/-- Compiling and evaluating at once is checking first and then interpreting. -/
theorem Evaluator.runFrom_evalOnce (evaluator : Evaluator) (e : Expr) (row : Row) (s : σ) :
    (evaluator.evalOnce e row).runFrom s =
      match evaluator.compiler.validate 1 e with
      | .ok _ => interpret evaluator.registry row e s
      | .error error => (.error error, s) := by
  unfold evalOnce
  rw [EvalM.runFrom_bind, EvalM.runFrom_lift, Compiler.compile, ← Compiler.forget_build (σ := σ)]
  cases hb : evaluator.compiler.build (σ := σ) 1 e with
  | error error => rfl
  | ok run => exact Compiler.build_means hb row s

/-- A compiled tree comes to what the interpreter says in every row, from every state of the source;
compiling and evaluating at once comes to the same, or to the refusal with the source untouched. -/
theorem compiled_eval_eq_interpret (config : Config) (e : Expr) (row : Row) (s : σ) :
    (∀ p : Compiled σ, (Evaluator.compiler ⟨config, .standard⟩).compile? (some e) = .ok p →
      (p.eval row).runFrom s =
          (interpret .standard row e s).andThen (fun t s => (.ok (some t), s)) ∧
        (Evaluator.evalOnce ⟨config, .standard⟩ e row).runFrom s = interpret .standard row e s) ∧
    ∀ error, (Evaluator.compiler ⟨config, .standard⟩).compile? (σ := σ) (some e) = .error error →
      (Evaluator.evalOnce ⟨config, .standard⟩ e row).runFrom s = (.error error, s) := by
  constructor
  · intro p h
    obtain ⟨run, hc, rfl⟩ := Compiler.compile?_some_eq_ok h
    have hrun : (run row).runFrom s = interpret .standard row e s :=
      Compiler.build_means hc row s
    refine ⟨by rw [Compiled.runFrom_eval, hrun], ?_⟩
    unfold Evaluator.evalOnce
    rw [EvalM.runFrom_bind, hc, EvalM.runFrom_lift, Outcome.andThen_ok, hrun]
  · intro error h
    unfold Evaluator.evalOnce
    rw [EvalM.runFrom_bind, Compiler.compile?_some_eq_error h]
    rfl

/-- The first argument fails before its draw, so the only draw is that of the branch taken. Below a
stub the same tree is refused before any draw. -/
theorem compiled_eval_draws_once :
    let e : Expr := .call "coalesce" [.call "+" [.var "?x", .call "rand" []],
      .call "if" [.call "bound" [.var "?y"], .call "struuid" [], .call "lang" [.var "?y"]]]
    let row : Row := .ofList [("?y", ⟨"http://example.org/a"⟩)]
    let s : Script := { doubles := [], uuids := [] }
    let t : Term := ⟨"\"00000000-0000-0000-0000-000000000000\""⟩
    (∃ p : Compiled Script, Evaluator.standard.compiler.compile? (some e) = .ok p ∧
      (p.eval row).runFrom s = (.ok (some t), { s with uuidPosition := 1 })) ∧
    (Evaluator.standard.evalOnce e row).runFrom s = (.ok t, { s with uuidPosition := 1 }) ∧
    (Evaluator.standard.evalOnce (.call "md5" [e]) row).runFrom s =
      (.error (.unsupportedOperator "md5"), s) := by
  intro e row s t
  have hmeaning : interpret .standard row e s = (.ok t, { s with uuidPosition := 1 }) := by
    subst e row s t
    rfl
  obtain ⟨heval, honce⟩ := (compiled_eval_eq_interpret {} e row s).1 _ rfl
  refine ⟨⟨_, rfl, ?_⟩, honce.trans hmeaning, ?_⟩
  · exact heval.trans (by rw [hmeaning]; rfl)
  · exact (compiled_eval_eq_interpret {} (.call "md5" [e]) row s).2 _ rfl

end SparqlExpr
