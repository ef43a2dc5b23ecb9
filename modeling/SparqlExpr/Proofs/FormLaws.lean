import SparqlExpr.Proofs.Standard

/-! Laws of the forms: what an `if` and a `coalesce` come to in terms of their arguments, and the
laws that follow for them in larger trees. -/
namespace SparqlExpr

section Interpreter
variable {σ : Type} [RandomSource σ] {row : Row} {name : String}

theorem interpret_cond (hop : Operator.ofName? name = some .cond) (condition yes no : Expr)
    (s : σ) :
    interpret .standard row (.call name [condition, yes, no]) s =
      (interpret .standard row condition s).andThen fun t s =>
        if t.truth then interpret .standard row yes s else interpret .standard row no s := by
  rw [interpret_form (Registry.resolve_of_ofName? hop) rfl rfl, interpretForm]

/-- An error of the first argument gives way to what the second comes to. -/
theorem interpret_coalesce (hop : Operator.ofName? name = some .coalesce) (first second : Expr)
    (s : σ) :
    interpret .standard row (.call name [first, second]) s =
      (interpret .standard row first s).recover fun _ s => interpret .standard row second s := by
  rw [interpret_form (Registry.resolve_of_ofName? hop) rfl rfl, interpretForm]
  simp only [interpretFirst, Outcome.recover_error_self]

/-- The first argument of an operation on values comes before anything else that it does. -/
theorem interpret_value_cons {r : Registry} {op : Operator} {d : Descriptor}
    (hres : r.resolve name = .ok (op, d)) (hraw : d.raw = false) (e : Expr) (es : List Expr)
    (s : σ) :
    interpret r row (.call name (e :: es)) s =
      (interpret r row e s).andThen fun t s =>
        (interpretAll r row es s).andThen fun ts s => d.apply op (t :: ts) s := by
  rw [interpret_value hres hraw, interpretAll, Outcome.andThen_assoc]
  simp only [Outcome.andThen_assoc, Outcome.andThen_ok]

theorem interpret_coalesce_assoc (a b c : Expr) (s : σ) :
    interpret .standard row (.call "coalesce" [a, .call "coalesce" [b, c]]) s =
      interpret .standard row (.call "coalesce" [.call "coalesce" [a, b], c]) s := by
  have hop : Operator.ofName? "coalesce" = some .coalesce := by decide
  simp only [interpret_coalesce hop, Outcome.recover_assoc]

/-- An operation on values on an `if` comes to what the `if` comes to with the operation in both
branches. -/
theorem interpret_value_cond {op : Operator} (hname : Operator.ofName? name = some op)
    (hraw : (Descriptor.standard op).raw = false) (c a b : Expr) (ds : List Expr) (s : σ) :
    interpret .standard row (.call name (.call "if" [c, a, b] :: ds)) s =
      interpret .standard row (.call "if" [c, .call name (a :: ds), .call name (b :: ds)]) s := by
  have hop : Operator.ofName? "if" = some .cond := by decide
  have hres := Registry.resolve_of_ofName? hname
  rw [interpret_value_cons hres hraw, interpret_cond hop, interpret_cond hop, Outcome.andThen_assoc]
  congr 1
  funext t s
  rw [interpret_value_cons hres hraw, interpret_value_cons hres hraw]
  split <;> rfl

end Interpreter

/-- Alternatives may be grouped in either way: the same one is taken, or the same error stands, and
the draws of those that fail are kept. An operation on values may be carried out before or after the
choice of its first argument, the datatype of its result included. -/
theorem compiled_eval_coalesce_assoc_and_cond_lift {σ : Type} [RandomSource σ] (config : Config) :
    let compiler := Evaluator.compiler ⟨config, .standard⟩
    (∀ (a b c : Expr) (p p' : Compiled σ),
      compiler.compile? (some (.call "coalesce" [a, .call "coalesce" [b, c]])) = .ok p →
      compiler.compile? (some (.call "coalesce" [.call "coalesce" [a, b], c])) = .ok p' →
      ∀ row s, (p.eval row).runFrom s = (p'.eval row).runFrom s) ∧
    ∀ (name : String) (op : Operator), Operator.ofName? name = some op →
      (Descriptor.standard op).raw = false →
      ∀ (c a b : Expr) (ds : List Expr) (p p' : Compiled σ),
        compiler.compile? (some (.call name (.call "if" [c, a, b] :: ds))) = .ok p →
        compiler.compile? (some (.call "if" [c, .call name (a :: ds), .call name (b :: ds)])) =
          .ok p' →
        ∀ row s, (p.eval row).runFrom s = (p'.eval row).runFrom s := by
  intro compiler
  constructor
  · intro a b c p p' hp hp' row s
    exact (Compiler.runFrom_eval_eq_iff hp hp').mpr (interpret_coalesce_assoc a b c s)
  · intro name op hname hraw c a b ds p p' hp hp' row s
    exact (Compiler.runFrom_eval_eq_iff hp hp').mpr (interpret_value_cond hname hraw c a b ds s)

/-- The sum that fails has drawn, and the datatype of the sum that succeeds is the one of the branch
that is taken. -/
theorem coalesce_struuid_assoc_and_add_cond_lift :
    let compiler := Evaluator.standard.compiler
    let a : Expr := .call "+" [.call "rand" [], .var "?y"]
    let b : Expr := .call "lang" [.var "?y"]
    let c : Expr := .call "struuid" []
    let condition : Expr := .call "bound" [.var "?x"]
    let yes : Expr := .var "?x"
    let no : Expr := .call "rand" []
    let row : Row := .ofList [("?x", ⟨"\"-1.5\"^^d"⟩)]
    let s : Script := { doubles := [], uuids := [] }
    (∃ p p' : Compiled Script,
      compiler.compile? (some (.call "coalesce" [a, .call "coalesce" [b, c]])) = .ok p ∧
      compiler.compile? (some (.call "coalesce" [.call "coalesce" [a, b], c])) = .ok p' ∧
      (p.eval row).runFrom s = (p'.eval row).runFrom s ∧
      (p.eval row).runFrom s = (.ok (some ⟨"\"00000000-0000-0000-0000-000000000000\""⟩),
        { s with doublePosition := 1, uuidPosition := 1 })) ∧
    ∃ p p' : Compiled Script,
      compiler.compile? (some (.call "+" [.call "if" [condition, yes, no], .call "rand" []])) =
        .ok p ∧
      compiler.compile? (some (.call "if" [condition, .call "+" [yes, .call "rand" []],
        .call "+" [no, .call "rand" []]])) = .ok p' ∧
      (p.eval row).runFrom s = (p'.eval row).runFrom s ∧
      (p.eval row).runFrom s = (.ok (some ⟨"\"-1.5\"^^<d>"⟩), { s with doublePosition := 1 }) := by
  intro compiler a b c condition yes no row s
  have hcoalesce : interpret .standard row (.call "coalesce" [a, .call "coalesce" [b, c]]) s =
      (.ok ⟨"\"00000000-0000-0000-0000-000000000000\""⟩,
        { s with doublePosition := 1, uuidPosition := 1 }) := by
    subst a b c row s
    rfl
  have hsum : interpret .standard row
      (.call "+" [.call "if" [condition, yes, no], .call "rand" []]) s =
      (.ok ⟨"\"-1.5\"^^<d>"⟩, { s with doublePosition := 1 }) := by
    subst condition yes no row s
    decide +kernel
  obtain ⟨p, hp⟩ : ∃ p : Compiled Script,
      compiler.compile? (some (.call "coalesce" [a, .call "coalesce" [b, c]])) = .ok p := ⟨_, rfl⟩
  obtain ⟨q, hq⟩ : ∃ q : Compiled Script, compiler.compile?
      (some (.call "+" [.call "if" [condition, yes, no], .call "rand" []])) = .ok q := ⟨_, rfl⟩
  obtain ⟨hassoc, hlift⟩ := compiled_eval_coalesce_assoc_and_cond_lift (σ := Script) {}
  refine ⟨⟨p, _, hp, rfl, hassoc a b c _ _ hp rfl row s, ?_⟩, q, _, hq, rfl,
    hlift "+" .add (by decide) rfl condition yes no [.call "rand" []] _ _ hq rfl row s, ?_⟩
  · exact (Compiler.runFrom_eval_eq_ok_iff hp).mpr hcoalesce
  · exact (Compiler.runFrom_eval_eq_ok_iff hq).mpr hsum

end SparqlExpr
