import SparqlExpr.Proofs.Refinement
import SparqlExpr.Proofs.Standard
import SparqlExpr.Proofs.Variables

/-! Errors point into the tree: at a variable without a term, or at an operation whose own name they
carry, whichever layer they were raised in. -/
namespace SparqlExpr

variable {σ : Type} [RandomSource σ]

/-- An error about a variable of a tree that has no term in a row, or by which one of the operators
that the tree calls rejects its arguments. -/
def FilterError.PointsInto (row : Row) (e : Expr) (error : FilterError) : Prop :=
  (∃ name, error = .unboundVariable name ∧ name ∈ e.variableNames ∧ row.get? name = none) ∨
    ∃ op, e.Calls op ∧ error.Rejects op

theorem FilterError.Rejects.cases_operator? {op : Operator} {error : FilterError}
    (h : error.Rejects op) : error.operator? = some op.name ∧
      ((∃ fault, error = .invalidArgument op.name fault) ∨
        ∃ s t, error = .incompatible op.name s t ∧ op ∈ Operator.comparisons ∧
          s.compatible t = false) := by
  cases h with
  | invalid fault => exact ⟨rfl, Or.inl ⟨fault, rfl⟩⟩
  | incompatible s t mem h => exact ⟨rfl, Or.inr ⟨s, t, rfl, mem, h⟩⟩

theorem interpret_pointsInto {e : Expr}
    (h : ∀ name args, (Expr.call name args).Occurs e →
      Registry.standard.Callable name args.length) (row : Row) (s : σ) :
    FailsOnly (FilterError.PointsInto row e) (interpret .standard row e s).1 := by
  refine interpret_failsOnly_of_nodes (fun name ho hget => ?_) (fun name args ho => ?_) s
  · exact Or.inl ⟨name, rfl, Expr.mem_variableNames.mpr ho, hget⟩
  · refine (h name args ho).callFailsOnly fun op hop error hrejects => ?_
    exact Or.inr ⟨op, ⟨name, args, ho, hop⟩, hrejects⟩

/-- If a compiled tree fails, then for one of its variables that has no term in the row, or with the
name of an operation that occurs in it. Only five operators find two terms incompatible, and the two
that they show are. -/
theorem compiled_eval_error_points_into_tree (config : Config) {e : Expr} {p : Compiled σ}
    (hp : (Evaluator.compiler ⟨config, .standard⟩).compile? (some e) = .ok p) {row : Row} {s : σ}
    {error : FilterError} (h : ((p.eval row).runFrom s).1 = .error error) :
    (∃ name, error = .unboundVariable name ∧ name ∈ e.variableNames ∧
        row.contains name = false) ∨
      ∃ op, e.Calls op ∧ error.operator? = some op.name ∧
        ((∃ fault, error = .invalidArgument op.name fault) ∨
          ∃ s t, error = .incompatible op.name s t ∧
            op ∈ [Operator.strStarts, .strEnds, .contains, .strBefore, .strAfter] ∧
            s.compatible t = false) := by
  have hwf := Compiler.exists_compile?_iff.mp ⟨p, hp⟩
  have herror := (Compiler.fst_runFrom_eval_eq_error_iff hp).mp h
  rcases interpret_pointsInto hwf.2 row s error herror with ⟨name, rfl, hname, hget⟩ |
    ⟨op, hop, hrejects⟩
  · exact Or.inl ⟨name, rfl, hname, by rw [Row.contains, hget]; rfl⟩
  · exact Or.inr ⟨op, hop, hrejects.cases_operator?⟩

/-- The error of the last argument comes out through three operations that have other names. -/
theorem compiled_eval_error_of_nested_strStarts :
    let s : Term := ⟨"\"a\"@en"⟩
    let t : Term := ⟨"\"a\"@fr"⟩
    let e : Expr := .call "coalesce" [.var "?y",
      .call "isuri" [.call "!" [.call "strstarts" [.var "?x", .const t]]]]
    let row : Row := .ofList [("?x", s)]
    let source : Script := { doubles := [], uuids := [] }
    ∃ p : Compiled Script, Evaluator.standard.compiler.compile? (some e) = .ok p ∧
      ((p.eval row).runFrom source).1 = .error (.incompatible "strstarts" s t) ∧
      ∃ op, e.Calls op ∧ op.name = "strstarts" ∧ op ∈ Operator.comparisons ∧
        s.compatible t = false := by
  intro s t e row source
  have hmeaning : (interpret .standard row e source).1 =
      .error (.incompatible "strstarts" s t) := by
    subst s t e row source
    rfl
  obtain ⟨p, hp⟩ : ∃ p : Compiled Script, Evaluator.standard.compiler.compile? (some e) = .ok p :=
    ⟨_, rfl⟩
  have heval : ((p.eval row).runFrom source).1 = .error (.incompatible "strstarts" s t) :=
    (Compiler.fst_runFrom_eval_eq_error_iff hp).mpr hmeaning
  refine ⟨p, hp, heval, ?_⟩
  rcases compiled_eval_error_points_into_tree {} hp heval with ⟨name, hvar, -⟩ |
    ⟨op, hop, hname, ⟨fault, hfault⟩ | ⟨s', t', herror, hmem, hcompatible⟩⟩
  · cases hvar
  · cases hfault
  · injection herror with hop' hs ht
    exact ⟨op, hop, hop'.symm, hmem, by rw [hs, ht]; exact hcompatible⟩

end SparqlExpr
