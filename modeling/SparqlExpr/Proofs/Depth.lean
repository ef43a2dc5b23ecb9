import SparqlExpr.Proofs.Refinement

/-! The bound on the depth decides which trees are accepted and nothing else. -/
namespace SparqlExpr

variable {σ : Type} [RandomSource σ] {r : Registry} {m m' level : Nat} {e : Expr}

namespace Compiler

/-- Of a tree that some bound accepts, another one refuses nothing but the depth. -/
theorem WellFormed.maxDepth_iff (h : (mk r m).WellFormed level e) :
    (mk r m').WellFormed level e ↔ level + e.depth ≤ m' + 1 :=
  and_iff_left h.2

theorem exists_compile?_iff_depth_le {p : Compiled σ} (h : (mk r m).compile? (some e) = .ok p) :
    (∃ p' : Compiled σ, (mk r m').compile? (some e) = .ok p') ↔ e.depth ≤ m' := by
  have hwf : (mk r m).WellFormed 1 e := exists_compile?_iff.mp ⟨p, h⟩
  rw [exists_compile?_iff, hwf.maxDepth_iff, Nat.add_comm 1, Nat.add_le_add_iff_right]

/-- Two bounds that accept a tree give it the same meaning: what is built again for each row is
accepted there, too, so that no error about the depth is left for `coalesce` to pass over. -/
theorem runFrom_eval_eq_of_maxDepth {p p' : Compiled σ} (h : (mk r m).compile? (some e) = .ok p)
    (h' : (mk r m').compile? (some e) = .ok p') (row : Row) (s : σ) :
    (p'.eval row).runFrom s = (p.eval row).runFrom s :=
  (runFrom_eval_eq_iff h' h).mpr rfl

end Compiler

/-- With any registry, a tree that compiles also compiles under a greater bound on the depth, and
comes to the same result, truth value and state of the source in every row. -/
theorem compiled_eval_eq_of_maxDepth_le (r : Registry) (hle : m ≤ m') {p : Compiled σ}
    (hp : (Compiler.mk r m).compile? (some e) = .ok p) :
    ∃ p' : Compiled σ, (Compiler.mk r m').compile? (some e) = .ok p' ∧
      ∀ (row : Row) (s : σ), (p'.eval row).runFrom s = (p.eval row).runFrom s ∧
        (p'.test row).runFrom s = (p.test row).runFrom s := by
  have hdepth : e.depth ≤ m := (Compiler.exists_compile?_iff_depth_le hp).mp ⟨p, hp⟩
  obtain ⟨p', hp'⟩ := (Compiler.exists_compile?_iff_depth_le hp).mpr (Nat.le_trans hdepth hle)
  refine ⟨p', hp', fun row s => ?_⟩
  have heval := Compiler.runFrom_eval_eq_of_maxDepth hp hp' row s
  exact ⟨heval, by rw [Compiled.runFrom_test, Compiled.runFrom_test, heval]⟩

/-- Neither the form registered on values nor the sum registered as a form can be called, so the
first two arguments fail, one of them after its draw; the third is as deep as the smaller bound
allows. -/
theorem compiled_eval_eq_of_maxDepth_le_last :
    let r := ((Registry.standard.registerRaw .coalesce (.raw 3 .coalesce)).register .cond .asIs
      .asIs (.raw 2 .cond)).registerRaw .add Arithmetic.add
    let e : Expr := .call "coalesce" [.call "if" [.call "struuid" [], .var "?x"],
      .call "+" [.call "struuid" [], .var "?x"],
      .call "concat" [.call "str" [.var "?x"], .call "struuid" []]]
    let row : Row := .ofList [("?x", ⟨"http://example.org/"⟩)]
    let s : Script := { doubles := [], uuids := [] }
    let t : Term := ⟨"\"http://example.org/00000000-0000-0000-0000-000000000000\""⟩
    4 ≤ 256 ∧ ∃ p p' : Compiled Script, (Compiler.mk r 4).compile? (some e) = .ok p ∧
      (Compiler.mk r 256).compile? (some e) = .ok p' ∧
      (p.eval row).runFrom s = (.ok (some t), { s with uuidPosition := 2 }) ∧
      (p'.eval row).runFrom s = (.ok (some t), { s with uuidPosition := 2 }) := by
  intro r e row s t
  obtain ⟨p, hp⟩ : ∃ p : Compiled Script, (Compiler.mk r 4).compile? (some e) = .ok p := ⟨_, rfl⟩
  have hval : (p.eval row).runFrom s = (.ok (some t), { s with uuidPosition := 2 }) := by
    have hmeaning : interpret r row e s = (.ok t, { s with uuidPosition := 2 }) := by
      subst r e t row s
      rfl
    exact (Compiler.runFrom_eval hp row s).trans (congrArg (Outcome.andThen · _) hmeaning)
  have hle : 4 ≤ 256 := by decide
  obtain ⟨p', hp', hsame⟩ := compiled_eval_eq_of_maxDepth_le r hle hp
  exact ⟨hle, p, p', hp, hp', hval, (hsame row s).1.trans hval⟩

end SparqlExpr
