import SparqlExpr.Proofs.Congruence
import SparqlExpr.Proofs.Variables

/-! What evaluation reads of a row: nothing but the variables of the tree, and without `bound` and
`coalesce` more entries change nothing but errors about unbound variables. -/
namespace SparqlExpr

variable {σ : Type} [RandomSource σ] {row row' : Row}

/-- Every entry of a row counts in another one, too. -/
def Row.ExtendedBy (row row' : Row) : Prop :=
  ∀ name t, row.get? name = some t → row'.get? name = some t

theorem Row.ExtendedBy.set {name : String} (h : row.get? name = none) (t : Term) :
    row.ExtendedBy (row.set name t) := by
  intro other u hu
  rw [Row.get?_set]
  split
  · next hname => rw [hname, h] at hu; cases hu
  · exact hu

/-- An error about a variable without a term. -/
def FilterError.Unbound (error : FilterError) : Prop :=
  ∃ name, error = .unboundVariable name

theorem interpret_related_of_extendedBy (hrow : row.ExtendedBy row') {e : Expr}
    (hbound : ¬e.Calls .bound) (hcoalesce : ¬e.Calls .coalesce) :
    Expr.RelatedIn (.sameUnless σ FilterError.Unbound) .standard row row' e e := by
  have hind : Expr.Indifferent (.sameUnless σ FilterError.Unbound) .standard row row' .var .var
      e := by
    refine ⟨fun name _ s s' hs => ?_, fun _ _ _ op d _ => d.relatedBy_sameUnless _ op,
      fun name args ho hf => ?_, fun name args ho hf => ?_⟩
    · rw [interpret, interpret]
      cases hname : row.get? name with
      | some t => rw [hrow name t hname]; exact .ok rfl hs
      | none => exact fun hkept => absurd ⟨name, rfl⟩ (hkept _ rfl)
    · exact absurd ⟨name, args, ho, hf.ofName?⟩ hbound
    · exact absurd ⟨name, args, ho, hf.ofName?⟩ hcoalesce
  have hrelated := hind.related
  rwa [e.subst_var] at hrelated

/-- Without `bound` and `coalesce`, whatever a compiled tree comes to in a row, an unbound variable
apart, it comes to in every row that has more entries, and leaves the source in the same state. -/
theorem compiled_eval_of_extendedBy (config : Config) {e : Expr} {p : Compiled σ}
    (hp : (Evaluator.compiler ⟨config, .standard⟩).compile? (some e) = .ok p)
    (hbound : ¬e.Calls .bound) (hcoalesce : ¬e.Calls .coalesce) (hrow : row.ExtendedBy row') (s : σ)
    (h : ∀ name, ((p.eval row).runFrom s).1 ≠ .error (.unboundVariable name)) :
    (p.eval row').runFrom s = (p.eval row).runFrom s := by
  have hrelated := (interpret_related_of_extendedBy hrow hbound hcoalesce s s rfl).andThen
    (Q := Eq) (f := fun t s => (.ok (some t), s)) (g := fun t s => (.ok (some t), s))
    fun t t' s s' ht hs => .ok (congrArg some ht) hs
  rw [Compiler.runFrom_eval hp] at h ⊢
  rw [Compiler.runFrom_eval hp]
  refine (hrelated.eq_of_kept ?_).symm
  rintro x hx ⟨name, rfl⟩
  exact h name hx

/-- The branch that is not taken may read a variable that only the greater row has. -/
theorem compiled_eval_of_extendedBy_branch :
    let e : Expr := .call "if"
      [.call "isiri" [.var "?x"], .call "strdt" [.call "struuid" [], .var "?x"], .var "?y"]
    let row : Row := .ofList [("?x", ⟨"http://example.org/a"⟩)]
    let row' : Row := row.set "?y" ⟨"_:b"⟩
    let s : Script := { doubles := [], uuids := [] }
    let t : Term := ⟨"\"00000000-0000-0000-0000-000000000000\"^^<http://example.org/a>"⟩
    (¬e.Calls .bound ∧ ¬e.Calls .coalesce ∧ row.ExtendedBy row') ∧
      ∃ p : Compiled Script, Evaluator.standard.compiler.compile? (some e) = .ok p ∧
        (p.eval row).runFrom s = (.ok (some t), { s with uuidPosition := 1 }) ∧
        (p.eval row').runFrom s = (.ok (some t), { s with uuidPosition := 1 }) := by
  intro e row row' s t
  have hno (op : Operator) (h : op = .bound ∨ op = .coalesce) : ¬e.Calls op := by
    simp only [e, Expr.calls_call, List.mem_cons, List.not_mem_nil, or_false, exists_eq_or_imp,
      exists_eq_left, Expr.not_calls_var, false_and, exists_false]
    rcases h with rfl | rfl <;> decide
  have hrow : row.ExtendedBy row' := .set rfl _
  obtain ⟨p, hp⟩ : ∃ p : Compiled Script, Evaluator.standard.compiler.compile? (some e) = .ok p :=
    ⟨_, rfl⟩
  have hval : (p.eval row).runFrom s = (.ok (some t), { s with uuidPosition := 1 }) := by
    have hmeaning : interpret .standard row e s = (.ok t, { s with uuidPosition := 1 }) := by
      subst e t row s
      rfl
    exact (Compiler.runFrom_eval hp row s).trans (congrArg (Outcome.andThen · _) hmeaning)
  have hkept := compiled_eval_of_extendedBy {} hp (hno _ (Or.inl rfl)) (hno _ (Or.inr rfl)) hrow s
    (by rw [hval]; exact fun name h => nomatch h)
  exact ⟨⟨hno _ (Or.inl rfl), hno _ (Or.inr rfl), hrow⟩, p, hp, hval, hkept.trans hval⟩

theorem interpret_eq_of_get?_eq {r : Registry} {e : Expr}
    (h : ∀ name, (Expr.var name).Occurs e → row.get? name = row'.get? name) (s : σ) :
    interpret r row e s = interpret r row' e s :=
  have hrelated : Expr.RelatedIn (.same σ) r row row' e e :=
    .of_get?_eq h (fun _ _ _ op d _ => d.relatedBy_sameUnless _ op) fun _ => not_false
  (hrelated s s rfl).eq

/-- With any registry, a compiled tree comes to the same term, the same truth value or the same
error in all rows that agree on the variables that it reports, and leaves the source in the same
state. -/
theorem compiled_eval_eq_of_variableNames (c : Compiler) {e : Expr} {p : Compiled σ}
    (hp : c.compile? (some e) = .ok p)
    (h : ∀ name ∈ e.variableNames, row.get? name = row'.get? name) (s : σ) :
    (p.eval row).runFrom s = (p.eval row').runFrom s ∧
      (p.test row).runFrom s = (p.test row').runFrom s := by
  have heval : (p.eval row).runFrom s = (p.eval row').runFrom s :=
    (Compiler.runFrom_eval_eq_iff hp hp).mpr
      (interpret_eq_of_get?_eq (fun name ho => h name (Expr.mem_variableNames.mpr ho)) s)
  exact ⟨heval, by rw [Compiled.runFrom_test, Compiled.runFrom_test, heval]⟩

/-- The rows differ in what they bind besides the variables of the tree, one of which is unbound in
both. `isiri` is not registered with its own implementation. -/
theorem compiled_eval_eq_of_variableNames_branch :
    let r := Registry.standard.register .isIri .asIs .asIs Terms.str
    let e : Expr := .call "if"
      [.call "bound" [.var "?y"], .var "?y", .call "isiri" [.var "?x"]]
    let row : Row := .ofList [("?x", ⟨"http://example.org/a"⟩), ("?z", ⟨"_:b"⟩)]
    let row' : Row := .ofList [("?v", ⟨"\"0\""⟩), ("?x", ⟨"http://example.org/a"⟩)]
    let s : Script := { doubles := [], uuids := [] }
    let t : Term := ⟨"\"http://example.org/a\""⟩
    (∀ name ∈ e.variableNames, row.get? name = row'.get? name) ∧
      ∃ p : Compiled Script, (Compiler.mk r 3).compile? (some e) = .ok p ∧
        (p.eval row).runFrom s = (.ok (some t), s) ∧ (p.eval row').runFrom s = (.ok (some t), s) ∧
        (p.test row).runFrom s = (p.test row').runFrom s := by
  intro r e row row' s t
  have hrows : ∀ name ∈ e.variableNames, row.get? name = row'.get? name := by decide
  obtain ⟨p, hp⟩ : ∃ p : Compiled Script, (Compiler.mk r 3).compile? (some e) = .ok p := ⟨_, rfl⟩
  have hval : (p.eval row).runFrom s = (.ok (some t), s) := by
    have hmeaning : interpret r row e s = (.ok t, s) := by
      subst r e t row s
      rfl
    exact (Compiler.runFrom_eval hp row s).trans (congrArg (Outcome.andThen · _) hmeaning)
  obtain ⟨heval, htest⟩ := compiled_eval_eq_of_variableNames (Compiler.mk r 3) hp hrows s
  exact ⟨hrows, p, hp, hval, heval.symm.trans hval, htest⟩

end SparqlExpr
