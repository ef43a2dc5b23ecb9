import SparqlExpr.Proofs.FormLaws
import SparqlExpr.Proofs.Reached

/-! Which draws an evaluation makes: at most one for each node that takes one, in the order of the
nodes, and exactly one for each if nothing is skipped. -/
namespace SparqlExpr

section Drawn
variable {σ : Type} [RandomSource σ] {name : String} {row : Row}

/-- After the draws of the condition come those of one branch. -/
theorem Expr.drawn_cond (hop : Operator.ofName? name = some .cond) (condition yes no : Expr)
    (s : σ) :
    (call name [condition, yes, no]).drawn .standard row s =
      condition.drawn .standard row s ++ match interpret .standard row condition s with
        | (.ok t, s) =>
          if t.truth then yes.drawn .standard row s else no.drawn .standard row s
        | (.error _, _) => [] := by
  rw [drawn, interpret_cond hop, Recorded.start, interpret_recorded]
  obtain ⟨error | t, s'⟩ := interpret .standard row condition s
  · exact (List.append_nil _).symm
  · simp only [Outcome.andThen_ok, List.nil_append]
    split
    · rw [interpret_recorded]
    · rw [interpret_recorded]

/-- The draws of a first argument that fails are kept; after one that succeeds there are none. -/
theorem Expr.drawn_coalesce (hop : Operator.ofName? name = some .coalesce) (first second : Expr)
    (s : σ) :
    (call name [first, second]).drawn .standard row s =
      first.drawn .standard row s ++ match interpret .standard row first s with
        | (.ok _, _) => []
        | (.error _, s) => second.drawn .standard row s := by
  rw [drawn, interpret_coalesce hop, Recorded.start, interpret_recorded]
  obtain ⟨error | t, s'⟩ := interpret .standard row first s
  · rw [Outcome.recover_error, interpret_recorded]
    rfl
  · exact (List.append_nil _).symm

variable {c : Compiler} {d e condition yes no first second : Expr} {p : Compiled σ}
  {q : Compiled (Recorded σ)}

/-- A compiled `if` draws for its condition and for the branch that is taken. -/
theorem Compiler.draws_cond (hc : c.registry = .standard)
    (hop : Operator.ofName? name = some .cond)
    (h : c.compile? (some (.call name [condition, yes, no])) = .ok q) (row : Row) :
    ∃ qc qy qn : Compiled (Recorded σ), c.compile? (some condition) = .ok qc ∧
      c.compile? (some yes) = .ok qy ∧ c.compile? (some no) = .ok qn ∧
      ∀ s, q.draws row s = qc.draws row s ++ match (qc.test row).runFrom (.start s) with
        | (.ok b, t) => if b then qy.draws row t.source else qn.draws row t.source
        | (.error _, _) => [] := by
  obtain ⟨qc, hqc⟩ := exists_compile?_of_mem h (d := condition) (by simp)
  obtain ⟨qy, hqy⟩ := exists_compile?_of_mem h (d := yes) (by simp)
  obtain ⟨qn, hqn⟩ := exists_compile?_of_mem h (d := no) (by simp)
  refine ⟨qc, qy, qn, hqc, hqy, hqn, fun s => ?_⟩
  rw [draws_eq h, hc, Expr.drawn_cond hop, draws_eq hqc, hc, Compiled.runFrom_test,
    runFrom_eval_start hqc, hc]
  obtain ⟨error | t, s'⟩ := interpret .standard row condition s
  · rfl
  · change _ ++ _ = _ ++ if t.truth then qy.draws row s' else qn.draws row s'
    rw [draws_eq hqy, draws_eq hqn, hc]

/-- A compiled `coalesce` draws for its first argument, and for the second if the first fails. -/
theorem Compiler.draws_coalesce (hc : c.registry = .standard)
    (hop : Operator.ofName? name = some .coalesce)
    (h : c.compile? (some (.call name [first, second])) = .ok q) (row : Row) :
    ∃ qa qb : Compiled (Recorded σ), c.compile? (some first) = .ok qa ∧
      c.compile? (some second) = .ok qb ∧
      ∀ s, q.draws row s = qa.draws row s ++ match (qa.eval row).runFrom (.start s) with
        | (.ok _, _) => []
        | (.error _, t) => qb.draws row t.source := by
  obtain ⟨qa, hqa⟩ := exists_compile?_of_mem h (d := first) (by simp)
  obtain ⟨qb, hqb⟩ := exists_compile?_of_mem h (d := second) (by simp)
  refine ⟨qa, qb, hqa, hqb, fun s => ?_⟩
  rw [draws_eq h, hc, Expr.drawn_coalesce hop, draws_eq hqa, hc, runFrom_eval_start hqa, hc]
  obtain ⟨error | t, s'⟩ := interpret .standard row first s
  · change _ ++ _ = _ ++ qb.draws row s'
    rw [draws_eq hqb, hc]
  · rfl

/-- A compiled tree without forms that comes to a term has drawn for every node that takes a draw.
With each of these nodes replaced by its draw, it comes to the same term in every state. -/
theorem Compiler.exists_compile?_supply (hc : c.registry = .standard)
    (h : c.compile? (some e) = .ok p) (hforms : ∀ form : Form, ¬e.Calls form.operator) {s : σ}
    {t : Term} (ht : ((p.eval row).runFrom s).1 = .ok (some t)) :
    (e.drawn .standard row s).length = e.drawings.length ∧
      ∃ (e' : Expr) (p' : Compiled σ), e.supply (e.drawn .standard row s) = (e', []) ∧
        e'.drawings = [] ∧ c.compile? (some e') = .ok p' ∧
        ∀ s, (p'.eval row).runFrom s = (.ok (some t), s) := by
  have hwf : c.WellFormed 1 e := exists_compile?_iff.mp ⟨p, h⟩
  have hvalue : (interpret .standard row e s).1 = .ok t := by
    rw [← hc]
    exact (fst_runFrom_eval_eq_ok_iff h).mp ht
  have heval : interpret .standard row e (Recorded.start s) =
      (.ok t, ⟨(interpret .standard row e s).2, e.drawn .standard row s⟩) := by
    rw [Recorded.start, interpret_recorded, hvalue]
    rfl
  obtain ⟨ds, e', hds, hsupplied⟩ := interpret_supplied (hc ▸ hwf.2) hforms heval
  obtain rfl : e.drawn .standard row s = ds := hds
  have hsupply := hsupplied.supply []
  rw [List.append_nil] at hsupply
  obtain ⟨p', hp'⟩ : ∃ p' : Compiled σ, c.compile? (some e') = .ok p' := by
    have hwf' := hwf.supply (e.drawn .standard row s)
    rw [hsupply] at hwf'
    exact exists_compile?_iff.mpr hwf'
  refine ⟨hsupplied.length, e', p', hsupply, hsupplied.drawings, hp', fun s => ?_⟩
  rw [runFrom_eval hp', hc]
  exact congrArg (Outcome.andThen · _) (hsupplied.comes σ s)

end Drawn

/-- A compiled tree makes one draw for each node that takes one and is reached. These nodes follow
each other from left to right, so there are at most as many draws as nodes that take one. A tree
that succeeds and has no forms makes all of them, and each of these nodes comes to the term made of
its own draw. The branch of an `if` that is not taken makes no draw, and neither does an argument of
a `coalesce` behind a success, while the draws of arguments that fail are kept. -/
theorem compiled_eval_draws_at_most_once_per_node {σ : Type} [RandomSource σ] (config : Config)
    {e : Expr} {p : Compiled σ} {q : Compiled (Recorded σ)}
    (hp : (Evaluator.compiler ⟨config, .standard⟩).compile? (some e) = .ok p)
    (hq : (Evaluator.compiler ⟨config, .standard⟩).compile? (some e) = .ok q)
    (row : Row) (s : σ) :
    let c := Evaluator.compiler ⟨config, .standard⟩
    (q.eval row).runFrom (.start s) =
        (((p.eval row).runFrom s).1, ⟨((p.eval row).runFrom s).2, q.draws row s⟩) ∧
      List.Forall₂ Operator.Takes (e.reached row (Recorded.start s)) (q.draws row s) ∧
      (e.reached row (Recorded.start s)).Sublist e.drawings ∧
      (q.draws row s).length ≤ e.drawings.length ∧
      (∀ t, ((p.eval row).runFrom s).1 = .ok (some t) →
        ¬e.Calls .cond → ¬e.Calls .coalesce → ¬e.Calls .bound →
        (q.draws row s).length = e.drawings.length ∧
          ∃ (e' : Expr) (p' : Compiled σ), e.supply (q.draws row s) = (e', []) ∧
            e'.drawings = [] ∧ c.compile? (some e') = .ok p' ∧
            ∀ s, (p'.eval row).runFrom s = (.ok (some t), s)) ∧
      (∀ name condition yes no, Operator.ofName? name = some .cond →
        (Expr.call name [condition, yes, no]).Occurs e →
        ∃ q₀ qc qy qn : Compiled (Recorded σ),
          c.compile? (some (.call name [condition, yes, no])) = .ok q₀ ∧
          c.compile? (some condition) = .ok qc ∧ c.compile? (some yes) = .ok qy ∧
          c.compile? (some no) = .ok qn ∧
          ∀ s, q₀.draws row s = qc.draws row s ++ match (qc.test row).runFrom (.start s) with
            | (.ok b, t) => if b then qy.draws row t.source else qn.draws row t.source
            | (.error _, _) => []) ∧
      ∀ name first second, Operator.ofName? name = some .coalesce →
        (Expr.call name [first, second]).Occurs e →
        ∃ q₀ qa qb : Compiled (Recorded σ),
          c.compile? (some (.call name [first, second])) = .ok q₀ ∧
          c.compile? (some first) = .ok qa ∧ c.compile? (some second) = .ok qb ∧
          ∀ s, q₀.draws row s = qa.draws row s ++ match (qa.eval row).runFrom (.start s) with
            | (.ok _, _) => []
            | (.error _, t) => qb.draws row t.source := by
  intro c
  have hwf : c.WellFormed 1 e := Compiler.exists_compile?_iff.mp ⟨p, hp⟩
  have hdraws : q.draws row s = e.drawn .standard row s := Compiler.draws_eq hq row s
  have htakes : List.Forall₂ Operator.Takes (e.reached row (Recorded.start s))
      (q.draws row s) := by
    obtain ⟨ds, hds, hstart⟩ := interpret_drawsFor hwf.2 row (Recorded.start s)
    rw [hdraws, Expr.drawn, hstart]
    exact hds
  have hreached := e.reached_sublist row (Recorded.start s)
  refine ⟨Compiler.runFrom_eval_recorded hp hq row s, htakes, hreached, ?_, fun t ht hcond
    hcoalesce hbound => ?_, fun name condition yes no hop ho => ?_,
    fun name first second hop ho => ?_⟩
  · rw [← htakes.length_eq]
    exact hreached.length_le
  · have hforms (form : Form) : ¬e.Calls form.operator := by
      cases form <;> assumption
    rw [hdraws]
    exact Compiler.exists_compile?_supply rfl hp hforms ht
  · obtain ⟨q₀, hq₀⟩ := Compiler.exists_compile?_of_occurs hq ho
    obtain ⟨qc, qy, qn, hqc, hqy, hqn, heq⟩ := Compiler.draws_cond rfl hop hq₀ row
    exact ⟨q₀, qc, qy, qn, hq₀, hqc, hqy, hqn, heq⟩
  · obtain ⟨q₀, hq₀⟩ := Compiler.exists_compile?_of_occurs hq ho
    obtain ⟨qa, qb, hqa, hqb, heq⟩ := Compiler.draws_coalesce rfl hop hq₀ row
    exact ⟨q₀, qa, qb, hq₀, hqa, hqb, heq⟩

/-- Three draws for three nodes in their order. Where a sum fails behind its draw and a choice takes
its place, there is a draw of the sum and one of the branch that is taken. -/
theorem compiled_eval_draws_of_sameTerm_and_coalesce :
    let u : Uuid := ⟨.replicate 16 1⟩
    let s : Script := { doubles := [.zero], uuids := [u, .nil] }
    let c := Evaluator.standard.compiler
    let e : Expr := .call "sameterm" [.call "struuid" [],
      .call "sameterm" [.call "uuid" [], .call "rand" []]]
    let choice : Expr := .call "coalesce" [.call "+" [.call "rand" [], .var "?x"],
      .call "if" [.call "bound" [.var "?x"], .call "uuid" [], .call "struuid" []]]
    (∃ (p p' : Compiled Script) (q : Compiled (Recorded Script)) (t : Term) (e' : Expr),
      c.compile? (some e) = .ok p ∧ c.compile? (some e) = .ok q ∧
        q.draws .empty s = [.uuid u, .uuid .nil, .double .zero] ∧
        ((p.eval .empty).runFrom s).1 = .ok (some t) ∧ e.supply (q.draws .empty s) = (e', []) ∧
        c.compile? (some e') = .ok p' ∧ (p'.eval .empty).runFrom s = (.ok (some t), s)) ∧
      choice.drawings = [.rand, .uuid, .strUuid] ∧
      ∃ q : Compiled (Recorded Script), c.compile? (some choice) = .ok q ∧
        q.draws .empty s = [.double .zero, .uuid u] := by
  intro u s c e choice
  obtain ⟨p, hp⟩ : ∃ p : Compiled Script, c.compile? (some e) = .ok p := ⟨_, rfl⟩
  obtain ⟨q, hq⟩ : ∃ q : Compiled (Recorded Script), c.compile? (some e) = .ok q := ⟨_, rfl⟩
  obtain ⟨q', hq'⟩ : ∃ q : Compiled (Recorded Script), c.compile? (some choice) = .ok q :=
    ⟨_, rfl⟩
  have hmeaning : ∃ t, (interpret .standard .empty e s).1 = .ok t := by
    subst u s e
    exact ⟨_, rfl⟩
  have hdrawn : e.drawn .standard .empty s = [.uuid u, .uuid .nil, .double .zero] := by
    subst u s e
    rfl
  have hchoice : choice.drawn .standard .empty s = [.double .zero, .uuid u] := by
    subst u s choice
    rfl
  obtain ⟨t, heval⟩ := hmeaning
  have ht : ((p.eval .empty).runFrom s).1 = .ok (some t) :=
    (Compiler.fst_runFrom_eval_eq_ok_iff hp).mpr heval
  have hdraws := (Compiler.draws_eq hq .empty s).trans hdrawn
  have hno (op : Operator) (hop : op ∈ [Operator.cond, .coalesce, .bound]) : ¬e.Calls op := by
    simp only [e, Expr.calls_call, List.mem_cons, List.not_mem_nil, or_false, exists_eq_or_imp,
      exists_eq_left, false_and, exists_false]
    revert op
    decide
  obtain ⟨-, e', p', hsupply, -, hp', hsupplied⟩ :=
    (compiled_eval_draws_at_most_once_per_node {} hp hq .empty s).2.2.2.2.1 t ht
      (hno .cond (by simp)) (hno .coalesce (by simp)) (hno .bound (by simp))
  have hdraws' := (Compiler.draws_eq hq' .empty s).trans hchoice
  exact ⟨⟨p, p', q, t, e', hp, hq, hdraws, ht, hsupply, hp', hsupplied s⟩, rfl, q', hq',
    hdraws'⟩

end SparqlExpr
