import SparqlExpr.Proofs.Drawless

/-! A source that keeps a record of its draws. Evaluation cannot tell it from the source that it
records, and what it records does not depend on what was recorded before. -/
namespace SparqlExpr

/-- What one draw gives. -/
inductive Drawn where
  | double (value : Double)
  | uuid (value : Uuid)
deriving DecidableEq

/-- A source with its draws so far, the first one first. -/
structure Recorded (σ : Type) where
  source : σ
  draws : List Drawn
deriving DecidableEq

namespace Recorded

/-- A source from which nothing is drawn yet. -/
def start (source : σ) : Recorded σ :=
  ⟨source, []⟩

instance [RandomSource σ] : RandomSource (Recorded σ) where
  nextDouble s :=
    let (x, source) := RandomSource.nextDouble s.source
    (x, ⟨source, s.draws ++ [.double x]⟩)
  nextUuid s :=
    let (u, source) := RandomSource.nextUuid s.source
    (u, ⟨source, s.draws ++ [.uuid u]⟩)

end Recorded

/-- What an evaluation draws from a state, in order. -/
def Compiled.draws (q : Compiled (Recorded σ)) (row : Row) (s : σ) : List Drawn :=
  ((q.eval row).runFrom (.start s)).2.draws

section Simulation
variable {σ σ' : Type} [RandomSource σ] [RandomSource σ'] {R : σ → σ' → Prop} {r : Registry}
  {row : Row} {s : σ} {s' : σ'}

/-- From related states the same is drawn, and related states are left. -/
structure SameDraws (R : σ → σ' → Prop) : Prop where
  double (s : σ) (s' : σ') (h : R s s') :
    (RandomSource.nextDouble s).1 = (RandomSource.nextDouble s').1 ∧
      R (RandomSource.nextDouble s).2 (RandomSource.nextDouble s').2
  uuid (s : σ) (s' : σ') (h : R s s') :
    (RandomSource.nextUuid s).1 = (RandomSource.nextUuid s').1 ∧
      R (RandomSource.nextUuid s).2 (RandomSource.nextUuid s').2

/-- A draw is the only thing that an implementation does with a source. -/
theorem SameDraws.invoke (h : SameDraws R) (hs : R s s') (i : Implementation) (op : Operator)
    (values : List Value) :
    ((i.invoke op values).runFrom s).1 = ((i.invoke op values).runFrom s').1 ∧
      R ((i.invoke op values).runFrom s).2 ((i.invoke op values).runFrom s').2 := by
  by_cases hi : i.Draws
  · cases i with
    | nullary draw =>
      match draw, values with
      | .double value, [] =>
        have hx := h.double s s' hs
        exact ⟨congrArg (fun x => Except.ok (value x)) hx.1, hx.2⟩
      | .uuid value, [] =>
        have hu := h.uuid s s' hs
        exact ⟨congrArg (fun u => Except.ok (value u)) hu.1, hu.2⟩
      | _, _ :: _ => exact ⟨rfl, hs⟩
    | _ => exact hi.elim
  · obtain ⟨x, hx⟩ := invoke_eq_of_not_draws hi op values
    rw [hx, hx]
    exact ⟨rfl, hs⟩

theorem Descriptor.relatedBy_across (h : SameDraws R) (op : Operator) (d : Descriptor) :
    d.RelatedBy (.across R) op := by
  intro ts ts' s s' hts hs
  obtain rfl : ts = ts' := List.forall₂_eq_eq_eq ▸ hts
  unfold apply
  cases ts.mapM (d.argument.argument op.name) with
  | error x => exact .error rfl hs
  | ok values =>
    obtain ⟨hx, hs'⟩ := h.invoke hs d.implementation op values
    refine Outcome.Related.andThen (R := Eq) (fun _ => ⟨?_, hs'⟩) fun v w t t' hv ht => ?_
    · rw [hx]
      exact .refl (fun _ => rfl) (fun _ => rfl) _
    · exact .ok (by rw [hv]; rfl) ht

/-- From related states a tree comes to the same, and leaves related states. -/
theorem interpret_across (h : SameDraws R) (hs : R s s') (e : Expr) :
    (interpret r row e s).1 = (interpret r row e s').1 ∧
      R (interpret r row e s).2 (interpret r row e s').2 := by
  have hrelated : Expr.RelatedIn (.across R) r row row e e :=
    .of_get?_eq (fun _ _ => rfl) (fun _ _ _ op d _ => d.relatedBy_across h op) fun _ => not_false
  obtain ⟨hx, hs'⟩ := hrelated s s' hs fun _ _ => not_false
  exact ⟨hx.eq, hs'⟩

end Simulation

section Recording
variable {σ : Type} [RandomSource σ] {r : Registry} {row : Row}

theorem Recorded.sameDraws_source : SameDraws fun (s : σ) (t : Recorded σ) => t.source = s where
  double := by
    rintro _ t rfl
    exact ⟨rfl, rfl⟩
  uuid := by
    rintro _ t rfl
    exact ⟨rfl, rfl⟩

theorem Recorded.sameDraws_append (before : List Drawn) :
    SameDraws fun t t' : Recorded σ => t' = ⟨t.source, before ++ t.draws⟩ where
  double := by
    rintro t _ rfl
    exact ⟨rfl, congrArg (Recorded.mk _) (List.append_assoc ..)⟩
  uuid := by
    rintro t _ rfl
    exact ⟨rfl, congrArg (Recorded.mk _) (List.append_assoc ..)⟩

/-- What a tree draws from a state, in order. -/
def Expr.drawn (r : Registry) (row : Row) (e : Expr) (s : σ) : List Drawn :=
  (interpret r row e (Recorded.start s)).2.draws

/-- With a record, a tree comes to the same and its draws are added to the record. -/
theorem interpret_recorded (e : Expr) (s : σ) (before : List Drawn) :
    interpret r row e (Recorded.mk s before) =
      ((interpret r row e s).1, ⟨(interpret r row e s).2, before ++ e.drawn r row s⟩) := by
  have hsame : (Recorded.start s).source = s := rfl
  have hbefore : Recorded.mk s before =
      ⟨(Recorded.start s).source, before ++ (Recorded.start s).draws⟩ :=
    congrArg (Recorded.mk s) (List.append_nil before).symm
  have hsource : (interpret r row e s).1 = (interpret r row e (Recorded.start s)).1 ∧
      (interpret r row e (Recorded.start s)).2.source = (interpret r row e s).2 :=
    interpret_across Recorded.sameDraws_source hsame e
  have happend : (interpret r row e (Recorded.start s)).1 =
        (interpret r row e (Recorded.mk s before)).1 ∧
      (interpret r row e (Recorded.mk s before)).2 =
        ⟨(interpret r row e (Recorded.start s)).2.source, before ++ e.drawn r row s⟩ :=
    interpret_across (Recorded.sameDraws_append before) hbefore e
  refine Prod.ext (happend.1.symm.trans hsource.1.symm) (happend.2.trans ?_)
  rw [hsource.2]

variable {c : Compiler} {e : Expr} {p : Compiled σ} {q : Compiled (Recorded σ)}

theorem Compiler.draws_eq (hq : c.compile? (some e) = .ok q) (row : Row) (s : σ) :
    q.draws row s = e.drawn c.registry row s := by
  unfold Compiled.draws Expr.drawn
  rw [Compiler.runFrom_eval hq]
  cases interpret c.registry row e (Recorded.start s) with
  | mk x t => cases x <;> rfl

theorem Compiler.runFrom_eval_start (hq : c.compile? (some e) = .ok q) (row : Row) (s : σ) :
    (q.eval row).runFrom (.start s) =
      (((interpret c.registry row e s).1).map some,
        ⟨(interpret c.registry row e s).2, q.draws row s⟩) := by
  rw [draws_eq hq, runFrom_eval hq, Recorded.start, interpret_recorded]
  obtain ⟨error | t, s'⟩ := interpret c.registry row e s <;> rfl

/-- Recording changes neither the result nor the state that is reached. -/
theorem Compiler.runFrom_eval_recorded (hp : c.compile? (some e) = .ok p)
    (hq : c.compile? (some e) = .ok q) (row : Row) (s : σ) :
    (q.eval row).runFrom (.start s) =
      (((p.eval row).runFrom s).1, ⟨((p.eval row).runFrom s).2, q.draws row s⟩) := by
  rw [runFrom_eval_start hq, runFrom_eval hp]
  obtain ⟨error | t, s'⟩ := interpret c.registry row e s <;> rfl

end Recording

end SparqlExpr
