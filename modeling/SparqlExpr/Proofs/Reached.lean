import SparqlExpr.Proofs.Supply

/-! Which nodes an evaluation reaches, on success and on failure: one draw is made for each node
that takes one and is reached, and no node is reached twice. -/
namespace SparqlExpr

/-- The form that an operator is. -/
def Operator.form? : Operator → Option Form
  | bound => some .bound
  | cond => some .cond
  | coalesce => some .coalesce
  | _ => none

theorem Operator.form?_operator (form : Form) : form.operator.form? = some form := by
  cases form <;> rfl

theorem Operator.form?_eq_none {op : Operator}
    (takes : (Descriptor.standard op).implementation.TakesValues) : op.form? = none := by
  cases op with
  | bound | cond | coalesce => exact takes.elim
  | _ => rfl

section Reached
variable {σ : Type} [RandomSource σ]

namespace Expr

mutual

/-- The operators of the nodes that take a draw and are reached by an evaluation, in order. -/
def reached (row : Row) : Expr → σ → List Operator
  | const _, _ => []
  | var _, _ => []
  | call name args, s =>
    match (Operator.ofName? name).bind Operator.form? with
    | some form => reachedForm row form args s
    | none => (call name args).drawing?.toList ++ reachedAll row args s

/-- Up to the first error. -/
def reachedAll (row : Row) : List Expr → σ → List Operator
  | [], _ => []
  | e :: es, s =>
    e.reached row s ++ match interpret .standard row e s with
      | (.ok _, s) => reachedAll row es s
      | (.error _, _) => []

/-- Up to the first success. -/
def reachedFirst (row : Row) : List Expr → σ → List Operator
  | [], _ => []
  | e :: es, s =>
    e.reached row s ++ match interpret .standard row e s with
      | (.ok _, _) => []
      | (.error _, s) => reachedFirst row es s

/-- The argument of `bound` and the branch of an `if` that is not taken are passed over. -/
def reachedForm (row : Row) : Form → List Expr → σ → List Operator
  | .bound, _, _ => []
  | .cond, [condition, yes, no], s =>
    condition.reached row s ++ match interpret .standard row condition s with
      | (.ok t, s) => if t.truth then yes.reached row s else no.reached row s
      | (.error _, _) => []
  | .cond, _, _ => []
  | .coalesce, [], _ => []
  | .coalesce, e :: es, s =>
    e.reached row s ++ match interpret .standard row e s with
      | (.ok _, _) => []
      | (.error _, s) => reachedFirst row es s

end

variable {row : Row} {es : List Expr}

theorem reachedAll_sublist (h : ∀ e ∈ es, ∀ s : σ, (e.reached row s).Sublist e.drawings) (s : σ) :
    (reachedAll row es s).Sublist (es.flatMap drawings) := by
  induction es generalizing s with
  | nil => exact List.Sublist.refl _
  | cons e es ih =>
    rw [List.forall_mem_cons] at h
    rw [reachedAll, List.flatMap_cons]
    refine (h.1 s).append ?_
    split
    · exact ih h.2 _
    · exact List.nil_sublist _

theorem reachedFirst_sublist (h : ∀ e ∈ es, ∀ s : σ, (e.reached row s).Sublist e.drawings)
    (s : σ) : (reachedFirst row es s).Sublist (es.flatMap drawings) := by
  induction es generalizing s with
  | nil => exact List.Sublist.refl _
  | cons e es ih =>
    rw [List.forall_mem_cons] at h
    rw [reachedFirst, List.flatMap_cons]
    refine (h.1 s).append ?_
    split
    · exact List.nil_sublist _
    · exact ih h.2 _

theorem reachedForm_sublist (form : Form)
    (h : ∀ e ∈ es, ∀ s : σ, (e.reached row s).Sublist e.drawings) (s : σ) :
    (reachedForm row form es s).Sublist (es.flatMap drawings) := by
  match form, es with
  | .bound, es =>
    rw [reachedForm]
    exact List.nil_sublist _
  | .cond, [condition, yes, no] =>
    simp only [reachedForm, List.flatMap_cons, List.flatMap_nil, List.append_nil]
    refine (h condition (by simp) s).append ?_
    split
    · split
      · exact (h yes (by simp) _).trans (List.sublist_append_left _ _)
      · exact (h no (by simp) _).trans (List.sublist_append_right _ _)
    · exact List.nil_sublist _
  | .cond, [] | .cond, [_] | .cond, [_, _] | .cond, _ :: _ :: _ :: _ :: _ =>
    exact List.nil_sublist _
  | .coalesce, [] => exact List.nil_sublist _
  | .coalesce, e :: es => exact reachedFirst_sublist h s

/-- No node is reached twice, and the nodes are reached from left to right. -/
theorem reached_sublist (row : Row) (e : Expr) (s : σ) :
    (e.reached row s).Sublist e.drawings := by
  induction e generalizing s with
  | const t => exact List.nil_sublist _
  | var name => exact List.nil_sublist _
  | call name args ih =>
    rw [reached, drawings_call]
    split
    · exact (reachedForm_sublist _ ih s).trans (List.sublist_append_right _ _)
    · exact (List.Sublist.refl _).append (reachedAll_sublist ih s)

end Expr

end Reached

section Record
variable {σ α β : Type} {ops ops' : List Operator} {s : Recorded σ}

/-- A run adds a draw for each of the operators to the record, in their order. -/
def Outcome.DrawsFor (ops : List Operator) (s : Recorded σ) (o : Outcome (Recorded σ) α) : Prop :=
  ∃ ds, List.Forall₂ Operator.Takes ops ds ∧ o.2.draws = s.draws ++ ds

namespace Outcome.DrawsFor

theorem nothing (x : Except FilterError α) : DrawsFor [] s (x, s) :=
  ⟨[], .nil, (List.append_nil _).symm⟩

theorem append {o : Outcome (Recorded σ) α} {o' : Outcome (Recorded σ) β}
    (h : DrawsFor ops s o) (h' : DrawsFor ops' o.2 o') : DrawsFor (ops ++ ops') s o' := by
  obtain ⟨ds, hds, ho⟩ := h
  obtain ⟨ds', hds', ho'⟩ := h'
  exact ⟨ds ++ ds', List.rel_append hds hds', by rw [ho', ho, List.append_assoc]⟩

/-- What goes on without a draw adds nothing. -/
theorem andThen_nothing {o : Outcome (Recorded σ) α}
    {f : α → Recorded σ → Outcome (Recorded σ) β} (h : DrawsFor ops s o)
    (hf : ∀ a s, (f a s).2 = s) : DrawsFor ops s (o.andThen f) := by
  obtain ⟨ds, hds, ho⟩ := h
  obtain ⟨error | a, s'⟩ := o
  · exact ⟨ds, hds, ho⟩
  · exact ⟨ds, hds, (congrArg Recorded.draws (hf a s')).trans ho⟩

end Outcome.DrawsFor

variable [RandomSource σ] {row : Row} {es : List Expr}

theorem interpretAll_drawsFor
    (h : ∀ e ∈ es, ∀ s : Recorded σ, Outcome.DrawsFor (e.reached row s) s
      (interpret .standard row e s)) (s : Recorded σ) :
    Outcome.DrawsFor (Expr.reachedAll row es s) s (interpretAll .standard row es s) := by
  induction es generalizing s with
  | nil => exact .nothing _
  | cons e es ih =>
    rw [List.forall_mem_cons] at h
    have hfirst := h.1 s
    rw [interpretAll, Expr.reachedAll]
    generalize interpret .standard row e s = o at hfirst ⊢
    obtain ⟨error | t, s'⟩ := o
    · exact hfirst.append (.nothing _)
    · exact hfirst.append ((ih h.2 s').andThen_nothing fun ts s => rfl)

theorem interpretFirst_drawsFor (error : FilterError)
    (h : ∀ e ∈ es, ∀ s : Recorded σ, Outcome.DrawsFor (e.reached row s) s
      (interpret .standard row e s)) (s : Recorded σ) :
    Outcome.DrawsFor (Expr.reachedFirst row es s) s
      (interpretFirst .standard row error es s) := by
  induction es generalizing error s with
  | nil => exact .nothing _
  | cons e es ih =>
    rw [List.forall_mem_cons] at h
    have hfirst := h.1 s
    rw [interpretFirst, Expr.reachedFirst]
    generalize interpret .standard row e s = o at hfirst ⊢
    obtain ⟨error | t, s'⟩ := o
    · exact hfirst.append (ih error h.2 s')
    · exact hfirst.append (.nothing _)

/-- A form draws for the arguments that it runs. -/
theorem interpretForm_drawsFor (op : Operator) (form : Form)
    (h : ∀ e ∈ es, ∀ s : Recorded σ, Outcome.DrawsFor (e.reached row s) s
      (interpret .standard row e s)) (s : Recorded σ) :
    Outcome.DrawsFor (Expr.reachedForm row form es s) s
      (interpretForm .standard row op form es s) := by
  match form, es with
  | .bound, [_] | .bound, [] | .bound, _ :: _ :: _ => exact .nothing _
  | .cond, [condition, yes, no] =>
    have hcondition := h condition (by simp) s
    rw [interpretForm, Expr.reachedForm]
    generalize interpret .standard row condition s = o at hcondition ⊢
    obtain ⟨error | t, s'⟩ := o
    · exact hcondition.append (.nothing _)
    · refine hcondition.append ?_
      simp only [Outcome.andThen_ok]
      split
      · exact h yes (by simp) s'
      · exact h no (by simp) s'
  | .cond, [] | .cond, [_] | .cond, [_, _] | .cond, _ :: _ :: _ :: _ :: _ => exact .nothing _
  | .coalesce, [] => exact .nothing _
  | .coalesce, e :: es => exact interpretFirst_drawsFor (.arityMismatch op.name 2 0) h s

/-- A run makes a draw for each node that takes one and is reached, and no other draw. -/
theorem interpret_drawsFor {e : Expr}
    (h : ∀ name args, (Expr.call name args).Occurs e →
      Registry.standard.Callable name args.length) (row : Row) (s : Recorded σ) :
    Outcome.DrawsFor (e.reached row s) s (interpret .standard row e s) := by
  induction e generalizing s with
  | const t => exact .nothing _
  | var name =>
    rw [interpret]
    split <;> exact .nothing _
  | call name args ih =>
    have hargs (e : Expr) (he : e ∈ args) (s : Recorded σ) :
        Outcome.DrawsFor (e.reached row s) s (interpret .standard row e s) :=
      ih e he (fun name args ho => h name args (.inside he ho)) s
    obtain ⟨op, hop, hres, hs, ha⟩ := (h name args .here).standard
    rw [Expr.reached, hop, Option.bind_some]
    rcases Descriptor.standard_cases hs with ⟨hraw, takes⟩ | ⟨hraw, form, rfl, hi⟩
    · rw [Operator.form?_eq_none takes]
      -- A node that takes a draw has no arguments, so its own draw is all there is.
      by_cases hdraws : op ∈ Operator.drawing
      · obtain ⟨rfl, hdrawing, d, t, source, ht, hcall⟩ :=
          interpret_of_drawing hop hdraws ha row s
        have htakes : op.Takes d := Option.isSome_of_mem ht
        rw [hcall, hdrawing]
        exact ⟨[d], .cons htakes .nil, rfl⟩
      · rw [Expr.drawing?_eq_none hop hdraws, interpret_value hres hraw]
        refine (interpretAll_drawsFor hargs s).andThen_nothing fun ts s => ?_
        obtain ⟨x, hx⟩ := Descriptor.apply_of_not_drawing hdraws ts
        rw [hx]
    · rw [Operator.form?_operator, interpret_form hres hraw hi]
      exact interpretForm_drawsFor form.operator form hargs s

end Record

end SparqlExpr
