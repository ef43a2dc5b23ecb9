import SparqlExpr.Proofs.Alike
import SparqlExpr.Proofs.Refinement
import SparqlExpr.Proofs.Substitution

/-! What an operation comes to depends on no more than what its arguments come to, `bound` apart.
Main statement: trees in the place of variables, on one side and on another, make no difference to
the whole tree if they make none themselves. -/
namespace SparqlExpr

variable {σ σ' α β γ δ : Type}

/-- What two runs are compared by: which terms, errors and states of their sources stand for each
other, and after which errors of the first nothing is asked of the second. -/
structure Comparison (σ σ' : Type) where
  term : Term → Term → Prop
  error : FilterError → FilterError → Prop
  state : σ → σ' → Prop
  excused : FilterError → Prop
  term_refl : ∀ t, term t t
  error_refl : ∀ x, error x x
  truth_eq : ∀ s t, term s t → s.truth = t.truth

namespace Comparison

/-- The same results and the same states, unless the first run ends with an error of a kind. -/
def sameUnless (σ : Type) (P : FilterError → Prop) : Comparison σ σ where
  term := Eq
  error := Eq
  state := Eq
  excused := P
  term_refl _ := rfl
  error_refl _ := rfl
  truth_eq _ _ h := h ▸ rfl

/-- The same results and the same states. -/
def same (σ : Type) : Comparison σ σ := sameUnless σ fun _ => False

/-- The same results from two states, which are left as they are. -/
def pinned (s : σ) (s' : σ') : Comparison σ σ' where
  term := Eq
  error := Eq
  state t t' := t = s ∧ t' = s'
  excused _ := False
  term_refl _ := rfl
  error_refl _ := rfl
  truth_eq _ _ h := h ▸ rfl

/-- The same results from states that stand for each other. -/
def across (R : σ → σ' → Prop) : Comparison σ σ' where
  term := Eq
  error := Eq
  state := R
  excused _ := False
  term_refl _ := rfl
  error_refl _ := rfl
  truth_eq _ _ h := h ▸ rfl

end Comparison

theorem Agree.eq {x y : Except FilterError α} (h : Agree Eq Eq x y) : x = y := by
  cases h with
  | ok h => rw [h]
  | error h => rw [h]

theorem Agree.refl {E : FilterError → FilterError → Prop} {R : α → α → Prop} (hE : ∀ x, E x x)
    (hR : ∀ a, R a a) (x : Except FilterError α) : Agree E R x x := by
  cases x with
  | ok a => exact .ok (hR a)
  | error x => exact .error (hE x)

/-- Runs are related if their results and the states that they reach are, unless the first one is
excused. -/
def Outcome.Related (C : Comparison σ σ') (R : α → β → Prop) (o : Outcome σ α)
    (o' : Outcome σ' β) : Prop :=
  (∀ x, o.1 = .error x → ¬C.excused x) →
    SparqlExpr.Agree C.error R o.1 o'.1 ∧ C.state o.2 o'.2

namespace Outcome.Related
variable {C : Comparison σ σ'} {R : α → β → Prop} {Q : γ → δ → Prop} {s : σ} {s' : σ'}

theorem of_agree {x : Except FilterError α} {y : Except FilterError β}
    (h : SparqlExpr.Agree C.error R x y) (hs : C.state s s') : Related C R (x, s) (y, s') :=
  fun _ => ⟨h, hs⟩

theorem ok {a : α} {b : β} (h : R a b) (hs : C.state s s') : Related C R (.ok a, s) (.ok b, s') :=
  of_agree (.ok h) hs

theorem error {x y : FilterError} (h : C.error x y) (hs : C.state s s') :
    Related C R ((.error x, s) : Outcome σ α) ((.error y, s') : Outcome σ' β) :=
  of_agree (.error h) hs

theorem andThen {o : Outcome σ α} {o' : Outcome σ' β} {f : α → σ → Outcome σ γ}
    {g : β → σ' → Outcome σ' δ} (h : Related C R o o')
    (hfg : ∀ a b s s', R a b → C.state s s' → Related C Q (f a s) (g b s')) :
    Related C Q (o.andThen f) (o'.andThen g) := by
  intro hkept
  obtain ⟨x, s⟩ := o
  obtain ⟨y, s'⟩ := o'
  obtain ⟨hxy, hs⟩ := h fun x hx => hkept x (by cases hx; rfl)
  cases hxy with
  | ok hab => exact hfg _ _ s s' hab hs hkept
  | error hx => exact ⟨.error hx, hs⟩

/-- An error that is excused is not to be recovered from. -/
theorem recover (hno : ∀ x, ¬C.excused x) {o : Outcome σ α} {o' : Outcome σ' β}
    {f : FilterError → σ → Outcome σ α} {g : FilterError → σ' → Outcome σ' β}
    (h : Related C R o o')
    (hfg : ∀ x y s s', C.error x y → C.state s s' → Related C R (f x s) (g y s')) :
    Related C R (o.recover f) (o'.recover g) := by
  intro hkept
  obtain ⟨x, s⟩ := o
  obtain ⟨y, s'⟩ := o'
  obtain ⟨hxy, hs⟩ := h fun x _ => hno x
  cases hxy with
  | ok hab => exact ⟨.ok hab, hs⟩
  | error hx => exact hfg _ _ s s' hx hs hkept

theorem eq_of_kept {P : FilterError → Prop} {o o' : Outcome σ α}
    (h : Related (.sameUnless σ P) Eq o o') (hkept : ∀ x, o.1 = .error x → ¬P x) : o = o' :=
  Prod.ext (h hkept).1.eq (h hkept).2

theorem eq {o o' : Outcome σ α} (h : Related (.same σ) Eq o o') : o = o' :=
  h.eq_of_kept fun _ _ => not_false

end Outcome.Related

/-- An operator name leads to a form. -/
def Registry.RunsForm (r : Registry) (name : String) (form : Form) : Prop :=
  ∃ op d arity, r.resolve name = .ok (op, d) ∧ d.implementation = .raw arity form

/-- The operator that a form is registered for by default. -/
def Form.operator : Form → Operator
  | bound => .bound
  | cond => .cond
  | coalesce => .coalesce

theorem Registry.RunsForm.ofName? {name : String} {form : Form}
    (h : standard.RunsForm name form) : Operator.ofName? name = some form.operator := by
  obtain ⟨op, d, arity, hres, hi⟩ := h
  obtain ⟨hop, rfl⟩ := resolve_standard hres
  rw [hop]
  cases op with
  | bound | cond | coalesce => cases hi; rfl
  | _ => cases hi

section Evaluation
variable [RandomSource σ] [RandomSource σ'] {C : Comparison σ σ'} {r : Registry} {row row' : Row}
  {es es' : List Expr} {s : σ} {s' : σ'}

/-- In rows of their own, two trees come to what is related, from all related states. -/
def Expr.RelatedIn (C : Comparison σ σ') (r : Registry) (row row' : Row) (e e' : Expr) : Prop :=
  ∀ s s', C.state s s' → Outcome.Related C C.term (interpret r row e s) (interpret r row' e' s')

/-- On related terms, from related states, an operation on values comes to what is related. -/
def Descriptor.RelatedBy (C : Comparison σ σ') (op : Operator) (d : Descriptor) : Prop :=
  ∀ ts ts' s s', List.Forall₂ C.term ts ts' → C.state s s' →
    Outcome.Related C C.term (d.apply op ts s) (d.apply op ts' s')

theorem interpretAll_related (h : List.Forall₂ (Expr.RelatedIn C r row row') es es')
    (hs : C.state s s') :
    Outcome.Related C (List.Forall₂ C.term) (interpretAll r row es s)
      (interpretAll r row' es' s') := by
  induction h generalizing s s' with
  | nil => exact .ok .nil hs
  | cons he _ ih =>
    rw [interpretAll, interpretAll]
    exact (he s s' hs).andThen fun t t' s s' ht hs =>
      (ih hs).andThen fun ts ts' s s' hts hs => .ok (.cons ht hts) hs

theorem interpretFirst_related (hno : ∀ x, ¬C.excused x) {x x' : FilterError} (hx : C.error x x')
    (h : List.Forall₂ (Expr.RelatedIn C r row row') es es') (hs : C.state s s') :
    Outcome.Related C C.term (interpretFirst r row x es s) (interpretFirst r row' x' es' s') := by
  induction h generalizing x x' s s' with
  | nil => exact .error hx hs
  | cons he _ ih =>
    rw [interpretFirst, interpretFirst]
    exact .recover hno (he s s' hs) fun x x' s s' hx hs => ih hx hs

/-- A form looks at its arguments themselves in one case only, and at their errors in one other. -/
theorem interpretForm_related (op : Operator) (form : Form)
    (h : List.Forall₂ (Expr.RelatedIn C r row row') es es')
    (hbound : form = .bound → List.Forall₂ (fun e e' =>
      Agree C.error C.term (testBound row e) (testBound row' e')) es es')
    (hcoalesce : form = .coalesce → ∀ x, ¬C.excused x) (hs : C.state s s') :
    Outcome.Related C C.term (interpretForm r row op form es s)
      (interpretForm r row' op form es' s') := by
  have mismatch (n : Nat) :
      Outcome.Related C C.term (.error (.arityMismatch op.name n es.length), s)
        (.error (.arityMismatch op.name n es'.length), s') :=
    .error (h.length_eq ▸ C.error_refl _) hs
  cases form with
  | bound =>
    rcases hbound rfl with _ | ⟨he, _ | ⟨_, _⟩⟩
    · exact mismatch 1
    · exact .of_agree he hs
    · exact mismatch 1
  | cond =>
    rcases h with _ | ⟨hc, _ | ⟨hy, _ | ⟨hn, _ | ⟨_, _⟩⟩⟩⟩
    · exact mismatch 3
    · exact mismatch 3
    · exact mismatch 3
    · rw [interpretForm, interpretForm]
      refine (hc s s' hs).andThen fun t t' s s' ht hs => ?_
      rw [C.truth_eq t t' ht]
      cases t'.truth with
      | true => exact hy s s' hs
      | false => exact hn s s' hs
    · exact mismatch 3
  | coalesce =>
    have hno := hcoalesce rfl
    cases h with
    | nil => exact mismatch 2
    | cons he hes =>
      rw [interpretForm, interpretForm]
      exact .recover hno (he s s' hs) fun x x' s s' hx hs => interpretFirst_related hno hx hes hs

/-- An operation on related arguments comes to what is related. -/
theorem interpret_call_related {name : String}
    (h : List.Forall₂ (Expr.RelatedIn C r row row') es es')
    (hvalue : ∀ op d, r.resolve name = .ok (op, d) → d.RelatedBy C op)
    (hbound : r.RunsForm name .bound → List.Forall₂ (fun e e' =>
      Agree C.error C.term (testBound row e) (testBound row' e')) es es')
    (hcoalesce : r.RunsForm name .coalesce → ∀ x, ¬C.excused x) :
    Expr.RelatedIn C r row row' (.call name es) (.call name es') := by
  intro s s' hs
  rw [interpret, interpret]
  cases hres : r.resolve name with
  | error x => exact .error (C.error_refl x) hs
  | ok p =>
    obtain ⟨op, d⟩ := p
    cases hraw : d.raw with
    | false =>
      simp only [hraw]
      exact (interpretAll_related h hs).andThen (hvalue op d hres)
    | true =>
      cases hi : d.implementation with
      | raw arity form =>
        have hform : r.RunsForm name form := ⟨op, d, arity, hres, hi⟩
        simp only [hraw, hi]
        exact interpretForm_related op form h (fun hf => hbound (hf ▸ hform))
          (fun hf => hcoalesce (hf ▸ hform)) hs
      | _ => simp only [hraw, hi]; exact .error (C.error_refl _) hs

/-- Two ways to put trees in the place of a tree's variables, each with a row of its own, that make
no difference: the trees are related, values are treated alike, below `bound` the variables stand
for themselves, and no excused error is met by `coalesce`. -/
structure Expr.Indifferent (C : Comparison σ σ') (r : Registry) (row row' : Row)
    (f g : String → Expr) (e : Expr) : Prop where
  leaf : ∀ name, (var name).Occurs e → RelatedIn C r row row' (f name) (g name)
  value : ∀ name args, (call name args).Occurs e → ∀ op d, r.resolve name = .ok (op, d) →
    d.RelatedBy C op
  bound : ∀ name args, (call name args).Occurs e → r.RunsForm name .bound → ∀ a ∈ args,
    ∀ name, (var name).Occurs a →
      f name = var name ∧ g name = var name ∧ row.contains name = row'.contains name
  coalesce : ∀ name args, (call name args).Occurs e → r.RunsForm name .coalesce →
    ∀ x, ¬C.excused x

namespace Expr.Indifferent
variable {f g : String → Expr}

theorem inside {name : String} {args : List Expr} {e : Expr}
    (h : Indifferent C r row row' f g (call name args)) (he : e ∈ args) :
    Indifferent C r row row' f g e where
  leaf other ho := h.leaf other (.inside he ho)
  value other es ho := h.value other es (.inside he ho)
  bound other es ho := h.bound other es (.inside he ho)
  coalesce other es ho := h.coalesce other es (.inside he ho)

/-- The argument of `bound` is the same tree on both sides. -/
theorem testBound_eq {a : Expr} (h : ∀ name, (var name).Occurs a →
      f name = var name ∧ g name = var name ∧ row.contains name = row'.contains name) :
    testBound row (a.subst f) = testBound row' (a.subst g) := by
  rw [subst_eq_self fun name ho => (h name ho).1, subst_eq_self fun name ho => (h name ho).2.1]
  cases a with
  | var name => rw [testBound, testBound, (h name .here).2.2]
  | const t => rfl
  | call name args => rfl

/-- What makes no difference in the place of variables makes none to the whole tree. -/
theorem related {e : Expr} (h : Indifferent C r row row' f g e) :
    RelatedIn C r row row' (e.subst f) (e.subst g) := by
  induction e with
  | const t => exact fun s s' hs => .ok (C.term_refl t) hs
  | var name => exact h.leaf name .here
  | call name args ih =>
    have pairs {R : Expr → Expr → Prop} (hR : ∀ e ∈ args, R (e.subst f) (e.subst g)) :
        List.Forall₂ R (args.map (subst f)) (args.map (subst g)) := by
      rw [List.forall₂_map_left_iff, List.forall₂_map_right_iff]
      exact List.forall₂_same.mpr hR
    have hbound (hf : r.RunsForm name .bound) (a : Expr) (ha : a ∈ args) :
        Agree C.error C.term (testBound row (a.subst f)) (testBound row' (a.subst g)) := by
      rw [testBound_eq (h.bound name args .here hf a ha)]
      exact .refl C.error_refl C.term_refl _
    rw [subst_call, subst_call]
    exact interpret_call_related (pairs fun e he => ih e he (h.inside he))
      (h.value name args .here) (fun hf => pairs (hbound hf)) (h.coalesce name args .here)

end Expr.Indifferent

/-- Rows that agree on the variables of a tree make no difference to it. -/
theorem Expr.RelatedIn.of_get?_eq {e : Expr}
    (hrow : ∀ name, (var name).Occurs e → row.get? name = row'.get? name)
    (hvalue : ∀ name args, (call name args).Occurs e → ∀ op d, r.resolve name = .ok (op, d) →
      d.RelatedBy C op)
    (hno : ∀ x, ¬C.excused x) : RelatedIn C r row row' e e := by
  have hind : Indifferent C r row row' var var e := by
    refine ⟨fun name ho s s' hs => ?_, hvalue, fun name args ho _ a ha n hn => ⟨rfl, rfl, ?_⟩,
      fun _ _ _ _ => hno⟩
    · rw [interpret, interpret, hrow name ho]
      cases row'.get? name with
      | some t => exact .ok (C.term_refl t) hs
      | none => exact .error (C.error_refl _) hs
    · rw [Row.contains, Row.contains, hrow n ((Occurs.inside ha hn).trans ho)]
  have hrelated := hind.related
  rwa [e.subst_var] at hrelated

end Evaluation

/-- The same terms from the same state: nothing is left that an operation could tell apart. -/
theorem Descriptor.relatedBy_sameUnless [RandomSource σ] (P : FilterError → Prop) (op : Operator)
    (d : Descriptor) : d.RelatedBy (.sameUnless σ P) op := by
  rintro ts ts' s _ hts rfl
  obtain rfl : ts = ts' := List.forall₂_eq_eq_eq ▸ hts
  exact .of_agree (.refl (fun _ => rfl) (fun _ => rfl) _) rfl

end SparqlExpr
