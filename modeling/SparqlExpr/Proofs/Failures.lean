import Mathlib.Data.List.Basic
import SparqlExpr.Proofs.Interpreter
import SparqlExpr.Proofs.Respect
import SparqlExpr.Proofs.Tree

/-! How evaluation fails: every error of an implementation of the catalogue rejects an argument
under one operator's name, and lists of arguments and forms add no errors to those of their
arguments. -/
namespace SparqlExpr

variable {σ α β : Type} {P Q : FilterError → Prop}

/-- Every error of a result has a property. -/
def FailsOnly (P : FilterError → Prop) (x : Except FilterError α) : Prop :=
  ∀ error, x = .error error → P error

namespace FailsOnly

theorem ok (a : α) : FailsOnly P (.ok a) := fun _ h => nomatch h

theorem error {error : FilterError} (h : P error) : FailsOnly P (.error error : Except _ α) := by
  rintro _ ⟨⟩
  exact h

theorem mono {x : Except FilterError α} (h : FailsOnly P x) (hPQ : ∀ error, P error → Q error) :
    FailsOnly Q x := fun error hx => hPQ error (h error hx)

theorem bind {x : Except FilterError α} {f : α → Except FilterError β} (hx : FailsOnly P x)
    (hf : ∀ a, FailsOnly P (f a)) : FailsOnly P (x >>= f) := by
  cases x with
  | ok a => exact hf a
  | error e => exact error (hx e rfl)

theorem mapM {as : List α} {f : α → Except FilterError β} (h : ∀ a, FailsOnly P (f a)) :
    FailsOnly P (as.mapM f) := by
  induction as with
  | nil => exact ok []
  | cons a as ih =>
    rw [List.mapM_cons]
    exact bind (h a) fun b => bind ih fun bs => ok (b :: bs)

theorem andThen {o : Outcome σ α} {f : α → σ → Outcome σ β} (ho : FailsOnly P o.1)
    (hf : ∀ a s, o = (.ok a, s) → FailsOnly P (f a s).1) : FailsOnly P (o.andThen f).1 := by
  obtain ⟨e | a, s⟩ := o
  · exact error (ho e rfl)
  · exact hf a s rfl

theorem exists_ok {x : Except FilterError α} (h : FailsOnly (fun _ => False) x) :
    ∃ a, x = .ok a := by
  cases x with
  | ok a => exact ⟨a, rfl⟩
  | error e => exact (h e rfl).elim

/-- After a recovery only the errors of the recovery are left. -/
theorem recover {o : Outcome σ α} {f : FilterError → σ → Outcome σ α} (ho : FailsOnly P o.1)
    (hf : ∀ error s, P error → FailsOnly P (f error s).1) : FailsOnly P (o.recover f).1 := by
  obtain ⟨e | a, s⟩ := o
  · exact hf e s (ho e rfl)
  · exact ok a

end FailsOnly

theorem Agree.failsOnly {E : FilterError → FilterError → Prop} {R : α → β → Prop}
    {x : Except FilterError α} {y : Except FilterError β} (h : Agree E R x y)
    (hE : ∀ x y, E x y → P x) : FailsOnly P x := by
  cases h with
  | ok h => exact .ok _
  | error h => exact .error (hE _ _ h)

/-- Whatever values it is called with, an implementation fails only by rejecting them. -/
def Implementation.RejectsAs (op : Operator) : Implementation → Prop
  | nullary _ => True
  | unary call => ∀ v, FailsOnly (FilterError.Rejects op) (call v)
  | binary call => ∀ v w, FailsOnly (FilterError.Rejects op) (call v w)
  | ternary call => ∀ v w x, FailsOnly (FilterError.Rejects op) (call v w x)
  | raw .. => False
  | unsupported _ => False

/-- Called with values of some class, an implementation has no errors but those with a property. -/
def Implementation.FailsOnlyOn (K : Value → Prop) (P : FilterError → Prop) : Implementation → Prop
  | nullary _ => True
  | unary call => ∀ v, K v → FailsOnly P (call v)
  | binary call => ∀ v w, K v → K w → FailsOnly P (call v w)
  | ternary call => ∀ v w x, K v → K w → K x → FailsOnly P (call v w x)
  | raw .. => False
  | unsupported _ => False

theorem Implementation.RejectsAs.failsOnlyOn {op : Operator} {i : Implementation}
    (h : i.RejectsAs op) : i.FailsOnlyOn (fun _ => True) (FilterError.Rejects op) := by
  cases i with
  | nullary draw => trivial
  | unary call => exact fun v _ => h v
  | binary call => exact fun v w _ _ => h v w
  | ternary call => exact fun v w x _ _ _ => h v w x
  | raw arity form => exact h
  | unsupported arity => exact h

/-- An implementation that is called with values. -/
def Implementation.TakesValues : Implementation → Prop
  | nullary _ | unary _ | binary _ | ternary _ => True
  | raw .. | unsupported _ => False

/-- The number of arguments that a form is registered with. -/
def Form.arity : Form → Nat
  | bound => 1
  | cond => 3
  | coalesce => 2

/-- Equal values are alike, so an implementation that respects them has no errors but rejections. -/
theorem Implementation.Respects.rejectsAs {op : Operator} {i : Implementation}
    (h : i.Respects op) (takes : i.TakesValues) : i.RejectsAs op := by
  cases i with
  | nullary draw => trivial
  | unary call => exact fun v => (h v v (.refl v)).failsOnly fun _ _ h => h.1
  | binary call => exact fun v w => (h v v w w (.refl v) (.refl w)).failsOnly fun _ _ h => h.1
  | ternary call =>
    exact fun v w x => (h v v w w x x (.refl v) (.refl w) (.refl x)).failsOnly fun _ _ h => h.1
  | raw arity form => exact takes
  | unsupported arity => exact takes

theorem Terms.sameTerm_rejects : sameTerm.RejectsAs .sameTerm := by
  intro v w
  have hv := (toTerm_agree .sameTerm (.refl v)).failsOnly fun _ _ h => h.1
  have hw := (toTerm_agree .sameTerm (.refl w)).failsOnly fun _ _ h => h.1
  exact hv.bind fun s => hw.bind fun t => .ok _

theorem standard_rejects (op : Operator)
    (takes : (Descriptor.standard op).implementation.TakesValues) :
    (Descriptor.standard op).implementation.RejectsAs op.reporting := by
  by_cases h : op = .sameTerm
  · rw [h]
    exact Terms.sameTerm_rejects
  · exact (standard_respects h).rejectsAs takes

theorem argument_rejects (c : Coercion) (op : Operator) (t : Term) :
    FailsOnly (FilterError.Rejects op) (c.argument op.name t) :=
  (argument_agree c op (.refl t)).failsOnly fun _ _ h => h.1

section Evaluation
variable [RandomSource σ] {r : Registry} {row : Row}

/-- Called with as many values as it takes, an implementation has only its own errors. -/
theorem invoke_failsOnly {K : Value → Prop} {i : Implementation} (h : i.FailsOnlyOn K P)
    (op : Operator) {values : List Value} (hl : values.length = i.arity) (hK : ∀ v ∈ values, K v)
    (s : σ) : FailsOnly P ((i.invoke op values).runFrom s).1 := by
  cases i with
  | nullary draw =>
    obtain rfl : values = [] := List.eq_nil_of_length_eq_zero hl
    cases draw with
    | double value => exact .ok _
    | uuid value => exact .ok _
  | unary call =>
    obtain ⟨v, rfl⟩ := List.length_eq_one_iff.mp hl
    exact h v (hK v (by simp))
  | binary call =>
    obtain ⟨v, w, rfl⟩ := List.length_eq_two.mp hl
    exact h v w (hK v (by simp)) (hK w (by simp))
  | ternary call =>
    obtain ⟨v, w, x, rfl⟩ := List.length_eq_three.mp hl
    exact h v w x (hK v (by simp)) (hK w (by simp)) (hK x (by simp))
  | raw arity form => exact h.elim
  | unsupported arity => exact h.elim

theorem invoke_rejects {source : Operator} {i : Implementation} (h : i.RejectsAs source)
    (op : Operator) {values : List Value} (hl : values.length = i.arity) (s : σ) :
    FailsOnly (FilterError.Rejects source) ((i.invoke op values).runFrom s).1 :=
  invoke_failsOnly h.failsOnlyOn op hl (fun _ _ => trivial) s

theorem apply_failsOnly {source op : Operator} {d : Descriptor} {terms : List Term}
    (h : d.implementation.RejectsAs source) (hl : terms.length = d.arity)
    (hop : ∀ error, error.Rejects op → P error) (hsource : ∀ error, error.Rejects source → P error)
    (s : σ) : FailsOnly P (d.apply op terms s).1 := by
  have hargs : FailsOnly (FilterError.Rejects op) (terms.mapM (d.argument.argument op.name)) :=
    .mapM (argument_rejects d.argument op)
  unfold Descriptor.apply
  cases hv : terms.mapM (d.argument.argument op.name) with
  | error error => exact .error (hop error (hargs error hv))
  | ok values =>
    have hvalues : values.length = d.implementation.arity := (length_of_mapM hv).trans hl
    exact .andThen ((invoke_rejects h op hvalues s).mono hsource) fun _ _ _ => .ok _

theorem interpretAll_failsOnly {es : List Expr}
    (h : ∀ e ∈ es, ∀ s : σ, FailsOnly P (interpret r row e s).1) (s : σ) :
    FailsOnly P (interpretAll r row es s).1 := by
  induction es generalizing s with
  | nil => exact .ok _
  | cons e es ih =>
    rw [List.forall_mem_cons] at h
    rw [interpretAll]
    exact .andThen (h.1 s) fun t s _ => .andThen (ih h.2 s) fun ts s _ => .ok _

theorem interpretFirst_failsOnly {error : FilterError} {es : List Expr} (he : P error)
    (h : ∀ e ∈ es, ∀ s : σ, FailsOnly P (interpret r row e s).1) (s : σ) :
    FailsOnly P (interpretFirst r row error es s).1 := by
  induction es generalizing error s with
  | nil => exact .error he
  | cons e es ih =>
    rw [List.forall_mem_cons] at h
    rw [interpretFirst]
    exact .recover (h.1 s) fun _ s he => ih he h.2 s

theorem testBound_rejects (e : Expr) :
    FailsOnly (FilterError.Rejects .bound) (testBound row e) := by
  cases e with
  | var name => exact .ok _
  | _ => exact .error (.invalid _)

/-- As many arguments as the form takes: no other number is ever its error. -/
theorem interpretForm_failsOnly {op : Operator} {form : Form} {es : List Expr}
    (hl : es.length = form.arity)
    (hbound : form = .bound → ∀ error, error.Rejects .bound → P error)
    (h : ∀ e ∈ es, ∀ s : σ, FailsOnly P (interpret r row e s).1) (s : σ) :
    FailsOnly P (interpretForm r row op form es s).1 := by
  cases form with
  | bound =>
    obtain ⟨e, rfl⟩ := List.length_eq_one_iff.mp hl
    rw [interpretForm]
    exact (testBound_rejects e).mono (hbound rfl)
  | cond =>
    obtain ⟨condition, yes, no, rfl⟩ := List.length_eq_three.mp hl
    rw [interpretForm]
    refine .andThen (h condition (by simp) s) fun t s _ => ?_
    split
    · exact h yes (by simp) s
    · exact h no (by simp) s
  | coalesce =>
    obtain ⟨d, e, rfl⟩ := List.length_eq_two.mp hl
    rw [List.forall_mem_cons] at h
    rw [interpretForm]
    exact .recover (h.1 s) fun _ s he => interpretFirst_failsOnly he h.2 s

theorem length_of_interpretAll {es : List Expr} {ts : List Term} {s s' : σ}
    (h : interpretAll r row es s = (.ok ts, s')) : ts.length = es.length := by
  induction es generalizing ts s with
  | nil => cases h; rfl
  | cons e es ih =>
    obtain ⟨t, s₁, ts', -, hes, rfl⟩ := interpretAll_cons_eq_ok h
    exact congrArg (· + 1) (ih hes)

/-- Whatever its arguments come to, an operation itself fails only with errors that have a
property. -/
def Registry.CallFailsOnly (σ : Type) [RandomSource σ] (r : Registry) (P : FilterError → Prop)
    (name : String) (size : Nat) : Prop :=
  ∃ op d, r.resolve name = .ok (op, d) ∧
    ((d.raw = false ∧ ∀ (terms : List Term) (s : σ), terms.length = size →
        FailsOnly P (d.apply op terms s).1) ∨
      d.raw = true ∧ ∃ form : Form, d.implementation = .raw form.arity form ∧
        size = form.arity ∧ (form = .bound → ∀ error, error.Rejects .bound → P error))

/-- A tree fails only as its variables and operations do. -/
theorem interpret_failsOnly_of_nodes {e : Expr}
    (hvar : ∀ name, (Expr.var name).Occurs e → row.get? name = none → P (.unboundVariable name))
    (hcall : ∀ name args, (Expr.call name args).Occurs e →
      r.CallFailsOnly σ P name args.length) (s : σ) :
    FailsOnly P (interpret r row e s).1 := by
  induction e generalizing s with
  | const t => exact .ok t
  | var name =>
    rw [interpret]
    cases hget : row.get? name with
    | some t => exact .ok t
    | none => exact .error (hvar name .here hget)
  | call name args ih =>
    have hargs (e : Expr) (he : e ∈ args) (s : σ) : FailsOnly P (interpret r row e s).1 :=
      ih e he (fun name ho => hvar name (.inside he ho))
        (fun name args ho => hcall name args (.inside he ho)) s
    obtain ⟨op, d, hres, ⟨hraw, happly⟩ | ⟨hraw, form, hi, hl, hbound⟩⟩ := hcall name args .here
    · rw [interpret_value hres hraw]
      refine .andThen (interpretAll_failsOnly hargs s) fun terms s' hall => ?_
      exact happly terms s' (length_of_interpretAll hall)
    · rw [interpret_form hres hraw hi]
      exact interpretForm_failsOnly hl hbound hargs s

end Evaluation

end SparqlExpr
