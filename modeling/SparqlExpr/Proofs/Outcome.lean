import SparqlExpr.Eval.Monad

/-! What computations come to: sequencing of results, and running an evaluation from a state of the
random source. -/
namespace SparqlExpr

variable {ε σ α β : Type}

@[simp] theorem pure_eq_ok (a : α) : (pure a : Except ε α) = .ok a := rfl

@[simp] theorem throw_eq_error (error : ε) : (throw error : Except ε α) = .error error := rfl

@[simp] theorem ok_bind (a : α) (f : α → Except ε β) : (Except.ok a >>= f) = f a := rfl

@[simp] theorem error_bind (error : ε) (f : α → Except ε β) :
    (Except.error error >>= f) = .error error := rfl

/-- A sequence that succeeds has done so at every step. -/
theorem bind_eq_ok {x : Except ε α} {f : α → Except ε β} {b : β} (h : (x >>= f) = .ok b) :
    ∃ a, x = .ok a ∧ f a = .ok b := by
  cases x with
  | error error => cases h
  | ok a => exact ⟨a, rfl, h⟩

theorem length_of_mapM {f : α → Except ε β} {as : List α} {bs : List β}
    (h : as.mapM f = .ok bs) : bs.length = as.length := by
  induction as generalizing bs with
  | nil => cases h; rfl
  | cons a as ih =>
    rw [List.mapM_cons] at h
    obtain ⟨b, -, hrest⟩ := bind_eq_ok h
    obtain ⟨bs', has, hcons⟩ := bind_eq_ok hrest
    cases hcons
    exact congrArg (· + 1) (ih has)

theorem forall_of_mapM {f : α → Except ε β} {Q : β → Prop} (hf : ∀ a b, f a = .ok b → Q b)
    {as : List α} {bs : List β} (h : as.mapM f = .ok bs) : ∀ b ∈ bs, Q b := by
  induction as generalizing bs with
  | nil =>
    cases h
    exact fun b hb => nomatch hb
  | cons a as ih =>
    rw [List.mapM_cons] at h
    obtain ⟨b, hb, hrest⟩ := bind_eq_ok h
    obtain ⟨bs', has, hcons⟩ := bind_eq_ok hrest
    cases hcons
    exact List.forall_mem_cons.mpr ⟨hf a b hb, ih has⟩

theorem exists_mapM_eq_ok {f : α → Except ε β} {as : List α} (h : ∀ a ∈ as, ∃ b, f a = .ok b) :
    ∃ bs, as.mapM f = .ok bs := by
  induction as with
  | nil => exact ⟨[], rfl⟩
  | cons a as ih =>
    rw [List.forall_mem_cons] at h
    obtain ⟨⟨b, hb⟩, has⟩ := h
    obtain ⟨bs, hbs⟩ := ih has
    exact ⟨b :: bs, by rw [List.mapM_cons, hb, ok_bind, hbs, ok_bind, pure_eq_ok]⟩

/-- The first element without a result tells the error. -/
theorem mapM_append_cons_eq_error {f : α → Except ε β} {before : List α} {a : α} {error : ε}
    (h : ∀ a ∈ before, ∃ b, f a = .ok b) (ha : f a = .error error) (after : List α) :
    (before ++ a :: after).mapM f = .error error := by
  obtain ⟨bs, hbs⟩ := exists_mapM_eq_ok h
  rw [List.mapM_append, hbs, ok_bind, List.mapM_cons, ha, error_bind, error_bind]

/-- A result or an error, and in both cases the state that the draws have reached. -/
abbrev Outcome (σ α : Type) := Except FilterError α × σ

/-- Goes on after a result; an error stands. -/
def Outcome.andThen (o : Outcome σ α) (f : α → σ → Outcome σ β) : Outcome σ β :=
  match o with
  | (.ok a, s) => f a s
  | (.error error, s) => (.error error, s)

@[simp] theorem Outcome.andThen_ok (a : α) (s : σ) (f : α → σ → Outcome σ β) :
    andThen (.ok a, s) f = f a s := rfl

@[simp] theorem Outcome.andThen_error (error : FilterError) (s : σ) (f : α → σ → Outcome σ β) :
    andThen (.error error, s) f = (.error error, s) := rfl

theorem Outcome.andThen_eq_ok {o : Outcome σ α} {f : α → σ → Outcome σ β} {b : β} {s' : σ}
    (h : o.andThen f = (.ok b, s')) : ∃ a s, o = (.ok a, s) ∧ f a s = (.ok b, s') := by
  obtain ⟨error | a, s⟩ := o
  · cases h
  · exact ⟨a, s, rfl, h⟩

/-- Goes on after an error; a result stands. -/
def Outcome.recover (o : Outcome σ α) (f : FilterError → σ → Outcome σ α) : Outcome σ α :=
  match o with
  | (.ok a, s) => (.ok a, s)
  | (.error error, s) => f error s

@[simp] theorem Outcome.recover_ok (a : α) (s : σ) (f : FilterError → σ → Outcome σ α) :
    recover (.ok a, s) f = (.ok a, s) := rfl

@[simp] theorem Outcome.recover_error (error : FilterError) (s : σ)
    (f : FilterError → σ → Outcome σ α) : recover (.error error, s) f = f error s := rfl

theorem Outcome.andThen_assoc {γ : Type} (o : Outcome σ α) (f : α → σ → Outcome σ β)
    (g : β → σ → Outcome σ γ) :
    (o.andThen f).andThen g = o.andThen fun a s => (f a s).andThen g := by
  obtain ⟨error | a, s⟩ := o <;> rfl

theorem Outcome.recover_assoc (o : Outcome σ α) (f g : FilterError → σ → Outcome σ α) :
    (o.recover f).recover g = o.recover fun error s => (f error s).recover g := by
  obtain ⟨error | a, s⟩ := o <;> rfl

/-- An error that stands needs no way to go on. -/
theorem Outcome.recover_error_self (o : Outcome σ α) :
    (o.recover fun error s => (.error error, s)) = o := by
  obtain ⟨error | a, s⟩ := o <;> rfl

namespace EvalM

/-- The computation that runs as a function says. -/
def ofRun (f : σ → Outcome σ α) : EvalM σ α := f

@[simp] theorem runFrom_ofRun (f : σ → Outcome σ α) (s : σ) : (ofRun f).runFrom s = f s := rfl

theorem eq_of_runFrom {x y : EvalM σ α} (h : ∀ s, x.runFrom s = y.runFrom s) : x = y :=
  funext h

@[simp] theorem runFrom_pure (a : α) (s : σ) : runFrom (pure a) s = (.ok a, s) := rfl

@[simp] theorem runFrom_throw (error : FilterError) (s : σ) :
    runFrom (throw error : EvalM σ α) s = (.error error, s) := rfl

@[simp] theorem runFrom_lift (x : Except FilterError α) (s : σ) :
    runFrom (liftM x : EvalM σ α) s = (x, s) := rfl

@[simp] theorem runFrom_modifyGet (f : σ → α × σ) (s : σ) :
    runFrom (modifyGet f : EvalM σ α) s = (.ok (f s).1, (f s).2) := rfl

@[simp] theorem runFrom_bind (x : EvalM σ α) (f : α → EvalM σ β) (s : σ) :
    (x >>= f).runFrom s = Outcome.andThen (x.runFrom s) fun a s => (f a).runFrom s := by
  change ExceptT.bindCont f (x.runFrom s).1 (x.runFrom s).2 = _
  generalize x.runFrom s = o
  obtain ⟨_ | a, s⟩ := o <;> rfl

@[simp] theorem runFrom_tryCatch (x : EvalM σ α) (f : FilterError → EvalM σ α) (s : σ) :
    (tryCatch x f).runFrom s =
      Outcome.recover (x.runFrom s) fun error s => (f error).runFrom s := by
  change ExceptT.tryCatch x f s = _
  cases h : x.runFrom s with
  | mk result s' =>
    have hx : x s = (result, s') := h
    cases result <;> simp [ExceptT.tryCatch, ExceptT.mk, bind, StateT.bind, hx] <;> rfl

end EvalM

end SparqlExpr
