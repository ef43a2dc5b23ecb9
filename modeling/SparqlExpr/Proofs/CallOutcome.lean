import SparqlExpr.Proofs.FixedResult

/-! Calls in a row where their arguments come to terms: such a call comes to what its operator makes
of these terms, and only the arguments draw. -/
namespace SparqlExpr

variable {σ : Type} [RandomSource σ]

/-- With every bound that the depth of a tree does not exceed, compiling and evaluating comes to the
outcome, in this row and from this state of the random source. -/
def Expr.ComesTo (e : Expr) (row : Row) (s : σ) (o : Outcome σ Term) : Prop :=
  ∀ config : Config, e.depth ≤ config.maxDepth →
    (Evaluator.evalOnce ⟨config, .standard⟩ e row).runFrom s = o

/-- Trees that come to the terms `ts` one after the other, each from the state that the one before
has left. -/
inductive Expr.AllComeTo (row : Row) : List Expr → σ → List Term → σ → Prop where
  | nil (s : σ) : AllComeTo row [] s [] s
  | cons {e : Expr} {es : List Expr} {t : Term} {ts : List Term} {a b c : σ}
      (first : e.ComesTo row a (.ok t, b)) (rest : AllComeTo row es b ts c) :
    AllComeTo row (e :: es) a (t :: ts) c

/-- An operator on values that can be called with so many arguments. -/
structure Operator.OnValues (op : Operator) (arity : Nat) : Prop where
  raw : (Descriptor.standard op).raw = false
  implemented : (Descriptor.standard op).implementation.isUnsupported = false
  arity : (Descriptor.standard op).arity = arity

theorem Operator.OnValues.callable {op : Operator} {arity : Nat} (h : op.OnValues arity)
    {name : String} (hname : Operator.ofName? name = some op) :
    Registry.standard.Callable name arity :=
  ⟨Descriptor.standard op, by rw [Registry.find?, hname]; rfl, h.implemented, h.arity⟩

namespace Expr
variable {row : Row} {a b c : σ} {o o' : Outcome σ Term} {d e : Expr} {es : List Expr} {s t : Term}
  {ts : List Term} {result : Except FilterError Term}

theorem comesTo_of_interpret (hcall : ∀ name args, (call name args).Occurs e →
    Registry.standard.Callable name args.length) (h : interpret .standard row e a = o) :
    e.ComesTo row a o := by
  intro config hdepth
  have hwf : (Evaluator.compiler ⟨config, .standard⟩).WellFormed 1 e :=
    Compiler.wellFormed_one.mpr ⟨hdepth, hcall⟩
  rw [Evaluator.runFrom_evalOnce, Compiler.validate_eq_ok_iff.mpr hwf]
  exact h

/-- A run that comes to a term has compiled the tree, so every operation in it can be called. -/
theorem callable_of_run (config : Config)
    (h : (Evaluator.evalOnce ⟨config, .standard⟩ e row).runFrom a = (.ok t, b)) :
    (∀ name args, (call name args).Occurs e → Registry.standard.Callable name args.length) ∧
      interpret .standard row e a = (.ok t, b) := by
  rw [Evaluator.runFrom_evalOnce] at h
  cases hvalid : (Evaluator.compiler ⟨config, .standard⟩).validate 1 e with
  | error error =>
    rw [hvalid] at h
    cases h
  | ok =>
    rw [hvalid] at h
    exact ⟨(Compiler.wellFormed_one.mp (Compiler.validate_eq_ok_iff.mp hvalid)).2, h⟩

theorem comesTo_ok_iff : e.ComesTo row a (.ok t, b) ↔
    (∀ name args, (call name args).Occurs e → Registry.standard.Callable name args.length) ∧
      interpret .standard row e a = (.ok t, b) :=
  ⟨fun h => callable_of_run ⟨e.depth, none⟩ (h ⟨e.depth, none⟩ (Nat.le_refl _)),
    fun h => comesTo_of_interpret h.1 h.2⟩

/-- One run that comes to a term tells what every other comes to. -/
theorem comesTo_of_run (config : Config)
    (h : (Evaluator.evalOnce ⟨config, .standard⟩ e row).runFrom a = (.ok t, b)) :
    e.ComesTo row a (.ok t, b) :=
  comesTo_ok_iff.mpr (callable_of_run config h)

theorem comesTo_const (t : Term) (row : Row) (a : σ) : (const t).ComesTo row a (.ok t, a) :=
  comesTo_of_interpret (fun _ _ ho => nomatch ho) rfl

theorem comesTo_var {name : String} (h : row.get? name = some t) (a : σ) :
    (var name).ComesTo row a (.ok t, a) := by
  refine comesTo_of_interpret (fun _ _ ho => nomatch ho) ?_
  rw [interpret, h]

namespace AllComeTo

theorem length_eq (h : AllComeTo row es a ts b) : ts.length = es.length := by
  induction h with
  | nil => rfl
  | cons _ _ ih => exact congrArg (· + 1) ih

theorem callable (h : AllComeTo row es a ts b) : ∀ e ∈ es, ∀ name args,
    (call name args).Occurs e → Registry.standard.Callable name args.length := by
  induction h with
  | nil => exact fun e he => nomatch he
  | cons first _ ih => exact List.forall_mem_cons.mpr ⟨(comesTo_ok_iff.mp first).1, ih⟩

theorem interpretAll (h : AllComeTo row es a ts b) :
    interpretAll .standard row es a = (.ok ts, b) := by
  induction h with
  | nil => rfl
  | cons first _ ih =>
    rw [SparqlExpr.interpretAll, (comesTo_ok_iff.mp first).2, Outcome.andThen_ok, ih,
      Outcome.andThen_ok]

end AllComeTo

/-- The arguments are evaluated from left to right, and the operator itself draws nothing. -/
theorem AllComeTo.call_of_apply (hes : AllComeTo row es a ts b) {op : Operator} {name : String}
    (hname : Operator.ofName? name = some op) (hop : op.OnValues ts.length)
    (h : ∀ s : σ, (Descriptor.standard op).apply op ts s = (result, s)) :
    (call name es).ComesTo row a (result, b) := by
  apply comesTo_of_interpret
  · intro other args ho
    rcases occurs_call.mp ho with heq | ⟨e, he, ho⟩
    · cases heq
      rw [← hes.length_eq]
      exact hop.callable hname
    · exact hes.callable e he other args ho
  · rw [interpret_value (Registry.resolve_of_ofName? hname) hop.raw, hes.interpretAll,
      Outcome.andThen_ok, h b]

theorem AllComeTo.call (hes : AllComeTo row es a ts b) (op : Operator)
    (hop : op.OnValues ts.length) (h : op.Makes ts result) :
    (call op.name es).ComesTo row a (result, b) :=
  hes.call_of_apply op.ofName?_name hop (h σ)

theorem ComesTo.call₁ (hd : d.ComesTo row a (.ok s, b)) (op : Operator) (hop : op.OnValues 1)
    (h : op.Makes [s] result) : (call op.name [d]).ComesTo row a (result, b) :=
  (AllComeTo.cons hd (.nil b)).call op hop h

theorem ComesTo.call₂ (hd : d.ComesTo row a (.ok s, b)) (he : e.ComesTo row b (.ok t, c))
    (op : Operator) (hop : op.OnValues 2) (h : op.Makes [s, t] result) :
    (call op.name [d, e]).ComesTo row a (result, c) :=
  (AllComeTo.cons hd (.cons he (.nil c))).call op hop h

theorem ComesTo.unique (h : e.ComesTo row a o) (h' : e.ComesTo row a o') : o = o' :=
  (h ⟨e.depth, none⟩ (Nat.le_refl _)).symm.trans (h' ⟨e.depth, none⟩ (Nat.le_refl _))

end Expr

end SparqlExpr
