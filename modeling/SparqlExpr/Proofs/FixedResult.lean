import SparqlExpr.Proofs.Refinement
import SparqlExpr.Proofs.Standard

/-! Trees with a fixed result: operators on constants, and on other such trees, come to the same in
every row and from every state of the random source, which they leave as it is. -/
namespace SparqlExpr

/-- On these values an implementation comes to one result, without a draw. -/
def Implementation.Gives (i : Implementation) (args : List Value)
    (result : Except FilterError Value) : Prop :=
  ∀ (σ : Type) [RandomSource σ] (op : Operator) (s : σ),
    (i.invoke op args).runFrom s = (result, s)

/-- Of these terms an operator of the standard registry makes one result, without a draw. -/
def Operator.Makes (op : Operator) (ts : List Term) (result : Except FilterError Term) : Prop :=
  ∀ (σ : Type) [RandomSource σ] (s : σ), (Descriptor.standard op).apply op ts s = (result, s)

/-- A tree of operations that can be called, with the same result in every row and from every state
of the random source. -/
structure Expr.Reduces (e : Expr) (result : Except FilterError Term) : Prop where
  callable : ∀ name args, (Expr.call name args).Occurs e →
    Registry.standard.Callable name args.length
  interpret : ∀ (σ : Type) [RandomSource σ] (row : Row) (s : σ),
    interpret .standard row e s = (result, s)

/-- With every bound that the depth of a tree does not exceed, compiling and evaluating comes to the
result, in every row and from every state of the random source. -/
def Expr.Evaluates (e : Expr) (result : Except FilterError Term) : Prop :=
  ∀ (σ : Type) [RandomSource σ] (config : Config), e.depth ≤ config.maxDepth →
    ∀ (row : Row) (s : σ), (Evaluator.evalOnce ⟨config, .standard⟩ e row).runFrom s = (result, s)

namespace Expr
variable {e : Expr} {es : List Expr} {ts : List Term} {result : Except FilterError Term}

theorem reduces_const (t : Term) : (const t).Reduces (.ok t) where
  callable _ _ ho := nomatch ho
  interpret _ _ _ _ := rfl

theorem Reduces.evaluates (h : e.Reduces result) : e.Evaluates result := by
  intro σ _ config hdepth row s
  have hwf : (Evaluator.compiler ⟨config, .standard⟩).WellFormed 1 e :=
    Compiler.wellFormed_one.mpr ⟨hdepth, h.callable⟩
  rw [Evaluator.runFrom_evalOnce, Compiler.validate_eq_ok_iff.mpr hwf]
  exact h.interpret σ row s

end Expr

theorem Coercion.mapM_argument_asIs (operator : String) (ts : List Term) :
    ts.mapM (asIs.argument operator) = .ok (ts.map .term) := by
  induction ts with
  | nil => rfl
  | cons t ts ih =>
    rw [List.mapM_cons, ih]
    rfl

section Operation
variable {op : Operator} {es : List Expr} {ts : List Term}

/-- An operator that takes its arguments as they are makes what its implementation gives. -/
theorem Operator.makes_of_gives (op : Operator) (ts : List Term) {c : Coercion}
    {i : Implementation} {result : Except FilterError Value}
    (hop : Descriptor.standard op = ⟨.asIs, c, false, i⟩) (h : i.Gives (ts.map .term) result) :
    op.Makes ts (result.map (c.result ts.head?)) := by
  intro σ _ s
  unfold Descriptor.apply
  rw [hop, Coercion.mapM_argument_asIs]
  simp only [h σ op s]
  cases result <;> rfl

theorem Operator.makes_unary (op : Operator) {c : Coercion}
    {call : Value → Except FilterError Value}
    (hop : Descriptor.standard op = ⟨.asIs, c, false, .unary call⟩) {s : Term}
    {v : Except FilterError Value} (h : call (.term s) = v) :
    op.Makes [s] (v.map (c.result (some s))) := by
  subst h
  exact makes_of_gives op [s] hop fun _ _ _ _ => rfl

theorem Operator.makes_binary (op : Operator) {c : Coercion}
    {call : Value → Value → Except FilterError Value}
    (hop : Descriptor.standard op = ⟨.asIs, c, false, .binary call⟩) {s t : Term}
    {v : Except FilterError Value} (h : call (.term s) (.term t) = v) :
    op.Makes [s, t] (v.map (c.result (some s))) := by
  subst h
  exact makes_of_gives op [s, t] hop fun _ _ _ _ => rfl

theorem Operator.makes_ternary (op : Operator) {c : Coercion}
    {call : Value → Value → Value → Except FilterError Value}
    (hop : Descriptor.standard op = ⟨.asIs, c, false, .ternary call⟩) {s t u : Term}
    {v : Except FilterError Value} (h : call (.term s) (.term t) (.term u) = v) :
    op.Makes [s, t, u] (v.map (c.result (some s))) := by
  subst h
  exact makes_of_gives op [s, t, u] hop fun _ _ _ _ => rfl

/-- Trees with the fixed results `ts`, in order. -/
abbrev Expr.ReduceTo (es : List Expr) (ts : List Term) : Prop :=
  List.Forall₂ (fun e t => e.Reduces (.ok t)) es ts

theorem Expr.ReduceTo.callable (h : ReduceTo es ts) : ∀ e ∈ es, ∀ name args,
    (Expr.call name args).Occurs e → Registry.standard.Callable name args.length := by
  induction h with
  | nil => exact fun e he => nomatch he
  | cons he _ ih => exact List.forall_mem_cons.mpr ⟨he.callable, ih⟩

theorem Expr.ReduceTo.interpretAll {σ : Type} [RandomSource σ] (h : ReduceTo es ts) (row : Row)
    (s : σ) : interpretAll .standard row es s = (.ok ts, s) := by
  induction h with
  | nil => rfl
  | cons he _ ih =>
    rw [SparqlExpr.interpretAll, he.interpret, Outcome.andThen_ok, ih, Outcome.andThen_ok]

/-- On trees that come to terms, an operator makes what it makes of these terms. -/
theorem Expr.Reduces.call {name : String} {result : Except FilterError Term}
    (hname : Operator.ofName? name = some op)
    (hcall : Registry.standard.Callable name es.length)
    (hraw : (Descriptor.standard op).raw = false) (hes : ReduceTo es ts)
    (h : op.Makes ts result) : (Expr.call name es).Reduces result := by
  constructor
  · intro other args ho
    rcases Expr.occurs_call.mp ho with heq | ⟨e, he, ho⟩
    · cases heq
      exact hcall
    · exact hes.callable e he other args ho
  · intro σ _ row s
    rw [interpret_value (Registry.resolve_of_ofName? hname) hraw, hes.interpretAll,
      Outcome.andThen_ok, h σ s]

theorem Expr.Reduces.call₂ {name : String} {d e : Expr} {s t : Term}
    {result : Except FilterError Term} (hname : Operator.ofName? name = some op)
    (hcall : Registry.standard.Callable name 2) (hraw : (Descriptor.standard op).raw = false)
    (hd : d.Reduces (.ok s)) (he : e.Reduces (.ok t)) (h : op.Makes [s, t] result) :
    (Expr.call name [d, e]).Reduces result := by
  have hes : ReduceTo [d, e] [s, t] := .cons hd (.cons he .nil)
  exact call hname hcall hraw hes h

end Operation

end SparqlExpr
