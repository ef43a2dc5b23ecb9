import SparqlExpr.Operator.Registry
import SparqlExpr.Proofs.Outcome

/-! The meaning of a tree without compiling: a recursive interpreter that passes the state of the
random source from left to right. It checks no depth. -/
namespace SparqlExpr

variable {σ : Type} [RandomSource σ]

/-- A value operation on its evaluated arguments. All are converted from left to right before the
call, and the result is tagged by the first as it was before its own conversion. -/
def Descriptor.apply (d : Descriptor) (op : Operator) (terms : List Term) (s : σ) :
    Outcome σ Term :=
  match terms.mapM (d.argument.argument op.name) with
  | .error error => (.error error, s)
  | .ok values => Outcome.andThen ((d.implementation.invoke op values).runFrom s) fun value s =>
    (.ok (d.result.result terms.head? value), s)

/-- Whether a variable has a term in a row; no other argument is accepted. -/
def testBound (row : Row) : Expr → Except FilterError Term
  | .var name => .ok (.ofBool (row.contains name))
  | e => .error (.invalidArgument Operator.bound.name (.notVariable e.toText))

mutual

/-- What a tree comes to in a row. -/
def interpret (r : Registry) (row : Row) : Expr → σ → Outcome σ Term
  | .const t, s => (.ok t, s)
  | .var name, s =>
    match row.get? name with
    | some t => (.ok t, s)
    | none => (.error (.unboundVariable name), s)
  | .call name args, s =>
    match r.resolve name with
    | .error error => (.error error, s)
    | .ok (op, d) =>
      match d.raw, d.implementation with
      | false, _ => (interpretAll r row args s).andThen (d.apply op)
      | true, .raw _ form => interpretForm r row op form args s
      | true, _ => (.error (.unsupportedOperator op.name), s)

/-- The terms of all trees from left to right, up to the first error. -/
def interpretAll (r : Registry) (row : Row) : List Expr → σ → Outcome σ (List Term)
  | [], s => (.ok [], s)
  | e :: es, s =>
    (interpret r row e s).andThen fun t s =>
      (interpretAll r row es s).andThen fun ts s => (.ok (t :: ts), s)

/-- The first success from left to right, else the last error. -/
def interpretFirst (r : Registry) (row : Row) (error : FilterError) :
    List Expr → σ → Outcome σ Term
  | [], s => (.error error, s)
  | e :: es, s =>
    (interpret r row e s).recover fun error s => interpretFirst r row error es s

/-- A form: whether a variable is bound, one of two branches by the truth of a condition, or the
first success. -/
def interpretForm (r : Registry) (row : Row) (op : Operator) :
    Form → List Expr → σ → Outcome σ Term
  | .bound, [e], s => (testBound row e, s)
  | .bound, args, s => (.error (.arityMismatch op.name 1 args.length), s)
  | .cond, [condition, yes, no], s =>
    (interpret r row condition s).andThen fun t s =>
      if t.truth then interpret r row yes s else interpret r row no s
  | .cond, args, s => (.error (.arityMismatch op.name 3 args.length), s)
  | .coalesce, [], s => (.error (.arityMismatch op.name 2 0), s)
  | .coalesce, e :: es, s =>
    (interpret r row e s).recover fun error s => interpretFirst r row error es s

end

section Call
variable {r : Registry} {row : Row} {name : String} {args : List Expr} {op : Operator}
  {d : Descriptor}

theorem interpret_value (hres : r.resolve name = .ok (op, d)) (hraw : d.raw = false) (s : σ) :
    interpret r row (.call name args) s = (interpretAll r row args s).andThen (d.apply op) := by
  rw [interpret, hres]
  simp only [hraw]

theorem interpret_form {arity : Nat} {form : Form} (hres : r.resolve name = .ok (op, d))
    (hraw : d.raw = true) (hi : d.implementation = .raw arity form) (s : σ) :
    interpret r row (.call name args) s = interpretForm r row op form args s := by
  rw [interpret, hres]
  simp only [hraw, hi]

end Call

theorem interpretAll_cons_eq_ok {r : Registry} {row : Row} {e : Expr} {es : List Expr}
    {ts : List Term} {s s' : σ} (h : interpretAll r row (e :: es) s = (.ok ts, s')) :
    ∃ t s₁ ts', interpret r row e s = (.ok t, s₁) ∧ interpretAll r row es s₁ = (.ok ts', s') ∧
      ts = t :: ts' := by
  rw [interpretAll] at h
  obtain ⟨t, s₁, he, hrest⟩ := Outcome.andThen_eq_ok h
  obtain ⟨ts', s₂, hes, hcons⟩ := Outcome.andThen_eq_ok hrest
  cases hcons
  exact ⟨t, s₁, ts', he, hes, rfl⟩

end SparqlExpr
