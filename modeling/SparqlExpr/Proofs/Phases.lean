import SparqlExpr.Proofs.Failures
import SparqlExpr.Proofs.Refinement

/-! Two phases: in a registry that is put together from the implementations of the catalogue, no
compiled tree fails with an error that belongs to compiling. -/
namespace SparqlExpr

/-- A registry made by steps, each of which puts an implementation of the catalogue where it can be
called: on values, as a form with its own number of arguments, or as a stub. -/
inductive Registry.Composed : Registry → Prop where
  | empty : Composed .empty
  | value {r : Registry} (h : Composed r) (op : Operator) (argument result : Coercion)
    (source : Operator) (takes : (Descriptor.standard source).implementation.TakesValues) :
    Composed (r.register op argument result (Descriptor.standard source).implementation)
  | form {r : Registry} (h : Composed r) (op : Operator) (form : Form) :
    Composed (r.registerRaw op (.raw form.arity form))
  | stub {r : Registry} (h : Composed r) (op : Operator) (arity : Nat) :
    Composed (r.unsupported op arity)
  | rawStub {r : Registry} (h : Composed r) (op : Operator) (arity : Nat) :
    Composed (r.registerRaw op (.unsupported arity))

/-- A descriptor that, once its arity is checked, leaves nothing to refuse at run time. -/
def Descriptor.Phased (d : Descriptor) : Prop :=
  d.implementation.isUnsupported = true ∨
    (d.raw = false ∧ ∃ source, d.implementation.RejectsAs source) ∨
    (d.raw = true ∧ ∃ form : Form, d.implementation = .raw form.arity form)

/-- A registry of such descriptors. -/
def Registry.Phased (r : Registry) : Prop :=
  ∀ op d, r.get? op = some d → d.Phased

namespace Registry

theorem get?_insert (r : Registry) (op other : Operator) (d : Descriptor) :
    (r.insert op d).get? other = if other = op then some d else r.get? other := rfl

theorem Phased.insert {r : Registry} (h : r.Phased) (op : Operator) {d : Descriptor}
    (hd : d.Phased) : (r.insert op d).Phased := by
  intro other d' h'
  rw [get?_insert] at h'
  split at h'
  · cases h'; exact hd
  · exact h other d' h'

/-- Every step of a composition keeps the phases apart. -/
theorem Composed.phased {r : Registry} (h : r.Composed) : r.Phased := by
  induction h with
  | empty => exact fun op d h => nomatch h
  | value h op argument result source takes ih =>
    exact ih.insert op (Or.inr (Or.inl ⟨rfl, source.reporting, standard_rejects source takes⟩))
  | form h op form ih => exact ih.insert op (Or.inr (Or.inr ⟨rfl, form, rfl⟩))
  | stub h op arity ih => exact ih.insert op (Or.inl rfl)
  | rawStub h op arity ih => exact ih.insert op (Or.inl rfl)

/-- What the standard registry holds under an operator is put there by one step. -/
theorem Composed.insert_standard {r : Registry} (h : r.Composed) (op : Operator) :
    (r.insert op (.standard op)).Composed := by
  have hvalue (hraw : (Descriptor.standard op).raw = false)
      (takes : (Descriptor.standard op).implementation.TakesValues) :
      (r.insert op (.standard op)).Composed := by
    have hstep :=
      h.value op (Descriptor.standard op).argument (Descriptor.standard op).result op takes
    rwa [Registry.register, ← hraw] at hstep
  cases op with
  | bound => exact h.form .bound .bound
  | cond => exact h.form .cond .cond
  | coalesce => exact h.form .coalesce .coalesce
  | existsPattern => exact h.rawStub .existsPattern 1
  | notExistsPattern => exact h.rawStub .notExistsPattern 1
  | now => exact h.stub .now 0
  | inList => exact h.stub .inList 2
  | notInList => exact h.stub .notInList 2
  | replace => exact h.stub .replace 3
  | bnode | encodeForUri | year | month | day | hours | minutes | seconds | timezone | tz | md5
  | sha1 | sha256 | sha384 | sha512 | xsdBoolean | xsdInteger | xsdDecimal | xsdFloat | xsdString
  | xsdDateTime => exact h.stub _ 1
  | _ => exact hvalue rfl trivial

theorem get?_foldr_insert (f : Operator → Descriptor) (ops : List Operator) (op : Operator) :
    (ops.foldr (fun op r => r.insert op (f op)) empty).get? op =
      if op ∈ ops then some (f op) else none := by
  induction ops with
  | nil => rfl
  | cons head ops ih =>
    rw [List.foldr_cons, get?_insert, ih]
    by_cases h : op = head
    · rw [if_pos h, if_pos (List.mem_cons.mpr (Or.inl h)), h]
    · rw [if_neg h]
      simp only [List.mem_cons, h, false_or]

theorem standard_eq_foldr :
    standard = Operator.all.foldr (fun op r => r.insert op (.standard op)) empty := by
  have hget : standard.get? =
      (Operator.all.foldr (fun op r => r.insert op (.standard op)) empty).get? := by
    funext op
    rw [get?_foldr_insert, if_pos op.mem_all]
    rfl
  exact congrArg Registry.mk hget

theorem composed_standard : standard.Composed := by
  rw [standard_eq_foldr]
  induction Operator.all with
  | nil => exact .empty
  | cons op ops ih => exact ih.insert_standard op

end Registry

section Evaluation
variable {σ : Type} [RandomSource σ] {r : Registry} {P : FilterError → Prop}

/-- A tree whose operations can all be called fails only where a variable has no term or an operator
rejects its arguments. -/
theorem interpret_failsOnly (hr : r.Phased) (hvar : ∀ name, P (.unboundVariable name))
    (hop : ∀ op error, error.Rejects op → P error) {e : Expr}
    (h : ∀ name args, (Expr.call name args).Occurs e → r.Callable name args.length) (row : Row)
    (s : σ) : FailsOnly P (interpret r row e s).1 := by
  refine interpret_failsOnly_of_nodes (fun name _ _ => hvar name) (fun name args ho => ?_) s
  obtain ⟨d, hf, hs, ha⟩ := h name args ho
  obtain ⟨op, hres, hget⟩ := Registry.find?_eq_some hf
  refine ⟨op, d, hres, ?_⟩
  rcases hr op d hget with hstub | ⟨hraw, source, hi⟩ | ⟨hraw, form, hi⟩
  · rw [hs] at hstub; cases hstub
  · refine Or.inl ⟨hraw, fun terms s hl => ?_⟩
    exact apply_failsOnly hi (hl.trans ha.symm) (hop op) (hop source) s
  · refine Or.inr ⟨hraw, form, hi, ?_, fun _ => hop .bound⟩
    rw [← ha, Descriptor.arity, hi]
    rfl

end Evaluation

/-- The standard registry is put together from the catalogue, and in every registry that is, no
compiled tree fails with an error of compiling, in any row and from any state of the source. -/
theorem compiled_eval_error_not_static {σ : Type} [RandomSource σ] :
    Registry.standard.Composed ∧
    ∀ (r : Registry), r.Composed → ∀ (maxDepth : Nat) (e : Expr) (p : Compiled σ),
      (Compiler.mk r maxDepth).compile? (some e) = .ok p →
      ∀ (row : Row) (s : σ) (error : FilterError),
        ((p.eval row).runFrom s).1 = .error error → error.isStatic = false := by
  refine ⟨Registry.composed_standard, fun r hr maxDepth e p hp row s => ?_⟩
  obtain ⟨run, hc, rfl⟩ := Compiler.compile?_some_eq_ok hp
  have hcall := (Compiler.exists_build_iff.mp ⟨run, hc⟩).2
  have hrun : FailsOnly (fun error => error.isStatic = false) ((run row).runFrom s).1 := by
    rw [Compiler.build_means hc row s]
    exact interpret_failsOnly hr.phased (fun _ => rfl) (fun _ _ => FilterError.Rejects.not_static)
      hcall row s
  rw [Compiled.runFrom_eval]
  exact FailsOnly.andThen hrun fun t s _ => .ok _

/-- A sum registered without a conversion meets terms only when it is run, below a form. -/
theorem unconverted_sum_error_not_static :
    let r := (Registry.empty.registerRaw .coalesce (.raw 2 .coalesce)).register .add .asIs .numeric
      Arithmetic.add
    let e : Expr := .call "coalesce" [.var "?x", .call "+" [.const ⟨"\"1\""⟩, .var "?y"]]
    let row : Row := .ofList [("?y", ⟨"\"2\""⟩)]
    let s : Script := { doubles := [], uuids := [] }
    let error : FilterError :=
      .invalidArgument "+" (.wrongKind .number (.term ⟨"\"1\""⟩))
    r.Composed ∧ ∃ p : Compiled Script, (Compiler.mk r 3).compile? (some e) = .ok p ∧
      ((p.eval row).runFrom s).1 = .error error ∧ error.isStatic = false := by
  intro r e row s error
  have hr : r.Composed :=
    .value (.form .empty .coalesce .coalesce) .add .asIs .numeric .add trivial
  obtain ⟨p, hp, heval⟩ : ∃ p : Compiled Script, (Compiler.mk r 3).compile? (some e) = .ok p ∧
      ((p.eval row).runFrom s).1 = .error error := ⟨_, rfl, by rfl⟩
  exact ⟨hr, p, hp, heval, compiled_eval_error_not_static.2 r hr 3 e p hp row s error heval⟩

end SparqlExpr
