import SparqlExpr.Proofs.Congruence
import SparqlExpr.Proofs.Respect

/-! The spelling of datatypes is immaterial: without `sameterm`, a tree comes to alike terms or
alike errors on alike rows, after the same draws, whichever spellings its constants have. -/
namespace SparqlExpr

/-- Two rows bind the same variables, to alike terms. -/
def Row.Alike (row row' : Row) : Prop :=
  ∀ name, Option.Rel Term.Alike (row.get? name) (row'.get? name)

theorem Row.Alike.contains_eq {row row' : Row} (h : row.Alike row') (name : String) :
    row.contains name = row'.contains name := by
  have hname := h name
  unfold contains
  generalize row.get? name = t at hname ⊢
  generalize row'.get? name = t' at hname ⊢
  cases hname with
  | none => rfl
  | some h => rfl

theorem Row.Alike.refl (row : Row) : row.Alike row := by
  intro name
  cases row.get? name with
  | none => exact .none
  | some t => exact .some (.refl t)

theorem Row.Alike.set {row row' : Row} (h : row.Alike row') (name : String) {s t : Term}
    (hst : s.Alike t) : (row.set name s).Alike (row'.set name t) := by
  intro other
  rw [Row.get?_set, Row.get?_set]
  split
  · exact .some hst
  · exact h other

/-- The same tree, up to constants that are alike. -/
inductive Expr.Respelled : Expr → Expr → Prop where
  | const {s t : Term} (h : s.Alike t) : Respelled (const s) (const t)
  | var (name : String) : Respelled (var name) (var name)
  | call (name : String) {args args' : List Expr} (h : List.Forall₂ Respelled args args') :
    Respelled (call name args) (call name args')

namespace Expr.Respelled

theorem refl (e : Expr) : e.Respelled e := by
  induction e with
  | const t => exact .const (.refl t)
  | var name => exact .var name
  | call name args ih => exact .call name (List.forall₂_same.mpr ih)

/-- What follows for each argument from its own respelling follows for the arguments in pairs. -/
theorem pairs {Q : Expr → Expr → Prop} {args args' : List Expr}
    (h : List.Forall₂ Respelled args args')
    (hQ : ∀ e ∈ args, ∀ e', e.Respelled e' → Q e e') : List.Forall₂ Q args args' :=
  ((List.forall₂_and_left args args').mpr ⟨hQ, h⟩).imp fun _ _ he => he.1 _ he.2

end Expr.Respelled

namespace Compiler

/-- Checking looks at no constant. -/
theorem validate_eq_of_respelled (c : Compiler) (level : Nat) {e e' : Expr} (h : e.Respelled e') :
    c.validate level e = c.validate level e' := by
  induction e generalizing level e' with
  | const s => cases h; rfl
  | var name => cases h; rfl
  | call name args ih =>
    cases h with
    | call _ hargs =>
      have hlist := validateList_eq_of_forall₂ (c := c)
        (Expr.Respelled.pairs hargs fun e he e' h level => ih e he level h) (level + 1)
      rw [validate, validate, hargs.length_eq]
      simp only [hlist]

end Compiler

section Evaluation
variable {σ : Type} [RandomSource σ] {row row' : Row}

/-- What the standard registry makes of two trees, each in a row of its own, agrees. -/
def Expr.AgreeIn (σ : Type) [RandomSource σ] (row row' : Row) (e e' : Expr) : Prop :=
  ∀ s : σ, Outcome.Agree Term.Alike (interpret .standard row e s) (interpret .standard row' e' s)

theorem apply_agree {source : Operator} {d : Descriptor}
    (hd : d.implementation.Respects source) (op : Operator)
    {terms terms' : List Term} (h : List.Forall₂ Term.Alike terms terms') (s : σ) :
    Outcome.Agree Term.Alike (d.apply op terms s) (d.apply op terms' s) := by
  have hhead : Option.Rel Term.Alike terms.head? terms'.head? := by
    cases h with
    | nil => exact .none
    | cons h _ => exact .some h
  have hargs : Agree (FilterError.RejectAlike op) (List.Forall₂ Value.Alike)
      (terms.mapM (d.argument.argument op.name))
      (terms'.mapM (d.argument.argument op.name)) :=
    .mapM h fun _ _ hst => argument_agree d.argument op hst
  unfold Descriptor.apply
  generalize terms.mapM (d.argument.argument op.name) = x at hargs ⊢
  generalize terms'.mapM (d.argument.argument op.name) = y at hargs ⊢
  cases hargs with
  | error h => exact .error h.alike s
  | ok h =>
    exact (invoke_agree hd op h s).andThen fun v v' s hv => .ok (result_alike d.result hhead hv) s

theorem testBound_agree (hrow : row.Alike row') {e e' : Expr} (h : e.Respelled e') :
    Agree (FilterError.RejectAlike .bound) Term.Alike (testBound row e) (testBound row' e') := by
  cases h with
  | const h => exact .error (.invalid _ _)
  | var name =>
    rw [testBound, testBound, hrow.contains_eq name]
    exact .ok (.refl _)
  | call name h => exact .error (.invalid _ _)

/-- Alike results and errors, after the same draws. -/
def Comparison.alike (σ : Type) : Comparison σ σ where
  term := Term.Alike
  error := FilterError.Alike
  state := Eq
  excused _ := False
  term_refl := .refl
  error_refl := .refl
  truth_eq _ _ h := h.truth_eq

theorem Expr.AgreeIn.relatedIn {e e' : Expr} (h : Expr.AgreeIn σ row row' e e') :
    Expr.RelatedIn (.alike σ) .standard row row' e e' := by
  rintro s _ rfl
  exact fun _ => h s

theorem Expr.AgreeIn.of_relatedIn {e e' : Expr}
    (h : Expr.RelatedIn (.alike σ) .standard row row' e e') : Expr.AgreeIn σ row row' e e' :=
  fun s => h s s rfl fun _ _ => not_false

theorem Descriptor.relatedBy_alike {source : Operator} {d : Descriptor}
    (hd : d.implementation.Respects source) (op : Operator) : d.RelatedBy (.alike σ) op := by
  rintro ts ts' s _ hts rfl
  exact fun _ => apply_agree hd op hts s

/-- Respelled trees agree in alike rows. -/
theorem interpret_agree (hrow : row.Alike row') {e e' : Expr} (h : e.Respelled e')
    (hno : ¬e.Calls .sameTerm) : Expr.AgreeIn σ row row' e e' := by
  induction e generalizing e' with
  | const s => cases h with | const h => exact fun s => .ok h s
  | var name =>
    cases h
    intro s
    have hname := hrow name
    rw [interpret, interpret]
    generalize row.get? name = t at hname ⊢
    generalize row'.get? name = t' at hname ⊢
    cases hname with
    | none => exact .error (.refl _) s
    | some h => exact .ok h s
  | call name args ih =>
    cases h with
    | call _ hargs =>
      have hpairs : List.Forall₂ (Expr.RelatedIn (.alike σ) .standard row row') args _ :=
        Expr.Respelled.pairs hargs fun e he e' h =>
          (ih e he h fun hcalls => hno (hcalls.inside he)).relatedIn
      refine .of_relatedIn (interpret_call_related hpairs (fun op d hres => ?_) (fun _ => ?_)
        fun _ _ => not_false)
      · obtain ⟨hop, rfl⟩ := Registry.resolve_standard hres
        exact Descriptor.relatedBy_alike
          (standard_respects fun h => hno ⟨name, args, .here, h ▸ hop⟩) op
      · exact hargs.imp fun e e' he => (testBound_agree hrow he).mono fun _ _ h => h.alike

/-- Without `sameterm`, a tree and any respelling of it compile alike, and in alike rows, from the
same state of any source, they come to alike terms or to alike errors and leave the source in the
same state. -/
theorem respelled_eval_agree (config : Config) {e e' : Expr} (h : e.Respelled e')
    (hno : ¬e.Calls .sameTerm) {p : Compiled σ}
    (hp : (Evaluator.compiler ⟨config, .standard⟩).compile? (some e) = .ok p) :
    ∃ p' : Compiled σ, (Evaluator.compiler ⟨config, .standard⟩).compile? (some e') = .ok p' ∧
      ∀ row row' : Row, row.Alike row' → ∀ s : σ,
        Outcome.Agree (Option.Rel Term.Alike) ((p.eval row).runFrom s)
          ((p'.eval row').runFrom s) := by
  obtain ⟨run, hc, rfl⟩ := Compiler.compile?_some_eq_ok hp
  have hv := Compiler.validate_eq_of_respelled (Evaluator.compiler ⟨config, .standard⟩) 1 h
  have hwf : (Evaluator.compiler ⟨config, .standard⟩).WellFormed 1 e' := by
    rw [← Compiler.validate_eq_ok_iff, ← hv, Compiler.validate_eq_ok_iff]
    exact Compiler.exists_build_iff.mp ⟨run, hc⟩
  obtain ⟨run', hc'⟩ := (Compiler.exists_build_iff (σ := σ)).mpr hwf
  refine ⟨⟨some (e', run')⟩, ?_, fun row row' hrow s => ?_⟩
  · rw [Compiler.compile?, Compiler.compile, hc']
    rfl
  · have hrun : (run row).runFrom s = interpret .standard row e s :=
      Compiler.build_means hc row s
    have hrun' : (run' row').runFrom s = interpret .standard row' e' s :=
      Compiler.build_means hc' row' s
    rw [Compiled.runFrom_eval, Compiled.runFrom_eval, hrun, hrun']
    exact (interpret_agree hrow h hno s).andThen fun t t' s ht => .ok (.some ht) s

end Evaluation

/-- A condition that is false in either spelling keeps both runs from the draw. -/
theorem bare_datatypes_eval_agree :
    let s : Term := ⟨"\"false\"^^<http://www.w3.org/2001/XMLSchema#boolean>"⟩
    let s' : Term := ⟨"\"false\"^^http://www.w3.org/2001/XMLSchema#boolean"⟩
    let t : Term := ⟨"\"1\"^^<http://www.w3.org/2001/XMLSchema#integer>"⟩
    let t' : Term := ⟨"\"1\"^^http://www.w3.org/2001/XMLSchema#integer"⟩
    let tree (t : Term) : Expr := .call "if" [.var "?x", .call "rand" [], .call "str" [.const t]]
    let source : Script := { doubles := [], uuids := [] }
    (Row.empty.set "?x" s).Alike (Row.empty.set "?x" s') ∧ (tree t).Respelled (tree t') ∧
      ∃ p p' : Compiled Script,
        Evaluator.standard.compiler.compile? (some (tree t)) = .ok p ∧
        Evaluator.standard.compiler.compile? (some (tree t')) = .ok p' ∧
        Outcome.Agree (Option.Rel Term.Alike)
          ((p.eval (Row.empty.set "?x" s)).runFrom source)
          ((p'.eval (Row.empty.set "?x" s')).runFrom source) := by
  intro s s' t t' tree source
  have hs : s.Alike s' := Or.inr ⟨⟨"false", .typed Vocabulary.xsdBoolean⟩, by decide, by decide⟩
  have ht : t.Alike t' := Or.inr ⟨⟨"1", .typed Vocabulary.xsdInteger⟩, by decide, by decide⟩
  have hrow := (Row.Alike.refl .empty).set "?x" hs
  have htree : (tree t).Respelled (tree t') :=
    .call "if" (.cons (.refl _) (.cons (.refl _)
      (.cons (.call "str" (.cons (.const ht) .nil)) .nil)))
  have hno : ¬(tree t).Calls .sameTerm := by
    simp only [tree, Expr.calls_call, List.mem_cons, List.not_mem_nil, or_false,
      exists_eq_or_imp, exists_eq_left, Expr.not_calls_const, Expr.not_calls_var, false_and,
      exists_false, not_or]
    decide
  obtain ⟨p', hp', heval⟩ := respelled_eval_agree {} htree hno (σ := Script) rfl
  exact ⟨hrow, htree, _, p', rfl, hp', heval _ _ hrow source⟩

end SparqlExpr
