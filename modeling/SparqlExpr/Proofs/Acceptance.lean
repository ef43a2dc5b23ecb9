import Mathlib.Data.List.Forall2
import SparqlExpr.Eval.Compile
import SparqlExpr.Proofs.Outcome
import SparqlExpr.Proofs.Tree

/-! What is accepted: a tree within the depth whose operations all name implemented operators of
their arity. Any other tree is refused for its first offending node in preorder, by the checker and
by the builder alike. -/
namespace SparqlExpr

namespace Registry

/-- The descriptor that a name stands for. -/
def find? (r : Registry) (name : String) : Option Descriptor :=
  (Operator.ofName? name).bind r.get?

theorem find?_eq_some {r : Registry} {name : String} {d : Descriptor} (h : r.find? name = some d) :
    ∃ op, r.resolve name = .ok (op, d) ∧ r.get? op = some d := by
  obtain ⟨op, hop, hget⟩ := Option.bind_eq_some_iff.mp h
  exact ⟨op, by simp [resolve, hop, hget], hget⟩

/-- A name stands for an implemented operator of an arity. -/
def Callable (r : Registry) (name : String) (arity : Nat) : Prop :=
  ∃ d, r.find? name = some d ∧ d.implementation.isUnsupported = false ∧ d.arity = arity

/-- What is wrong with calling a name, in order: a name without a descriptor, a stub, a number of
arguments that is not the arity. -/
def offence? (r : Registry) (name : String) (actual : Nat) : Option FilterError :=
  match r.find? name with
  | none => some (.unsupportedOperator name)
  | some d =>
    if d.implementation.isUnsupported then some (.unsupportedOperator name)
    else if d.arity = actual then none
    else some (.arityMismatch name d.arity actual)

theorem offence?_eq_none_iff {r : Registry} {name : String} {actual : Nat} :
    r.offence? name actual = none ↔ r.Callable name actual := by
  unfold offence? Callable
  cases r.find? name with
  | none => simp
  | some d => cases h : d.implementation.isUnsupported <;> simp [h]

/-- Checking a name ends with its offence, or with an implemented operator of the arity. -/
theorem check_cases (r : Registry) (name : String) (actual : Nat) :
    (∃ error, r.check name actual = .error error ∧ r.offence? name actual = some error) ∨
      ∃ op d, r.check name actual = .ok (op, d) ∧ r.offence? name actual = none ∧
        r.resolve name = .ok (op, d) ∧ d.implementation.isUnsupported = false ∧
        d.arity = actual := by
  unfold check resolve offence? find?
  cases Operator.ofName? name with
  | none => exact Or.inl ⟨_, rfl, rfl⟩
  | some op =>
    simp only [Option.bind_some]
    cases r.get? op with
    | none => exact Or.inl ⟨_, rfl, rfl⟩
    | some d =>
      cases hs : d.implementation.isUnsupported with
      | true => exact Or.inl ⟨.unsupportedOperator name, by simp [hs], by simp [hs]⟩
      | false =>
        by_cases ha : d.arity = actual
        · exact Or.inr ⟨op, d, by simp [hs, ha], by simp [hs, ha], rfl, hs, ha⟩
        · exact Or.inl ⟨.arityMismatch name d.arity actual, by simp [hs, Ne.symm ha],
            by simp [hs, ha]⟩

end Registry

/-- Refused with an error, if there is one. -/
def refusal : Option FilterError → Except FilterError Unit
  | none => .ok ()
  | some error => .error error

theorem refusal_eq_ok_iff {o : Option FilterError} : refusal o = .ok () ↔ o = none := by
  cases o <;> simp [refusal]

theorem refusal_eq_error_iff {o : Option FilterError} {error : FilterError} :
    refusal o = .error error ↔ o = some error := by
  cases o <;> simp [refusal]

/-- The first of two possible refusals stands. -/
theorem refusal_or (a b : Option FilterError) :
    refusal (a.or b) = (do refusal a; refusal b) := by
  cases a <;> rfl

namespace Compiler

/-- What is wrong with a node at a level, its arguments apart; the depth is looked at first. -/
def offence? (c : Compiler) (level : Nat) (node : Expr) : Option FilterError :=
  if c.maxDepth < level then some (.tooDeep c.maxDepth)
  else match node with
    | .call name args => c.registry.offence? name args.length
    | _ => none

/-- The offence of the first node that has one. -/
def findOffence? (c : Compiler) (nodes : List (Nat × Expr)) : Option FilterError :=
  nodes.findSome? fun node => c.offence? node.1 node.2

/-- The offence of the first node in preorder that has one. -/
def firstOffence? (c : Compiler) (level : Nat) (e : Expr) : Option FilterError :=
  c.findOffence? (e.nodes level)

/-- Everything in a tree at a level lies within the depth, and every operation can be called. -/
def WellFormed (c : Compiler) (level : Nat) (e : Expr) : Prop :=
  level + e.depth ≤ c.maxDepth + 1 ∧
    ∀ name args, (Expr.call name args).Occurs e → c.registry.Callable name args.length

/-- What occurs in a well-formed tree is well-formed, also where it does not stand as deep. -/
theorem WellFormed.of_occurs {c : Compiler} {level : Nat} {d e : Expr} (h : c.WellFormed level e)
    (ho : d.Occurs e) : c.WellFormed level d := by
  have hdepth := ho.depth_le
  have hle := h.1
  exact ⟨by omega, fun name args hd => h.2 name args (hd.trans ho)⟩

theorem offence?_eq_none_iff {c : Compiler} {level : Nat} {node : Expr} :
    c.offence? level node = none ↔ level ≤ c.maxDepth ∧
      ∀ name args, node = .call name args → c.registry.Callable name args.length := by
  unfold offence?
  by_cases h : c.maxDepth < level
  · simp [h, Nat.not_le_of_lt h]
  · cases node <;> simp [h, Registry.offence?_eq_none_iff, Nat.le_of_not_lt h]

theorem firstOffence?_eq_none_iff {c : Compiler} {level : Nat} {e : Expr} :
    c.firstOffence? level e = none ↔ c.WellFormed level e := by
  simp only [firstOffence?, findOffence?, List.findSome?_eq_none_iff, offence?_eq_none_iff,
    WellFormed, ← Expr.forall_nodes_le_iff, Expr.occurs_iff_mem_nodes level]
  constructor
  · intro h
    exact ⟨fun p hp => (h p hp).1, fun name args ⟨n, hn⟩ => (h _ hn).2 name args rfl⟩
  · rintro ⟨hd, hc⟩ ⟨n, node⟩ hp
    exact ⟨hd _ hp, fun name args hnode => hc name args ⟨n, hnode ▸ hp⟩⟩

theorem findOffence?_append (c : Compiler) (as bs : List (Nat × Expr)) :
    c.findOffence? (as ++ bs) = (c.findOffence? as).or (c.findOffence? bs) :=
  List.findSome?_append

theorem findOffence?_cons (c : Compiler) (level : Nat) (e : Expr) (nodes : List (Nat × Expr)) :
    c.findOffence? ((level, e) :: nodes) = (c.offence? level e).or (c.findOffence? nodes) := by
  unfold findOffence?
  rw [List.findSome?_cons]
  cases c.offence? level e <;> rfl

theorem findOffence?_singleton (c : Compiler) (level : Nat) (e : Expr) :
    c.findOffence? [(level, e)] = c.offence? level e := by
  rw [findOffence?_cons]
  exact Option.or_none

theorem refusal_offence?_leaf (c : Compiler) (level : Nat) {e : Expr}
    (h : ∀ name args, e ≠ .call name args) : refusal (c.offence? level e) = c.checkDepth level := by
  unfold offence? checkDepth
  cases e with
  | call name args => exact absurd rfl (h name args)
  | const t => split <;> rfl
  | var name => split <;> rfl

theorem refusal_offence?_call (c : Compiler) (level : Nat) (name : String) (args : List Expr) :
    refusal (c.offence? level (.call name args)) = (do
      c.checkDepth level
      refusal (c.registry.offence? name args.length)) := by
  unfold offence? checkDepth
  split <;> rfl

theorem validateList_eq_refusal {c : Compiler} {level : Nat} {es : List Expr}
    (h : ∀ e ∈ es, c.validate level e = refusal (c.firstOffence? level e)) :
    c.validateList level es = refusal (c.findOffence? (Expr.nodesList level es)) := by
  induction es with
  | nil => rfl
  | cons e es ih =>
    rw [List.forall_mem_cons] at h
    rw [validateList, h.1, ih h.2, Expr.nodesList, findOffence?_append, refusal_or]
    rfl

/-- The checker refuses a tree for its first offending node. -/
theorem validate_eq_refusal (c : Compiler) (level : Nat) (e : Expr) :
    c.validate level e = refusal (c.firstOffence? level e) := by
  induction e generalizing level with
  | const t =>
    rw [firstOffence?, Expr.nodes, findOffence?_singleton, refusal_offence?_leaf c level (by simp)]
    rfl
  | var name =>
    rw [firstOffence?, Expr.nodes, findOffence?_singleton, refusal_offence?_leaf c level (by simp)]
    rfl
  | call name args ih =>
    rw [firstOffence?, Expr.nodes, findOffence?_cons, refusal_or, refusal_offence?_call, validate,
      validateList_eq_refusal fun e he => ih e he (level + 1)]
    cases c.checkDepth level with
    | error error => rfl
    | ok =>
      rcases c.registry.check_cases name args.length with ⟨error, hc, ho⟩ | ⟨op, d, hc, ho, _⟩
      · rw [hc, ho]; rfl
      · rw [hc, ho]; rfl

theorem validate_eq_ok_iff {c : Compiler} {level : Nat} {e : Expr} :
    c.validate level e = .ok () ↔ c.WellFormed level e := by
  rw [validate_eq_refusal, refusal_eq_ok_iff, firstOffence?_eq_none_iff]

theorem validate_eq_error_iff {c : Compiler} {level : Nat} {e : Expr} {error : FilterError} :
    c.validate level e = .error error ↔ c.firstOffence? level e = some error := by
  rw [validate_eq_refusal, refusal_eq_error_iff]

theorem validateList_eq_of_forall₂ {c : Compiler} {es es' : List Expr}
    (h : List.Forall₂ (fun e e' => ∀ level, c.validate level e = c.validate level e') es es')
    (level : Nat) : c.validateList level es = c.validateList level es' := by
  induction h with
  | nil => rfl
  | cons he _ ih => rw [validateList, validateList, he level, ih]

section Build
variable {σ : Type} [RandomSource σ]

/-- What a list of trees is built from: each tree on its own, the first refusal standing. -/
theorem forget_buildList {c : Compiler} {level : Nat} {es : List Expr}
    (h : ∀ e ∈ es, (c.build (σ := σ) level e).map (fun _ => ()) = c.validate level e) :
    (c.buildList (σ := σ) level es).map (fun _ => ()) = c.validateList level es := by
  induction es with
  | nil => rfl
  | cons e es ih =>
    rw [List.forall_mem_cons] at h
    rw [validateList, ← h.1, ← ih h.2, buildList]
    cases c.build (σ := σ) level e with
    | error error => rfl
    | ok run => cases c.buildList (σ := σ) level es <;> rfl

/-- The builder accepts and refuses what the checker does, for the same reasons. -/
theorem forget_build (c : Compiler) (level : Nat) (e : Expr) :
    (c.build (σ := σ) level e).map (fun _ => ()) = c.validate level e := by
  induction e generalizing level with
  | const t => rw [build, validate]; cases c.checkDepth level <;> rfl
  | var name => rw [build, validate]; cases c.checkDepth level <;> rfl
  | call name args ih =>
    rw [build, validate]
    cases c.checkDepth level with
    | error error => rfl
    | ok =>
      cases c.registry.check name args.length with
      | error error => rfl
      | ok p =>
        obtain ⟨op, d⟩ := p
        simp only [ok_bind]
        cases hd : d.raw with
        | true =>
          cases c.validateList (level + 1) args <;> rfl
        | false =>
          rw [← forget_buildList fun e he => ih e he (level + 1)]
          cases c.buildList (σ := σ) (level + 1) args <;> rfl

theorem exists_build_iff {c : Compiler} {level : Nat} {e : Expr} :
    (∃ run : Evaluation σ, c.build level e = .ok run) ↔ c.WellFormed level e := by
  rw [← validate_eq_ok_iff, ← forget_build (σ := σ)]
  cases c.build (σ := σ) level e <;> simp [Except.map]

theorem build_eq_error_iff {c : Compiler} {level : Nat} {e : Expr} {error : FilterError} :
    c.build (σ := σ) level e = .error error ↔ c.firstOffence? level e = some error := by
  rw [← validate_eq_error_iff, ← forget_build (σ := σ)]
  cases c.build (σ := σ) level e <;> simp [Except.map]

theorem wellFormed_one {c : Compiler} {e : Expr} :
    c.WellFormed 1 e ↔ e.depth ≤ c.maxDepth ∧
      ∀ name args, (Expr.call name args).Occurs e → c.registry.Callable name args.length := by
  rw [WellFormed, Nat.add_comm, Nat.add_le_add_iff_right]

/-- Compiling takes the well-formed trees and refuses any other for its first offence. Checking and
building agree with it at every level, so what is only checked can be built later. -/
theorem compile_ok_iff_wellFormed_else_first_offence (c : Compiler) (e : Expr) :
    ((∃ run : Evaluation σ, c.compile e = .ok run) ↔ e.depth ≤ c.maxDepth ∧
      ∀ name args, (Expr.call name args).Occurs e → c.registry.Callable name args.length) ∧
    (∀ error, c.compile (σ := σ) e = .error error ↔ c.firstOffence? 1 e = some error) ∧
    ∀ level,
      ((∃ run : Evaluation σ, c.build level e = .ok run) ↔ c.WellFormed level e) ∧
      (c.validate level e = .ok () ↔ c.WellFormed level e) ∧
      (∀ error, c.build (σ := σ) level e = .error error ↔ c.firstOffence? level e = some error) ∧
      (∀ error, c.validate level e = .error error ↔ c.firstOffence? level e = some error) :=
  ⟨exists_build_iff.trans wellFormed_one, fun _ => build_eq_error_iff, fun _ =>
    ⟨exists_build_iff, validate_eq_ok_iff, fun _ => build_eq_error_iff,
      fun _ => validate_eq_error_iff⟩⟩

end Build

end Compiler

end SparqlExpr
