import SparqlExpr.Proofs.Acceptance

/-! Trees in place of variables: which trees stay as they are, and that leaves in place of variables
change nothing for the checker. -/
namespace SparqlExpr

namespace Expr

mutual

/-- Puts a tree in the place of every variable. -/
def subst (f : String → Expr) : Expr → Expr
  | const t => const t
  | var name => f name
  | call name args => call name (substList f args)

def substList (f : String → Expr) : List Expr → List Expr
  | [] => []
  | e :: es => e.subst f :: substList f es

end

/-- Puts a tree in the place of one variable, wherever it stands. A tree with a variable for its
hole is a context, and this fills it. -/
def replace (e : Expr) (name : String) (d : Expr) : Expr :=
  e.subst fun other => if other = name then d else var other

theorem substList_eq_map (f : String → Expr) (es : List Expr) :
    substList f es = es.map (subst f) := by
  induction es with
  | nil => rfl
  | cons e es ih => rw [substList, ih, List.map_cons]

theorem subst_call (f : String → Expr) (name : String) (args : List Expr) :
    (call name args).subst f = call name (args.map (subst f)) := by
  rw [subst, substList_eq_map]

/-- A tree whose variables all stand for themselves stays as it is. -/
theorem subst_eq_self {f : String → Expr} {e : Expr}
    (h : ∀ name, (var name).Occurs e → f name = var name) : e.subst f = e := by
  induction e with
  | const t => rfl
  | var name => exact h name .here
  | call name args ih =>
    have hargs : args.map (subst f) = args := by
      rw [List.map_congr_left fun e he => ih e he fun other ho => h other (.inside he ho)]
      exact List.map_id' args
    rw [subst_call, hargs]

theorem subst_var (e : Expr) : e.subst var = e := subst_eq_self fun _ _ => rfl

/-- A tree occurs in an argument of an operation on an operator. -/
def OccursUnder (op : Operator) (d e : Expr) : Prop :=
  ∃ name args, (call name args).Occurs e ∧ Operator.ofName? name = some op ∧
    ∃ a ∈ args, d.Occurs a

theorem not_occursUnder_var {op : Operator} {d : Expr} {name : String} :
    ¬d.OccursUnder op (var name) := by
  rintro ⟨other, args, ho, -⟩
  cases ho

theorem occursUnder_call {op : Operator} {d : Expr} {name : String} {args : List Expr} :
    d.OccursUnder op (call name args) ↔
      (Operator.ofName? name = some op ∧ ∃ a ∈ args, d.Occurs a) ∨
        ∃ e ∈ args, d.OccursUnder op e := by
  constructor
  · rintro ⟨other, es, ho, hop, ha⟩
    cases ho with
    | here => exact Or.inl ⟨hop, ha⟩
    | inside mem ho => exact Or.inr ⟨_, mem, other, es, ho, hop, ha⟩
  · rintro (⟨hop, ha⟩ | ⟨e, mem, other, es, ho, hop, ha⟩)
    · exact ⟨name, args, .here, hop, ha⟩
    · exact ⟨other, es, .inside mem ho, hop, ha⟩

end Expr

namespace Compiler
variable {c : Compiler} {f g : String → Expr}

/-- The checker tells no leaf from a variable. -/
theorem validate_subst (hf : ∀ name level, c.validate level (f name) = c.checkDepth level)
    (level : Nat) (e : Expr) : c.validate level (e.subst f) = c.validate level e := by
  induction e generalizing level with
  | const t => rfl
  | var name => exact hf name level
  | call name args ih =>
    have hargs : List.Forall₂ (fun e e' => ∀ level, c.validate level e = c.validate level e')
        (args.map (Expr.subst f)) args :=
      List.forall₂_map_left_iff.mpr (List.forall₂_same.mpr fun e he level => ih e he level)
    rw [Expr.subst_call, validate, validate, List.length_map, validateList_eq_of_forall₂ hargs]

theorem wellFormed_const {level : Nat} {t : Term} :
    c.WellFormed level (.const t) ↔ level ≤ c.maxDepth := by
  rw [← firstOffence?_eq_none_iff, firstOffence?, Expr.nodes, findOffence?_singleton,
    offence?_eq_none_iff]
  refine and_iff_left fun name args h => ?_
  cases h

theorem wellFormed_call {level : Nat} {name : String} {args : List Expr} :
    c.WellFormed level (.call name args) ↔
      level ≤ c.maxDepth ∧ c.registry.Callable name args.length ∧
        ∀ e ∈ args, c.WellFormed (level + 1) e := by
  simp only [WellFormed, ← Expr.forall_nodes_le_iff, Expr.mem_nodes_call]
  constructor
  · rintro ⟨hd, hc⟩
    exact ⟨hd _ (Or.inl rfl), hc name args .here, fun e he =>
      ⟨fun p hp => hd p (Or.inr ⟨e, he, hp⟩), fun other es ho => hc other es (.inside he ho)⟩⟩
  · rintro ⟨hl, hcall, hargs⟩
    refine ⟨?_, fun other es ho => ?_⟩
    · rintro p (rfl | ⟨e, he, hp⟩)
      · exact hl
      · exact (hargs e he).1 p hp
    · rcases Expr.occurs_call.mp ho with h | ⟨e, he, ho⟩
      · cases h; exact hcall
      · exact (hargs e he).2 other es ho

theorem WellFormed.le_maxDepth {level : Nat} {e : Expr} (h : c.WellFormed level e) :
    level ≤ c.maxDepth := by
  have hd := h.1
  have hpos := e.depth_pos
  omega

/-- A well-formed tree stays so if what is put in the place of its variables does. -/
theorem WellFormed.subst_mono (hfg : ∀ name level, c.WellFormed level (f name) →
      c.WellFormed level (g name)) {level : Nat} {e : Expr} (h : c.WellFormed level (e.subst f)) :
    c.WellFormed level (e.subst g) := by
  induction e generalizing level with
  | const t => exact h
  | var name => exact hfg name level h
  | call name args ih =>
    rw [Expr.subst_call, wellFormed_call, List.length_map, List.forall_mem_map] at h ⊢
    exact ⟨h.1, h.2.1, fun e he => ih e he (h.2.2 e he)⟩

end Compiler

end SparqlExpr
