import SparqlExpr.Expr.Basic
import SparqlExpr.Operator.Basic

/-! Trees seen as their nodes: induction over all subtrees, and the nodes in preorder with the
levels that they stand at. -/
namespace SparqlExpr.Expr

/-- Induction with one hypothesis for each argument of an operation. -/
@[elab_as_elim, induction_eliminator]
theorem induct {P : Expr → Prop} (const : ∀ t, P (const t)) (var : ∀ name, P (var name))
    (call : ∀ name args, (∀ e ∈ args, P e) → P (call name args)) (e : Expr) : P e :=
  @Expr.rec P (fun es => ∀ e ∈ es, P e) const var call (fun _ h => nomatch h)
    (fun _ _ head tail => List.forall_mem_cons.mpr ⟨head, tail⟩) e

mutual

/-- The nodes of a tree with the levels that they stand at. A node comes before its arguments, and
these from left to right. -/
def nodes (level : Nat) : Expr → List (Nat × Expr)
  | const t => [(level, const t)]
  | var name => [(level, var name)]
  | call name args => (level, call name args) :: nodesList (level + 1) args

def nodesList (level : Nat) : List Expr → List (Nat × Expr)
  | [] => []
  | e :: es => nodes level e ++ nodesList level es

end

/-- A tree occurs in another: it is that tree, or occurs in an argument of it. -/
inductive Occurs (d : Expr) : Expr → Prop where
  | here : Occurs d d
  | inside {name : String} {args : List Expr} {e : Expr} (mem : e ∈ args) (h : Occurs d e) :
    Occurs d (call name args)

theorem Occurs.trans {c d e : Expr} (h : c.Occurs d) (h' : d.Occurs e) : c.Occurs e := by
  induction h' with
  | here => exact h
  | inside mem _ ih => exact .inside mem ih

/-- An operation on an operator occurs in a tree. -/
def Calls (e : Expr) (op : Operator) : Prop :=
  ∃ name args, (call name args).Occurs e ∧ Operator.ofName? name = some op

theorem Calls.inside {op : Operator} {name : String} {args : List Expr} {e : Expr} (mem : e ∈ args)
    (h : e.Calls op) : (call name args).Calls op := by
  obtain ⟨other, es, ho, hop⟩ := h
  exact ⟨other, es, .inside mem ho, hop⟩

theorem not_calls_const {op : Operator} {t : Term} : ¬(const t).Calls op := by
  rintro ⟨name, args, ho, -⟩
  cases ho

theorem not_calls_var {op : Operator} {name : String} : ¬(var name).Calls op := by
  rintro ⟨name, args, ho, -⟩
  cases ho

theorem calls_call {op : Operator} {name : String} {args : List Expr} :
    (call name args).Calls op ↔ Operator.ofName? name = some op ∨ ∃ e ∈ args, e.Calls op := by
  constructor
  · rintro ⟨other, es, ho, hop⟩
    cases ho with
    | here => exact Or.inl hop
    | inside mem ho => exact Or.inr ⟨_, mem, other, es, ho, hop⟩
  · rintro (hop | ⟨e, mem, h⟩)
    · exact ⟨name, args, .here, hop⟩
    · exact h.inside mem

theorem nodesList_eq (level : Nat) (es : List Expr) :
    nodesList level es = es.flatMap (nodes level) := by
  induction es with
  | nil => rfl
  | cons e es ih => rw [nodesList, ih, List.flatMap_cons]

theorem mem_nodes_call {level : Nat} {name : String} {args : List Expr} {p : Nat × Expr} :
    p ∈ (call name args).nodes level ↔
      p = (level, call name args) ∨ ∃ e ∈ args, p ∈ e.nodes (level + 1) := by
  rw [nodes, nodesList_eq, List.mem_cons, List.mem_flatMap]

theorem filterMap_nodes_call {β : Type} (f : Expr → Option β) (level : Nat) (name : String)
    (args : List Expr) :
    ((call name args).nodes level).filterMap (fun node => f node.2) =
      (f (call name args)).toList ++
        args.flatMap fun e => (e.nodes (level + 1)).filterMap fun node => f node.2 := by
  rw [nodes, nodesList_eq, List.filterMap_cons, List.filterMap_flatMap]
  cases f (call name args) <;> rfl

/-- What is found in the nodes does not depend on the levels that they are listed with. -/
theorem filterMap_nodes {β : Type} (f : Expr → Option β) (level other : Nat) (e : Expr) :
    (e.nodes level).filterMap (fun node => f node.2) =
      (e.nodes other).filterMap fun node => f node.2 := by
  induction e generalizing level other with
  | const t => rfl
  | var name => rfl
  | call name args ih =>
    rw [filterMap_nodes_call, filterMap_nodes_call]
    have hargs := List.map_congr_left fun e he => ih e he (level + 1) (other + 1)
    rw [List.flatMap_def, hargs, List.flatMap_def]

theorem occurs_const {d : Expr} {t : Term} : d.Occurs (const t) ↔ d = const t :=
  ⟨fun h => by cases h; rfl, fun h => h ▸ .here⟩

theorem occurs_var {d : Expr} {name : String} : d.Occurs (var name) ↔ d = var name :=
  ⟨fun h => by cases h; rfl, fun h => h ▸ .here⟩

theorem occurs_call {d : Expr} {name : String} {args : List Expr} :
    d.Occurs (call name args) ↔ d = call name args ∨ ∃ e ∈ args, d.Occurs e := by
  constructor
  · intro h
    cases h with
    | here => exact Or.inl rfl
    | inside mem h => exact Or.inr ⟨_, mem, h⟩
  · rintro (rfl | ⟨e, he, h⟩)
    · exact .here
    · exact .inside he h

/-- The trees that occur are those listed as nodes, whatever level the listing starts at. -/
theorem occurs_iff_mem_nodes {d e : Expr} (level : Nat) :
    d.Occurs e ↔ ∃ n, (n, d) ∈ e.nodes level := by
  induction e generalizing level with
  | const t =>
    simp only [nodes, List.mem_singleton, Prod.mk.injEq, exists_eq_left, occurs_const]
  | var name =>
    simp only [nodes, List.mem_singleton, Prod.mk.injEq, exists_eq_left, occurs_var]
  | call name args ih =>
    simp only [occurs_call, mem_nodes_call, Prod.mk.injEq, exists_or, exists_eq_left]
    refine or_congr_right ⟨?_, ?_⟩
    · rintro ⟨e, he, h⟩
      obtain ⟨n, hn⟩ := (ih e he (level + 1)).mp h
      exact ⟨n, e, he, hn⟩
    · rintro ⟨n, e, he, hn⟩
      exact ⟨e, he, (ih e he (level + 1)).mpr ⟨n, hn⟩⟩

theorem depth_pos (e : Expr) : 0 < e.depth := by
  cases e with
  | const t => exact Nat.one_pos
  | var name => exact Nat.one_pos
  | call name args => rw [depth]; omega

theorem depth_le_depthList {e : Expr} {es : List Expr} (h : e ∈ es) : e.depth ≤ depthList es := by
  induction es with
  | nil => cases h
  | cons d es ih =>
    rw [depthList]
    rcases List.mem_cons.mp h with rfl | h
    · exact Nat.le_max_left _ _
    · exact Nat.le_trans (ih h) (Nat.le_max_right _ _)

theorem depthList_le {es : List Expr} {n : Nat} (h : ∀ e ∈ es, e.depth ≤ n) :
    depthList es ≤ n := by
  induction es with
  | nil => exact Nat.zero_le n
  | cons e es ih =>
    rw [List.forall_mem_cons] at h
    exact Nat.max_le.mpr ⟨h.1, ih h.2⟩

theorem Occurs.depth_le {d e : Expr} (h : d.Occurs e) : d.depth ≤ e.depth := by
  induction h with
  | here => exact Nat.le_refl _
  | inside mem _ ih =>
    have hlist := depth_le_depthList mem
    rw [depth]
    omega

/-- The deepest node stands as many levels below the root as the depth says. -/
theorem forall_nodes_le_iff {e : Expr} {level limit : Nat} :
    (∀ p ∈ e.nodes level, p.1 ≤ limit) ↔ level + e.depth ≤ limit + 1 := by
  induction e generalizing level with
  | const t => simp [nodes, depth]
  | var name => simp [nodes, depth]
  | call name args ih =>
    simp only [mem_nodes_call, depth]
    constructor
    · intro h
      have hl : level ≤ limit := h _ (Or.inl rfl)
      have hd : depthList args ≤ limit - level := depthList_le fun e he => by
        have := (ih e he).mp fun p hp => h p (Or.inr ⟨e, he, hp⟩)
        omega
      omega
    · rintro h p (rfl | ⟨e, he, hp⟩)
      · show level ≤ limit
        omega
      · have := depth_le_depthList he
        exact (ih e he).mpr (by omega) p hp

end SparqlExpr.Expr
