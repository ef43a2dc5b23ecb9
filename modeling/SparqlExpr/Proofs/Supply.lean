import SparqlExpr.Proofs.Recording
import SparqlExpr.Proofs.Standard

/-! Draws put into a tree: the nodes that take one give way, from left to right, to terms made of
draws. Where nothing is skipped, a run that succeeds makes one draw for each of these nodes, and the
tree with its draws put in comes to the same. -/
namespace SparqlExpr

/-- The term that an operator makes of a draw of its kind. -/
def Operator.termOf? : Operator → Drawn → Option Term
  | rand, .double x => some (.typed x.toLexical Vocabulary.xsdDouble)
  | uuid, .uuid u => some ⟨"urn:uuid:" ++ u.toText⟩
  | strUuid, .uuid u => some (.simple u.toText)
  | _, _ => none

/-- A draw is of the kind that an operator takes. -/
def Operator.Takes (op : Operator) (d : Drawn) : Prop :=
  (op.termOf? d).isSome

namespace Expr

/-- The operator of a node that takes a draw. -/
def drawing? : Expr → Option Operator
  | call name _ => (Operator.ofName? name).filter fun op => op ∈ Operator.drawing
  | _ => none

/-- The operators of the nodes that take a draw, from left to right. -/
def drawings (e : Expr) : List Operator :=
  (e.nodes 1).filterMap fun node => node.2.drawing?

mutual

/-- Puts terms made of the draws in the place of the nodes that take one, from left to right, and
gives the draws that are left over. -/
def supply : Expr → List Drawn → Expr × List Drawn
  | const t, ds => (const t, ds)
  | var name, ds => (var name, ds)
  | call name args, ds =>
    match (call name args).drawing?.bind fun op => ds.head?.bind op.termOf? with
    | some t => (const t, ds.tail)
    | none => (call name (supplyList args ds).1, (supplyList args ds).2)

def supplyList : List Expr → List Drawn → List Expr × List Drawn
  | [], ds => ([], ds)
  | e :: es, ds =>
    ((e.supply ds).1 :: (supplyList es (e.supply ds).2).1, (supplyList es (e.supply ds).2).2)

end

theorem drawings_call (name : String) (args : List Expr) :
    (call name args).drawings = (call name args).drawing?.toList ++ args.flatMap drawings := by
  have hargs := List.flatMap_congr (l := args) fun e _ => filterMap_nodes drawing? (1 + 1) 1 e
  rw [drawings, filterMap_nodes_call, hargs]
  rfl

theorem drawing?_eq_some {e : Expr} {op : Operator} (h : e.drawing? = some op) :
    op ∈ Operator.drawing ∧ ∃ name args, e = call name args ∧ Operator.ofName? name = some op := by
  cases e with
  | call name args =>
    obtain ⟨hop, hdraws⟩ := Option.filter_eq_some_iff.mp h
    exact ⟨of_decide_eq_true hdraws, name, args, rfl, hop⟩
  | _ => cases h

theorem drawing?_eq_none {name : String} {op : Operator} (hop : Operator.ofName? name = some op)
    (h : op ∉ Operator.drawing) (args : List Expr) : (call name args).drawing? = none := by
  rw [drawing?, hop]
  exact Option.filter_some_neg (by simpa using h)

theorem supply_of_drawing? {e : Expr} {op : Operator} {d : Drawn} {t : Term}
    (hop : e.drawing? = some op) (ht : op.termOf? d = some t) (ds : List Drawn) :
    e.supply (d :: ds) = (const t, ds) := by
  obtain ⟨-, name, args, rfl, -⟩ := drawing?_eq_some hop
  simp only [supply, hop, Option.bind_some, List.head?_cons, ht, List.tail_cons]

theorem supply_call {name : String} {args : List Expr} (h : (call name args).drawing? = none)
    (ds : List Drawn) :
    (call name args).supply ds = (call name (supplyList args ds).1, (supplyList args ds).2) := by
  simp only [supply, h, Option.bind_none]

theorem length_supplyList (es : List Expr) (ds : List Drawn) :
    (supplyList es ds).1.length = es.length := by
  induction es generalizing ds with
  | nil => rfl
  | cons e es ih => rw [supplyList, List.length_cons, ih, List.length_cons]

theorem forall_mem_supplyList {P : Expr → Prop} {es : List Expr}
    (h : ∀ e ∈ es, ∀ ds, P (e.supply ds).1) (ds : List Drawn) :
    ∀ e ∈ (supplyList es ds).1, P e := by
  induction es generalizing ds with
  | nil => exact fun e he => absurd he List.not_mem_nil
  | cons e es ih =>
    rw [List.forall_mem_cons] at h
    rw [supplyList, List.forall_mem_cons]
    exact ⟨h.1 ds, ih h.2 _⟩

end Expr

section Step
variable {σ : Type} [RandomSource σ] {op : Operator}

theorem Descriptor.apply_of_not_drawing (h : op ∉ Operator.drawing) (ts : List Term) :
    ∃ x, ∀ (σ : Type) [RandomSource σ] (s : σ), (standard op).apply op ts s = (x, s) :=
  apply_eq_of_not_draws (fun hdraws => h (mem_drawing_of_draws hdraws)) op ts

/-- An operator that takes a draw takes one, of its kind. -/
theorem Descriptor.apply_of_drawing (h : op ∈ Operator.drawing) (s : Recorded σ) :
    ∃ d t source, op.termOf? d = some t ∧
      (standard op).apply op [] s = (.ok t, ⟨source, s.draws ++ [d]⟩) := by
  have hcases : op = .rand ∨ op = .uuid ∨ op = .strUuid := by
    simpa [Operator.drawing] using h
  rcases hcases with rfl | rfl | rfl
  · exact ⟨.double (RandomSource.nextDouble s.source).1, _, _, rfl, rfl⟩
  · exact ⟨.uuid (RandomSource.nextUuid s.source).1, _, _, rfl, rfl⟩
  · exact ⟨.uuid (RandomSource.nextUuid s.source).1, _, _, rfl, rfl⟩

theorem Descriptor.raw_of_drawing (h : op ∈ Operator.drawing) : (standard op).raw = false := by
  revert h
  cases op <;> decide

theorem Descriptor.arity_of_drawing (h : op ∈ Operator.drawing) : (standard op).arity = 0 := by
  revert h
  cases op <;> decide

/-- A node that takes a draw has no arguments, takes one draw of its kind and comes to the term made
of it. -/
theorem interpret_of_drawing {name : String} {args : List Expr}
    (hop : Operator.ofName? name = some op) (hdraws : op ∈ Operator.drawing)
    (ha : (Descriptor.standard op).arity = args.length) (row : Row) (s : Recorded σ) :
    args = [] ∧ (Expr.call name args).drawing? = some op ∧
      ∃ d t source, op.termOf? d = some t ∧
        interpret .standard row (.call name args) s = (.ok t, ⟨source, s.draws ++ [d]⟩) := by
  have hnil : args = [] := by
    rw [Descriptor.arity_of_drawing hdraws] at ha
    exact List.eq_nil_of_length_eq_zero ha.symm
  have hres := Registry.resolve_of_ofName? hop
  obtain ⟨d, t, source, ht, happly⟩ := Descriptor.apply_of_drawing hdraws s
  subst hnil
  refine ⟨rfl, Option.filter_eq_some_iff.mpr ⟨hop, decide_eq_true hdraws⟩, d, t, source, ht, ?_⟩
  rw [interpret_value hres (Descriptor.raw_of_drawing hdraws), interpretAll, Outcome.andThen_ok,
    happly]

end Step

namespace Compiler

/-- Terms can stand where draws are taken. -/
theorem WellFormed.supply {c : Compiler} {level : Nat} {e : Expr} (h : c.WellFormed level e)
    (ds : List Drawn) : c.WellFormed level (e.supply ds).1 := by
  induction e generalizing level ds with
  | const t => exact h
  | var name => exact h
  | call name args ih =>
    have hle := h.le_maxDepth
    rw [wellFormed_call] at h
    rw [Expr.supply]
    split
    · exact wellFormed_const.mpr hle
    · refine wellFormed_call.mpr ⟨hle, by rw [Expr.length_supplyList]; exact h.2.1, ?_⟩
      exact Expr.forall_mem_supplyList (fun e he ds => ih e he (h.2.2 e he) ds) ds

end Compiler

section Exact

/-- With terms made of draws for all nodes that take one, a tree comes to a term without a draw. -/
structure Expr.SuppliedBy (row : Row) (ds : List Drawn) (t : Term) (e e' : Expr) : Prop where
  length : ds.length = e.drawings.length
  drawings : e'.drawings = []
  supply (rest : List Drawn) : e.supply (ds ++ rest) = (e', rest)
  comes (σ : Type) [RandomSource σ] (s : σ) : interpret .standard row e' s = (.ok t, s)

/-- The same of a list of trees. -/
structure Expr.AllSuppliedBy (row : Row) (ds : List Drawn) (ts : List Term) (es es' : List Expr) :
    Prop where
  length : ds.length = (es.flatMap drawings).length
  drawings : es'.flatMap Expr.drawings = []
  supply (rest : List Drawn) : supplyList es (ds ++ rest) = (es', rest)
  comes (σ : Type) [RandomSource σ] (s : σ) : interpretAll .standard row es' s = (.ok ts, s)

theorem Expr.AllSuppliedBy.cons {row : Row} {ds ds' : List Drawn} {t : Term} {ts : List Term}
    {e e' : Expr} {es es' : List Expr} (h : e.SuppliedBy row ds t e')
    (h' : AllSuppliedBy row ds' ts es es') :
    AllSuppliedBy row (ds ++ ds') (t :: ts) (e :: es) (e' :: es') where
  length := by rw [List.flatMap_cons, List.length_append, List.length_append, h.length, h'.length]
  drawings := by rw [List.flatMap_cons, h.drawings, h'.drawings]; rfl
  supply rest := by rw [List.append_assoc, supplyList, h.supply, h'.supply]
  comes σ _ s := by
    rw [interpretAll, h.comes, Outcome.andThen_ok, h'.comes]
    rfl

variable {σ : Type} [RandomSource σ] {row : Row} {s s' : Recorded σ}

theorem interpretAll_supplied {es : List Expr}
    (h : ∀ e ∈ es, ∀ (t : Term) (s s' : Recorded σ), interpret .standard row e s = (.ok t, s') →
      ∃ ds e', s'.draws = s.draws ++ ds ∧ e.SuppliedBy row ds t e')
    {ts : List Term} (hall : interpretAll .standard row es s = (.ok ts, s')) :
    ∃ ds es', s'.draws = s.draws ++ ds ∧ Expr.AllSuppliedBy row ds ts es es' := by
  induction es generalizing ts s with
  | nil =>
    cases hall
    exact ⟨[], [], (List.append_nil _).symm, rfl, rfl, fun _ => rfl, fun _ _ _ => rfl⟩
  | cons e es ih =>
    rw [List.forall_mem_cons] at h
    obtain ⟨t, s₁, ts', he, hes, rfl⟩ := interpretAll_cons_eq_ok hall
    obtain ⟨ds, e', hds, hsupplied⟩ := h.1 t s s₁ he
    obtain ⟨ds', es', hds', hsupplied'⟩ := ih h.2 hes
    exact ⟨ds ++ ds', e' :: es', by rw [hds', hds, List.append_assoc], .cons hsupplied hsupplied'⟩

/-- Where nothing is skipped, a run that succeeds makes one draw for each node that takes one, and
that node becomes the term made of it. -/
theorem interpret_supplied {e : Expr}
    (h : ∀ name args, (Expr.call name args).Occurs e →
      Registry.standard.Callable name args.length)
    (hforms : ∀ form : Form, ¬e.Calls form.operator) {t : Term}
    (heval : interpret .standard row e s = (.ok t, s')) :
    ∃ ds e', s'.draws = s.draws ++ ds ∧ e.SuppliedBy row ds t e' := by
  induction e generalizing s s' t with
  | const u =>
    cases heval
    exact ⟨[], .const u, (List.append_nil _).symm, rfl, rfl, fun _ => rfl, fun _ _ _ => rfl⟩
  | var name =>
    rw [interpret] at heval
    cases hget : row.get? name with
    | none => rw [hget] at heval; cases heval
    | some u =>
      rw [hget] at heval
      cases heval
      refine ⟨[], .var name, (List.append_nil _).symm, rfl, rfl, fun _ => rfl, fun _ _ _ => ?_⟩
      rw [interpret, hget]
  | call name args ih =>
    obtain ⟨op, hop, hres, hs, ha⟩ := (h name args .here).standard
    by_cases hdraws : op ∈ Operator.drawing
    · obtain ⟨rfl, hdrawing, d, u, source, hu, hcall⟩ :=
        interpret_of_drawing hop hdraws ha row s
      rw [hcall] at heval
      cases heval
      refine ⟨[d], .const t, rfl, ?_, rfl, Expr.supply_of_drawing? hdrawing hu, fun _ _ _ => rfl⟩
      rw [Expr.drawings_call, hdrawing]
      rfl
    · have hno := Expr.drawing?_eq_none hop hdraws
      rcases Descriptor.standard_cases hs with ⟨hraw, -⟩ | ⟨-, form, rfl, -⟩
      · rw [interpret_value hres hraw] at heval
        obtain ⟨ts, s₁, hall, happly⟩ := Outcome.andThen_eq_ok heval
        obtain ⟨ds, es, hds, hsupplied⟩ := interpretAll_supplied (fun e he t s s' heval => ih e he
          (fun name args ho => h name args (.inside he ho))
          (fun form hform => hforms form (hform.inside he)) heval) hall
        -- The operator sees the same terms as before, and no source at all.
        obtain ⟨x, hx⟩ := Descriptor.apply_of_not_drawing hdraws ts
        rw [hx] at happly
        cases happly
        refine ⟨ds, .call name es, hds, ?_, ?_, fun rest => ?_, fun σ _ s => ?_⟩
        · rw [hsupplied.length, Expr.drawings_call, hno]
          rfl
        · rw [Expr.drawings_call, hno, hsupplied.drawings]
          rfl
        · rw [Expr.supply_call (hno args), hsupplied.supply]
        · rw [interpret_value hres hraw, hsupplied.comes, Outcome.andThen_ok, hx]
      · exact absurd ⟨name, args, .here, hop⟩ (hforms form)

end Exact

end SparqlExpr
