import SparqlExpr.Expr.Source
import SparqlExpr.Proofs.JsonOrder
import SparqlExpr.Proofs.JsonRoundTrip

/-! The JSON values that are trees. Any other value is refused for its first ill-shaped node in
preorder, and a tree that is written again has lost nothing but the members that are never read. -/
namespace SparqlExpr

namespace Json

/-- The items of the array under `args`. -/
def args (v : Json) : List Json :=
  match v.get? "args" with
  | some (array items) => items
  | _ => []

/-- The grammar of trees: a string, or an object with a string under `operator` and an array of
trees under `args`. -/
inductive IsTree : Json → Prop where
  | leaf (text : String) : IsTree (string text)
  | operation {v : Json} {operator : String} {items : List Json}
    (hoperator : v.get? "operator" = some (string operator))
    (hargs : v.get? "args" = some (array items)) (h : ∀ item ∈ items, IsTree item) : IsTree v

/-- The shape that the grammar asks of a single node, whatever its arguments are. -/
def wellShaped : Json → Bool
  | string _ => true
  | v => match v.get? "operator", v.get? "args" with
    | some (string _), some (array _) => true
    | _, _ => false

theorem find?_cons (key other : String) (value : Json) (rest : List (String × Json)) :
    find? key ((other, value) :: rest) = if key = other then some value else find? key rest := by
  unfold find?
  rw [List.lookup_cons]
  by_cases h : key = other
  · simp [h]
  · rw [if_neg h, beq_false_of_ne h]

theorem sizeOf_lt_of_find? {key : String} {members : List (String × Json)} {v : Json}
    (h : find? key members = some v) : sizeOf v < sizeOf members := by
  induction members with
  | nil => cases h
  | cons member rest ih =>
    obtain ⟨other, value⟩ := member
    rw [find?_cons] at h
    simp only [List.cons.sizeOf_spec, Prod.mk.sizeOf_spec]
    split at h
    · cases h
      omega
    · have hrest := ih h
      omega

theorem sizeOf_lt_of_mem_args {v a : Json} (h : a ∈ v.args) : sizeOf a < sizeOf v := by
  unfold args at h
  split at h
  · next items hitems =>
    cases v with
    | object members =>
      have hmem := List.sizeOf_lt_of_mem h
      have hfind := sizeOf_lt_of_find? hitems
      simp only [array.sizeOf_spec, object.sizeOf_spec] at hfind ⊢
      omega
    | _ => cases hitems
  · cases h

/-- The nodes of a tree. A node comes before its arguments, and these from left to right. -/
def nodes (v : Json) : List Json :=
  v :: v.args.attach.flatMap fun a => nodes a.1
termination_by sizeOf v
decreasing_by exact sizeOf_lt_of_mem_args a.2

theorem nodes_eq (v : Json) : v.nodes = v :: v.args.flatMap nodes := by
  rw [nodes, ← List.flatMap_map, List.attach_map_subtype_val]

/-- Induction with one hypothesis for each argument. -/
theorem induct_args {P : Json → Prop} (step : ∀ v, (∀ a ∈ v.args, P a) → P v) (v : Json) : P v :=
  step v fun a _ => induct_args step a
termination_by sizeOf v
decreasing_by exact sizeOf_lt_of_mem_args ‹_›

/-- The first node in preorder that has another shape. -/
def firstIllShaped? (v : Json) : Option Json :=
  v.nodes.find? fun node => !node.wellShaped

theorem firstIllShaped?_of_wellShaped {v : Json} (h : v.wellShaped = true) :
    v.firstIllShaped? = v.args.findSome? firstIllShaped? := by
  rw [firstIllShaped?, nodes_eq, List.find?_cons_of_neg (by simp [h]), List.find?_flatMap]
  rfl

theorem firstIllShaped?_of_not_wellShaped {v : Json} (h : v.wellShaped = false) :
    v.firstIllShaped? = some v := by
  rw [firstIllShaped?, nodes_eq, List.find?_cons_of_pos (by simp [h])]

theorem wellShaped_of_get? {v : Json} {operator : String} {items : List Json}
    (hoperator : v.get? "operator" = some (string operator))
    (hargs : v.get? "args" = some (array items)) : v.wellShaped = true ∧ v.args = items := by
  refine ⟨?_, by rw [args, hargs]⟩
  cases v with
  | object members => simp only [wellShaped, hoperator, hargs]
  | _ => cases hargs

/-- A well-shaped node is a leaf or an operation. -/
theorem cases_of_wellShaped {v : Json} (h : v.wellShaped = true) :
    (∃ text, v = string text) ∨ ∃ operator items, v.get? "operator" = some (string operator) ∧
      v.get? "args" = some (array items) := by
  unfold wellShaped at h
  split at h
  · exact Or.inl ⟨_, rfl⟩
  · split at h
    · next operator items hoperator hargs => exact Or.inr ⟨operator, items, hoperator, hargs⟩
    · cases h

/-- The trees are the values without an ill-shaped node. -/
theorem isTree_iff {v : Json} : v.IsTree ↔ v.firstIllShaped? = none := by
  induction v using induct_args with
  | step v ih =>
    constructor
    · intro h
      cases h with
      | leaf text => rw [firstIllShaped?_of_wellShaped rfl]; rfl
      | operation hoperator hargs hitems =>
        obtain ⟨hshape, hitems'⟩ := wellShaped_of_get? hoperator hargs
        rw [firstIllShaped?_of_wellShaped hshape, List.findSome?_eq_none_iff]
        exact fun a ha => (ih a ha).mp (hitems a (hitems' ▸ ha))
    · intro h
      cases hshape : v.wellShaped with
      | false => rw [firstIllShaped?_of_not_wellShaped hshape] at h; cases h
      | true =>
        rw [firstIllShaped?_of_wellShaped hshape, List.findSome?_eq_none_iff] at h
        rcases cases_of_wellShaped hshape with ⟨text, rfl⟩ | ⟨operator, items, hoperator, hargs⟩
        · exact .leaf text
        · have hitems := (wellShaped_of_get? hoperator hargs).2
          exact .operation hoperator hargs fun a ha =>
            (ih a (hitems ▸ ha)).mpr (h a (hitems ▸ ha))

mutual

/-- Takes the members under other keys than `args` and `operator` out of every operation. -/
def prune : Json → Json
  | object members => object (pruneMembers members)
  | v => v

def pruneMembers : List (String × Json) → List (String × Json)
  | [] => []
  | (key, value) :: rest =>
    if key = "args" then (key, pruneArgs value) :: pruneMembers rest
    else if key = "operator" then (key, value) :: pruneMembers rest
    else pruneMembers rest

def pruneArgs : Json → Json
  | array items => array (pruneList items)
  | v => v

def pruneList : List Json → List Json
  | [] => []
  | v :: rest => v.prune :: pruneList rest

end

theorem mem_of_find? {key : String} {members : List (String × Json)} {v : Json}
    (h : find? key members = some v) : (key, v) ∈ members := by
  induction members with
  | nil => cases h
  | cons member rest ih =>
    obtain ⟨other, value⟩ := member
    rw [find?_cons] at h
    split at h
    · next hkey =>
      cases h
      exact hkey ▸ List.mem_cons_self
    · exact List.mem_cons_of_mem _ (ih h)

theorem pruneMembers_eq_nil {members : List (String × Json)}
    (h : ∀ m ∈ members, m.1 ≠ "args" ∧ m.1 ≠ "operator") : pruneMembers members = [] := by
  induction members with
  | nil => rfl
  | cons member rest ih =>
    obtain ⟨key, value⟩ := member
    rw [List.forall_mem_cons] at h
    rw [pruneMembers, if_neg h.1.1, if_neg h.1.2, ih h.2]

theorem ne_of_forall_lt {key : String} {members : List (String × Json)}
    (h : ∀ m ∈ members, key < m.1) : ∀ m ∈ members, m.1 ≠ key := by
  intro m hm heq
  have hlt := h m hm
  rw [heq] at hlt
  exact String.lt_irrefl key hlt

theorem pruneMembers_operator {members : List (String × Json)} {v : Json}
    (hkeys : members.Pairwise fun m n => m.1 < n.1) (hargs : ∀ m ∈ members, m.1 ≠ "args")
    (h : find? "operator" members = some v) : pruneMembers members = [("operator", v)] := by
  induction members with
  | nil => cases h
  | cons member rest ih =>
    obtain ⟨key, value⟩ := member
    rw [List.pairwise_cons] at hkeys
    rw [List.forall_mem_cons] at hargs
    rw [find?_cons] at h
    rw [pruneMembers, if_neg hargs.1]
    by_cases hkey : key = "operator"
    · subst hkey
      have hne := ne_of_forall_lt hkeys.1
      rw [if_pos rfl] at h
      cases h
      rw [if_pos rfl, pruneMembers_eq_nil fun m hm => ⟨hargs.2 m hm, hne m hm⟩]
    · rw [if_neg (Ne.symm hkey)] at h
      rw [if_neg hkey, ih hkeys.2 hargs.2 h]

/-- Of the members of an operation two are left. -/
theorem pruneMembers_operation {members : List (String × Json)} {v w : Json}
    (hkeys : members.Pairwise fun m n => m.1 < n.1) (hargs : find? "args" members = some v)
    (hoperator : find? "operator" members = some w) :
    pruneMembers members = [("args", pruneArgs v), ("operator", w)] := by
  induction members with
  | nil => cases hargs
  | cons member rest ih =>
    obtain ⟨key, value⟩ := member
    rw [List.pairwise_cons] at hkeys
    rw [find?_cons] at hargs hoperator
    rw [pruneMembers]
    by_cases hkey : key = "args"
    · subst hkey
      rw [if_pos rfl] at hargs
      rw [if_neg (by decide)] at hoperator
      cases hargs
      rw [if_pos rfl, pruneMembers_operator hkeys.2 (ne_of_forall_lt hkeys.1) hoperator]
    · rw [if_neg (Ne.symm hkey)] at hargs
      have hlt : key < "args" := hkeys.1 _ (mem_of_find? hargs)
      have hne : key ≠ "operator" := by
        rintro rfl
        exact absurd hlt (by decide)
      rw [if_neg hne.symm] at hoperator
      rw [if_neg hkey, if_neg hne, ih hkeys.2 hargs hoperator]

end Json

namespace Expr
open Json

theorem ofJson_of_not_wellShaped {v : Json} (h : v.wellShaped = false) :
    ofJson v = .error v := by
  cases v with
  | string text => cases h
  | object members =>
    rw [ofJson, ofArgs_eq]
    split
    · next operator args hoperator hargs =>
      split at hargs
      · next items hitems =>
        rw [(wellShaped_of_get? (v := .object members) hoperator hitems).1] at h
        cases h
      · cases hargs
    · rfl
  | _ => rfl

theorem ofJson_of_get? {v : Json} {operator : String} {items : List Json}
    (hoperator : v.get? "operator" = some (.string operator))
    (hargs : v.get? "args" = some (.array items)) :
    ofJson v = (ofJsonList items).map (call operator) := by
  cases v with
  | object members =>
    simp only [Json.get?] at hoperator hargs
    rw [ofJson, ofArgs_eq, hoperator, hargs]
    change (ofJsonList items >>= fun args => pure (call operator args)) = _
    cases ofJsonList items <;> rfl
  | _ => cases hargs

/-- Either every item is read, or the first ill-shaped node among them is refused. -/
theorem ofJsonList_cases {items : List Json}
    (h : ∀ item ∈ items, (∃ e, ofJson item = .ok e ∧ item.firstIllShaped? = none) ∨
      ∃ node, ofJson item = .error node ∧ item.firstIllShaped? = some node) :
    (∃ es, ofJsonList items = .ok es ∧ items.findSome? firstIllShaped? = none) ∨
      ∃ node, ofJsonList items = .error node ∧ items.findSome? firstIllShaped? = some node := by
  induction items with
  | nil => exact Or.inl ⟨[], rfl, rfl⟩
  | cons item rest ih =>
    rw [List.forall_mem_cons] at h
    rw [ofJsonList, List.findSome?_cons]
    rcases h.1 with ⟨e, he, hno⟩ | ⟨node, he, hsome⟩
    · rw [he, hno]
      rcases ih h.2 with ⟨es, hes, hno⟩ | ⟨node, hes, hsome⟩
      · exact Or.inl ⟨e :: es, by rw [hes]; rfl, hno⟩
      · exact Or.inr ⟨node, by rw [hes]; rfl, hsome⟩
    · rw [he, hsome]
      exact Or.inr ⟨node, rfl, rfl⟩

/-- The shape of a node is looked at before its arguments are. -/
theorem ofJson_cases (v : Json) :
    (∃ e, ofJson v = .ok e ∧ v.firstIllShaped? = none) ∨
      ∃ node, ofJson v = .error node ∧ v.firstIllShaped? = some node := by
  induction v using induct_args with
  | step v ih =>
    cases hshape : v.wellShaped with
    | false =>
      exact Or.inr ⟨v, ofJson_of_not_wellShaped hshape, firstIllShaped?_of_not_wellShaped hshape⟩
    | true =>
      rw [firstIllShaped?_of_wellShaped hshape]
      rcases cases_of_wellShaped hshape with ⟨text, rfl⟩ | ⟨operator, items, hoperator, hargs⟩
      · exact Or.inl ⟨ofText text, rfl, rfl⟩
      · have hitems := (wellShaped_of_get? hoperator hargs).2
        rw [ofJson_of_get? hoperator hargs]
        rcases ofJsonList_cases ih with ⟨es, hes, hno⟩ | ⟨node, hes, hsome⟩
        · exact Or.inl ⟨call operator es, by rw [← hitems, hes]; rfl, hno⟩
        · exact Or.inr ⟨node, by rw [← hitems, hes]; rfl, hsome⟩

/-- What is read from the items and written again is the items without what was not read. -/
theorem toJsonList_of_ofJsonList {items : List Json} {es : List Expr}
    (ih : ∀ item ∈ items, ∀ e, ofJson item = .ok e → e.toJson = item.prune)
    (h : ofJsonList items = .ok es) : toJsonList es = pruneList items := by
  induction items generalizing es with
  | nil => cases h; rfl
  | cons item rest ihrest =>
    rw [List.forall_mem_cons] at ih
    rw [ofJsonList] at h
    obtain ⟨e, he, hrest⟩ := bind_eq_ok h
    obtain ⟨es', hes, hcons⟩ := bind_eq_ok hrest
    cases hcons
    rw [toJsonList, pruneList, ih.1 e he, ihrest ih.2 hes]

theorem toJson_ofText (text : String) : (ofText text).toJson = .string text := by
  unfold ofText
  split <;> rfl

theorem toJson_of_ofJson {v : Json} (hv : v.Sorted) {e : Expr} (h : ofJson v = .ok e) :
    e.toJson = v.prune := by
  induction v using induct_args generalizing e with
  | step v ih =>
    rcases ofJson_eq_ok h with ⟨text, rfl, rfl⟩ |
      ⟨operator, items, args, hoperator, hargs, hitems, rfl⟩
    · exact toJson_ofText text
    · cases hv with
      | object hkeys hmembers =>
        have hsorted : ∀ item ∈ items, item.Sorted := by
          cases hmembers _ (mem_of_find? hargs) with
          | array h => exact h
        have hargs' := (wellShaped_of_get? hoperator hargs).2
        have hlist := toJsonList_of_ofJsonList
          (fun item hitem e he => ih item (hargs' ▸ hitem) (hsorted item hitem) he) hitems
        rw [toJson, hlist, prune, pruneMembers_operation hkeys hargs hoperator, pruneArgs]
      | _ => cases hargs

/-- Writing a tree that was read and reading it again changes nothing. -/
theorem ofJson_toJson_of_ofJson {v : Json} {e : Expr} (h : ofJson v = .ok e) :
    ofJson e.toJson = .ok e := by
  rw [ofJson_toJson, reread_eq_self_iff.mpr (classified_of_ofJson h)]

section Decode
variable {print : Json → String} {v : Json}

theorem decodeBy_eq_ok_iff {e : Expr} : decodeBy print v = .ok e ↔ ofJson v = .ok e := by
  unfold decodeBy
  cases ofJson v with
  | error node =>
    constructor
    · intro h; cases h
    · intro h; cases h
  | ok d =>
    constructor
    · intro h; cases h; rfl
    · intro h; cases h; rfl

theorem decodeBy_eq_error_iff {error : FilterError} :
    decodeBy print v = .error error ↔
      ∃ node, ofJson v = .error node ∧ error = .unsupportedExpression (print node) := by
  unfold decodeBy
  cases ofJson v with
  | error node =>
    constructor
    · intro h
      cases h
      exact ⟨node, rfl, rfl⟩
    · rintro ⟨other, hother, rfl⟩
      cases hother
      rfl
  | ok e =>
    constructor
    · intro h; cases h
    · rintro ⟨node, hnode, -⟩
      cases hnode

theorem exists_decodeBy_eq_ok_iff (print : Json → String) (v : Json) :
    (∃ e, decodeBy print v = .ok e) ↔ v.IsTree := by
  rw [isTree_iff]
  rcases ofJson_cases v with ⟨e, he, hno⟩ | ⟨node, he, hsome⟩
  · simp [decodeBy_eq_ok_iff, he, hno]
  · simp [decodeBy_eq_ok_iff, he, hsome]

theorem decodeBy_eq_error_iff_firstIllShaped? (print : Json → String) (v : Json)
    (error : FilterError) :
    decodeBy print v = .error error ↔
      ∃ node, v.firstIllShaped? = some node ∧ error = .unsupportedExpression (print node) := by
  rw [decodeBy_eq_error_iff]
  rcases ofJson_cases v with ⟨e, he, hno⟩ | ⟨node, he, hsome⟩
  · simp [he, hno]
  · simp [he, hsome]

/-- A value is read exactly when it is a tree. Any other is refused for the first node in preorder
that has another shape, which the error shows as it is printed. A tree that was read is written
without the members that are not looked at, if objects are maps, and reads as the same tree again.
Objects that come from a text are maps. -/
theorem decode_ok_iff_isTree_else_first_ill_shaped (print : Json → String) (v : Json) :
    ((∃ e, decodeBy print v = .ok e) ↔ v.IsTree) ∧
      (∀ error, decodeBy print v = .error error ↔
        ∃ node, v.nodes.find? (fun node => !node.wellShaped) = some node ∧
          error = .unsupportedExpression (print node)) ∧
      (∀ e, decodeBy print v = .ok e →
        decodeBy print e.toJson = .ok e ∧ (v.Sorted → e.toJson = v.prune)) ∧
      ∀ depth text rest, readFront? depth text = some (v, rest) → v.Sorted := by
  refine ⟨exists_decodeBy_eq_ok_iff print v, decodeBy_eq_error_iff_firstIllShaped? print v,
    fun e he => ?_, fun depth text rest => sorted_of_readFront?⟩
  rw [decodeBy_eq_ok_iff] at he
  exact ⟨decodeBy_eq_ok_iff.mpr (ofJson_toJson_of_ofJson he), fun hv => toJson_of_ofJson hv he⟩

/-- Notes at two levels are lost, also one that looks like an operation without arguments. -/
theorem decode_annotated_tree :
    let note := Json.object [("operator", .string "or")]
    let inner := Json.object [("args", .array [.string "?x"]), ("comment", note),
      ("operator", .string "bound")]
    let outer := Json.object [("args", .array [.string "?x", inner]), ("note", .null),
      ("operator", .string "and")]
    let e := call "and" [var "?x", call "bound" [var "?x"]]
    decode outer = .ok e ∧ decode e.toJson = .ok e ∧ e.toJson = .object
      [("args", .array [.string "?x", .object [("args", .array [.string "?x"]),
        ("operator", .string "bound")]]), ("operator", .string "and")] := by
  intro note inner outer e
  have hread : decode outer = .ok e := rfl
  have hnote : note.Sorted := .object (by simp) (by simpa using .string "or")
  have hvariable : (Json.array [.string "?x"]).Sorted := .array (by simpa using .string "?x")
  have hinner : inner.Sorted :=
    .object (by decide) (by simpa using ⟨hvariable, hnote, .string "bound"⟩)
  have hargs : (Json.array [.string "?x", inner]).Sorted :=
    .array (by simpa using ⟨.string "?x", hinner⟩)
  have houter : outer.Sorted := .object (by decide) (by simpa using ⟨hargs, .null, .string "and"⟩)
  have h := (decode_ok_iff_isTree_else_first_ill_shaped Json.compact outer).2.2.1 e hread
  exact ⟨hread, h.1, h.2 houter⟩

end Decode

end Expr

end SparqlExpr
