import SparqlExpr.Expr.Json
import SparqlExpr.Proofs.Outcome
import SparqlExpr.Proofs.Tree

/-! Trees written as JSON and read back. Both kinds of leaf are written as their text, so what comes
back has its leaves classified by their texts: it is the same tree exactly if they were so before,
as they are in every tree that was read or built by classifying. -/
namespace SparqlExpr.Expr

mutual

/-- Takes every leaf for what its text stands for. -/
def reread : Expr → Expr
  | const t => ofText t.text
  | var name => ofText name
  | call operator args => call operator (rereadList args)

def rereadList : List Expr → List Expr
  | [] => []
  | e :: es => e.reread :: rereadList es

end

theorem rereadList_eq_map (es : List Expr) : rereadList es = es.map reread := by
  induction es with
  | nil => rfl
  | cons e es ih => rw [rereadList, ih, List.map_cons]

/-- Constants do not start with a question mark, and variables do. -/
def Classified (e : Expr) : Prop :=
  (∀ t, (const t).Occurs e → isVariableName t.text = false) ∧
    ∀ name, (var name).Occurs e → isVariableName name = true

/-- Trees whose leaves are made from names and texts. -/
inductive Built : Expr → Prop where
  | ofName (name : String) : Built (ofName name)
  | ofText (text : String) : Built (ofText text)
  | call (operator : String) {args : List Expr} (h : ∀ e ∈ args, Built e) :
    Built (call operator args)

theorem classified_const {t : Term} : (const t).Classified ↔ isVariableName t.text = false := by
  constructor
  · exact fun h => h.1 t .here
  · intro h
    refine ⟨fun u hu => ?_, fun name hname => ?_⟩
    · cases hu; exact h
    · cases hname

theorem classified_var {name : String} : (var name).Classified ↔ isVariableName name = true := by
  constructor
  · exact fun h => h.2 name .here
  · intro h
    refine ⟨fun t ht => ?_, fun other hother => ?_⟩
    · cases ht
    · cases hother; exact h

theorem classified_call {operator : String} {args : List Expr} :
    (call operator args).Classified ↔ ∀ e ∈ args, e.Classified := by
  constructor
  · exact fun h e he =>
      ⟨fun t ht => h.1 t (.inside he ht), fun name hname => h.2 name (.inside he hname)⟩
  · intro h
    refine ⟨fun t ht => ?_, fun name hname => ?_⟩
    · cases ht with
      | inside mem ht => exact (h _ mem).1 t ht
    · cases hname with
      | inside mem hname => exact (h _ mem).2 name hname

theorem classified_ofText (text : String) : (ofText text).Classified := by
  unfold ofText
  split
  · next h => exact classified_var.mpr h
  · next h => exact classified_const.mpr (Bool.eq_false_iff.mpr h)

theorem isVariableName_append (name : String) : isVariableName ("?" ++ name) = true := by
  simp [isVariableName]

theorem classified_ofName (name : String) : (ofName name).Classified := by
  unfold ofName
  split
  · next h => exact classified_var.mpr h
  · exact classified_var.mpr (isVariableName_append name)

theorem Built.classified {e : Expr} (h : e.Built) : e.Classified := by
  induction h with
  | ofName name => exact classified_ofName name
  | ofText text => exact classified_ofText text
  | call operator _ ih => exact classified_call.mpr ih

theorem Classified.built {e : Expr} (h : e.Classified) : e.Built := by
  induction e with
  | const t =>
    have hself : ofText t.text = const t := by
      rw [ofText, classified_const.mp h]
      rfl
    exact hself ▸ .ofText t.text
  | var name =>
    have hself : ofText name = var name := by rw [ofText, classified_var.mp h]; rfl
    exact hself ▸ .ofText name
  | call operator args ih =>
    exact .call operator fun e he => ih e he (classified_call.mp h e he)

theorem reread_eq_self_iff {e : Expr} : e.reread = e ↔ e.Classified := by
  induction e with
  | const t =>
    rw [reread, classified_const, ofText]
    cases isVariableName t.text <;> simp
  | var name =>
    rw [reread, classified_var, ofText]
    cases isVariableName name <;> simp
  | call operator args ih =>
    rw [reread, rereadList_eq_map, classified_call, call.injEq, and_iff_right rfl]
    calc args.map reread = args
      _ ↔ args.map reread = args.map id := by rw [List.map_id]
      _ ↔ ∀ e ∈ args, e.reread = e := List.map_inj_left
      _ ↔ ∀ e ∈ args, e.Classified := forall₂_congr ih

theorem ofJsonList_toJsonList {es : List Expr} (h : ∀ e ∈ es, ofJson e.toJson = .ok e.reread) :
    ofJsonList (toJsonList es) = .ok (rereadList es) := by
  induction es with
  | nil => rfl
  | cons e es ih =>
    rw [List.forall_mem_cons] at h
    rw [toJsonList, ofJsonList, h.1, ih h.2]
    rfl

/-- What is written is read back with its leaves classified. -/
theorem ofJson_toJson (e : Expr) : ofJson e.toJson = .ok e.reread := by
  induction e with
  | const t => rfl
  | var name => rfl
  | call operator args ih =>
    have hoperator : Json.find? "operator" [("args", .array (toJsonList args)),
        ("operator", .string operator)] = some (.string operator) := rfl
    have hargs : ofArgs [("args", .array (toJsonList args)), ("operator", .string operator)] =
        some (ofJsonList (toJsonList args)) := rfl
    rw [toJson, ofJson, hoperator, hargs, ofJsonList_toJsonList ih]
    rfl

theorem ofArgs_eq (members : List (String × Json)) :
    ofArgs members = match Json.find? "args" members with
      | some (.array items) => some (ofJsonList items)
      | _ => none := by
  induction members with
  | nil => rfl
  | cons member rest ih =>
    obtain ⟨key, value⟩ := member
    unfold ofArgs Json.find?
    rw [List.lookup_cons]
    by_cases hkey : key = "args"
    · have hbeq : ("args" == key) = true := by simp [hkey]
      simp only [if_pos hkey, hbeq]
      cases value <;> rfl
    · have hbeq : ("args" == key) = false := by simp [Ne.symm hkey]
      simp only [if_neg hkey, hbeq, ih]
      rfl

/-- A tree that was read is a leaf from a text, or an operation on what the arguments were read as.
-/
theorem ofJson_eq_ok {node : Json} {e : Expr} (h : ofJson node = .ok e) :
    (∃ text, node = .string text ∧ e = ofText text) ∨
      ∃ operator items args, node.get? "operator" = some (.string operator) ∧
        node.get? "args" = some (.array items) ∧ ofJsonList items = .ok args ∧
        e = call operator args := by
  cases node with
  | string text =>
    cases h
    exact Or.inl ⟨text, rfl, rfl⟩
  | object members =>
    rw [ofJson, ofArgs_eq] at h
    split at h
    · next operator args hoperator hargs =>
      split at hargs
      · next items hitems =>
        cases hargs
        obtain ⟨es, hes, hcall⟩ := bind_eq_ok h
        cases hcall
        exact Or.inr ⟨operator, items, es, hoperator, hitems, hes, rfl⟩
      · cases hargs
    · cases h
  | _ => cases h

theorem ofJsonList_eq_ok {items : List Json} {es : List Expr} (h : ofJsonList items = .ok es) :
    ∀ e ∈ es, ∃ node, ofJson node = .ok e := by
  induction items generalizing es with
  | nil =>
    cases h
    exact fun e he => absurd he List.not_mem_nil
  | cons node rest ih =>
    rw [ofJsonList] at h
    obtain ⟨e, he, hrest⟩ := bind_eq_ok h
    obtain ⟨es', hes, hcons⟩ := bind_eq_ok hrest
    cases hcons
    exact List.forall_mem_cons.mpr ⟨⟨node, he⟩, ih hes⟩

theorem classified_of_ofJson {node : Json} {e : Expr} (h : ofJson node = .ok e) :
    e.Classified := by
  induction e generalizing node with
  | const _ | var _ =>
    rcases ofJson_eq_ok h with ⟨text, -, ht⟩ | ⟨operator, items, args, -, -, -, ht⟩
    · exact ht ▸ classified_ofText text
    · cases ht
  | call operator args ih =>
    rcases ofJson_eq_ok h with ⟨text, -, ht⟩ | ⟨other, items, es, -, -, hes, ht⟩
    · exact ht ▸ classified_ofText text
    · cases ht
      refine classified_call.mpr fun e he => ?_
      obtain ⟨node, hnode⟩ := ofJsonList_eq_ok hes e he
      exact ih e he hnode

/-- A tree that is written and read back is the tree with every leaf classified by its text. It is
the tree itself exactly if the leaves were so classified before, and those are exactly the trees
that are read from some JSON and exactly those that are built from names and texts. -/
theorem ofJson_toJson_eq_self_iff_classified (e : Expr) :
    ofJson e.toJson = .ok e.reread ∧ (ofJson e.toJson = .ok e ↔ e.Classified) ∧
      ((∃ node, ofJson node = .ok e) ↔ e.Classified) ∧ (e.Built ↔ e.Classified) := by
  have hself : ofJson e.toJson = .ok e ↔ e.Classified := by
    rw [ofJson_toJson, Except.ok.injEq, reread_eq_self_iff]
  refine ⟨ofJson_toJson e, hself, ?_, Built.classified, Classified.built⟩
  constructor
  · rintro ⟨node, h⟩
    exact classified_of_ofJson h
  · exact fun h => ⟨e.toJson, hself.mpr h⟩

/-- A constant that looks like a variable comes back as one. -/
example : ofJson (call "bound" [const ⟨"?x"⟩]).toJson = .ok (call "bound" [var "?x"]) := rfl

end SparqlExpr.Expr
