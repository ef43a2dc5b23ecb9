import Mathlib.Data.List.Induction
import SparqlExpr.Operator.Builder
import SparqlExpr.Proofs.OperatorName

/-! Registries that are put together by any sequence of calls: what they hold under an operator is
what the last call for it gave, whatever other calls there were. The registry that evaluation works
with is the one that is built, without what repeats itself there. -/
namespace SparqlExpr

/-- A call that registers an operator. -/
inductive Registration where
  | value (operator : Operator) (argument result : Coercion) (implementation : Implementation)
  | raw (operator : Operator) (implementation : Implementation)
  | stub (operator : Operator) (arity : Nat)

namespace Registration

def operator : Registration → Operator
  | value operator .. => operator
  | raw operator _ => operator
  | stub operator _ => operator

/-- What is found under the operator from then on. -/
def entry : Registration → Entry
  | value operator argument result implementation =>
    { operator, arity := implementation.arity, argument, result, raw := false, implementation }
  | raw operator implementation =>
    { operator, arity := implementation.arity, argument := .asIs, result := .asIs, raw := true,
      implementation }
  | stub operator arity =>
    { operator, arity, argument := .asIs, result := .asIs, raw := false,
      implementation := .unsupported arity }

def onBuilder (b : RegistryBuilder) : Registration → RegistryBuilder
  | value operator argument result implementation =>
    b.register operator argument result implementation
  | raw operator implementation => b.registerRaw operator implementation
  | stub operator arity => b.unsupported operator arity

def onRegistry (r : Registry) : Registration → Registry
  | value operator argument result implementation =>
    r.register operator argument result implementation
  | raw operator implementation => r.registerRaw operator implementation
  | stub operator arity => r.unsupported operator arity

/-- A call after which there is no other one for its operator. -/
def IsLastIn (c : Registration) (calls : List Registration) : Prop :=
  ∃ before after, calls = before ++ c :: after ∧ ∀ d ∈ after, d.operator ≠ c.operator

variable {c d : Registration} {calls : List Registration}

theorem IsLastIn.mem (h : c.IsLastIn calls) : c ∈ calls := by
  obtain ⟨before, after, rfl, -⟩ := h
  exact List.mem_append_right _ List.mem_cons_self

theorem isLastIn_concat :
    c.IsLastIn (calls ++ [d]) ↔ c = d ∨ c.IsLastIn calls ∧ d.operator ≠ c.operator := by
  constructor
  · rintro ⟨before, after, heq, hafter⟩
    rcases List.eq_nil_or_concat after with rfl | ⟨after, e, rfl⟩
    · obtain ⟨-, hlast⟩ := List.append_inj' heq rfl
      exact Or.inl (List.head_eq_of_cons_eq hlast).symm
    · rw [List.concat_eq_append] at heq hafter
      rw [← List.cons_append, ← List.append_assoc] at heq
      obtain ⟨rfl, hlast⟩ := List.append_inj' heq rfl
      obtain rfl := List.head_eq_of_cons_eq hlast
      refine Or.inr ⟨⟨before, after, rfl, fun e he => ?_⟩, ?_⟩
      · exact hafter e (List.mem_append_left _ he)
      · exact hafter d (List.mem_append_right _ List.mem_cons_self)
  · rintro (rfl | ⟨⟨before, after, rfl, hafter⟩, hd⟩)
    · exact ⟨calls, [], rfl, fun e he => absurd he List.not_mem_nil⟩
    · refine ⟨before, after ++ [d], by simp, fun e he => ?_⟩
      rcases List.mem_append.mp he with he | he
      · exact hafter e he
      · rwa [List.mem_singleton.mp he]

theorem entries_onBuilder (b : RegistryBuilder) (c : Registration) :
    (c.onBuilder b).entries = b.entries.insert c.operator c.entry := by
  cases c <;> rfl

theorem onRegistry_eq_insert (r : Registry) (c : Registration) :
    c.onRegistry r = r.insert c.operator c.entry.toDescriptor := by
  cases c <;> rfl

theorem operator_entry (c : Registration) : c.entry.operator = c.operator := by
  cases c <;> rfl

theorem arity_entry (c : Registration) : c.entry.arity = c.entry.implementation.arity := by
  cases c <;> rfl

end Registration

theorem Operator.nodup_all : all.Nodup := by
  have hindex : all.map Operator.ctorIdx = List.range all.length := by decide
  refine List.Nodup.of_map Operator.ctorIdx ?_
  rw [hindex]
  exact List.nodup_range

namespace StoredRegistry
variable {r : StoredRegistry} {op : Operator} {e : Entry} {name : String}

/-- Each entry is found under its own operator, and takes as many arguments as it implements. -/
def WellFormed (r : StoredRegistry) : Prop :=
  ∀ op e, r.get? op = some e → e.operator = op ∧ e.arity = e.implementation.arity

theorem resolve_eq_ok_iff :
    r.resolve name = .ok e ↔ ∃ op : Operator, op.CalledBy name ∧ r.get? op = some e := by
  simp only [← Operator.ofName?_eq_some_iff, ← Option.bind_eq_some_iff, resolve]
  cases (Operator.ofName? name).bind r.get? with
  | none => simp
  | some other => simp

theorem resolve_eq_error_iff {error : FilterError} :
    r.resolve name = .error error ↔
      error = .unsupportedOperator name ∧ ∀ op : Operator, op.CalledBy name → r.get? op = none := by
  simp only [← Operator.ofName?_eq_some_iff, ← Option.bind_eq_none_iff, resolve]
  cases (Operator.ofName? name).bind r.get? with
  | none => simp [eq_comm]
  | some other => simp

namespace WellFormed

theorem mem_toList (h : r.WellFormed) : e ∈ r.toList ↔ r.get? e.operator = some e := by
  rw [toList, List.mem_filterMap]
  constructor
  · rintro ⟨op, -, he⟩
    rwa [(h op e he).1]
  · exact fun he => ⟨e.operator, e.operator.mem_all, he⟩

theorem toList_toRegistry (h : r.WellFormed) :
    r.toRegistry.toList = r.toList.map fun e => (e.operator, e.toDescriptor) := by
  rw [Registry.toList, toList, List.map_filterMap]
  refine List.filterMap_congr fun op _ => ?_
  cases he : r.get? op with
  | none => simp [toRegistry, he]
  | some e => simp [toRegistry, he, (h op e he).1]

theorem resolve_toRegistry (h : r.WellFormed) (name : String) :
    r.toRegistry.resolve name = (r.resolve name).map fun e => (e.operator, e.toDescriptor) := by
  rw [Registry.resolve, resolve]
  cases Operator.ofName? name with
  | none => rfl
  | some op =>
    cases he : r.get? op with
    | none => simp [toRegistry, he, Except.map]
    | some e => simp [toRegistry, he, (h op e he).1, Except.map]

end WellFormed

/-- The registry that a sequence of calls builds. -/
def ofRegistrations (calls : List Registration) : StoredRegistry :=
  (calls.foldl Registration.onBuilder .empty).build

variable {calls : List Registration}

/-- One more call decides about its own operator, and about no other. -/
theorem get?_ofRegistrations_concat (calls : List Registration) (c : Registration)
    (op : Operator) :
    (ofRegistrations (calls ++ [c])).get? op =
      if op = c.operator then some c.entry else (ofRegistrations calls).get? op := by
  rw [ofRegistrations, List.foldl_append, List.foldl_cons, List.foldl_nil, RegistryBuilder.build,
    get?, Registration.entries_onBuilder]
  split
  · next heq => rw [heq, AList.lookup_insert]
  · next hne =>
    rw [AList.lookup_insert_ne hne]
    rfl

theorem get?_ofRegistrations_eq_some_iff :
    (ofRegistrations calls).get? op = some e ↔
      ∃ c : Registration, c.IsLastIn calls ∧ c.operator = op ∧ c.entry = e := by
  -- From the last call back: it is the last one for its operator, and no other entry changes.
  induction calls using List.reverseRecOn with
  | nil =>
    constructor
    · intro h
      cases h
    · rintro ⟨c, hc, -⟩
      exact absurd hc.mem List.not_mem_nil
  | append_singleton calls call ih =>
    rw [get?_ofRegistrations_concat]
    simp only [Registration.isLastIn_concat]
    by_cases hop : op = call.operator
    · rw [if_pos hop, Option.some.injEq]
      constructor
      · exact fun he => ⟨call, Or.inl rfl, hop.symm, he⟩
      · rintro ⟨c, rfl | ⟨-, hne⟩, hc, he⟩
        · exact he
        · exact absurd (hop.symm.trans hc.symm) hne
    · rw [if_neg hop, ih]
      constructor
      · rintro ⟨c, hlast, rfl, he⟩
        exact ⟨c, Or.inr ⟨hlast, Ne.symm hop⟩, rfl, he⟩
      · rintro ⟨c, rfl | ⟨hlast, -⟩, hc, he⟩
        · exact absurd hc.symm hop
        · exact ⟨c, hlast, hc, he⟩

theorem get?_ofRegistrations_filter (calls : List Registration) (op : Operator) :
    (ofRegistrations (calls.filter fun c => c.operator = op)).get? op =
      (ofRegistrations calls).get? op := by
  induction calls using List.reverseRecOn with
  | nil => rfl
  | append_singleton calls call ih =>
    rw [get?_ofRegistrations_concat, List.filter_append]
    by_cases hop : op = call.operator
    · have hkept : [call].filter (fun c => c.operator = op) = [call] := by simp [hop]
      rw [hkept, get?_ofRegistrations_concat, if_pos hop, if_pos hop]
    · have hdropped : [call].filter (fun c => c.operator = op) = [] := by simp [Ne.symm hop]
      rw [hdropped, List.append_nil, ih, if_neg hop]

theorem isSome_get?_ofRegistrations :
    ((ofRegistrations calls).get? op).isSome = true ↔ op ∈ calls.map Registration.operator := by
  induction calls using List.reverseRecOn with
  | nil =>
    have hnone : (ofRegistrations []).get? op = none := rfl
    simp [hnone]
  | append_singleton calls call ih =>
    rw [get?_ofRegistrations_concat, List.map_append, List.mem_append, ← ih]
    by_cases hop : op = call.operator
    · simp [hop]
    · simp [hop]

theorem wellFormed_ofRegistrations (calls : List Registration) :
    (ofRegistrations calls).WellFormed := by
  intro op e he
  obtain ⟨c, -, rfl, rfl⟩ := get?_ofRegistrations_eq_some_iff.mp he
  exact ⟨c.operator_entry, c.arity_entry⟩

/-- Only a call for values can ask for conversions. -/
theorem asIs_of_raw_or_stub (h : (ofRegistrations calls).get? op = some e)
    (hcall : e.raw = true ∨ ∃ arity, (Registration.stub op arity).IsLastIn calls) :
    e.argument = .asIs ∧ e.result = .asIs := by
  rcases hcall with hraw | ⟨arity, hlast⟩
  · obtain ⟨c, -, -, rfl⟩ := get?_ofRegistrations_eq_some_iff.mp h
    cases c with
    | value operator argument result implementation => cases hraw
    | raw operator implementation => exact ⟨rfl, rfl⟩
    | stub operator arity => exact ⟨rfl, rfl⟩
  · have hstub := get?_ofRegistrations_eq_some_iff.mpr ⟨_, hlast, rfl, rfl⟩
    obtain rfl := Option.some.inj (hstub.symm.trans h)
    exact ⟨rfl, rfl⟩

/-- The registered operators are listed in the order of the catalogue. -/
theorem map_operator_toList (calls : List Registration) :
    (ofRegistrations calls).toList.map Entry.operator =
      Operator.all.filter fun op => op ∈ calls.map Registration.operator := by
  rw [toList, List.map_filterMap, ← List.filterMap_eq_filter]
  refine List.filterMap_congr fun op _ => ?_
  have hsome : ((ofRegistrations calls).get? op).isSome = true ↔
      op ∈ calls.map Registration.operator := isSome_get?_ofRegistrations
  cases he : (ofRegistrations calls).get? op with
  | none =>
    rw [he] at hsome
    simp [Option.guard, ← hsome]
  | some e =>
    rw [he] at hsome
    simp [Option.guard, ← hsome, (wellFormed_ofRegistrations calls op e he).1]

/-- However often an operator is registered, it is stored once. -/
theorem size_ofRegistrations (calls : List Registration) :
    (ofRegistrations calls).size = (ofRegistrations calls).toList.length := by
  -- The keys come in the order of the calls, the list in that of the catalogue.
  have hperm : (ofRegistrations calls).entries.keys.Perm
      ((ofRegistrations calls).toList.map Entry.operator) := by
    rw [map_operator_toList]
    refine (List.perm_ext_iff_of_nodup (AList.keys_nodup _) (Operator.nodup_all.filter _)).mpr ?_
    intro op
    rw [← AList.mem_keys, ← AList.lookup_isSome, List.mem_filter, and_iff_right op.mem_all,
      decide_eq_true_iff]
    exact isSome_get?_ofRegistrations
  have hlength := hperm.length_eq
  rw [List.length_map] at hlength
  rw [← hlength, size, AList.keys, List.keys, List.length_map]

end StoredRegistry

/-- The registry that evaluation works with, from the same calls. -/
def Registry.ofRegistrations (calls : List Registration) : Registry :=
  calls.foldl Registration.onRegistry empty

theorem Registry.ofRegistrations_eq_toRegistry (calls : List Registration) :
    ofRegistrations calls = (StoredRegistry.ofRegistrations calls).toRegistry := by
  induction calls using List.reverseRecOn with
  | nil => rfl
  | append_singleton calls call ih =>
    rw [ofRegistrations, List.foldl_append, List.foldl_cons, List.foldl_nil, ← ofRegistrations,
      ih, Registration.onRegistry_eq_insert, insert, StoredRegistry.toRegistry]
    refine congrArg Registry.mk (funext fun op => ?_)
    rw [StoredRegistry.get?_ofRegistrations_concat]
    split <;> rfl

/-- What a registry holds under an operator is what the last call for that operator gave: it names
the operator and the number of its arguments, and asks for no conversions where arguments are handed
over unevaluated and for stubs. The registered operators are listed once each in the order of the
catalogue. Names lead to them, a constructor of XML Schema also with the prefix `xsd:`, and no other
name leads anywhere. Evaluation works with the same entries and finds the same under every name. -/
theorem StoredRegistry.ofRegistrations_last_call (calls : List Registration) :
    let r := ofRegistrations calls
    let registry := Registry.ofRegistrations calls
    (∀ op e, r.get? op = some e ↔
      ∃ c : Registration, c.IsLastIn calls ∧ c.operator = op ∧ c.entry = e) ∧
    (∀ op, (ofRegistrations (calls.filter fun c => c.operator = op)).get? op = r.get? op) ∧
    (∀ op e, r.get? op = some e →
      e.operator = op ∧ e.arity = e.implementation.arity ∧
      ((e.raw = true ∨ ∃ arity, (Registration.stub op arity).IsLastIn calls) →
        e.argument = .asIs ∧ e.result = .asIs)) ∧
    ((∀ e, e ∈ r.toList ↔ r.get? e.operator = some e) ∧
      (r.toList.map Entry.operator =
        Operator.all.filter fun op => op ∈ calls.map Registration.operator) ∧
      (r.toList.map Entry.operator).Nodup ∧ r.size = r.toList.length) ∧
    (∀ name e, r.resolve name = .ok e ↔
      ∃ op : Operator, op.CalledBy name ∧ r.get? op = some e) ∧
    (∀ name error, r.resolve name = .error error ↔
      error = .unsupportedOperator name ∧
        ∀ op : Operator, op.CalledBy name → r.get? op = none) ∧
    (∀ op, registry.get? op = (r.get? op).map Entry.toDescriptor) ∧
    (registry.toList = r.toList.map fun e => (e.operator, e.toDescriptor)) ∧
    ∀ name, registry.resolve name =
      (r.resolve name).map fun e => (e.operator, e.toDescriptor) := by
  intro r registry
  have hr : r.WellFormed := wellFormed_ofRegistrations calls
  have hregistry : registry = r.toRegistry := Registry.ofRegistrations_eq_toRegistry calls
  refine ⟨fun op e => get?_ofRegistrations_eq_some_iff, get?_ofRegistrations_filter calls,
    fun op e he => ⟨(hr op e he).1, (hr op e he).2, asIs_of_raw_or_stub he⟩,
    ⟨fun e => hr.mem_toList, map_operator_toList calls, ?_, size_ofRegistrations calls⟩,
    fun name e => resolve_eq_ok_iff, fun name error => resolve_eq_error_iff, ?_⟩
  · rw [map_operator_toList]
    exact Operator.nodup_all.filter _
  · rw [hregistry]
    exact ⟨fun op => rfl, hr.toList_toRegistry, hr.resolve_toRegistry⟩

end SparqlExpr
