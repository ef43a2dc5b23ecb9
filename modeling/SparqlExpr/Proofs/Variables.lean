import Mathlib.Data.List.Induction
import SparqlExpr.Proofs.Tree

/-! The variables that a tree reports are those that occur in it, each once, in the order of their
first occurrences from left to right. -/
namespace SparqlExpr

section FirstOccurrences
variable {α : Type} [BEq α] [LawfulBEq α] {as : List α} {a : α}

theorem eraseDups_concat_of_mem (h : a ∈ as) : (as ++ [a]).eraseDups = as.eraseDups := by
  have hnone : [a].removeAll as = [] := by simp [List.removeAll, h]
  rw [List.eraseDups_append, hnone, List.eraseDups_nil, List.append_nil]

theorem eraseDups_concat_of_not_mem (h : a ∉ as) :
    (as ++ [a]).eraseDups = as.eraseDups ++ [a] := by
  have hone : [a].removeAll as = [a] := by simp [List.removeAll, h]
  rw [List.eraseDups_append, hone]
  rfl

/-- Duplicates may be dropped from the second part before they are dropped from the whole. -/
theorem eraseDups_append_eraseDups (as bs : List α) :
    (as ++ bs.eraseDups).eraseDups = (as ++ bs).eraseDups := by
  induction bs using List.reverseRecOn with
  | nil => rfl
  | append_singleton bs b ih =>
    by_cases hb : b ∈ bs
    · have hmem : b ∈ as ++ bs := List.mem_append_right as hb
      rw [eraseDups_concat_of_mem hb, ih, ← List.append_assoc, eraseDups_concat_of_mem hmem]
    · rw [eraseDups_concat_of_not_mem hb, ← List.append_assoc, ← List.append_assoc]
      by_cases ha : b ∈ as
      · rw [eraseDups_concat_of_mem (List.mem_append_left _ ha),
          eraseDups_concat_of_mem (List.mem_append_left _ ha), ih]
      · have hnot : b ∉ as ++ bs.eraseDups := by simp [ha, hb]
        have hnot' : b ∉ as ++ bs := by simp [ha, hb]
        rw [eraseDups_concat_of_not_mem hnot, eraseDups_concat_of_not_mem hnot', ih]

/-- What is left stands in the order of the first occurrences. -/
theorem pairwise_idxOf_eraseDups (as : List α) :
    as.eraseDups.Pairwise fun a b => as.idxOf a < as.idxOf b := by
  induction as using List.reverseRecOn with
  | nil => exact .nil
  | append_singleton as a ih =>
    have hkept : as.eraseDups.Pairwise fun b c => (as ++ [a]).idxOf b < (as ++ [a]).idxOf c := by
      refine ih.imp_of_mem fun hb hc h => ?_
      rw [List.mem_eraseDups] at hb hc
      rwa [List.idxOf_append, List.idxOf_append, if_pos hb, if_pos hc]
    by_cases ha : a ∈ as
    · rwa [eraseDups_concat_of_mem ha]
    · rw [eraseDups_concat_of_not_mem ha]
      refine List.pairwise_append.mpr ⟨hkept, List.pairwise_singleton _ _, fun b hb c hc => ?_⟩
      rw [List.mem_eraseDups] at hb
      obtain rfl := List.mem_singleton.mp hc
      rw [List.idxOf_append, List.idxOf_append, if_pos hb, if_neg ha]
      have hlt := List.idxOf_lt_length_of_mem hb
      omega

theorem nodup_eraseDups (as : List α) : as.eraseDups.Nodup := by
  refine (pairwise_idxOf_eraseDups as).imp fun h heq => ?_
  rw [heq] at h
  exact Nat.lt_irrefl _ h

theorem eraseDups_filter (p : α → Bool) (as : List α) :
    (as.filter p).eraseDups = as.eraseDups.filter p := by
  induction as using List.reverseRecOn with
  | nil => rfl
  | append_singleton as a ih =>
    cases hp : p a with
    | true =>
      have hkept : [a].filter p = [a] := List.filter_eq_self.mpr (by simp [hp])
      rw [List.filter_append, hkept]
      by_cases ha : a ∈ as
      · have hmem := List.mem_filter.mpr ⟨ha, hp⟩
        rw [eraseDups_concat_of_mem hmem, eraseDups_concat_of_mem ha, ih]
      · have hnot : a ∉ as.filter p := fun h => ha (List.mem_filter.mp h).1
        rw [eraseDups_concat_of_not_mem hnot, eraseDups_concat_of_not_mem ha, ih,
          List.filter_append, hkept]
    | false =>
      have hdropped : [a].filter p = [] := List.filter_eq_nil_iff.mpr (by simp [hp])
      rw [List.filter_append, hdropped, List.append_nil, ih]
      by_cases ha : a ∈ as
      · rw [eraseDups_concat_of_mem ha]
      · rw [eraseDups_concat_of_not_mem ha, List.filter_append, hdropped, List.append_nil]

theorem eraseDups_cons_eq_cons_erase (a : α) (as : List α) :
    (a :: as).eraseDups = a :: as.eraseDups.erase a := by
  rw [List.eraseDups_cons, eraseDups_filter, (nodup_eraseDups as).erase_eq_filter]
  rfl

end FirstOccurrences

namespace Expr
variable {name : String} {seen : List String}

theorem mem_collectVariablesList {es : List Expr}
    (h : ∀ e ∈ es, ∀ seen,
      name ∈ e.collectVariables seen ↔ name ∈ seen ∨ (var name).Occurs e) :
    name ∈ collectVariablesList seen es ↔ name ∈ seen ∨ ∃ e ∈ es, (var name).Occurs e := by
  induction es generalizing seen with
  | nil => simp [collectVariablesList]
  | cons e es ih =>
    rw [List.forall_mem_cons] at h
    simp only [collectVariablesList, ih h.2, h.1 seen, or_assoc, List.mem_cons, exists_eq_or_imp]

theorem mem_collectVariables {e : Expr} :
    name ∈ e.collectVariables seen ↔ name ∈ seen ∨ (var name).Occurs e := by
  induction e generalizing seen with
  | const t =>
    rw [collectVariables, occurs_const, or_iff_left (by simp)]
  | var other =>
    rw [collectVariables, occurs_var, var.injEq]
    split
    · next hseen =>
      rw [List.contains_iff_mem] at hseen
      exact (or_iff_left_of_imp fun h => h ▸ hseen).symm
    · rw [List.mem_append, List.mem_singleton]
  | call operator args ih =>
    have hcall : (var name).Occurs (call operator args) ↔ ∃ e ∈ args, (var name).Occurs e :=
      occurs_call.trans (or_iff_right fun h => nomatch h)
    rw [collectVariables, hcall]
    exact mem_collectVariablesList fun e he seen => ih e he

theorem mem_variableNames {e : Expr} : name ∈ e.variableNames ↔ (var name).Occurs e := by
  rw [variableNames, mem_collectVariables]
  exact or_iff_right (List.not_mem_nil)

/-- The name of a leaf that is a variable. -/
def variableName? : Expr → Option String
  | var name => some name
  | _ => none

/-- The names of all leaves that are variables, from left to right. -/
def variableOccurrences (e : Expr) : List String :=
  (e.nodes 0).filterMap fun node => node.2.variableName?

theorem variableOccurrences_call (operator : String) (args : List Expr) :
    (call operator args).variableOccurrences = args.flatMap variableOccurrences := by
  have hargs : args.flatMap (fun e => (e.nodes 1).filterMap fun node => node.2.variableName?) =
      args.flatMap variableOccurrences := by
    rw [List.flatMap_def, List.flatMap_def]
    exact congrArg List.flatten (List.map_congr_left fun e _ => filterMap_nodes variableName? 1 0 e)
  rw [variableOccurrences, filterMap_nodes_call, hargs]
  rfl

/-- Collecting goes on from the names that were met before, each of them once. -/
theorem collectVariablesList_eraseDups {f : Expr → List String} {es : List Expr}
    (h : ∀ e ∈ es, ∀ seen : List String,
      e.collectVariables seen.eraseDups = (seen ++ f e).eraseDups) (seen : List String) :
    collectVariablesList seen.eraseDups es = (seen ++ es.flatMap f).eraseDups := by
  induction es generalizing seen with
  | nil => rw [collectVariablesList, List.flatMap_nil, List.append_nil]
  | cons e es ih =>
    rw [List.forall_mem_cons] at h
    rw [collectVariablesList, h.1, ih h.2, List.append_assoc, List.flatMap_cons]

theorem collectVariables_eraseDups (e : Expr) (seen : List String) :
    e.collectVariables seen.eraseDups = (seen ++ e.variableOccurrences).eraseDups := by
  induction e generalizing seen with
  | const t =>
    have hnone : (const t).variableOccurrences = [] := rfl
    rw [collectVariables, hnone, List.append_nil]
  | var name =>
    have hone : (var name).variableOccurrences = [name] := rfl
    rw [collectVariables, hone]
    by_cases h : name ∈ seen
    · rw [eraseDups_concat_of_mem h, if_pos (by simp [h])]
    · rw [eraseDups_concat_of_not_mem h, if_neg (by simp [h])]
  | call operator args ih =>
    rw [collectVariables, variableOccurrences_call]
    exact collectVariablesList_eraseDups ih seen

theorem variableNames_eq_eraseDups (e : Expr) :
    e.variableNames = e.variableOccurrences.eraseDups :=
  e.collectVariables_eraseDups []

/-- For an operation the names of its arguments are put together, and later duplicates dropped. -/
theorem variableNames_call (operator : String) (args : List Expr) :
    (call operator args).variableNames = (args.flatMap variableNames).eraseDups := by
  rw [variableNames, collectVariables]
  refine collectVariablesList_eraseDups (fun e _ seen => ?_) []
  rw [collectVariables_eraseDups, variableNames_eq_eraseDups, eraseDups_append_eraseDups]

/-- A tree reports the names of its variables, none of them twice and in the order in which they
are first met from left to right; an operation, what its arguments report one after the other. -/
theorem variableNames_first_occurrences (e : Expr) :
    (∀ name, name ∈ e.variableNames ↔ (var name).Occurs e) ∧
      e.variableNames.Nodup ∧
      e.variableNames.Pairwise (fun name later =>
        e.variableOccurrences.idxOf name < e.variableOccurrences.idxOf later) ∧
      ∀ operator args, e = call operator args →
        e.variableNames = (args.flatMap variableNames).eraseDups := by
  refine ⟨fun name => mem_variableNames, ?_, ?_, ?_⟩
  · rw [variableNames_eq_eraseDups]
    exact nodup_eraseDups _
  · rw [variableNames_eq_eraseDups]
    exact pairwise_idxOf_eraseDups _
  · rintro operator args rfl
    exact variableNames_call operator args

example : (call "if" [var "?b", call "+" [var "?a", var "?b"], var "?a"]).variableNames =
    ["?b", "?a"] := by decide

end Expr

end SparqlExpr
