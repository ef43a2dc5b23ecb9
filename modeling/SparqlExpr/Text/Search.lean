/-! Looking for one text inside another. -/
namespace SparqlExpr.Text

/-- Splits around the first occurrence of a needle, which belongs to neither part. -/
def splitAtFirst? (needle : List Char) : List Char → Option (List Char × List Char)
  | [] => if needle = [] then some ([], []) else none
  | c :: rest =>
    if needle.isPrefixOf (c :: rest) then some ([], (c :: rest).drop needle.length)
    else (splitAtFirst? needle rest).map fun (before, after) => (c :: before, after)

theorem isSome_splitAtFirst?_iff {needle text : List Char} :
    (splitAtFirst? needle text).isSome = true ↔ needle <:+: text := by
  induction text with
  | nil =>
    rw [splitAtFirst?, List.infix_nil]
    split <;> simp [*]
  | cons c rest ih =>
    rw [splitAtFirst?, List.infix_cons_iff, ← List.isPrefixOf_iff_prefix, ← ih]
    split <;> simp [*]

/-- The parts are those around an occurrence, and no other occurrence stands further to the left. -/
theorem splitAtFirst?_eq_some {needle text before after : List Char}
    (h : splitAtFirst? needle text = some (before, after)) :
    text = before ++ needle ++ after ∧
      ∀ p q, text = p ++ needle ++ q → before.length ≤ p.length := by
  induction text generalizing before with
  | nil =>
    rw [splitAtFirst?] at h
    split at h
    · next hempty => cases h; exact ⟨by simp [hempty], fun p q _ => Nat.zero_le _⟩
    · cases h
  | cons c rest ih =>
    rw [splitAtFirst?] at h
    split at h
    · next hprefix =>
      cases h
      have htext := List.prefix_iff_eq_append.mp (List.isPrefixOf_iff_prefix.mp hprefix)
      exact ⟨htext.symm, fun p q _ => Nat.zero_le _⟩
    · next hprefix =>
      obtain ⟨⟨before', after'⟩, hrest, hparts⟩ := Option.map_eq_some_iff.mp h
      cases hparts
      obtain ⟨htext, hfirst⟩ := ih hrest
      refine ⟨by rw [htext]; rfl, fun p q hpq => ?_⟩
      cases p with
      | nil => exact absurd (List.isPrefixOf_iff_prefix.mpr ⟨q, hpq.symm⟩) hprefix
      | cons d p => exact Nat.succ_le_succ (hfirst p q (List.cons.inj hpq).2)

end SparqlExpr.Text
