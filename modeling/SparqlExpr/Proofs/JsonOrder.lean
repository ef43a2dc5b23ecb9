import SparqlExpr.Json.Reader

/-! Objects as maps: a value that is read from a text lists the members of every object in the order
of their keys. -/
namespace SparqlExpr.Json

/-- Every object lists its members in the order of their keys, no key twice. -/
inductive Sorted : Json → Prop where
  | null : Sorted null
  | bool (value : Bool) : Sorted (bool value)
  | integer (value : Int) : Sorted (integer value)
  | double (value : Double) : Sorted (double value)
  | string (value : String) : Sorted (string value)
  | array {items : List Json} (h : ∀ item ∈ items, Sorted item) : Sorted (array items)
  | object {members : List (String × Json)} (hkeys : members.Pairwise fun m n => m.1 < n.1)
    (h : ∀ m ∈ members, Sorted m.2) : Sorted (object members)

theorem mem_insertMember {key : String} {value : Json} {members : List (String × Json)}
    {m : String × Json} (h : m ∈ insertMember key value members) :
    m = (key, value) ∨ m ∈ members := by
  induction members with
  | nil => exact Or.inl (List.mem_singleton.mp h)
  | cons member rest ih =>
    obtain ⟨other, v⟩ := member
    rw [insertMember] at h
    split at h
    · exact List.mem_cons.mp h
    · split at h
      · exact (List.mem_cons.mp h).imp_right (List.mem_cons_of_mem _)
      · rcases List.mem_cons.mp h with rfl | h
        · exact Or.inr List.mem_cons_self
        · exact (ih h).imp_right (List.mem_cons_of_mem _)

theorem pairwise_insertMember {members : List (String × Json)}
    (h : members.Pairwise fun m n => m.1 < n.1) (key : String) (value : Json) :
    (insertMember key value members).Pairwise fun m n => m.1 < n.1 := by
  induction members with
  | nil => exact List.pairwise_singleton _ _
  | cons member rest ih =>
    obtain ⟨other, v⟩ := member
    have hcons := List.pairwise_cons.mp h
    rw [insertMember]
    split
    · next hlt =>
      refine List.pairwise_cons.mpr ⟨List.forall_mem_cons.mpr ⟨hlt, fun m hm => ?_⟩, h⟩
      exact String.lt_trans hlt (hcons.1 m hm)
    · next hge =>
      split
      · next heq => exact List.pairwise_cons.mpr ⟨fun m hm => heq ▸ hcons.1 m hm, hcons.2⟩
      · next hne =>
        have hlt : other < key := by
          refine Decidable.byContradiction fun hle => hne ?_
          exact String.le_antisymm (String.not_lt.mp hle) (String.not_lt.mp hge)
        refine List.pairwise_cons.mpr ⟨fun m hm => ?_, ih hcons.2⟩
        rcases mem_insertMember hm with rfl | hm
        · exact hlt
        · exact hcons.1 m hm

theorem sorted_ofMembers {members : List (String × Json)} (h : ∀ m ∈ members, m.2.Sorted) :
    (ofMembers members).Sorted := by
  have hfold (sorted : List (String × Json)) (hkeys : sorted.Pairwise fun m n => m.1 < n.1)
      (hsorted : ∀ m ∈ sorted, m.2.Sorted) :
      (object (members.foldl (fun sorted m => insertMember m.1 m.2 sorted) sorted)).Sorted := by
    induction members generalizing sorted with
    | nil => exact .object hkeys hsorted
    | cons member rest ih =>
      rw [List.forall_mem_cons] at h
      refine ih h.2 _ (pairwise_insertMember hkeys _ _) fun m hm => ?_
      rcases mem_insertMember hm with rfl | hm
      · exact h.1
      · exact hsorted m hm
  exact hfold [] .nil (by simp)

theorem NumberText.sorted_toJson? {n : NumberText} {v : Json} (h : n.toJson? = some v) :
    v.Sorted := by
  unfold toJson? at h
  dsimp only at h
  by_cases hwhole : n.fraction.isNone ∧ n.exponent.isNone ∧
      keepsWhole n.negative (digitsValue n.whole)
  · rw [if_pos hwhole] at h
    cases h
    exact .integer _
  · rw [if_neg hwhole] at h
    obtain ⟨x, -, rfl⟩ := Option.map_eq_some_iff.mp h
    exact .double _

theorem sorted_readName? {text rest : List Char} {v : Json} (h : readName? text = some (v, rest)) :
    v.Sorted := by
  unfold readName? at h
  split at h
  · cases h; exact .null
  · cases h; exact .bool true
  · cases h; exact .bool false
  · cases h

/-- The reader keeps the order with so much fuel. -/
structure ReadsSorted (fuel : Nat) : Prop where
  value {depth : Nat} {text rest : List Char} {v : Json} :
    readValue? fuel depth text = some (v, rest) → v.Sorted
  items {depth : Nat} {seen : List Json} {text rest : List Char} {v : Json} :
    (∀ item ∈ seen, item.Sorted) → readItems? fuel depth seen text = some (v, rest) → v.Sorted
  member {depth : Nat} {text rest : List Char} {m : String × Json} :
    readMember? fuel depth text = some (m, rest) → m.2.Sorted
  members {depth : Nat} {seen : List (String × Json)} {text rest : List Char} {v : Json} :
    (∀ m ∈ seen, m.2.Sorted) → readMembers? fuel depth seen text = some (v, rest) → v.Sorted

namespace ReadsSorted

variable {fuel depth : Nat} {text rest : List Char} {v : Json}

theorem value_succ (ih : ReadsSorted fuel)
    (h : readValue? (fuel + 1) depth text = some (v, rest)) : v.Sorted := by
  unfold readValue? at h
  split at h
  · cases h
  · obtain ⟨⟨s, rest⟩, -, hs⟩ := Option.map_eq_some_iff.mp h
    cases hs
    exact .string s
  · split at h
    · cases h
    · cases h
      exact .array (by simp)
    · split at h
      · next item rest hitem => exact ih.items (by simpa using ih.value hitem) h
      · cases h
  · split at h
    · cases h
    · cases h
      exact sorted_ofMembers (by simp)
    · split at h
      · next member rest hmember => exact ih.members (by simpa using ih.member hmember) h
      · cases h
  · split at h
    · split at h
      · next number rest hnumber =>
        obtain ⟨w, hw, hv⟩ := Option.map_eq_some_iff.mp h
        cases hv
        exact NumberText.sorted_toJson? hw
      · cases h
    · exact sorted_readName? h

theorem items_succ (ih : ReadsSorted fuel) {seen : List Json} (hseen : ∀ item ∈ seen, item.Sorted)
    (h : readItems? (fuel + 1) depth seen text = some (v, rest)) : v.Sorted := by
  unfold readItems? at h
  split at h
  · cases h
    exact .array (by simpa using hseen)
  · split at h
    · next item rest hitem =>
      exact ih.items (List.forall_mem_cons.mpr ⟨ih.value hitem, hseen⟩) h
    · cases h
  · cases h

theorem member_succ (ih : ReadsSorted fuel) {m : String × Json}
    (h : readMember? (fuel + 1) depth text = some (m, rest)) : m.2.Sorted := by
  unfold readMember? at h
  split at h
  · split at h
    · split at h
      · split at h
        · next value rest hvalue =>
          cases h
          exact ih.value hvalue
        · cases h
      · cases h
    · cases h
  · cases h

theorem members_succ (ih : ReadsSorted fuel) {seen : List (String × Json)}
    (hseen : ∀ m ∈ seen, m.2.Sorted)
    (h : readMembers? (fuel + 1) depth seen text = some (v, rest)) : v.Sorted := by
  unfold readMembers? at h
  split at h
  · cases h
    exact sorted_ofMembers fun m hm => hseen m (List.mem_reverse.mp hm)
  · split at h
    · next member rest hmember =>
      exact ih.members (List.forall_mem_cons.mpr ⟨ih.member hmember, hseen⟩) h
    · cases h
  · cases h

end ReadsSorted

theorem readsSorted (fuel : Nat) : ReadsSorted fuel := by
  induction fuel with
  | zero =>
    exact
      { value := fun h => by simp [readValue?] at h
        items := fun _ h => by simp [readItems?] at h
        member := fun h => by simp [readMember?] at h
        members := fun _ h => by simp [readMembers?] at h }
  | succ fuel ih => exact ⟨ih.value_succ, ih.items_succ, ih.member_succ, ih.members_succ⟩

/-- The objects of a value that is read from the front of a text are maps. -/
theorem sorted_of_readFront? {depth : Nat} {text rest : List Char} {v : Json}
    (h : readFront? depth text = some (v, rest)) : v.Sorted :=
  (readsSorted _).value h

end SparqlExpr.Json
