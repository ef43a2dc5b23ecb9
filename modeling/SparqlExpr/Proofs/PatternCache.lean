import SparqlExpr.Operator.Catalogue
import SparqlExpr.Operator.PatternCache
import SparqlExpr.Proofs.Outcome
import SparqlExpr.Proofs.Variables

/-! Searches that go through a cache of compiled patterns come to what they come to without one,
whatever was searched for before. -/
namespace SparqlExpr

namespace PatternCache
variable {ρ γ : Type} {engine : PatternEngine ρ} {cache : PatternCache ρ γ} {s : γ}
  {pattern : String} {r : ρ}

/-- A look-up finds what the pattern compiles to, or it finds nothing and changes nothing. -/
def Truthful (engine : PatternEngine ρ) (cache : PatternCache ρ γ) (s : γ) : Prop :=
  ∀ pattern, (∃ r, engine.compile pattern = .ok r ∧ (cache.get pattern s).1 = some r) ∨
    cache.get pattern s = (none, s)

/-- The state after a search for a pattern that compiles to `r`. -/
def load (cache : PatternCache ρ γ) (pattern : String) (r : ρ) (s : γ) : γ :=
  match cache.get pattern s with
  | (some _, s) => s
  | (none, s) => cache.put pattern r s

end PatternCache

namespace Strings
variable {ρ γ : Type} {engine : PatternEngine ρ} {cache : PatternCache ρ γ} {s : γ} {v w : Value}
  {text pattern : Literal}

/-- The pattern of a search that has a result, and what it compiles to. -/
def searched? (engine : PatternEngine ρ) (v w : Value) : Option (String × ρ) :=
  match v.toLiteral Operator.regex.name, w.toLiteral Operator.regex.name with
  | .ok _, .ok pattern =>
    match engine.compile pattern.lexical with
    | .ok r => some (pattern.lexical, r)
    | .error _ => none
  | _, _ => none

theorem compile_of_searched? {p : String × ρ} (h : searched? engine v w = some p) :
    engine.compile p.1 = .ok p.2 := by
  rw [searched?] at h
  split at h
  · split at h
    · next hr =>
      cases h
      exact hr
    · cases h
  · cases h

theorem matchPattern_literals (hv : v.toLiteral Operator.regex.name = .ok text)
    (hw : w.toLiteral Operator.regex.name = .ok pattern) :
    matchPattern engine v w =
      match engine.compile pattern.lexical with
      | .ok r => .ok (.boolean (engine.isMatch r text.lexical))
      | .error message => .error (.invalidArgument Operator.regex.name (.badPattern message)) := by
  simp only [matchPattern, hv, hw]
  rfl

theorem runFrom_matchCached_literals (hv : v.toLiteral Operator.regex.name = .ok text)
    (hw : w.toLiteral Operator.regex.name = .ok pattern) (s : γ) :
    (matchCached engine cache v w).runFrom s =
      match cache.get pattern.lexical s with
      | (some r, s) => (.ok (.boolean (engine.isMatch r text.lexical)), s)
      | (none, s) =>
        match engine.compile pattern.lexical with
        | .ok r => (.ok (.boolean (engine.isMatch r text.lexical)), cache.put pattern.lexical r s)
        | .error message =>
          (.error (.invalidArgument Operator.regex.name (.badPattern message)), s) := by
  simp only [matchCached, hv, hw, EvalM.runFrom_bind, EvalM.runFrom_lift, EvalM.runFrom_modifyGet,
    Outcome.andThen]
  obtain ⟨_ | r, s⟩ := cache.get pattern.lexical s
  · cases engine.compile pattern.lexical with
    | error message => rfl
    | ok r => rfl
  · rfl

/-- One search from a state that tells the truth: its result is the one without a cache, and only a
pattern that compiles leaves a trace. -/
theorem runFrom_matchCached (h : cache.Truthful engine s) (v w : Value) :
    (matchCached engine cache v w).runFrom s =
      (matchPattern engine v w,
        (searched? engine v w).elim s fun p => cache.load p.1 p.2 s) := by
  cases hv : v.toLiteral Operator.regex.name with
  | error error =>
    simp only [matchCached, matchPattern, searched?, hv]
    rfl
  | ok text =>
    cases hw : w.toLiteral Operator.regex.name with
    | error error =>
      simp only [matchCached, matchPattern, searched?, hv, hw]
      rfl
    | ok pattern =>
      rw [runFrom_matchCached_literals hv hw, matchPattern_literals hv hw]
      simp only [searched?, hv, hw]
      -- A hit has what the pattern compiles to, so a pattern that is refused is never one.
      rcases h pattern.lexical with ⟨r, hr, hget⟩ | hget
      · simp only [hr, Option.elim_some, PatternCache.load]
        generalize cache.get pattern.lexical s = found at hget
        obtain ⟨_, s'⟩ := found
        cases hget
        rfl
      · rw [hget]
        cases engine.compile pattern.lexical with
        | error message => rfl
        | ok r => simp only [Option.elim_some, PatternCache.load, hget]

end Strings

/-- A use of a cache. -/
inductive PatternCache.Use (ρ : Type) where
  | get (pattern : String)
  | put (pattern : String) (r : ρ)

namespace PatternCache
variable {ρ γ : Type} {engine : PatternEngine ρ} {cache : PatternCache ρ γ} {uses : List (Use ρ)}
  {pattern : String} {r : ρ}

/-- The state after a history of uses, the latest one first. -/
def after (cache : PatternCache ρ γ) : List (Use ρ) → γ
  | [] => cache.empty
  | .get pattern :: uses => (cache.get pattern (cache.after uses)).2
  | .put pattern r :: uses => cache.put pattern r (cache.after uses)

/-- What a history put under a pattern the last time. -/
def lastPut? (pattern : String) : List (Use ρ) → Option ρ
  | [] => none
  | .get _ :: uses => lastPut? pattern uses
  | .put other r :: uses => if other = pattern then some r else lastPut? pattern uses

/-- What is relied on: a look-up finds what was put under the pattern the last time, or it finds
nothing and changes nothing. It is left open what the cache drops, and when. -/
structure Lawful (cache : PatternCache ρ γ) : Prop where
  lastPut?_of_hit : ∀ {uses pattern r},
    (cache.get pattern (cache.after uses)).1 = some r → lastPut? pattern uses = some r
  unchanged_of_miss : ∀ {uses pattern},
    (cache.get pattern (cache.after uses)).1 = none →
      (cache.get pattern (cache.after uses)).2 = cache.after uses

/-- Every pattern was put in with what it compiles to. -/
def Use.AllCompiled (engine : PatternEngine ρ) (uses : List (Use ρ)) : Prop :=
  ∀ pattern r, .put pattern r ∈ uses → engine.compile pattern = .ok r

theorem Use.AllCompiled.get (h : AllCompiled engine uses) (pattern : String) :
    AllCompiled engine (.get pattern :: uses) := by
  intro other r hmem
  rcases List.mem_cons.mp hmem with heq | hmem
  · cases heq
  · exact h other r hmem

theorem Use.AllCompiled.put (h : AllCompiled engine uses) (hr : engine.compile pattern = .ok r) :
    AllCompiled engine (.put pattern r :: uses) := by
  intro other r' hmem
  rcases List.mem_cons.mp hmem with heq | hmem
  · cases heq
    exact hr
  · exact h other r' hmem

theorem put_mem_of_lastPut? (h : lastPut? pattern uses = some r) : .put pattern r ∈ uses := by
  induction uses with
  | nil => cases h
  | cons use uses ih =>
    cases use with
    | get other => exact List.mem_cons_of_mem _ (ih h)
    | put other r' =>
      rw [lastPut?] at h
      split at h
      · next heq =>
        cases h
        exact heq ▸ List.mem_cons_self
      · exact List.mem_cons_of_mem _ (ih h)

theorem Lawful.truthful (h : cache.Lawful) (huses : Use.AllCompiled engine uses) :
    cache.Truthful engine (cache.after uses) := by
  intro pattern
  cases hget : (cache.get pattern (cache.after uses)).1 with
  | some r => exact Or.inl ⟨r, huses pattern r (put_mem_of_lastPut? (h.lastPut?_of_hit hget)), rfl⟩
  | none => exact Or.inr (Prod.ext hget (h.unchanged_of_miss hget))

/-- A search adds a look-up to the history where the pattern is found, otherwise what it compiles
to. -/
theorem Lawful.exists_after_load (h : cache.Lawful) (huses : Use.AllCompiled engine uses)
    (hr : engine.compile pattern = .ok r) :
    ∃ uses', Use.AllCompiled engine uses' ∧
      cache.load pattern r (cache.after uses) = cache.after uses' := by
  rw [load]
  split
  · next hget =>
    exact ⟨.get pattern :: uses, huses.get pattern, (congrArg Prod.snd hget).symm⟩
  · next s hget =>
    have hsame := h.unchanged_of_miss (congrArg Prod.fst hget)
    rw [hget] at hsame
    exact ⟨.put pattern r :: uses, huses.put hr, congrArg _ hsame⟩

/-- The states between two searches are those that some history of compiled patterns leads to. -/
theorem Lawful.exists_after_matchCached (h : cache.Lawful) (huses : Use.AllCompiled engine uses)
    (v w : Value) :
    ∃ uses', Use.AllCompiled engine uses' ∧
      (Strings.matchCached engine cache v w).runFrom (cache.after uses) =
        (Strings.matchPattern engine v w, cache.after uses') := by
  rw [Strings.runFrom_matchCached (h.truthful huses)]
  cases hp : Strings.searched? engine v w with
  | none => exact ⟨uses, huses, rfl⟩
  | some p =>
    obtain ⟨uses', huses', hload⟩ :=
      h.exists_after_load huses (Strings.compile_of_searched? hp)
    exact ⟨uses', huses', congrArg _ hload⟩

/-- Searches one after the other, with their results and the history that they lead to. -/
theorem Lawful.exists_after_matchEach (h : cache.Lawful) (huses : Use.AllCompiled engine uses)
    (calls : List (Value × Value)) :
    ∃ uses', Use.AllCompiled engine uses' ∧
      Strings.matchEach engine cache calls (cache.after uses) =
        (calls.map fun call => Strings.matchPattern engine call.1 call.2, cache.after uses') := by
  induction calls generalizing uses with
  | nil => exact ⟨uses, huses, rfl⟩
  | cons call calls ih =>
    obtain ⟨v, w⟩ := call
    obtain ⟨between, hbetween, hone⟩ := h.exists_after_matchCached huses v w
    obtain ⟨uses', huses', hall⟩ := ih hbetween
    refine ⟨uses', huses', ?_⟩
    simp only [Strings.matchEach, hone, hall, List.map_cons]

end PatternCache

namespace RecentPatterns
variable {ρ : Type} {engine : PatternEngine ρ} {capacity : Nat} {s : RecentPatterns ρ capacity}
  {pattern : String} {r : ρ} {e : String × ρ}

theorem mem_of_mem_put (h : e ∈ (s.put pattern r).entries) :
    e = (pattern, r) ∨ e ∈ s.entries ∧ e.1 ≠ pattern := by
  rcases List.mem_cons.mp (List.mem_of_mem_take h) with heq | h
  · exact Or.inl heq
  · obtain ⟨hmem, hne⟩ := List.mem_filter.mp h
    exact Or.inr ⟨hmem, bne_iff_ne.mp hne⟩

theorem mem_of_get (h : (s.get pattern).1 = some r) : (pattern, r) ∈ s.entries := by
  rw [get] at h
  split at h
  · next r' hlookup =>
    cases h
    obtain ⟨before, behind, heq, -⟩ := List.lookup_eq_some_iff.mp hlookup
    exact heq ▸ List.mem_append_right _ List.mem_cons_self
  · cases h

theorem get_of_hit (h : (s.get pattern).1 = some r) :
    s.get pattern = (some r, s.put pattern r) := by
  rw [get] at h ⊢
  split at h
  · next hlookup =>
    cases h
    rfl
  · cases h

theorem get_of_miss (h : (s.get pattern).1 = none) : s.get pattern = (none, s) := by
  rw [get] at h ⊢
  split at h
  · cases h
  · rfl

/-- The order of the entries is all that a look-up changes. -/
theorem mem_of_mem_get (h : e ∈ (s.get pattern).2.entries) : e ∈ s.entries := by
  cases hget : (s.get pattern).1 with
  | none => rwa [get_of_miss hget] at h
  | some r =>
    rw [get_of_hit hget] at h
    rcases mem_of_mem_put h with rfl | h
    · exact mem_of_get hget
    · exact h.1

theorem lastPut?_of_mem {uses : List (PatternCache.Use ρ)}
    (h : e ∈ ((PatternCache.recent capacity).after uses).entries) :
    PatternCache.lastPut? e.1 uses = some e.2 := by
  induction uses with
  | nil => cases h
  | cons use uses ih =>
    cases use with
    | get pattern => exact ih (mem_of_mem_get h)
    | put pattern r =>
      rw [PatternCache.lastPut?]
      rcases mem_of_mem_put h with rfl | ⟨hmem, hne⟩
      · exact if_pos rfl
      · rw [if_neg (Ne.symm hne)]
        exact ih hmem

theorem lawful (capacity : Nat) :
    (PatternCache.recent capacity : PatternCache ρ (RecentPatterns ρ capacity)).Lawful where
  lastPut?_of_hit h := lastPut?_of_mem (mem_of_get h)
  unchanged_of_miss h := congrArg Prod.snd (get_of_miss h)

/-- The entries are the patterns at the end of a list, each once, with what they compile to; the
latest one is first, in the list as in the entries. -/
structure Holds (engine : PatternEngine ρ) (s : RecentPatterns ρ capacity)
    (patterns : List String) : Prop where
  compiled : ∀ e ∈ s.entries, engine.compile e.1 = .ok e.2
  recent : s.entries.map Prod.fst = patterns.eraseDups.take capacity

variable {patterns : List String}

theorem Holds.truthful (h : s.Holds engine patterns) :
    (PatternCache.recent capacity).Truthful engine s := by
  intro pattern
  cases hget : (s.get pattern).1 with
  | some r => exact Or.inl ⟨r, h.compiled (pattern, r) (mem_of_get hget), hget⟩
  | none => exact Or.inr (get_of_miss hget)

theorem map_fst_put (s : RecentPatterns ρ capacity) (pattern : String) (r : ρ) :
    (s.put pattern r).entries.map Prod.fst =
      (pattern :: (s.entries.map Prod.fst).filter (· != pattern)).take capacity := by
  rw [put, List.map_take, List.map_cons, List.filter_map]
  rfl

/-- A pattern that is moved to the front leaves room for as many others as before. -/
theorem take_erase_take {α : Type} [BEq α] (as : List α) (a : α) (n : Nat) :
    ((as.take (n + 1)).erase a).take n = (as.erase a).take n := by
  induction as generalizing n with
  | nil => rfl
  | cons b bs ih =>
    rw [List.take_succ_cons, List.erase_cons, List.erase_cons]
    split
    · rw [List.take_take, Nat.min_self]
    · cases n with
      | zero => rfl
      | succ n => rw [List.take_succ_cons, List.take_succ_cons, ih]

theorem Holds.put (h : s.Holds engine patterns) (hr : engine.compile pattern = .ok r) :
    (s.put pattern r).Holds engine (pattern :: patterns) where
  compiled e he := by
    rcases mem_of_mem_put he with rfl | ⟨hmem, -⟩
    · exact hr
    · exact h.compiled e hmem
  recent := by
    have hnodup : (patterns.eraseDups.take capacity).Nodup :=
      (nodup_eraseDups patterns).sublist (List.take_sublist capacity _)
    rw [map_fst_put, h.recent, ← hnodup.erase_eq_filter, eraseDups_cons_eq_cons_erase]
    cases capacity with
    | zero => rfl
    | succ n => rw [List.take_succ_cons, List.take_succ_cons, take_erase_take]

theorem load_recent (h : s.Holds engine patterns) (hr : engine.compile pattern = .ok r) :
    (PatternCache.recent capacity).load pattern r s = s.put pattern r := by
  cases hget : (s.get pattern).1 with
  | some r' =>
    obtain rfl := Except.ok.inj (hr.symm.trans (h.compiled (pattern, r') (mem_of_get hget)))
    simp only [PatternCache.load, PatternCache.recent, get_of_hit hget]
  | none => simp only [PatternCache.load, PatternCache.recent, get_of_miss hget]

/-- The patterns of the searches that have results, the latest one first. -/
def searchedPatterns (engine : PatternEngine ρ) (calls : List (Value × Value)) : List String :=
  (calls.filterMap fun call => (Strings.searched? engine call.1 call.2).map Prod.fst).reverse

theorem Holds.matchEach (h : s.Holds engine patterns) (calls : List (Value × Value)) :
    (Strings.matchEach engine (.recent capacity) calls s).2.Holds engine
      (searchedPatterns engine calls ++ patterns) := by
  induction calls generalizing s patterns with
  | nil => exact h
  | cons call calls ih =>
    obtain ⟨v, w⟩ := call
    simp only [Strings.matchEach, Strings.runFrom_matchCached h.truthful]
    cases hp : Strings.searched? engine v w with
    | none => simpa [searchedPatterns, hp] using ih h
    | some p =>
      have hr := Strings.compile_of_searched? hp
      simpa [searchedPatterns, hp, load_recent h hr] using ih (h.put hr)

/-- After any searches, the cache has exactly the patterns that had results last, as many different
ones as there is room for, in the order of their last use. -/
theorem entries_matchEach (engine : PatternEngine ρ) (capacity : Nat)
    (calls : List (Value × Value)) :
    (Strings.matchEach engine (.recent capacity) calls .empty).2.entries.map Prod.fst =
      (searchedPatterns engine calls).eraseDups.take capacity := by
  have hempty : (empty : RecentPatterns ρ capacity).Holds engine [] :=
    ⟨fun e he => absurd he List.not_mem_nil, List.take_nil.symm⟩
  have hall := (hempty.matchEach calls).recent
  rwa [List.append_nil] at hall

-- With room for two, a pattern that is used again outlives one that came after it.
example :
    let searches := ["a", "b", "a", "(", "c"].map fun pattern =>
      (Value.term (.simple ""), Value.term (.simple pattern))
    (Strings.matchEach Regex.engine (.recent 2) searches .empty).2.entries.map Prod.fst =
      ["c", "a"] := by
  decide

end RecentPatterns

namespace Strings

/-- Whatever was searched for before, refused patterns included, each search has the result that it
has if its pattern is compiled afresh; and a pattern that the engine refuses is reported with the
engine's message, as it is without a cache, and leaves the cache as it was. -/
theorem matchEach_eq_map_matchPattern {ρ γ : Type} (engine : PatternEngine ρ)
    {cache : PatternCache ρ γ} (h : cache.Lawful) (calls : List (Value × Value)) :
    (matchEach engine cache calls cache.empty).1 =
      calls.map (fun call => matchPattern engine call.1 call.2) ∧
    ∀ (v w : Value) (text pattern : Literal) (message : String),
      v.toLiteral Operator.regex.name = .ok text →
      w.toLiteral Operator.regex.name = .ok pattern →
      engine.compile pattern.lexical = .error message →
      (matchCached engine cache v w).runFrom (matchEach engine cache calls cache.empty).2 =
        (.error (.invalidArgument Operator.regex.name (.badPattern message)),
          (matchEach engine cache calls cache.empty).2) := by
  have hnone : PatternCache.Use.AllCompiled engine [] :=
    fun _ _ hmem => absurd hmem List.not_mem_nil
  obtain ⟨uses, huses, hall⟩ := h.exists_after_matchEach hnone calls
  change matchEach engine cache calls cache.empty = _ at hall
  refine ⟨congrArg Prod.fst hall, fun v w text pattern message hv hw hpattern => ?_⟩
  have hsearched : searched? engine v w = none := by
    simp only [searched?, hv, hw, hpattern]
  rw [hall, runFrom_matchCached (h.truthful huses), hsearched, matchPattern_literals hv hw,
    hpattern, Option.elim_none]

/-- More patterns than there is room for, and then two of them again around one that cannot be
read. -/
theorem matchEach_recent_past_capacity :
    let searches := ((List.range 40).map toString ++ ["0", "(", "39", "("]).map fun pattern =>
      (Value.term (.simple "0 of 39"), Value.term (.simple pattern))
    let cache := PatternCache.recent 32
    let state := (matchEach Regex.engine cache searches .empty).2
    (matchEach Regex.engine cache searches .empty).1 =
      searches.map (fun call => matchPattern Regex.engine call.1 call.2) ∧
    (matchCached Regex.engine cache (.term (.simple "0 of 39")) (.term (.simple "("))).runFrom
        state =
      (.error (.invalidArgument "regex" (.badPattern "regex parse error")), state) := by
  intro searches cache state
  have hall := matchEach_eq_map_matchPattern Regex.engine (RecentPatterns.lawful 32) searches
  exact ⟨hall.1, hall.2 _ _ ⟨"0 of 39", .simple⟩ ⟨"(", .simple⟩ "regex parse error" (by decide)
    (by decide) rfl⟩

end Strings

end SparqlExpr
