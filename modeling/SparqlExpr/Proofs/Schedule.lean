import SparqlExpr.Proofs.Drawless

/-! Evaluating rows in any order. What takes no draw comes to the same whatever has happened to the
source, so the results of many rows do not depend on when each one is evaluated. -/
namespace SparqlExpr

/-- A turn in the use of a source: a row at a position is evaluated, or something else moves the
source on. -/
inductive Turn (σ : Type) (size : Nat) where
  | row (position : Fin size)
  | other (use : σ → σ)

/-- The positions of the rows in the order in which they are evaluated. -/
def Turn.positions (turns : List (Turn σ size)) : List (Fin size) :=
  turns.filterMap fun
    | row position => some position
    | other _ => none

namespace Compiled
variable {σ : Type} {p : Compiled σ}

/-- Takes the turns one after the other. The results are marked with the positions of their rows. -/
def takeTurns (p : Compiled σ) (rows : List Row) :
    List (Turn σ rows.length) → σ → List (Fin rows.length × Except FilterError (Option Term)) × σ
  | [], s => ([], s)
  | .row position :: turns, s =>
    let (x, s) := (p.eval rows[position]).runFrom s
    let (results, s) := p.takeTurns rows turns s
    ((position, x) :: results, s)
  | .other use :: turns, s => p.takeTurns rows turns (use s)

theorem run_evalAll_cons (p : Compiled σ) (row : Row) (rows : List Row) (s : σ) :
    (p.evalAll (row :: rows)).run s =
      let (x, s) := (p.eval row).runFrom s
      (x :: ((p.evalAll rows).run s).1, ((p.evalAll rows).run s).2) := by
  rw [evalAll, List.mapM_cons]
  rfl

/-- In every row it comes to the same from all states of the source, and leaves them as they are. -/
def IgnoresSource (p : Compiled σ) : Prop :=
  ∀ (row : Row) (s s' : σ), (p.eval row).runFrom s' = (((p.eval row).runFrom s).1, s')

namespace IgnoresSource

theorem evalAll (h : p.IgnoresSource) (rows : List Row) (s s' : σ) :
    (p.evalAll rows).run s' = (rows.map fun row => ((p.eval row).runFrom s).1, s') := by
  induction rows with
  | nil => rfl
  | cons row rows ih =>
    rw [run_evalAll_cons, h row s s']
    simp only [ih, List.map_cons]

/-- Whenever a row has its turn, its result is the one that it has by itself. -/
theorem fst_takeTurns (h : p.IgnoresSource) (rows : List Row) (turns : List (Turn σ rows.length))
    (s s' : σ) :
    (p.takeTurns rows turns s').1 =
      (Turn.positions turns).map fun i => (i, ((p.eval rows[i]).runFrom s).1) := by
  induction turns generalizing s' with
  | nil => rfl
  | cons turn turns ih =>
    cases turn with
    | row position =>
      rw [takeTurns, h _ s s']
      exact congrArg (_ :: ·) (ih s')
    | other use => exact ih (use s')

/-- The results found at the positions of the rows are those of the rows in order. -/
theorem map_lookup_takeTurns (h : p.IgnoresSource) (rows : List Row)
    {turns : List (Turn σ rows.length)} (hturns : ∀ i, i ∈ Turn.positions turns) (s s' : σ) :
    (List.finRange rows.length).map (fun i => (p.takeTurns rows turns s').1.lookup i) =
      rows.map fun row => some ((p.eval row).runFrom s).1 := by
  have hlookup (i : Fin rows.length) : (p.takeTurns rows turns s').1.lookup i =
      some ((p.eval rows[i]).runFrom s).1 := by
    rw [h.fst_takeTurns rows turns s s', List.lookup_graph _ (hturns i)]
  have hrows : (List.finRange rows.length).map (fun i => rows[i]) = rows :=
    List.map_getElem_finRange rows
  simp only [hlookup]
  conv => rhs; rw [← hrows, List.map_map]
  rfl

end IgnoresSource

end Compiled

section Drawless
variable {σ σ' : Type} [RandomSource σ] [RandomSource σ'] {c : Compiler} {e : Expr}

/-- Two runs of a tree without draws, each with a source of its own. -/
theorem Compiler.runFrom_eval_of_drawless (h : e.Drawless c.registry) {p : Compiled σ}
    {p' : Compiled σ'} (hp : c.compile? (some e) = .ok p) (hp' : c.compile? (some e) = .ok p')
    (row : Row) (s : σ) (s' : σ') :
    (p'.eval row).runFrom s' = (((p.eval row).runFrom s).1, s') := by
  rw [runFrom_eval hp, runFrom_eval hp', interpret_eq_of_drawless h (fun _ _ => rfl) s s']
  obtain ⟨error | t, s⟩ := interpret c.registry row e s <;> rfl

/-- With any registry, a compiled tree without draws comes to the same with every source and from
every state, which it leaves as it is. So its rows can be evaluated in any order and between other
uses of the source: put back at the positions of the rows, the results are those of the rows by
themselves, in order. -/
theorem compiled_eval_independent_of_source_and_order (h : e.Drawless c.registry)
    {p : Compiled σ} (hp : c.compile? (some e) = .ok p) :
    (∀ (σ' : Type) [RandomSource σ'] (p' : Compiled σ'), c.compile? (some e) = .ok p' →
      ∀ (row : Row) (s : σ) (s' : σ'),
        (p'.eval row).runFrom s' = (((p.eval row).runFrom s).1, s')) ∧
    (∀ (rows : List Row) (s s' : σ),
      (p.evalAll rows).run s' = (rows.map fun row => ((p.eval row).runFrom s).1, s')) ∧
    (∀ (rows : List Row) (turns : List (Turn σ rows.length)),
      (Turn.positions turns).Perm (List.finRange rows.length) → ∀ s s' : σ,
        (List.finRange rows.length).map (fun i => (p.takeTurns rows turns s').1.lookup i) =
          ((p.evalAll rows).run s).1.map some) ∧
    ∀ (row : Row) (s : σ),
      (p.eval row).runFrom ((p.eval row).runFrom s).2 = (p.eval row).runFrom s := by
  have hignores : p.IgnoresSource := Compiler.runFrom_eval_of_drawless h hp hp
  refine ⟨fun _ _ p' hp' => Compiler.runFrom_eval_of_drawless h hp hp', fun rows s s' =>
    hignores.evalAll rows s s', fun rows turns hturns s s' => ?_, fun row s => ?_⟩
  · have hall (i : Fin rows.length) : i ∈ Turn.positions turns :=
      hturns.mem_iff.mpr (List.mem_finRange i)
    rw [hignores.map_lookup_takeTurns rows hall s s', hignores.evalAll rows s s, List.map_map]
    rfl
  · have hsame := hignores row s s
    rw [congrArg Prod.snd hsame]

end Drawless

/-- The second row is evaluated before the first, with a draw in between, and with a seeded source
the first row comes to the same. -/
theorem compiled_eval_second_row_first :
    let c := Evaluator.standard.compiler
    let e : Expr := .call "if" [.call "bound" [.var "?x"], .call "lang" [.var "?x"],
      .call "str" [.const ⟨"http://example.org/a"⟩]]
    let row : Row := .ofList [("?x", ⟨"\"a\"@en"⟩)]
    let turns : List (Turn Script [row, .empty].length) :=
      [.row 1, .other fun s => (RandomSource.nextDouble s).2, .row 0]
    let s : Script := { doubles := [], uuids := [] }
    e.Drawless .standard ∧
      ∃ (p : Compiled Script) (p' : Compiled Source), c.compile? (some e) = .ok p ∧
        c.compile? (some e) = .ok p' ∧
        (List.finRange 2).map (fun i => (p.takeTurns [row, .empty] turns s).1.lookup i) =
          [some (.ok (some ⟨"\"en\""⟩)), some (.ok (some ⟨"\"http://example.org/a\""⟩))] ∧
        (p'.eval row).runFrom (.ofSeed 7) = (.ok (some ⟨"\"en\""⟩), .ofSeed 7) := by
  intro c e row turns s
  have hdrawless : e.Drawless .standard := by
    refine Expr.drawless_standard ?_
    simp only [e, Expr.calls_call, List.mem_cons, List.not_mem_nil, or_false, exists_eq_or_imp,
      exists_eq_left, Expr.not_calls_const, Expr.not_calls_var]
    decide
  have hmeaning : (interpret .standard row e s).1 = .ok ⟨"\"en\""⟩ := by
    subst e row s
    rfl
  obtain ⟨p, hp⟩ : ∃ p : Compiled Script, c.compile? (some e) = .ok p := ⟨_, rfl⟩
  obtain ⟨p', hp'⟩ : ∃ p' : Compiled Source, c.compile? (some e) = .ok p' := ⟨_, rfl⟩
  have hfirst : ((p.eval row).runFrom s).1 = .ok (some ⟨"\"en\""⟩) :=
    (Compiler.fst_runFrom_eval_eq_ok_iff hp).mpr hmeaning
  have hsecond : ((p.eval .empty).runFrom s).1 = .ok (some ⟨"\"http://example.org/a\""⟩) :=
    (Compiler.fst_runFrom_eval_eq_ok_iff hp).mpr rfl
  obtain ⟨hsource, hall, horder, -⟩ :=
    compiled_eval_independent_of_source_and_order hdrawless hp
  refine ⟨hdrawless, p, p', hp, hp', ?_, ?_⟩
  · have hturns : (Turn.positions turns).Perm (List.finRange 2) := List.Perm.swap 0 1 []
    refine (horder [row, .empty] turns hturns s s).trans ?_
    simp only [hall _ s s, List.map_cons, List.map_nil, hfirst, hsecond]
  · rw [hsource Source p' hp' row s, hfirst]

end SparqlExpr
