import SparqlExpr.Proofs.Calculation
import SparqlExpr.Proofs.CallOutcome
import SparqlExpr.Proofs.Rounding
import SparqlExpr.Proofs.Substring
import SparqlExpr.Random.Source

/-! Calls that round: the operators for rounding themselves, and the start and the length of a
substring. -/
namespace SparqlExpr

theorem Double.toRat?_dropZeroSign (x : Double) : x.dropZeroSign.toRat? = x.toRat? := by
  cases x with
  | nan => rfl
  | infinity negative => rfl
  | finite negative units h =>
    by_cases hzero : units = 0
    · have hunits : (finite negative units h).IsUnits 0 := by
        subst hzero
        cases negative <;> exact isUnits_finite _ h
      have hdropped : zero.IsUnits 0 := isUnits_finite false representable_zero
      rw [dropZeroSign_of_zero h hzero, hunits.toRat?, hdropped.toRat?]
    · rw [dropZeroSign_of_ne_zero h hzero]

/-- A literal with the lexical form of a finite number of this value. -/
def Term.HasValue (t : Term) (q : ℚ) : Prop :=
  ∃ x, t.number? = some x ∧ x.toRat? = some q

theorem Term.Spells.hasValue {t : Term} {x : Double} {q : ℚ} (h : t.Spells x)
    (hx : x.toRat? = some q) : t.HasValue q :=
  ⟨_, h.number?, by rw [Double.toRat?_dropZeroSign, hx]⟩

theorem Term.SpellsInteger.hasValue {t : Term} {k : Int} (h : t.SpellsInteger k)
    (hle : k.natAbs ≤ 2 ^ 53) : t.HasValue k := by
  obtain ⟨x, hx, hunits⟩ := h.number? hle
  exact ⟨x, hx, hunits.toRat?_whole⟩

namespace Expr
variable {σ : Type} [RandomSource σ] {row : Row} {a b c d : σ} {e f g : Expr} {s t u : Term}
  {q : ℚ} {k : Int}

theorem ComesTo.calculate (he : e.ComesTo row a (.ok t, b)) (op : Operator) (hop : op.OnValues 1)
    {f : Double → Double} (hf : op.calculation? = some (.one f)) {x : Double}
    (hx : t.number? = some x) :
    ∃ r, (call op.name [e]).ComesTo row a (.ok r, b) ∧ r.Spells (f x) := by
  obtain ⟨r, hr, happly⟩ := (Descriptor.standard_computes hf).apply (σ := σ) op (.cons hx .nil) rfl
  exact ⟨r, (AllComeTo.cons he (.nil b)).call_of_apply op.ofName?_name hop happly, hr⟩

/-- One rounding operator, from what its function does to values. -/
theorem ComesTo.calculate_hasValue (he : e.ComesTo row a (.ok t, b)) (op : Operator)
    (hop : op.OnValues 1) {f : Double → Double} (hf : op.calculation? = some (.one f))
    {value : ℚ → Int} (hvalue : ∀ {x : Double} {q : ℚ}, x.toRat? = some q →
      (f x).toRat? = some (value q : ℚ)) (ht : t.HasValue q) :
    ∃ r, (call op.name [e]).ComesTo row a (.ok r, b) ∧ r.HasValue (value q) := by
  obtain ⟨x, hx, hq⟩ := ht
  obtain ⟨r, hr, hspells⟩ := he.calculate op hop hf hx
  exact ⟨r, hr, hspells.hasValue (hvalue hq)⟩

theorem ComesTo.round (he : e.ComesTo row a (.ok t, b)) (ht : t.HasValue q) :
    ∃ r, (call "round" [e]).ComesTo row a (.ok r, b) ∧ r.HasValue (Double.roundedTo q) :=
  he.calculate_hasValue .round ⟨rfl, rfl, rfl⟩ rfl Double.toRat?_round ht

theorem ComesTo.ceil (he : e.ComesTo row a (.ok t, b)) (ht : t.HasValue q) :
    ∃ r, (call "ceil" [e]).ComesTo row a (.ok r, b) ∧ r.HasValue ⌈q⌉ :=
  he.calculate_hasValue .ceil ⟨rfl, rfl, rfl⟩ rfl Double.toRat?_ceil ht

theorem ComesTo.floor (he : e.ComesTo row a (.ok t, b)) (ht : t.HasValue q) :
    ∃ r, (call "floor" [e]).ComesTo row a (.ok r, b) ∧ r.HasValue ⌊q⌋ :=
  he.calculate_hasValue .floor ⟨rfl, rfl, rfl⟩ rfl Double.toRat?_floor ht

/-- Rounding comes to the greatest whole number that is not above the argument and one half, except
right before one half and at the odd numbers between 2^52 and 2^53, where it comes to the next one.
The other two operators keep every whole number up to 2^53, and rounding keeps all but those odd
ones. A substring starts at the rounded start and ends the rounded length after it. -/
theorem round_laws (x : Double) :
    (∀ q : ℚ, x.toRat? = some q →
      (x.round.toRat? = some (⌊q + 1 / 2⌋ : ℚ) ↔ ¬Double.RoundsPast q) ∧
      (Double.RoundsPast q → x.round.toRat? = some (⌊q + 1 / 2⌋ + 1 : ℚ))) ∧
    ∀ {σ : Type} [RandomSource σ] {row : Row} {a b c d : σ} {e f g : Expr} {s t u : Term}
      {y : Double}, e.ComesTo row a (.ok s, b) → f.ComesTo row b (.ok t, c) →
      g.ComesTo row c (.ok u, d) → t.number? = some x → u.number? = some y →
      (∃ r, (call "round" [f]).ComesTo row b (.ok r, c) ∧ r.Spells x.round) ∧
      (∀ k : Int, t.SpellsInteger k → k.natAbs ≤ 2 ^ 53 → ∃ r up down,
        (call "round" [f]).ComesTo row b (.ok r, c) ∧
        r.HasValue (if Double.IsHighOdd k then k + 1 else k : Int) ∧
        (call "ceil" [f]).ComesTo row b (.ok up, c) ∧ up.HasValue k ∧
        (call "floor" [f]).ComesTo row b (.ok down, c) ∧ down.HasValue k) ∧
      ∀ l, s.literal? = some l → (call "substr" [e, f, g]).ComesTo row a (.ok (s.withLexical
        (String.ofList (Strings.window x.round (x.round + y.round) 1 l.lexical.toList))), d) := by
  constructor
  · intro q hq
    have hround := Double.toRat?_round hq
    constructor
    · rw [hround, Option.some_inj, Int.cast_inj, Double.roundedTo_eq_iff]
    · intro hpast
      rw [hround, Double.roundedTo, if_pos hpast, Int.cast_add, Int.cast_one]
  · intro σ _ row a b c d e f g s t u y he hf hg hx hy
    refine ⟨hf.calculate .round ⟨rfl, rfl, rfl⟩ rfl hx, ?_, ?_⟩
    · intro k hk hle
      have hvalue := hk.hasValue hle
      obtain ⟨r, hr, hround⟩ := hf.round hvalue
      obtain ⟨up, hup, hceil⟩ := hf.ceil hvalue
      obtain ⟨down, hdown, hfloor⟩ := hf.floor hvalue
      rw [Double.roundedTo_intCast] at hround
      rw [Int.ceil_intCast] at hceil
      rw [Int.floor_intCast] at hfloor
      exact ⟨r, up, down, hr, hround, hup, hceil, hdown, hfloor⟩
    · intro l hl
      have hmakes := Strings.substr_makes_window hl hx hy
      exact (AllComeTo.cons he (.cons hf (.cons hg (.nil d)))).call .substr ⟨rfl, rfl, rfl⟩ hmakes

/-- The number right before one half rounds to one, and as a start of a substring it leaves out no
character that a start of one would keep. -/
theorem round_laws_before_half :
    let s : Term := ⟨"\"abc\"@en"⟩
    let t : Term := ⟨"\"0.49999999999999994\""⟩
    let u : Term := ⟨"\"-9007199254740992\"^^<integer>"⟩
    let row : Row := .ofList [("?t", t)]
    let start : Script := { doubles := [], uuids := [] }
    (∃ x q, t.number? = some x ∧ Double.toRat? x = some q ∧ Double.RoundsPast q ∧
      x.round.toRat? = some (⌊q + 1 / 2⌋ + 1 : ℚ) ∧
      (∃ r, (call "round" [.var "?t"]).ComesTo row start (.ok r, start) ∧ r.Spells x.round) ∧
      ∃ y, u.number? = some y ∧
        (call "substr" [.const s, .var "?t", .const u]).ComesTo row start (.ok (s.withLexical
          (String.ofList (Strings.window x.round (x.round + y.round) 1 ['a', 'b', 'c']))), start)) ∧
    ∃ r, (call "round" [.const u]).ComesTo row start (.ok r, start) ∧
      r.HasValue (-9007199254740992 : Int) := by
  intro s t u row start
  have hs : (const s).ComesTo row start (.ok s, start) := comesTo_const s row start
  have ht : (var "?t").ComesTo row start (.ok t, start) := comesTo_var rfl start
  have hu : (const u).ComesTo row start (.ok u, start) := comesTo_const u row start
  have hinteger : u.SpellsInteger (-9007199254740992) :=
    ⟨⟨"-9007199254740992", .typed "integer"⟩, by decide,
      .minus ⟨by decide, List.all_eq_true.mp rfl⟩⟩
  obtain ⟨y, hy, -⟩ := hinteger.number? (by decide)
  have hx : t.number? = some (.ofUnits false (Double.unitsPerHalf - Double.unitsBelowHalf)) := by
    subst t
    decide +kernel
  rw [Double.ofUnits_of_representable false Double.representable_before_half] at hx
  have hpast := (Double.halfGoesUp_iff_roundsPast _).mp Double.halfGoesUp_before_half
  obtain ⟨hround, -, hsubstr⟩ := (round_laws _).2 hs ht hu hx hy
  obtain ⟨-, hwhole, -⟩ := (round_laws _).2 hs hu ht hy hx
  obtain ⟨r, -, -, hr, hvalue, -⟩ := hwhole _ hinteger (by decide)
  have hvalue' := ((round_laws (.finite _ _ Double.representable_before_half)).1 _ rfl).2 hpast
  refine ⟨⟨_, _, hx, rfl, hpast, hvalue', hround, y, hy, ?_⟩, r, hr, hvalue⟩
  exact hsubstr ⟨"abc", .tagged "en"⟩ (by decide)

/-- An odd number between 2^52 and 2^53 is not rounded to itself. -/
theorem round_high_odd :
    let t : Term := .typed "4503599627370497" Vocabulary.xsdInteger
    let r : Term := .typed "4503599627370498" Vocabulary.xsdInteger
    let start : Script := { doubles := [], uuids := [] }
    t.HasValue (4503599627370497 : Int) ∧
      ⌊((4503599627370497 : Int) + 1 / 2 : ℚ)⌋ = 4503599627370497 ∧
      (call "round" [.const t]).ComesTo .empty start (.ok r, start) ∧
      r.HasValue (4503599627370498 : Int) := by
  intro t r start
  have ht : t.SpellsInteger 4503599627370497 :=
    Term.spellsInteger_typed (.unsigned ⟨by decide, List.all_eq_true.mp rfl⟩)
  have hr : r.SpellsInteger 4503599627370498 :=
    Term.spellsInteger_typed (.unsigned ⟨by decide, List.all_eq_true.mp rfl⟩)
  refine ⟨ht.hasValue (by decide), ?_, ?_, hr.hasValue (by decide)⟩
  · rw [Int.floor_intCast_add]
    norm_num
  · subst t r start
    exact comesTo_of_run {} (by decide +kernel)

end Expr

end SparqlExpr
