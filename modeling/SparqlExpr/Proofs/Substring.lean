import Mathlib
import SparqlExpr.Proofs.IntegerText
import SparqlExpr.Proofs.TextOperators

/-! Substrings are windows on a text: what stands at the positions from a start for a length. -/
namespace SparqlExpr

namespace Text
variable {first last : Int} {text : List Char}

/-- The characters at the positions from `first` up to `last`, in order. The text starts at the
position `origin`. -/
def between (first last : Int) (origin : Nat) (text : List Char) : List Char :=
  ((text.zipIdx origin).filter fun (_, position) =>
    decide (first ≤ position ∧ position < last)).map (·.1)

theorem between_cons (first last : Int) (origin : Nat) (c : Char) (rest : List Char) :
    between first last origin (c :: rest) =
      if first ≤ origin ∧ origin < last then c :: between first last (origin + 1) rest
      else between first last (origin + 1) rest := by
  simp only [between, List.zipIdx_cons, List.filter_cons, decide_eq_true_eq]
  split <;> rfl

/-- A window is one contiguous piece of the text. -/
theorem between_eq_drop_take (first last : Int) (origin : Nat) (text : List Char) :
    between first last origin text =
      (text.take (last - origin).toNat).drop (first - origin).toNat := by
  induction text generalizing origin with
  | nil => simp [between]
  | cons c rest ih =>
    rw [between_cons, ih]
    -- Either the window ends before this character, or one more is taken; then, likewise, it starts
    -- after this character, or nothing is dropped.
    by_cases hlast : origin < last
    · have htake : (last - origin).toNat = (last - (origin + 1 : Nat)).toNat + 1 := by omega
      rw [htake, List.take_succ_cons]
      by_cases hfirst : first ≤ origin
      · have hdrop : (first - origin).toNat = 0 := by omega
        have hdrop' : (first - (origin + 1 : Nat)).toNat = 0 := by omega
        rw [if_pos ⟨hfirst, hlast⟩, hdrop, hdrop', List.drop_zero, List.drop_zero]
      · have hdrop : (first - origin).toNat = (first - (origin + 1 : Nat)).toNat + 1 := by omega
        rw [if_neg (fun h => hfirst h.1), hdrop, List.drop_succ_cons]
    · have htake : (last - origin).toNat = 0 := by omega
      have htake' : (last - (origin + 1 : Nat)).toNat = 0 := by omega
      rw [if_neg (fun h => hlast h.2), htake, htake', List.take_zero, List.take_zero,
        List.drop_nil, List.drop_nil]

theorem length_between (first last : Int) (text : List Char) :
    (between first last 1 text).length =
      (Finset.Ico first last ∩ Finset.Icc 1 (text.length : Int)).card := by
  have hwhole : Finset.Icc 1 (text.length : Int) = Finset.Ico 1 (text.length + 1 : Int) := by
    ext p
    simp only [Finset.mem_Icc, Finset.mem_Ico]
    omega
  rw [hwhole, Finset.Ico_inter_Ico, Int.card_Ico, between_eq_drop_take, List.length_drop,
    List.length_take]
  omega

theorem between_eq_nil (h : last ≤ first ∨ last ≤ 1 ∨ text.length < first) :
    between first last 1 text = [] := by
  rw [between_eq_drop_take]
  apply List.drop_eq_nil_of_le
  rw [List.length_take]
  omega

/-- Two adjacent windows that start with the text and end with it make up the text. -/
theorem between_append_between {m : Nat} (hm : m ≤ text.length) :
    between 1 (1 + m) 1 text ++ between (m + 1) (m + 1 + (text.length - m)) 1 text = text := by
  have hupto : between 1 (1 + m) 1 text = text.take m := by
    rw [between_eq_drop_take]
    have htake : (1 + (m : Int) - (1 : Nat)).toNat = m := by omega
    rw [htake]
    rfl
  have hrest : between (m + 1) (m + 1 + (text.length - m)) 1 text = text.drop m := by
    rw [between_eq_drop_take]
    have htake : ((m : Int) + 1 + (text.length - m) - (1 : Nat)).toNat = text.length := by omega
    have hdrop : ((m : Int) + 1 - (1 : Nat)).toNat = m := by omega
    rw [htake, hdrop, List.take_length]
  rw [hupto, hrest, List.take_append_drop]

end Text

namespace Strings

/-- A window between whole numbers holds the positions between them. -/
theorem window_eq {first last : Double} {i j : Int} (hfirst : first.IsHalves (2 * i))
    (hlast : last.IsHalves (2 * j)) {position : Nat} {text : List Char}
    (hlt : 2 * (position + text.length) < 2 ^ 53) :
    window first last position text = Text.between i j position text := by
  induction text generalizing position with
  | nil => rfl
  | cons c rest ih =>
    rw [List.length_cons] at hlt
    have hposition : (Double.ofNat position).IsHalves (2 * position) :=
      Double.isHalves_ofNat (by omega)
    have hkept : (first.lessOrEqual (Double.ofNat position) &&
        (Double.ofNat position).less last) = true ↔ i ≤ position ∧ position < j := by
      rw [Bool.and_eq_true, hfirst.lessOrEqual_iff hposition, hposition.less_iff hlast]
      omega
    simp only [window, hkept, Text.between_cons]
    rw [ih (by omega)]

theorem numberOf_eq (op : Operator) {t : Term} {x : Double} (h : t.number? = some x) :
    numberOf op (.term t) = .ok x := by
  obtain ⟨l, hl, hx⟩ := Option.bind_eq_some_iff.mp h
  simp only [numberOf, Value.toLiteral_of_literal? hl, ok_bind, hx, pure_eq_ok]

/-- Start and length are rounded, and so is the position that they come to. -/
theorem substr_makes_window {s start length : Term} {l : Literal} {x y : Double}
    (hs : s.literal? = some l) (hx : start.number? = some x) (hy : length.number? = some y) :
    Operator.substr.Makes [s, start, length] (.ok (s.withLexical
      (String.ofList (window x.round (x.round + y.round) 1 l.lexical.toList)))) := by
  refine Operator.makes_ternary .substr rfl (v := .ok (.term (s.withLexical
    (String.ofList (window x.round (x.round + y.round) 1 l.lexical.toList))))) ?_
  simp only [Value.toTerm, Value.toLiteral_of_literal? hs, numberOf_eq .substr hx,
    numberOf_eq .substr hy, ok_bind, pure_eq_ok]

theorem substr_makes {s start length : Term} {l : Literal} {i k : Int}
    (hs : s.literal? = some l) (hstart : start.SpellsInteger i) (hlength : length.SpellsInteger k)
    (hn : l.lexical.length < 2 ^ 50) (hi : i.natAbs ≤ 2 ^ 50) (hk : k.natAbs ≤ 2 ^ 50) :
    Operator.substr.Makes [s, start, length]
      (.ok (s.withLexical (String.ofList (Text.between i (i + k) 1 l.lexical.toList)))) := by
  obtain ⟨x, hx, hfirst⟩ := hstart.number? (by omega)
  obtain ⟨y, hy, hcount⟩ := hlength.number? (by omega)
  have hround := hfirst.isHalves_ones.round (by omega)
  have hlast : (x.round + y.round).IsHalves (2 * (i + k)) := by
    rw [Int.mul_add]
    exact hround.add (hcount.isHalves_ones.round (by omega)) (by omega)
  have hfits : 2 * (1 + l.lexical.toList.length) < 2 ^ 53 := by
    rw [String.length_toList]
    omega
  rw [← window_eq hround hlast hfits]
  exact substr_makes_window hs hx hy

end Strings

/-- The substring of a constant from a start for a length, which are constants too. -/
def Expr.substring (s start length : Term) : Expr :=
  call "substr" [const s, const start, const length]

theorem Expr.substring_reduces {s start length t : Term}
    (h : Operator.substr.Makes [s, start, length] (.ok t)) :
    (substring s start length).Reduces (.ok t) := by
  have hargs : ReduceTo [const s, const start, const length] [s, start, length] :=
    .cons (reduces_const s) (.cons (reduces_const start) (.cons (reduces_const length) .nil))
  exact Reduces.call (by decide) ⟨_, rfl, rfl, rfl⟩ rfl hargs h

/-- A substring of a literal has the kind of the literal and holds the characters between its two
positions, so that its length is the number of the positions that both the window and the text
have, and the windows up to a position and from the next one on make up the whole text. -/
theorem substring_window_and_tiling {s : Term} {l : Literal} (hs : s.literal? = some l)
    (hn : l.lexical.length < 2 ^ 50) :
    (∀ (start length : Term) (i k : Int), start.SpellsInteger i → length.SpellsInteger k →
      i.natAbs < 2 ^ 50 → k.natAbs < 2 ^ 50 → ∃ (part : Term) (text : String),
        (Expr.substring s start length).Evaluates (.ok part) ∧
        part.literal? = some ⟨text, l.kind⟩ ∧
        text.toList = Text.between i (i + k) 1 l.lexical.toList ∧
        (k ≤ 0 ∨ i + k ≤ 1 ∨ l.lexical.length < i → text = "") ∧
        (Expr.call "strlen" [Expr.substring s start length]).Evaluates
          (.ok (.typed
            (toString (Finset.Ico i (i + k) ∩ Finset.Icc 1 (l.lexical.length : Int)).card)
            Vocabulary.xsdInteger))) ∧
    (∀ m ≤ l.lexical.length, ∀ first size next rest : Term, first.SpellsInteger 1 →
      size.SpellsInteger m → next.SpellsInteger (m + 1) →
      rest.SpellsInteger (l.lexical.length - m) → ∃ (left right : Term) (p q : String),
        (Expr.substring s first size).Evaluates (.ok left) ∧
        (Expr.substring s next rest).Evaluates (.ok right) ∧
        left.literal? = some ⟨p, l.kind⟩ ∧ right.literal? = some ⟨q, l.kind⟩ ∧
        p ++ q = l.lexical) := by
  have hpart (text : String) : (s.withLexical text).literal? = some ⟨text, l.kind⟩ := by
    rw [Term.literal?_withLexical, Term.kind_of_literal? hs]
  constructor
  · intro start length i k hstart hlength hi hk
    have hmakes := Strings.substr_makes hs hstart hlength hn (by omega) (by omega)
    have hreduces := Expr.substring_reduces hmakes
    have hsize := (hreduces.strLen (hpart _)).evaluates
    rw [String.length_ofList, Text.length_between, String.length_toList] at hsize
    refine ⟨_, _, hreduces.evaluates, hpart _, String.toList_ofList, ?_, hsize⟩
    intro hempty
    rw [Text.between_eq_nil, String.ofList_eq_empty_iff]
    rw [String.length_toList]
    omega
  · intro m hm first size next rest hfirst hsize hnext hrest
    have hleft := Strings.substr_makes hs hfirst hsize hn (by omega) (by omega)
    have hright := Strings.substr_makes hs hnext hrest hn (by omega) (by omega)
    refine ⟨_, _, _, _, (Expr.substring_reduces hleft).evaluates,
      (Expr.substring_reduces hright).evaluates, hpart _, hpart _, ?_⟩
    rw [← String.toList_inj, String.toList_append, String.toList_ofList, String.toList_ofList,
      ← String.length_toList, Text.between_append_between]
    rwa [String.length_toList]

/-- The window starts before the text, and the lexical form holds a quote and longer characters. -/
theorem substring_window_and_tiling_quoted :
    let s : Term := ⟨"\"a\"é🙂z\"@fr"⟩
    let integer (text : String) : Term := .typed text Vocabulary.xsdInteger
    (∃ part, (Expr.substring s (integer "-1") (integer "+5")).Evaluates (.ok part) ∧
        part.literal? = some ⟨"a\"é", .tagged "fr"⟩ ∧
        (Expr.call "strlen" [Expr.substring s (integer "-1") (integer "+5")]).Evaluates
          (.ok (integer "3"))) ∧
      ∃ left right p q, (Expr.substring s (integer "01") (integer "2")).Evaluates (.ok left) ∧
        (Expr.substring s (integer "3") (integer "3")).Evaluates (.ok right) ∧
        left.literal? = some ⟨p, .tagged "fr"⟩ ∧ right.literal? = some ⟨q, .tagged "fr"⟩ ∧
        p ++ q = "a\"é🙂z" := by
  intro s integer
  have hs : s.literal? = some ⟨"a\"é🙂z", .tagged "fr"⟩ := by decide
  obtain ⟨hwindow, htiling⟩ := substring_window_and_tiling hs (by decide)
  constructor
  · have hstart : (integer "-1").SpellsInteger (-1) :=
      Term.spellsInteger_typed (.minus ⟨by decide, List.all_eq_true.mp rfl⟩)
    have hlength : (integer "+5").SpellsInteger 5 :=
      Term.spellsInteger_typed (.plus ⟨by decide, List.all_eq_true.mp rfl⟩)
    obtain ⟨part, text, heval, hpart, htext, -, hsize⟩ :=
      hwindow _ _ _ _ hstart hlength (by decide) (by decide)
    obtain rfl : text = "a\"é" := String.toList_inj.mp htext
    exact ⟨part, heval, hpart, hsize⟩
  · have hfirst : (integer "01").SpellsInteger 1 :=
      Term.spellsInteger_typed (.unsigned ⟨by decide, List.all_eq_true.mp rfl⟩)
    have hsize : (integer "2").SpellsInteger 2 :=
      Term.spellsInteger_typed (.unsigned ⟨by decide, List.all_eq_true.mp rfl⟩)
    have hrest : (integer "3").SpellsInteger 3 :=
      Term.spellsInteger_typed (.unsigned ⟨by decide, List.all_eq_true.mp rfl⟩)
    exact htiling 2 (by decide) _ _ _ _ hfirst hsize hrest hrest

end SparqlExpr
