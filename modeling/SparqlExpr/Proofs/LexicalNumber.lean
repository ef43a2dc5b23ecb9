import SparqlExpr.Proofs.NumberGrammar
import SparqlExpr.Proofs.ResultDatatype

/-! The lexical forms that are read as numbers, and the arguments that are taken for numbers. -/
namespace SparqlExpr

namespace Double
variable {text : String} {body : List Char}

/-- A numeral or one of the four names, with white space around it or not. -/
def IsLexical (text : String) : Prop :=
  ∃ body, Unicode.TrimsTo text.toList body ∧
    (body ∈ lexicalNames ∨ ∃ n : Numeral, n.WrittenAs body)

theorem ofLexical?_of_named {x : Double} (htrim : Unicode.trim text.toList = body)
    (hnamed : named? body = some x) : ofLexical? text = some x := by
  simp only [ofLexical?, htrim, hnamed]

/-- A name that is spelled in another way is no numeral either. -/
theorem ofLexical?_of_isName (htrim : Unicode.trim text.toList = body) (h : IsName body)
    (hnamed : body ∉ lexicalNames) : ofLexical? text = none := by
  have hnone : named? body = none := by
    rwa [← Option.not_isSome_iff_eq_none, isSome_named?_iff]
  rw [ofLexical?_of_not_named htrim hnone, parse?_eq_none_of_isName h, Option.map_none]

theorem isSome_ofLexical?_iff : (ofLexical? text).isSome = true ↔ IsLexical text := by
  constructor
  · intro h
    refine ⟨_, Unicode.trimsTo_trim text.toList, ?_⟩
    cases hnamed : named? (Unicode.trim text.toList) with
    | some x => exact Or.inl (isSome_named?_iff.mp (by rw [hnamed]; rfl))
    | none =>
      rw [ofLexical?_of_not_named rfl hnamed, Option.isSome_map, Option.isSome_iff_exists] at h
      obtain ⟨n, hn⟩ := h
      exact Or.inr ⟨n, Numeral.parse?_eq_some_iff.mp hn⟩
  · rintro ⟨body, htrim, hmem | ⟨n, hn⟩⟩
    · obtain ⟨x, hx⟩ := Option.isSome_iff_exists.mp (isSome_named?_iff.mpr hmem)
      rw [ofLexical?_of_named (Unicode.trim_eq_iff.mpr htrim) hx]
      rfl
    · rw [ofLexical?_of_writtenAs (Unicode.trim_eq_iff.mpr htrim) hn]
      rfl

end Double

/-- A literal, of any kind, whose lexical form is that of a number. -/
def Term.SpellsNumber (t : Term) : Prop :=
  ∃ l, t.literal? = some l ∧ Double.IsLexical l.lexical

theorem Term.isSome_number?_iff {t : Term} : t.number?.isSome = true ↔ t.SpellsNumber := by
  unfold number? SpellsNumber
  cases hl : t.literal? with
  | none => simp
  | some l => simp [Double.isSome_ofLexical?_iff]

theorem Coercion.argument_numeric_iff {operator : String} {t : Term} :
    (∃ v, numeric.argument operator t = .ok v) ↔ t.SpellsNumber := by
  rw [← Term.isSome_number?_iff, Option.isSome_iff_exists]
  constructor
  · rintro ⟨v, hv⟩
    obtain ⟨x, hx, -⟩ := argument_numeric_eq_ok_iff.mp hv
    exact ⟨x, hx⟩
  · rintro ⟨x, hx⟩
    exact ⟨.number x, argument_numeric_eq_ok_iff.mpr ⟨x, hx, rfl⟩⟩

/-- The general reader takes numerals and the names in any case. Of these a lexical form may be any
numeral and four of the names, which have their own values; white space around it does not count.
The arguments that are taken for numbers are the literals with such a lexical form. -/
theorem lexical_number_grammar :
    (∀ text : List Char, (Double.ofText? text).isSome = true ↔
      (∃ n : Numeral, n.WrittenAs text) ∨ Double.IsName text) ∧
    (∀ text : String, (Double.ofLexical? text).isSome = true ↔ Double.IsLexical text) ∧
    (∀ (text : String) (body : List Char), Unicode.TrimsTo text.toList body →
      (body ∈ ["INF".toList, "+INF".toList] →
        Double.ofLexical? text = some (.infinity false)) ∧
      (body = "-INF".toList → Double.ofLexical? text = some (.infinity true)) ∧
      (body = "NaN".toList → Double.ofLexical? text = some .nan) ∧
      (∀ n : Numeral, n.WrittenAs body → Double.ofLexical? text = some n.toDouble) ∧
      (Double.IsName body → body ∉ Double.lexicalNames → Double.ofLexical? text = none)) ∧
    ∀ (operator : String) (t : Term),
      (∃ v, Coercion.numeric.argument operator t = .ok v) ↔ t.SpellsNumber := by
  refine ⟨fun text => Double.isSome_ofText?_iff, fun text => Double.isSome_ofLexical?_iff, ?_,
    fun operator t => Coercion.argument_numeric_iff⟩
  intro text body htrim
  replace htrim := Unicode.trim_eq_iff.mpr htrim
  refine ⟨fun hmem => ?_, ?_, ?_, fun n hn => Double.ofLexical?_of_writtenAs htrim hn,
    Double.ofLexical?_of_isName htrim⟩
  · simp only [List.mem_cons, List.not_mem_nil, or_false] at hmem
    rcases hmem with rfl | rfl
    · exact Double.ofLexical?_of_named htrim rfl
    · exact Double.ofLexical?_of_named htrim rfl
  · rintro rfl
    exact Double.ofLexical?_of_named htrim rfl
  · rintro rfl
    exact Double.ofLexical?_of_named htrim rfl

/-- The sign of an infinity may be written, other letters not. -/
theorem lexical_number_grammar_infinity :
    Unicode.TrimsTo " +INF\n".toList "+INF".toList ∧
      Double.ofLexical? " +INF\n" = some (.infinity false) ∧
      Double.IsName "-Infinity".toList ∧ Double.ofLexical? "-Infinity" = none ∧
      Numeral.WrittenAs ⟨true, [], ['5'], -1⟩ "-.5E-1".toList ∧
      Double.ofLexical? "-.5E-1" = some (Numeral.toDouble ⟨true, [], ['5'], -1⟩) := by
  have hplus : Unicode.TrimsTo " +INF\n".toList "+INF".toList := Unicode.trim_eq_iff.mp rfl
  have hword : Unicode.TrimsTo "-Infinity".toList "-Infinity".toList := Unicode.trim_eq_iff.mp rfl
  have hnumeral : Unicode.TrimsTo "-.5E-1".toList "-.5E-1".toList := Unicode.trim_eq_iff.mp rfl
  have hname : Double.IsName "-Infinity".toList :=
    ⟨true, ['-'], "Infinity".toList, rfl, .minus, by decide⟩
  have hwritten : Numeral.WrittenAs ⟨true, [], ['5'], -1⟩ "-.5E-1".toList :=
    Numeral.parse?_eq_some_iff.mp rfl
  obtain ⟨-, -, h, -⟩ := lexical_number_grammar
  exact ⟨hplus, (h _ _ hplus).1 (by decide), hname, (h _ _ hword).2.2.2.2 hname (by decide),
    hwritten, (h _ _ hnumeral).2.2.2.1 _ hwritten⟩

end SparqlExpr
