import SparqlExpr.Proofs.NearestEven
import SparqlExpr.Proofs.NumberText
import SparqlExpr.Proofs.ResultDatatype

/-! Literals that spell integers, and the numbers that they are read as. -/
namespace SparqlExpr

/-- The lexical forms of an integer: one or more digits after an optional sign. -/
inductive IntegerText : List Char → Int → Prop
  | unsigned {digits : List Char} (h : IsDigits digits) : IntegerText digits (digitsValue digits)
  | plus {digits : List Char} (h : IsDigits digits) :
      IntegerText ('+' :: digits) (digitsValue digits)
  | minus {digits : List Char} (h : IsDigits digits) :
      IntegerText ('-' :: digits) (-digitsValue digits)

/-- A literal, of any kind, whose lexical form is that of an integer. -/
def Term.SpellsInteger (t : Term) (i : Int) : Prop :=
  ∃ l, t.literal? = some l ∧ IntegerText l.lexical.toList i

/-- An integer literal, of the datatype of integers. -/
def Term.DenotesInteger (t : Term) (i : Int) : Prop :=
  t.SpellsInteger i ∧ t.datatype? = some Vocabulary.xsdInteger

theorem integerText_toString (n : Nat) : IntegerText (toString n).toList n := by
  have htext : (toString n).toList = (Decimal.mk n 0).digits := String.toList_ofList
  have hdigits := IntegerText.unsigned (Decimal.isDigits_digits ⟨n, 0⟩)
  rw [Decimal.digitsValue_digits] at hdigits
  rwa [htext]

theorem Term.literal?_integer (text : String) :
    (typed text Vocabulary.xsdInteger).literal? = some ⟨text, .typed Vocabulary.xsdInteger⟩ := by
  have hquote : (LiteralKind.typed Vocabulary.xsdInteger).QuoteFree := by decide
  exact literal?_ofLiteral_iff.mpr hquote

theorem Term.spellsInteger_typed {text : String} {i : Int} (h : IntegerText text.toList i) :
    (typed text Vocabulary.xsdInteger).SpellsInteger i :=
  ⟨_, literal?_integer text, h⟩

/-- A number of things is written as an integer literal. -/
theorem Term.denotesInteger_toString (n : Nat) :
    (typed (toString n) Vocabulary.xsdInteger).DenotesInteger n := by
  refine ⟨spellsInteger_typed (integerText_toString n), ?_⟩
  rw [datatype?, literal?_integer]
  rfl

namespace IntegerText
variable {text : List Char} {i : Int}

/-- The text is a numeral without a fraction; a plus sign is passed over. -/
theorem parse?_eq (h : IntegerText text i) : ∃ negative digits,
    Numeral.parse? text = some ⟨negative, digits, [], 0⟩ ∧
      Double.signed negative (digitsValue digits) = i := by
  cases h with
  | unsigned h => exact ⟨false, _, Numeral.parse?_of_isMantissa .none (.whole h), rfl⟩
  | plus h => exact ⟨false, _, Numeral.parse?_of_isMantissa .plus (.whole h), rfl⟩
  | minus h => exact ⟨true, _, Numeral.parse?_of_isMantissa .minus (.whole h), rfl⟩

end IntegerText

namespace Double

theorem isUnits_numeral (negative : Bool) {digits : List Char} (h : digitsValue digits ≤ 2 ^ 53) :
    (Numeral.toDouble ⟨negative, digits, [], 0⟩).IsUnits
      (signed negative (digitsValue digits) * unitsPerOne) := by
  unfold Numeral.toDouble Numeral.toDecimal
  simp only [List.append_nil]
  generalize digitsValue digits = n at h
  have hn := representable_ones h
  rw [← signed_mul]
  by_cases hzero : n = 0
  · subst hzero
    rw [Nat.zero_mul] at hn ⊢
    exact isUnits_finite negative hn
  · rw [Decimal.toDouble_of_ofNat (e := 0) rfl hzero (by decide), show Nat.pow 10 0 = 1 from rfl,
      Nat.mul_one, ← Nat.mul_one (n * unitsPerOne), ofRatio_mul negative hn (Nat.succ_pos 0),
      Nat.mul_one]
    exact isUnits_finite negative hn

/-- A whole number of up to 53 bits is read as it is. -/
theorem ofLexical?_integer {text : String} {i : Int} (h : IntegerText text.toList i)
    (hle : i.natAbs ≤ 2 ^ 53) : ∃ x, ofLexical? text = some x ∧ x.IsUnits (i * unitsPerOne) := by
  obtain ⟨negative, digits, hparse, rfl⟩ := h.parse?_eq
  rw [natAbs_signed] at hle
  exact ⟨_, ofLexical?_of_parse? hparse, isUnits_numeral negative hle⟩

end Double

theorem Term.SpellsInteger.number? {t : Term} {i : Int} (h : t.SpellsInteger i)
    (hle : i.natAbs ≤ 2 ^ 53) :
    ∃ x, t.number? = some x ∧ x.IsUnits (i * Double.unitsPerOne) := by
  obtain ⟨l, hl, htext⟩ := h
  obtain ⟨x, hx, hunits⟩ := Double.ofLexical?_integer htext hle
  exact ⟨x, by rw [Term.number?, hl, Option.bind_some, hx], hunits⟩

end SparqlExpr
