import SparqlExpr.Proofs.NumberGrammar
import SparqlExpr.Proofs.ShortestDecimal

/-! Number texts read back: the lexical form of a number stands for that number, with or without its
sign if it is a zero. -/
namespace SparqlExpr

theorem digitsValue_append_zeros (digits : List Char) (n : Nat) :
    digitsValue (digits ++ List.replicate n '0') = digitsValue digits * Nat.pow 10 n := by
  change Nat.ofDigitChars 10 (digits ++ List.replicate n '0') 0 = Nat.ofDigitChars 10 digits 0 * _
  rw [Nat.ofDigitChars_append, Nat.ofDigitChars_replicate_zero, Nat.mul_comm]
  rfl

theorem digitsValue_zeros_append (n : Nat) (digits : List Char) :
    digitsValue (List.replicate n '0' ++ digits) = digitsValue digits := by
  change Nat.ofDigitChars 10 (List.replicate n '0' ++ digits) 0 = Nat.ofDigitChars 10 digits 0
  rw [Nat.ofDigitChars_append, Nat.ofDigitChars_replicate_zero, Nat.mul_zero]

theorem Decimal.digitsValue_digits (d : Decimal) : digitsValue d.digits = d.coefficient :=
  Nat.ofDigitChars_ten_toDigits

theorem Decimal.isDigits_digits (d : Decimal) : IsDigits d.digits :=
  ⟨Nat.toDigits_ne_nil, fun _ h => Nat.isDigit_of_mem_toDigits (by decide) (by decide) h⟩

theorem isDigit_of_mem_replicate {n : Nat} {c : Char} (h : c ∈ List.replicate n '0') :
    c.isDigit = true := by
  rw [List.eq_of_mem_replicate h]
  rfl

namespace Numeral
variable {whole fraction : List Char}

/-- The sign of a negative number, which is the only one that is written. -/
def signText (negative : Bool) : List Char :=
  if negative then ['-'] else []

theorem isSign_signText (negative : Bool) : IsSign negative (signText negative) := by
  cases negative with
  | true => exact .minus
  | false => exact .none

/-- A number in place has no power of ten. -/
theorem parse?_of_isMantissa {negative : Bool} {sign mantissa : List Char}
    (hsign : IsSign negative sign) (h : IsMantissa whole fraction mantissa) :
    parse? (sign ++ mantissa) = some ⟨negative, whole, fraction, 0⟩ :=
  parse?_eq_some_iff.mpr ⟨sign, mantissa, [], by rw [List.append_nil], hsign, h, .none⟩

end Numeral

namespace Decimal
variable {d : Decimal} {e : Nat}

theorem positional_of_ofNat (he : d.exponent = .ofNat e) :
    d.positional = d.digits ++ List.replicate e '0' := by
  unfold positional
  rw [he]

/-- Below the point stand as many digits as the exponent says, above it one or more. -/
theorem positional_of_negSucc (he : d.exponent = .negSucc e) :
    ∃ whole fraction, d.positional = whole ++ '.' :: fraction ∧ IsDigits whole ∧
      (∀ c ∈ fraction, c.isDigit = true) ∧ fraction.length = e + 1 ∧
      digitsValue (whole ++ fraction) = d.coefficient := by
  generalize hpadded : List.replicate (e + 1 + 1 - d.digits.length) '0' ++ d.digits = padded
  have hlength : e + 1 < padded.length := by
    rw [← hpadded, List.length_append, List.length_replicate]
    omega
  have hdigits : ∀ c ∈ padded, c.isDigit = true := by
    intro c hc
    rw [← hpadded, List.mem_append] at hc
    rcases hc with hc | hc
    · exact isDigit_of_mem_replicate hc
    · exact d.isDigits_digits.2 c hc
  refine ⟨padded.take (padded.length - (e + 1)), padded.drop (padded.length - (e + 1)), ?_,
    ⟨?_, ?_⟩, ?_, ?_, ?_⟩
  · unfold positional
    rw [he]
    simp only [hpadded]
  · intro hempty
    have hzero := congrArg List.length hempty
    rw [List.length_take, List.length_nil] at hzero
    omega
  · exact fun c hc => hdigits c (List.mem_of_mem_take hc)
  · exact fun c hc => hdigits c (List.mem_of_mem_drop hc)
  · rw [List.length_drop]
    omega
  · rw [List.take_append_drop, ← hpadded, digitsValue_zeros_append, d.digitsValue_digits]

/-- A decimal that is not zero, and not so great that it counts as infinite, is read back from its
digits in place. -/
theorem parse?_positional (negative : Bool) (hne : d.coefficient ≠ 0) (hle : d.exponent ≤ 400) :
    (Numeral.parse? (Numeral.signText negative ++ d.positional)).map Numeral.toDouble =
      some (d.toDouble negative) := by
  have hsign := Numeral.isSign_signText negative
  cases he : d.exponent with
  | ofNat e =>
    have hdigits : IsDigits (d.digits ++ List.replicate e '0') := by
      refine ⟨List.append_ne_nil_of_left_ne_nil d.isDigits_digits.1 _, fun c hc => ?_⟩
      rcases List.mem_append.mp hc with hc | hc
      · exact d.isDigits_digits.2 c hc
      · exact isDigit_of_mem_replicate hc
    have hvalue :
        digitsValue (d.digits ++ List.replicate e '0') = d.coefficient * Nat.pow 10 e := by
      rw [digitsValue_append_zeros, d.digitsValue_digits]
    have hne' : d.coefficient * Nat.pow 10 e ≠ 0 :=
      Nat.mul_ne_zero hne (Nat.ne_of_gt (Nat.pow_pos (by decide)))
    have hbound : e ≤ 400 := by
      rw [he] at hle
      exact Int.ofNat_le.mp hle
    rw [positional_of_ofNat he, Numeral.parse?_of_isMantissa hsign (.whole hdigits),
      Option.map_some, toDouble_of_ofNat he hne hbound]
    congr 1
    unfold Numeral.toDouble Numeral.toDecimal
    simp only [List.append_nil, hvalue]
    rw [toDouble_of_ofNat (e := 0) rfl hne' (Nat.zero_le 400)]
    exact congrArg (fun num => Double.ofRatio negative (num * Double.unitsPerOne) 1)
      (Nat.mul_one _)
  | negSucc e =>
    obtain ⟨whole, fraction, htext, hwhole, hfraction, hlength, hvalue⟩ := positional_of_negSucc he
    rw [htext, Numeral.parse?_of_isMantissa hsign (.pointed hwhole hfraction), Option.map_some]
    have hexponent : (0 : Int) - fraction.length = d.exponent := by
      rw [hlength, he]
      omega
    unfold Numeral.toDouble Numeral.toDecimal
    simp only [hvalue, hexponent]

theorem coefficient_ne_zero_of_toDouble {negative : Bool} {units : Nat} {h : Representable units}
    (hd : d.toDouble negative = .finite negative units h) (hne : units ≠ 0) :
    d.coefficient ≠ 0 ∧ d.exponent ≤ 400 := by
  unfold toDouble at hd
  split at hd
  · cases hd
    exact absurd rfl hne
  · next hcoefficient =>
    split at hd
    · cases hd
    · next hexponent => exact ⟨fun hzero => hcoefficient (Or.inl hzero), by omega⟩

end Decimal

namespace Double

/-- The number itself, except that a negative zero becomes a positive one. -/
def dropZeroSign (x : Double) : Double :=
  if x.isZero then zero else x

theorem dropZeroSign_of_zero {negative : Bool} {units : Nat} (h : Representable units)
    (hzero : units = 0) : (finite negative units h).dropZeroSign = zero := by
  rw [dropZeroSign, isZero, if_pos (by simp [hzero])]

theorem dropZeroSign_of_ne_zero {negative : Bool} {units : Nat} (h : Representable units)
    (hne : units ≠ 0) : (finite negative units h).dropZeroSign = finite negative units h := by
  rw [dropZeroSign, isZero, if_neg (by simp [hne])]

theorem dropZeroSign_dropZeroSign (x : Double) : x.dropZeroSign.dropZeroSign = x.dropZeroSign := by
  by_cases h : x.isZero = true
  · have hdrop : x.dropZeroSign = zero := if_pos h
    rw [hdrop]
    rfl
  · have hdrop : x.dropZeroSign = x := if_neg h
    rw [hdrop, hdrop]

theorem Style.magnitude_lexical {units : Nat} (hne : units ≠ 0) :
    Style.lexical.magnitude units = (Decimal.shortest .up units).positional := by
  have htie : Style.lexical.tie = .up := rfl
  have hplace (point : Int) : Style.lexical.inPlace point = true := rfl
  have hwhole : Style.lexical.wholeFraction = false := rfl
  simp only [magnitude, if_neg hne, htie, hplace, hwhole, if_true, Bool.false_and,
    Bool.false_eq_true, if_false]

theorem toLexical_of_ne_zero (negative : Bool) {units : Nat} (h : Representable units)
    (hne : units ≠ 0) : (finite negative units h).toLexical =
      String.ofList (Numeral.signText negative ++ (Decimal.shortest .up units).positional) := by
  simp only [toLexical, if_neg hne, Style.magnitude_lexical hne, Numeral.signText]

/-- Negative zero is written as positive zero is. -/
theorem toLexical_dropZeroSign (x : Double) : x.dropZeroSign.toLexical = x.toLexical := by
  cases x with
  | nan => rfl
  | infinity negative => rfl
  | finite negative units h =>
    by_cases hzero : units = 0
    · rw [dropZeroSign_of_zero h hzero]
      exact (if_pos hzero).symm
    · rw [dropZeroSign_of_ne_zero h hzero]

theorem ofLexical?_toLexical (x : Double) : ofLexical? x.toLexical = some x.dropZeroSign := by
  cases x with
  | nan => rfl
  | infinity negative => cases negative <;> rfl
  | finite negative units h =>
    by_cases hzero : units = 0
    · have htext : (finite negative units h).toLexical = "0" := if_pos hzero
      rw [htext, dropZeroSign_of_zero h hzero]
      rfl
    · have hread := Decimal.toDouble_shortest .up negative h hzero
      obtain ⟨hcoefficient, hexponent⟩ := Decimal.coefficient_ne_zero_of_toDouble hread hzero
      have hparse := Decimal.parse?_positional negative hcoefficient hexponent
      obtain ⟨n, hn, hdouble⟩ := Option.map_eq_some_iff.mp hparse
      rw [toLexical_of_ne_zero negative h hzero,
        ofLexical?_of_parse? (by rw [String.toList_ofList, hn]), hdouble, hread,
        dropZeroSign_of_ne_zero h hzero]

end Double

end SparqlExpr
