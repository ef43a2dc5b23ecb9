import Mathlib.Data.List.TakeDrop
import Mathlib.Data.List.TakeWhile
import SparqlExpr.Double.Text

/-! The grammar of number texts: numerals are read in exactly one way, the one in which they are
written, and a lexical form is a numeral or one of four names, with white space around it. -/
namespace SparqlExpr

/-- A text of one or more digits. -/
def IsDigits (text : List Char) : Prop :=
  text ≠ [] ∧ ∀ c ∈ text, c.isDigit = true

section Span
variable {p : Char → Bool} {front rest : List Char}

theorem span_append (h : ∀ c ∈ front, p c = true) (hrest : ∀ c, rest.head? = some c → p c = false) :
    (front ++ rest).span p = (front, rest) := by
  have hnone : rest.takeWhile p = [] ∧ rest.dropWhile p = rest := by
    cases rest with
    | nil => exact ⟨rfl, rfl⟩
    | cons c cs =>
      have hc : p c = false := hrest c rfl
      simp [hc]
  rw [List.span_eq_takeWhile_dropWhile, List.takeWhile_append_of_pos h,
    List.dropWhile_append_of_pos h, hnone.1, hnone.2, List.append_nil]

/-- What is taken off the front ends where the test first fails. -/
theorem span_eq {text : List Char} (h : text.span p = (front, rest)) :
    text = front ++ rest ∧ (∀ c ∈ front, p c = true) ∧
      ∀ c, rest.head? = some c → p c = false := by
  rw [List.span_eq_takeWhile_dropWhile, Prod.mk.injEq] at h
  obtain ⟨rfl, rfl⟩ := h
  refine ⟨List.takeWhile_append_dropWhile.symm, fun c hc => List.mem_takeWhile_imp hc, ?_⟩
  intro c hc
  have hfirst := List.head?_dropWhile_not p text
  rw [hc] at hfirst
  exact hfirst

end Span

namespace Numeral

/-- The texts of a sign; a positive number has one or none. -/
inductive IsSign : Bool → List Char → Prop
  | none : IsSign false []
  | plus : IsSign false ['+']
  | minus : IsSign true ['-']

/-- Digits before a point, after it or on both sides, and digits without a point. -/
inductive IsMantissa : List Char → List Char → List Char → Prop
  | whole {whole : List Char} (h : IsDigits whole) : IsMantissa whole [] whole
  | pointed {whole fraction : List Char} (h : IsDigits whole)
      (hfraction : ∀ c ∈ fraction, c.isDigit = true) :
      IsMantissa whole fraction (whole ++ '.' :: fraction)
  | fraction {fraction : List Char} (h : IsDigits fraction) :
      IsMantissa [] fraction ('.' :: fraction)

/-- The texts of a power of ten, with a letter in either case; the empty one stands for zero. -/
inductive IsExponent : Int → List Char → Prop
  | none : IsExponent 0 []
  | power {c : Char} {negative : Bool} {sign digits : List Char} (hletter : c = 'e' ∨ c = 'E')
      (hsign : IsSign negative sign) (h : IsDigits digits) :
      IsExponent (Double.signed negative (digitsValue digits)) (c :: (sign ++ digits))

/-- A sign, digits with or without a point, and a power of ten. -/
def WrittenAs (n : Numeral) (text : List Char) : Prop :=
  ∃ sign mantissa exponent, text = sign ++ (mantissa ++ exponent) ∧ IsSign n.negative sign ∧
    IsMantissa n.whole n.fraction mantissa ∧ IsExponent n.exponent exponent

variable {negative : Bool} {text rest whole fraction : List Char} {exponent : Int} {n : Numeral}

theorem sign_append {s : List Char} (hs : IsSign negative s)
    (hrest : ∀ c, rest.head? = some c → c ≠ '+' ∧ c ≠ '-') :
    sign (s ++ rest) = (negative, rest) := by
  cases hs with
  | plus => rfl
  | minus => rfl
  | none =>
    cases rest with
    | nil => rfl
    | cons c cs =>
      obtain ⟨hplus, hminus⟩ := hrest c rfl
      rw [List.nil_append, sign]
      · exact fun rest heq => hplus (List.cons.inj heq).1
      · exact fun rest heq => hminus (List.cons.inj heq).1

theorem isSign_of_sign (h : sign text = (negative, rest)) :
    ∃ s, IsSign negative s ∧ text = s ++ rest := by
  unfold sign at h
  split at h
  · cases h
    exact ⟨_, .plus, rfl⟩
  · cases h
    exact ⟨_, .minus, rfl⟩
  · cases h
    exact ⟨_, .none, rfl⟩

/-- A digit is none of the other characters of a numeral. -/
theorem ne_of_isDigit {c d : Char} (hc : c.isDigit = true) (hd : d.isDigit = false) : c ≠ d := by
  rintro rfl
  rw [hc] at hd
  cases hd

theorem exponentPart_eq_some_iff :
    exponentPart text = some exponent ↔ IsExponent exponent text := by
  constructor
  · intro h
    cases text with
    | nil =>
      cases h
      exact .none
    | cons c cs =>
      rcases hsign : sign cs with ⟨negative, digits⟩
      simp only [exponentPart, hsign] at h
      split at h
      · next hcond =>
        obtain ⟨hletter, hne, hdigits⟩ := hcond
        obtain ⟨s, hs, rfl⟩ := isSign_of_sign hsign
        cases h
        exact .power hletter hs ⟨hne, List.all_eq_true.mp hdigits⟩
      · cases h
  · intro h
    cases h with
    | none => rfl
    | @power c negative s digits hletter hs hdigits =>
      obtain ⟨hne, hall⟩ := hdigits
      have hsign : sign (s ++ digits) = (negative, digits) := by
        refine sign_append hs fun c hc => ?_
        have hdigit := hall c (List.mem_of_mem_head? hc)
        exact ⟨ne_of_isDigit hdigit rfl, ne_of_isDigit hdigit rfl⟩
      rw [exponentPart]
      simp only [hsign]
      rw [if_pos ⟨hletter, hne, List.all_eq_true.mpr hall⟩]

/-- Between the sign and the power of ten stand digits, with a point or without. -/
theorem mantissa_append (h : IsMantissa whole fraction text)
    (hrest : ∀ c, rest.head? = some c → c.isDigit = false ∧ c ≠ '.') : ∃ after,
    (text ++ rest).span Char.isDigit = (whole, after) ∧ fractionPart after = (fraction, rest) ∧
      ¬(whole = [] ∧ fraction = []) := by
  have hdigits : ∀ c, rest.head? = some c → c.isDigit = false := fun c hc => (hrest c hc).1
  have hpoint : ∀ c, ('.' :: (fraction ++ rest)).head? = some c → c.isDigit = false := by
    rintro c ⟨⟩
    rfl
  cases h with
  | whole h =>
    refine ⟨rest, span_append h.2 hdigits, ?_, fun hempty => h.1 hempty.1⟩
    cases rest with
    | nil => rfl
    | cons c cs =>
      rw [fractionPart]
      exact fun other heq => (hrest c rfl).2 (List.cons.inj heq).1
  | pointed h hfraction =>
    refine ⟨'.' :: (fraction ++ rest), ?_, span_append hfraction hdigits,
      fun hempty => h.1 hempty.1⟩
    rw [List.append_assoc, List.cons_append]
    exact span_append h.2 hpoint
  | fraction h =>
    exact ⟨'.' :: (fraction ++ rest), @span_append _ [] _ (fun _ hc => nomatch hc) hpoint,
      span_append h.2 hdigits, fun hempty => h.1 hempty.2⟩

theorem isMantissa_of_fractionPart {after : List Char} (hwhole : ∀ c ∈ whole, c.isDigit = true)
    (h : fractionPart after = (fraction, rest)) (hne : ¬(whole = [] ∧ fraction = [])) :
    ∃ mantissa, IsMantissa whole fraction mantissa ∧ whole ++ after = mantissa ++ rest := by
  unfold fractionPart at h
  split at h
  · next after =>
    obtain ⟨rfl, hfraction, -⟩ := span_eq h
    by_cases hempty : whole = []
    · subst hempty
      exact ⟨_, .fraction ⟨fun h => hne ⟨rfl, h⟩, hfraction⟩, rfl⟩
    · exact ⟨_, .pointed ⟨hempty, hwhole⟩ hfraction, by simp⟩
  · cases h
    exact ⟨_, .whole ⟨fun h => hne ⟨h, rfl⟩, hwhole⟩, rfl⟩

/-- What follows the digits of a numeral is no digit and no point. -/
theorem IsExponent.head? (h : IsExponent exponent text) :
    ∀ c, text.head? = some c → c.isDigit = false ∧ c ≠ '.' := by
  cases h with
  | none => exact fun c hc => nomatch hc
  | power hletter _ _ =>
    rintro c ⟨⟩
    rcases hletter with rfl | rfl
    · decide
    · decide

/-- The first character behind the sign is a digit or a point. -/
theorem IsMantissa.head? (h : IsMantissa whole fraction text) (rest : List Char) :
    ∀ c, (text ++ rest).head? = some c → c ≠ '+' ∧ c ≠ '-' := by
  have hfirst {digits after : List Char} (h : IsDigits digits) :
      ∀ c, (digits ++ after).head? = some c → c ≠ '+' ∧ c ≠ '-' := by
    obtain ⟨hne, hdigits⟩ := h
    cases digits with
    | nil => exact absurd rfl hne
    | cons d ds =>
      rintro c ⟨⟩
      have hd := hdigits d List.mem_cons_self
      exact ⟨ne_of_isDigit hd rfl, ne_of_isDigit hd rfl⟩
  cases h with
  | whole h => exact hfirst h
  | pointed h _ =>
    rw [List.append_assoc]
    exact hfirst h
  | fraction h =>
    rintro c ⟨⟩
    decide

/-- A text is read as the numeral that it is written for, and as no other. -/
theorem parse?_eq_some_iff : parse? text = some n ↔ n.WrittenAs text := by
  constructor
  · intro h
    rcases hsign : sign text with ⟨negative, unsigned⟩
    rcases hspan : unsigned.span Char.isDigit with ⟨whole, after⟩
    rcases hfraction : fractionPart after with ⟨fraction, rest⟩
    simp only [parse?, hsign, hspan, hfraction] at h
    split at h
    · cases h
    · next hne =>
      obtain ⟨exponent, hexponent, rfl⟩ := Option.map_eq_some_iff.mp h
      obtain ⟨s, hs, rfl⟩ := isSign_of_sign hsign
      obtain ⟨rfl, hwhole, -⟩ := span_eq hspan
      obtain ⟨mantissa, hmantissa, heq⟩ := isMantissa_of_fractionPart hwhole hfraction hne
      exact ⟨s, mantissa, rest, by rw [heq], hs, hmantissa, exponentPart_eq_some_iff.mp hexponent⟩
  · rintro ⟨s, mantissa, exponent, rfl, hs, hmantissa, hexponent⟩
    obtain ⟨after, hspan, hfraction, hne⟩ := mantissa_append hmantissa hexponent.head?
    simp only [parse?, sign_append hs (hmantissa.head? exponent), hspan, hfraction, if_neg hne,
      exponentPart_eq_some_iff.mpr hexponent, Option.map_some]

section Characters
variable {c : Char}

theorem IsSign.mem {s : List Char} (h : IsSign negative s) (hc : c ∈ s) : c = '+' ∨ c = '-' := by
  cases h with
  | none => cases hc
  | plus => exact Or.inl (List.mem_singleton.mp hc)
  | minus => exact Or.inr (List.mem_singleton.mp hc)

theorem IsMantissa.mem (h : IsMantissa whole fraction text) (hc : c ∈ text) :
    c.isDigit = true ∨ c = '.' := by
  cases h with
  | whole h => exact Or.inl (h.2 c hc)
  | pointed h hfraction =>
    rcases List.mem_append.mp hc with hc | hc
    · exact Or.inl (h.2 c hc)
    · exact (List.mem_cons.mp hc).symm.imp_left (hfraction c)
  | fraction h => exact (List.mem_cons.mp hc).symm.imp_left (h.2 c)

theorem IsExponent.mem (h : IsExponent exponent text) (hc : c ∈ text) :
    c.isDigit = true ∨ c ∈ ['+', '-', 'e', 'E'] := by
  cases h with
  | none => cases hc
  | power hletter hsign h =>
    rcases List.mem_cons.mp hc with rfl | hc
    · rcases hletter with rfl | rfl
      · decide
      · decide
    · rcases List.mem_append.mp hc with hc | hc
      · rcases hsign.mem hc with rfl | rfl
        · decide
        · decide
      · exact Or.inl (h.2 c hc)

/-- The characters of a numeral. -/
theorem WrittenAs.mem (h : n.WrittenAs text) (hc : c ∈ text) :
    c.isDigit = true ∨ c ∈ ['+', '-', '.', 'e', 'E'] := by
  obtain ⟨s, mantissa, exponent, rfl, hs, hmantissa, hexponent⟩ := h
  simp only [List.mem_append] at hc
  rcases hc with hc | hc | hc
  · rcases hs.mem hc with rfl | rfl
    · decide
    · decide
  · rcases hmantissa.mem hc with hdigit | rfl
    · exact Or.inl hdigit
    · decide
  · refine (hexponent.mem hc).imp_right fun hmem => ?_
    simp only [List.mem_cons, List.not_mem_nil, or_false] at hmem ⊢
    tauto

/-- What holds of digits, signs, the point and the letter for powers holds all over a numeral. -/
theorem WrittenAs.forall_mem {p : Char → Prop} (h : n.WrittenAs text)
    (hdigit : ∀ c, c.isDigit = true → p c) (hmark : p '+' ∧ p '-' ∧ p '.' ∧ p 'e' ∧ p 'E') :
    ∀ c ∈ text, p c := by
  obtain ⟨hplus, hminus, hpoint, hsmall, hcapital⟩ := hmark
  intro c hc
  rcases h.mem hc with hc | hc
  · exact hdigit c hc
  · simp only [List.mem_cons, List.not_mem_nil, or_false] at hc
    rcases hc with rfl | rfl | rfl | rfl | rfl
    · exact hplus
    · exact hminus
    · exact hpoint
    · exact hsmall
    · exact hcapital

end Characters

end Numeral

namespace Unicode
variable {text body : List Char}

/-- The text without the white space at both ends. -/
def TrimsTo (text body : List Char) : Prop :=
  ∃ before after, text = before ++ (body ++ after) ∧ (∀ c ∈ before, isWhiteSpace c = true) ∧
    (∀ c ∈ after, isWhiteSpace c = true) ∧ (∀ c, body.head? = some c → isWhiteSpace c = false) ∧
    ∀ c, body.getLast? = some c → isWhiteSpace c = false

theorem dropWhile_append {front rest : List Char} (h : ∀ c ∈ front, isWhiteSpace c = true)
    (hrest : ∀ c, rest.head? = some c → isWhiteSpace c = false) :
    (front ++ rest).dropWhile isWhiteSpace = rest := by
  have hspan := span_append h hrest
  rw [List.span_eq_takeWhile_dropWhile] at hspan
  exact congrArg Prod.snd hspan

theorem trimsTo_trim (text : List Char) : TrimsTo text (trim text) := by
  rcases hfront : text.span isWhiteSpace with ⟨before, rest⟩
  rcases hback : rest.reverse.span isWhiteSpace with ⟨after, inner⟩
  obtain ⟨rfl, hbefore, hrest⟩ := span_eq hfront
  obtain ⟨hreverse, hafter, hinner⟩ := span_eq hback
  have hsplit : rest = inner.reverse ++ after.reverse := by
    rw [← List.reverse_append, ← hreverse, List.reverse_reverse]
  have htrim : trim (before ++ rest) = inner.reverse := by
    unfold trim
    rw [dropWhile_append hbefore hrest, hreverse, dropWhile_append hafter hinner]
  rw [htrim]
  refine ⟨before, after.reverse, by rw [hsplit], hbefore, ?_, ?_, ?_⟩
  · exact fun c hc => hafter c (List.mem_reverse.mp hc)
  · intro c hc
    refine hrest c ?_
    rw [hsplit, List.head?_append, hc]
    rfl
  · rwa [List.getLast?_reverse]

theorem trim_eq_iff : trim text = body ↔ TrimsTo text body := by
  constructor
  · rintro rfl
    exact trimsTo_trim text
  · rintro ⟨before, after, rfl, hbefore, hafter, hfirst, hlast⟩
    unfold trim
    cases body with
    | nil =>
      have hwhite : ∀ c ∈ before ++ ([] ++ after), isWhiteSpace c = true := by
        intro c hc
        rcases List.mem_append.mp hc with hc | hc
        · exact hbefore c hc
        · exact hafter c hc
      rw [List.dropWhile_eq_nil_iff.mpr hwhite]
      rfl
    | cons d ds =>
      have hafter' : ∀ c ∈ after.reverse, isWhiteSpace c = true := fun c hc =>
        hafter c (List.mem_reverse.mp hc)
      have hlast' : ∀ c, (d :: ds).reverse.head? = some c → isWhiteSpace c = false := by
        rwa [List.head?_reverse]
      have hrest : ∀ c, (d :: ds ++ after).head? = some c → isWhiteSpace c = false := hfirst
      rw [dropWhile_append hbefore hrest, List.reverse_append, dropWhile_append hafter' hlast',
        List.reverse_reverse]

theorem trim_eq_self (h : ∀ c ∈ text, isWhiteSpace c = false) : trim text = text :=
  trim_eq_iff.mpr ⟨[], [], by simp, by simp, by simp,
    fun c hc => h c (List.mem_of_mem_head? hc), fun c hc => h c (List.mem_of_mem_getLast? hc)⟩

theorem isWhiteSpace_of_isDigit {c : Char} (h : c.isDigit = true) : isWhiteSpace c = false := by
  have hrange : 48 ≤ c.toNat ∧ c.toNat ≤ 57 := by
    simp only [Char.isDigit, Bool.and_eq_true, decide_eq_true_eq, ge_iff_le,
      UInt32.le_iff_toNat_le] at h
    exact h
  simp [isWhiteSpace]
  omega

/-- There is no white space in a numeral. -/
theorem trim_of_writtenAs {n : Numeral} (h : n.WrittenAs text) : trim text = text :=
  trim_eq_self (h.forall_mem (fun _ hc => isWhiteSpace_of_isDigit hc) ⟨rfl, rfl, rfl, rfl, rfl⟩)

end Unicode

namespace Double
variable {text body : List Char} {x : Double} {c d : Char}

/-- The names of lexical forms. -/
def lexicalNames : List (List Char) :=
  ["INF".toList, "+INF".toList, "-INF".toList, "NaN".toList]

/-- What a name in any case may be behind its sign, in small letters. -/
def nameWords : List (List Char) :=
  ["inf".toList, "infinity".toList, "nan".toList]

/-- A sign, or none, and one of three words in any case. -/
def IsName (text : List Char) : Prop :=
  ∃ negative sign word, text = sign ++ word ∧ Numeral.IsSign negative sign ∧
    word.map Char.toLower ∈ nameWords

theorem isSome_named?_iff : (named? text).isSome = true ↔ text ∈ lexicalNames := by
  constructor
  · intro h
    unfold named? at h
    split at h
    · decide
    · decide
    · decide
    · decide
    · cases h
  · intro h
    simp only [lexicalNames, List.mem_cons, List.not_mem_nil, or_false] at h
    rcases h with rfl | rfl | rfl | rfl
    · rfl
    · rfl
    · rfl
    · rfl

/-- Only a letter has a lower case other than itself. -/
theorem isAlpha_of_toLower (h : c.toLower = d) (hd : d.isLower = true) : c.isAlpha = true := by
  change (c.isUpper || c.isLower) = true
  unfold Char.toLower at h
  split at h
  · next hupper =>
    have hupper' : c.isUpper = true := decide_eq_true hupper
    rw [hupper', Bool.true_or]
  · subst h
    rw [hd, Bool.or_true]

theorem isNameLetter_of_toLower (h : c.toLower = d) (hd : d.isLower = true) (hne : d ≠ 'e') :
    isNameLetter c = true := by
  have hsmall : c ≠ 'e' := by
    rintro rfl
    exact hne h.symm
  have hcapital : c ≠ 'E' := by
    rintro rfl
    exact hne h.symm
  simp [isNameLetter, isAlpha_of_toLower h hd, hsmall, hcapital]

/-- The first letter of each word is one that no numeral has. -/
theorem exists_isNameLetter {word : List Char} (h : word.map Char.toLower ∈ nameWords) :
    ∃ c cs, word = c :: cs ∧ isNameLetter c = true := by
  cases word with
  | nil => exact absurd h (by decide)
  | cons c cs =>
    refine ⟨c, cs, rfl, ?_⟩
    simp only [nameWords, List.map_cons, List.mem_cons, List.not_mem_nil, or_false] at h
    rcases h with h | h | h
    · exact isNameLetter_of_toLower (List.cons.inj h).1 rfl (by decide)
    · exact isNameLetter_of_toLower (List.cons.inj h).1 rfl (by decide)
    · exact isNameLetter_of_toLower (List.cons.inj h).1 rfl (by decide)

theorem IsName.any (h : IsName text) : text.any isNameLetter = true := by
  obtain ⟨negative, sign, word, rfl, -, hword⟩ := h
  obtain ⟨c, cs, rfl, hc⟩ := exists_isNameLetter hword
  exact List.any_eq_true.mpr ⟨c, List.mem_append_right sign List.mem_cons_self, hc⟩

theorem isSome_anyCaseNamed?_iff : (anyCaseNamed? text).isSome = true ↔ IsName text := by
  constructor
  · intro h
    rcases hsign : Numeral.sign text with ⟨negative, word⟩
    obtain ⟨s, hs, rfl⟩ := Numeral.isSign_of_sign hsign
    refine ⟨negative, s, word, rfl, hs, ?_⟩
    simp only [anyCaseNamed?, hsign] at h
    split at h
    · next hword =>
      rw [hword]
      decide
    · next hword =>
      rw [hword]
      decide
    · next hword =>
      rw [hword]
      decide
    · cases h
  · rintro ⟨negative, s, word, rfl, hs, hword⟩
    have hsign : Numeral.sign (s ++ word) = (negative, word) := by
      refine Numeral.sign_append hs ?_
      obtain ⟨c, cs, rfl, hc⟩ := exists_isNameLetter hword
      rintro _ ⟨⟩
      exact ⟨ne_of_apply_ne isNameLetter (by simp [hc, show isNameLetter '+' = false from rfl]),
        ne_of_apply_ne isNameLetter (by simp [hc, show isNameLetter '-' = false from rfl])⟩
    simp only [nameWords, List.mem_cons, List.not_mem_nil, or_false] at hword
    rcases hword with h | h | h
    · simp [anyCaseNamed?, hsign, h]
    · simp [anyCaseNamed?, hsign, h]
    · simp [anyCaseNamed?, hsign, h]

theorem isNameLetter_of_isDigit (h : c.isDigit = true) : isNameLetter c = false := by
  have hdigit : (decide (c.val ≥ '0'.val) && decide (c.val ≤ '9'.val)) = true := h
  have hle : c.val ≤ '9'.val := of_decide_eq_true (Bool.and_eq_true_iff.mp hdigit).2
  have hupper : c.isUpper = false := by
    refine decide_eq_false fun hletter => ?_
    exact absurd (UInt32.le_trans hletter.1 hle) (by decide)
  have hlower : c.isLower = false := by
    refine Bool.and_eq_false_imp.mpr fun hletter => ?_
    exact absurd (UInt32.le_trans (of_decide_eq_true hletter) hle) (by decide)
  have halpha : c.isAlpha = false := Bool.or_eq_false_iff.mpr ⟨hupper, hlower⟩
  rw [isNameLetter, halpha, Bool.false_and, Bool.false_and]

/-- The letters that are refused are in no numeral. -/
theorem any_isNameLetter_of_writtenAs {n : Numeral} (h : n.WrittenAs text) :
    text.any isNameLetter = false := by
  have hall := h.forall_mem (fun _ hc => isNameLetter_of_isDigit hc) ⟨rfl, rfl, rfl, rfl, rfl⟩
  rw [List.any_eq_false]
  intro c hc
  rw [hall c hc]
  exact Bool.false_ne_true

theorem parse?_eq_none_of_isName (h : IsName text) : Numeral.parse? text = none := by
  rw [Option.eq_none_iff_forall_ne_some]
  intro n hn
  have hany := any_isNameLetter_of_writtenAs (Numeral.parse?_eq_some_iff.mp hn)
  rw [h.any] at hany
  cases hany

theorem ofText?_of_writtenAs {n : Numeral} (h : n.WrittenAs text) :
    ofText? text = some n.toDouble := by
  rw [ofText?, Numeral.parse?_eq_some_iff.mpr h]

/-- The reader of all outputs takes the numerals and the names in any case, and nothing else. -/
theorem isSome_ofText?_iff : (ofText? text).isSome = true ↔
    (∃ n : Numeral, n.WrittenAs text) ∨ IsName text := by
  constructor
  · intro h
    cases hparse : Numeral.parse? text with
    | some n => exact Or.inl ⟨n, Numeral.parse?_eq_some_iff.mp hparse⟩
    | none =>
      simp only [ofText?, hparse] at h
      exact Or.inr (isSome_anyCaseNamed?_iff.mp h)
  · rintro (⟨n, hn⟩ | hname)
    · rw [ofText?_of_writtenAs hn]
      rfl
    · simp only [ofText?, parse?_eq_none_of_isName hname]
      exact isSome_anyCaseNamed?_iff.mpr hname

/-- Refusing the letters of names takes from that reader the names and no numeral. -/
theorem ofLexical?_of_not_named {text : String} {body : List Char}
    (htrim : Unicode.trim text.toList = body) (hnamed : named? body = none) :
    ofLexical? text = (Numeral.parse? body).map Numeral.toDouble := by
  simp only [ofLexical?, htrim, hnamed]
  cases hparse : Numeral.parse? body with
  | some n =>
    have hn := Numeral.parse?_eq_some_iff.mp hparse
    rw [if_neg (by simp [any_isNameLetter_of_writtenAs hn]), ofText?_of_writtenAs hn]
    rfl
  | none =>
    split
    · rfl
    · next hany =>
      rw [Option.map_none, ← Option.not_isSome_iff_eq_none, isSome_ofText?_iff]
      rintro (⟨n, hn⟩ | hname)
      · rw [Numeral.parse?_eq_some_iff.mpr hn] at hparse
        cases hparse
      · exact hany hname.any

theorem named?_of_writtenAs {n : Numeral} (h : n.WrittenAs text) : named? text = none := by
  have hany := any_isNameLetter_of_writtenAs h
  rw [← Option.not_isSome_iff_eq_none, isSome_named?_iff]
  intro hmem
  simp only [lexicalNames, List.mem_cons, List.not_mem_nil, or_false] at hmem
  rcases hmem with rfl | rfl | rfl | rfl
  · exact absurd hany (by decide)
  · exact absurd hany (by decide)
  · exact absurd hany (by decide)
  · exact absurd hany (by decide)

theorem ofLexical?_of_writtenAs {text : String} {body : List Char} {n : Numeral}
    (htrim : Unicode.trim text.toList = body) (h : n.WrittenAs body) :
    ofLexical? text = some n.toDouble := by
  rw [ofLexical?_of_not_named htrim (named?_of_writtenAs h), Numeral.parse?_eq_some_iff.mpr h,
    Option.map_some]

/-- A numeral without white space around it. -/
theorem ofLexical?_of_parse? {text : String} {n : Numeral}
    (h : Numeral.parse? text.toList = some n) : ofLexical? text = some n.toDouble := by
  have hwritten := Numeral.parse?_eq_some_iff.mp h
  exact ofLexical?_of_writtenAs (Unicode.trim_of_writtenAs hwritten) hwritten

end Double

end SparqlExpr
