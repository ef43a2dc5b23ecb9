import Mathlib.Data.List.TakeDrop
import Mathlib.Data.List.TakeWhile
import Mathlib.Logic.ExistsUnique
import SparqlExpr.Proofs.Alike

/-! The grammar of literals. A text in quotes with a suffix that holds none is read in one way only,
whatever its lexical form holds, and every text is a term of at most one class. -/
namespace SparqlExpr

theorem forall_mem_reverse_bne {c : Char} {text : List Char} (h : c ∉ text) :
    ∀ d ∈ text.reverse, (d != c) = true := by
  intro d hd
  rw [bne_iff_ne]
  rintro rfl
  exact h (List.mem_reverse.mp hd)

theorem splitAtLast_append {c : Char} {before after : List Char} (h : c ∉ after) :
    splitAtLast c (before ++ c :: after) = some (before, after) := by
  have hafter := forall_mem_reverse_bne h
  have hspan : (before ++ c :: after).reverse.span (· != c) =
      (after.reverse, c :: before.reverse) := by
    rw [List.span_eq_takeWhile_dropWhile, List.reverse_append, List.reverse_cons,
      List.append_assoc, List.singleton_append, List.takeWhile_append_of_pos hafter,
      List.dropWhile_append_of_pos hafter]
    simp
  simp only [splitAtLast, hspan, List.reverse_reverse]

theorem splitAtLast_eq_none {c : Char} {text : List Char} (h : c ∉ text) :
    splitAtLast c text = none := by
  have hdrop : text.reverse.dropWhile (· != c) = [] :=
    List.dropWhile_eq_nil_iff.mpr (forall_mem_reverse_bne h)
  simp only [splitAtLast, List.span_eq_takeWhile_dropWhile, hdrop]

/-- The part behind the last occurrence of a character is the one that does not hold it. -/
theorem splitAtLast_eq_some_iff {c : Char} {text before after : List Char} :
    splitAtLast c text = some (before, after) ↔ text = before ++ c :: after ∧ c ∉ after := by
  constructor
  · intro h
    by_cases hc : c ∈ text
    · obtain ⟨back, front, hrev, hback⟩ := List.eq_append_cons_of_mem (List.mem_reverse.mpr hc)
      have htext : text = front.reverse ++ c :: back.reverse := by
        rw [← List.reverse_reverse text, hrev]
        simp
      have hback' : c ∉ back.reverse := fun hm => hback (List.mem_reverse.mp hm)
      rw [htext, splitAtLast_append hback'] at h
      cases h
      exact ⟨htext, hback'⟩
    · rw [splitAtLast_eq_none hc] at h
      cases h
  · rintro ⟨rfl, h⟩
    exact splitAtLast_append h

theorem unbracket_bracketed (inner : List Char) : unbracket ('<' :: (inner ++ ['>'])) = inner := by
  simp [unbracket]

theorem unbracket_eq_self {iri : List Char} (h : ∀ inner, iri ≠ '<' :: (inner ++ ['>'])) :
    unbracket iri = iri := by
  unfold unbracket
  split
  · next rest =>
    split
    · next hlast =>
      refine absurd ?_ (h rest.dropLast)
      rw [List.dropLast_append_getLast? '>' hlast]
    · rfl
  · rfl

/-- What can stand behind the closing quote of a literal, by its kind. A datatype is in brackets, or
bare if it has no pair of them around it. -/
inductive LiteralKind.WrittenAs : LiteralKind → String → Prop where
  | simple : WrittenAs simple ""
  | tagged (language : String) : WrittenAs (tagged language) ("@" ++ language)
  | bracketed (datatype : String) : WrittenAs (typed datatype) ("^^<" ++ datatype ++ ">")
  | bare (datatype : String) (h : ∀ inner, datatype ≠ "<" ++ inner ++ ">") :
    WrittenAs (typed datatype) ("^^" ++ datatype)

/-- A literal in quotes, with a suffix for its kind in which there is no quote. -/
def Literal.WrittenAs (l : Literal) (text : String) : Prop :=
  ∃ suffix, text = "\"" ++ l.lexical ++ "\"" ++ suffix ∧ '"' ∉ suffix.toList ∧
    l.kind.WrittenAs suffix

namespace LiteralKind

theorem writtenAs_of_ofSuffix? {suffix : List Char} {kind : LiteralKind}
    (h : ofSuffix? suffix = some kind) : kind.WrittenAs (String.ofList suffix) := by
  unfold ofSuffix? at h
  split at h
  · cases h
    exact .simple
  · next tag =>
    cases h
    have htext : String.ofList ('@' :: tag) = "@" ++ String.ofList tag :=
      String.toList_inj.mp (by simp)
    rw [htext]
    exact .tagged _
  · next iri =>
    cases h
    by_cases hb : ∃ inner, iri = '<' :: (inner ++ ['>'])
    · obtain ⟨inner, rfl⟩ := hb
      have htext : String.ofList ('^' :: '^' :: '<' :: (inner ++ ['>'])) =
          "^^<" ++ String.ofList inner ++ ">" := String.toList_inj.mp (by simp)
      rw [htext, unbracket_bracketed]
      exact .bracketed _
    · have htext : String.ofList ('^' :: '^' :: iri) = "^^" ++ String.ofList iri :=
        String.toList_inj.mp (by simp)
      rw [htext, unbracket_eq_self fun inner h => hb ⟨inner, h⟩]
      refine .bare _ fun inner h => hb ⟨inner.toList, ?_⟩
      simpa using congrArg String.toList h
  · cases h

theorem ofSuffix?_of_writtenAs {suffix : String} {kind : LiteralKind} (h : kind.WrittenAs suffix) :
    ofSuffix? suffix.toList = some kind := by
  cases h with
  | simple => rfl
  | tagged language => simp [ofSuffix?]
  | bracketed datatype => simp [ofSuffix?, unbracket]
  | bare datatype h =>
    have hself : unbracket datatype.toList = datatype.toList := by
      refine unbracket_eq_self fun inner hinner => h (String.ofList inner) ?_
      rw [← String.toList_inj, hinner]
      simp
    simp [ofSuffix?, hself]

/-- Every suffix of one of the three shapes is that of some kind. -/
theorem exists_writtenAs_iff {suffix : String} :
    (∃ kind : LiteralKind, kind.WrittenAs suffix) ↔
      suffix = "" ∨ (∃ tag, suffix = "@" ++ tag) ∨ ∃ iri, suffix = "^^" ++ iri := by
  constructor
  · rintro ⟨kind, h⟩
    cases h with
    | simple => exact Or.inl rfl
    | tagged language => exact Or.inr (Or.inl ⟨language, rfl⟩)
    | bracketed datatype =>
      exact Or.inr (Or.inr ⟨"<" ++ datatype ++ ">", String.toList_inj.mp (by simp)⟩)
    | bare datatype _ => exact Or.inr (Or.inr ⟨datatype, rfl⟩)
  · rintro (rfl | ⟨tag, rfl⟩ | ⟨iri, rfl⟩)
    · exact ⟨_, .simple⟩
    · exact ⟨_, .tagged tag⟩
    · by_cases hb : ∃ inner, iri = "<" ++ inner ++ ">"
      · obtain ⟨inner, rfl⟩ := hb
        have htext : "^^" ++ ("<" ++ inner ++ ">") = "^^<" ++ inner ++ ">" :=
          String.toList_inj.mp (by simp)
        rw [htext]
        exact ⟨_, .bracketed inner⟩
      · exact ⟨_, .bare iri fun inner h => hb ⟨inner, h⟩⟩

end LiteralKind

namespace Term

/-- Reading takes the last quote for the closing one. -/
theorem literal?_eq_some_iff_of_toList {t : Term} {l : Literal} :
    t.literal? = some l ↔ ∃ suffix, t.text.toList = '"' :: (l.lexical.toList ++ '"' :: suffix) ∧
      '"' ∉ suffix ∧ LiteralKind.ofSuffix? suffix = some l.kind := by
  unfold literal?
  constructor
  · intro h
    split at h
    · next body hbody =>
      split at h
      · next lexical suffix hsplit =>
        obtain ⟨rfl, hquote⟩ := splitAtLast_eq_some_iff.mp hsplit
        obtain ⟨kind, hkind, rfl⟩ := Option.map_eq_some_iff.mp h
        exact ⟨suffix, by rw [hbody, String.toList_ofList], hquote, hkind⟩
      · cases h
    · cases h
  · rintro ⟨suffix, htext, hquote, hkind⟩
    simp only [htext, splitAtLast_append hquote, hkind, Option.map_some, String.ofList_toList]

/-- What is read as a literal is what the grammar has. -/
theorem literal?_eq_some_iff {t : Term} {l : Literal} :
    t.literal? = some l ↔ l.WrittenAs t.text := by
  rw [literal?_eq_some_iff_of_toList]
  constructor
  · rintro ⟨suffix, htext, hquote, hkind⟩
    refine ⟨String.ofList suffix, ?_, by rwa [String.toList_ofList],
      LiteralKind.writtenAs_of_ofSuffix? hkind⟩
    rw [← String.toList_inj, htext]
    simp
  · rintro ⟨suffix, htext, hquote, hkind⟩
    exact ⟨suffix.toList, by simp [htext], hquote, LiteralKind.ofSuffix?_of_writtenAs hkind⟩

theorem isLiteral_iff {t : Term} : t.isLiteral = true ↔ ∃ l : Literal, l.WrittenAs t.text := by
  simp only [isLiteral, Option.isSome_iff_exists, literal?_eq_some_iff]

/-- The empty text, and a text that opens with a quote and is no literal, are in no class. -/
def Unclassified (t : Term) : Prop :=
  t.text = "" ∨ (∃ body, t.text = "\"" ++ body) ∧ ∀ l : Literal, ¬l.WrittenAs t.text

/-- A text that opens with a quote is a literal or nothing. -/
theorem unclassified_iff_of_quote {t : Term} {body : List Char}
    (h : t.text.toList = '"' :: body) : t.Unclassified ↔ t.isLiteral = false := by
  have hne : t.text ≠ "" := fun hempty => by simp [hempty] at h
  have hbody : ∃ body, t.text = "\"" ++ body :=
    ⟨String.ofList body, String.toList_inj.mp (by simp [h])⟩
  rw [Unclassified, or_iff_right hne, and_iff_right hbody, ← not_exists, ← isLiteral_iff,
    Bool.not_eq_true]

theorem isLiteral_of_not_quote {t : Term} (h : ∀ body, t.text.toList ≠ '"' :: body) :
    t.isLiteral = false := by
  rw [← Bool.not_eq_true, isLiteral, Option.isSome_iff_exists]
  rintro ⟨l, hl⟩
  obtain ⟨body, hbody⟩ := text_of_literal? hl
  exact h body hbody

/-- Of other texts, blank nodes are those that are no IRIs, the empty text apart. -/
theorem isIri_of_not_quote {t : Term} (hne : t.text.toList ≠ [])
    (h : ∀ body, t.text.toList ≠ '"' :: body) : t.isIri = !t.isBlank := by
  rw [isIri]
  split
  · next hempty => exact absurd hempty hne
  · next body hbody => exact absurd hbody (h body)
  · rfl

theorem one_class_or_unclassified (t : Term) :
    [t.isLiteral, t.isBlank, t.isIri].count true = 1 ∧ ¬t.Unclassified ∨
      [t.isLiteral, t.isBlank, t.isIri].count true = 0 ∧ t.Unclassified := by
  by_cases hempty : t.text = ""
  · have htext : t.text.toList = [] := by rw [hempty]; rfl
    refine Or.inr ⟨?_, Or.inl hempty⟩
    rw [isLiteral_of_not_quote (by simp [htext]), isBlank, isIri, htext]
    rfl
  · by_cases hquote : ∃ body, t.text.toList = '"' :: body
    · obtain ⟨body, hbody⟩ := hquote
      rw [unclassified_iff_of_quote hbody, isBlank_of_quote hbody, isIri_of_quote hbody]
      cases t.isLiteral with
      | true => exact Or.inl ⟨rfl, Bool.noConfusion⟩
      | false => exact Or.inr ⟨rfl, rfl⟩
    · rw [not_exists] at hquote
      have hne : t.text.toList ≠ [] := fun h => hempty (String.toList_inj.mp h)
      have hclassified : ¬t.Unclassified := by
        rintro (h | ⟨⟨body, hbody⟩, -⟩)
        · exact hempty h
        · exact hquote body.toList (by simp [hbody])
      refine Or.inl ⟨?_, hclassified⟩
      rw [isLiteral_of_not_quote hquote, isIri_of_not_quote hne hquote]
      cases t.isBlank <;> rfl

/-- A text is read as a literal exactly if it is in quotes, the last of them closing it, with one of
the three suffixes behind; it then has one reading, which is that of the grammar. Any text is a
literal, a blank node or an IRI and no two of them, the unclassified apart, which are none. -/
theorem literal?_iff_writtenAs_and_one_class (t : Term) :
    (t.isLiteral = true ↔ ∃ lexical suffix, t.text = "\"" ++ lexical ++ "\"" ++ suffix ∧
      '"' ∉ suffix.toList ∧
      (suffix = "" ∨ (∃ tag, suffix = "@" ++ tag) ∨ ∃ iri, suffix = "^^" ++ iri)) ∧
    (t.isLiteral = true ↔ ∃! l : Literal, l.WrittenAs t.text) ∧
    (∀ l, t.literal? = some l ↔ l.WrittenAs t.text) ∧
    ([t.isLiteral, t.isBlank, t.isIri].count true = 0 ↔ t.Unclassified) ∧
    ([t.isLiteral, t.isBlank, t.isIri].count true = 1 ↔ ¬t.Unclassified) := by
  refine ⟨?_, ?_, fun l => literal?_eq_some_iff, ?_⟩
  · rw [isLiteral_iff]
    constructor
    · rintro ⟨l, suffix, htext, hquote, hkind⟩
      exact ⟨l.lexical, suffix, htext, hquote, LiteralKind.exists_writtenAs_iff.mp ⟨_, hkind⟩⟩
    · rintro ⟨lexical, suffix, htext, hquote, hshape⟩
      obtain ⟨kind, hkind⟩ := LiteralKind.exists_writtenAs_iff.mpr hshape
      exact ⟨⟨lexical, kind⟩, suffix, htext, hquote, hkind⟩
  · rw [isLiteral_iff]
    refine ⟨?_, ExistsUnique.exists⟩
    rintro ⟨l, hl⟩
    refine ⟨l, hl, fun m hm => ?_⟩
    rw [← literal?_eq_some_iff] at hl hm
    exact Option.some.inj (hm.symm.trans hl)
  · rcases one_class_or_unclassified t with ⟨hcount, h⟩ | ⟨hcount, h⟩
    · simp [hcount, h]
    · simp [hcount, h]

/-- A half bracket belongs to the datatype, and quotes before the last one to the lexical form. -/
example : (Term.mk "\"say \"hi\"\"^^<a").literal? = some ⟨"say \"hi\"", .typed "<a"⟩ := by decide

end Term

end SparqlExpr
