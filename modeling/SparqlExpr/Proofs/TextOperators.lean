import SparqlExpr.Proofs.FixedResult
import SparqlExpr.Proofs.LiteralRoundTrip

/-! What the operators on texts make of literals, and of terms that are not compatible. -/
namespace SparqlExpr

theorem Value.toLiteral_of_literal? {t : Term} {l : Literal} (h : t.literal? = some l)
    (operator : String) : (Value.term t).toLiteral operator = .ok l := by
  simp only [toLiteral, toTerm, ok_bind, h, pure_eq_ok]

namespace Term
variable {s s' t u : Term} {l : Literal}

theorem isLiteral_of_literal? (h : t.literal? = some l) : t.isLiteral = true := by
  rw [isLiteral, h]
  rfl

theorem exists_literal?_of_isLiteral (h : t.isLiteral = true) : ∃ l, t.literal? = some l :=
  Option.isSome_iff_exists.mp h

theorem isLiteral_withLexical (t : Term) (lexical : String) :
    (t.withLexical lexical).isLiteral = true :=
  isLiteral_of_literal? (literal?_withLexical t lexical)

theorem compatible_iff : s.compatible t = true ↔
    s.isLiteral = true ∧ t.isLiteral = true ∧ s.language? = t.language? := by
  rw [compatible, isLiteral, isLiteral, language?, language?]
  cases s.literal? with
  | none => simp
  | some l =>
    cases t.literal? with
    | none => simp
    | some m => simp

theorem compatible_comm (s t : Term) : s.compatible t = t.compatible s := by
  rw [Bool.eq_iff_iff, compatible_iff, compatible_iff]
  exact ⟨fun ⟨hs, ht, h⟩ => ⟨ht, hs, h.symm⟩, fun ⟨ht, hs, h⟩ => ⟨hs, ht, h.symm⟩⟩

theorem compatible_trans (h : s.compatible t = true) (h' : t.compatible u = true) :
    s.compatible u = true := by
  rw [compatible_iff] at h h' ⊢
  exact ⟨h.1, h'.2.1, h.2.2.trans h'.2.2⟩

theorem compatible_self_iff : t.compatible t = true ↔ t.isLiteral = true := by
  rw [compatible_iff]
  exact ⟨fun h => h.1, fun h => ⟨h, h, rfl⟩⟩

theorem compatible_self (h : t.literal? = some l) : t.compatible t = true :=
  compatible_self_iff.mpr (isLiteral_of_literal? h)

/-- Only the language tag of a literal counts. -/
theorem compatible_congr (hs : s.isLiteral = true) (hs' : s'.isLiteral = true)
    (h : s.language? = s'.language?) (t : Term) :
    s.compatible t = s'.compatible t ∧ t.compatible s = t.compatible s' := by
  have hleft : s.compatible t = s'.compatible t := by
    rw [Bool.eq_iff_iff, compatible_iff, compatible_iff, hs, hs', h]
  exact ⟨hleft, by rw [compatible_comm, hleft, compatible_comm]⟩

/-- A new lexical form is compatible with what the old one was compatible with. -/
theorem compatible_withLexical (h : s.literal? = some l) (lexical : String) (t : Term) :
    (s.withLexical lexical).compatible t = s.compatible t :=
  (compatible_congr (s.isLiteral_withLexical lexical) (isLiteral_of_literal? h)
    (s.language?_withLexical lexical) t).1

end Term

namespace Strings
variable {op : Operator} {s t : Term} {l m : Literal}

theorem strLen_makes (hs : s.literal? = some l) :
    Operator.strLen.Makes [s]
      (.ok (.typed (toString l.lexical.length) Vocabulary.xsdInteger)) := by
  let result := Term.typed (toString l.lexical.length) Vocabulary.xsdInteger
  refine Operator.makes_unary .strLen rfl (v := .ok (.term result)) ?_
  simp only [Value.toLiteral_of_literal? hs, ok_bind, pure_eq_ok, result]

theorem concat_makes (hs : s.literal? = some l) (ht : t.literal? = some m) :
    Operator.concat.Makes [s, t] (.ok (s.withLexical (l.lexical ++ m.lexical))) := by
  refine Operator.makes_binary .concat rfl
    (v := .ok (.term (s.withLexical (l.lexical ++ m.lexical)))) ?_
  simp only [Value.toLiteral_of_literal? hs, Value.toLiteral_of_literal? ht, ok_bind, Value.toTerm,
    pure_eq_ok]

theorem compatible_eq (hs : s.literal? = some l) (ht : t.literal? = some m)
    (h : s.compatible t = true) (op : Operator) :
    compatible op (.term s) (.term t) = .ok (l.lexical.toList, m.lexical.toList) := by
  simp only [compatible, Value.toTerm, ok_bind, h, if_true, Value.toLiteral_of_literal? hs,
    Value.toLiteral_of_literal? ht, pure_eq_ok]

theorem compatible_eq_error (h : s.compatible t = false) (op : Operator) :
    compatible op (.term s) (.term t) = .error (.incompatible op.name s t) := by
  simp only [compatible, Value.toTerm, ok_bind, h, Bool.false_eq_true, if_false, throw_eq_error]

section Test
variable (op) (f : List Char → List Char → Bool)
  (hop : Descriptor.standard op = ⟨.asIs, .boolean, false, test op f⟩)
include hop

theorem test_makes (hs : s.literal? = some l) (ht : t.literal? = some m)
    (h : s.compatible t = true) :
    op.Makes [s, t] (.ok (.ofBool (f l.lexical.toList m.lexical.toList))) := by
  refine Operator.makes_binary op hop (v := .ok (.boolean (f l.lexical.toList m.lexical.toList))) ?_
  simp only [compatible_eq hs ht h, ok_bind, pure_eq_ok]

theorem test_makes_error (h : s.compatible t = false) :
    op.Makes [s, t] (.error (.incompatible op.name s t)) := by
  refine Operator.makes_binary op hop (v := .error (.incompatible op.name s t)) ?_
  simp only [compatible_eq_error h, error_bind]

end Test

section Part
variable (op) (f : List Char × List Char → List Char)
  (hop : Descriptor.standard op = ⟨.asIs, .asIs, false, part op f⟩)
include hop

/-- The part around the first occurrence is given the kind of the first argument. -/
theorem part_makes_of_some (hs : s.literal? = some l) (ht : t.literal? = some m)
    (h : s.compatible t = true) {parts : List Char × List Char}
    (hfound : Text.splitAtFirst? m.lexical.toList l.lexical.toList = some parts) :
    op.Makes [s, t] (.ok (s.withLexical (String.ofList (f parts)))) := by
  refine Operator.makes_binary op hop
    (v := .ok (.term (s.withLexical (String.ofList (f parts))))) ?_
  simp only [compatible_eq hs ht h, ok_bind, Value.toTerm, hfound, pure_eq_ok]

theorem part_makes_of_none (hs : s.literal? = some l) (ht : t.literal? = some m)
    (h : s.compatible t = true)
    (hmissing : Text.splitAtFirst? m.lexical.toList l.lexical.toList = none) :
    op.Makes [s, t] (.ok (.simple "")) := by
  refine Operator.makes_binary op hop (v := .ok (.term (.simple ""))) ?_
  simp only [compatible_eq hs ht h, ok_bind, Value.toTerm, hmissing, pure_eq_ok]

theorem part_makes_error (h : s.compatible t = false) :
    op.Makes [s, t] (.error (.incompatible op.name s t)) := by
  refine Operator.makes_binary op hop (v := .error (.incompatible op.name s t)) ?_
  simp only [compatible_eq_error h, error_bind]

end Part

end Strings

theorem Expr.Reduces.strLen {e : Expr} {t : Term} {m : Literal} (he : e.Reduces (.ok t))
    (ht : t.literal? = some m) : (Expr.call "strlen" [e]).Reduces
      (.ok (.typed (toString m.lexical.length) Vocabulary.xsdInteger)) :=
  call (by decide) ⟨_, rfl, rfl, rfl⟩ rfl (.cons he .nil) (Strings.strLen_makes ht)

end SparqlExpr
