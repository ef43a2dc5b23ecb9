import Mathlib.Data.List.Forall2
import SparqlExpr.Operator.Basic
import SparqlExpr.Proofs.Outcome

/-! Terms that read as the same literal, however its datatype is spelled, and when computations on
such terms agree. -/
namespace SparqlExpr

variable {σ α β γ δ : Type}

/-- Two terms are equal, or both are literals with the same lexical form, language tag and datatype.
-/
def Term.Alike (s t : Term) : Prop :=
  s = t ∨ ∃ l, s.literal? = some l ∧ t.literal? = some l

theorem Term.text_of_literal? {t : Term} {l : Literal} (h : t.literal? = some l) :
    ∃ body, t.text.toList = '"' :: body := by
  unfold literal? at h
  split at h
  · exact ⟨_, ‹_›⟩
  · cases h

theorem Term.isBlank_of_quote {t : Term} {body : List Char} (h : t.text.toList = '"' :: body) :
    t.isBlank = false := by
  rw [isBlank, h]
  rfl

theorem Term.isIri_of_quote {t : Term} {body : List Char} (h : t.text.toList = '"' :: body) :
    t.isIri = false := by
  rw [isIri, h]
  rfl

theorem Term.isIri_of_literal? {t : Term} {l : Literal} (h : t.literal? = some l) :
    t.isIri = false := by
  obtain ⟨body, hbody⟩ := text_of_literal? h
  exact isIri_of_quote hbody

theorem Term.isBlank_of_literal? {t : Term} {l : Literal} (h : t.literal? = some l) :
    t.isBlank = false := by
  obtain ⟨body, hbody⟩ := text_of_literal? h
  exact isBlank_of_quote hbody

namespace Term.Alike
variable {s t : Term}

theorem refl (t : Term) : t.Alike t := Or.inl rfl

theorem of_eq (h : s = t) : s.Alike t := Or.inl h

theorem literal?_eq (h : s.Alike t) : s.literal? = t.literal? := by
  obtain rfl | ⟨l, hs, ht⟩ := h
  · rfl
  · rw [hs, ht]

theorem isIri_eq (h : s.Alike t) : s.isIri = t.isIri := by
  obtain rfl | ⟨l, hs, ht⟩ := h
  · rfl
  · rw [isIri_of_literal? hs, isIri_of_literal? ht]

theorem isBlank_eq (h : s.Alike t) : s.isBlank = t.isBlank := by
  obtain rfl | ⟨l, hs, ht⟩ := h
  · rfl
  · rw [isBlank_of_literal? hs, isBlank_of_literal? ht]

/-- Only literals have more than one spelling. -/
theorem eq_of_isIri (h : s.Alike t) (hi : t.isIri = true) : s = t := by
  obtain rfl | ⟨l, hs, ht⟩ := h
  · rfl
  · rw [isIri_of_literal? ht] at hi
    cases hi

theorem isLiteral_eq (h : s.Alike t) : s.isLiteral = t.isLiteral := by
  rw [isLiteral, isLiteral, h.literal?_eq]

theorem datatype?_eq (h : s.Alike t) : s.datatype? = t.datatype? := by
  rw [datatype?, datatype?, h.literal?_eq]

theorem isPlain_eq (h : s.Alike t) : s.isPlain = t.isPlain := by
  rw [isPlain, isPlain, effectiveDatatype?, effectiveDatatype?, h.literal?_eq]

theorem isNumeric_eq (h : s.Alike t) : s.isNumeric = t.isNumeric := by
  rw [isNumeric, isNumeric, h.datatype?_eq]

theorem truth_eq (h : s.Alike t) : s.truth = t.truth := by
  rw [truth, truth, h.literal?_eq]

theorem withLexical_eq (h : s.Alike t) (lexical : String) :
    s.withLexical lexical = t.withLexical lexical := by
  rw [withLexical, withLexical, kind, kind, h.literal?_eq]

theorem compatible_eq {s' t' : Term} (h : s.Alike t) (h' : s'.Alike t') :
    s.compatible s' = t.compatible t' := by
  rw [compatible, compatible, h.literal?_eq, h'.literal?_eq]

end Term.Alike

/-- The variable that an error is about. -/
def FilterError.variable? : FilterError → Option String
  | unboundVariable name => some name
  | _ => none

/-- Errors of the same variant, about the same operator or the same variable. -/
def FilterError.Alike (x y : FilterError) : Prop :=
  x.ctorIdx = y.ctorIdx ∧ x.operator? = y.operator? ∧ x.variable? = y.variable?

theorem FilterError.Alike.refl (error : FilterError) : error.Alike error := ⟨rfl, rfl, rfl⟩

theorem FilterError.Alike.arity (operator : String) (m n m' n' : Nat) :
    (arityMismatch operator m n).Alike (arityMismatch operator m' n') := ⟨rfl, rfl, rfl⟩

/-- The operators that want two literals with the same language tag. -/
def Operator.comparisons : List Operator :=
  [.strStarts, .strEnds, .contains, .strBefore, .strAfter]

/-- The errors by which an operator rejects its arguments. -/
inductive FilterError.Rejects (op : Operator) : FilterError → Prop where
  | invalid (fault : Fault) : Rejects op (.invalidArgument op.name fault)
  | incompatible (s t : Term) (mem : op ∈ Operator.comparisons) (h : s.compatible t = false) :
    Rejects op (.incompatible op.name s t)

theorem FilterError.Rejects.not_static {op : Operator} {error : FilterError}
    (h : error.Rejects op) : error.isStatic = false := by
  cases h <;> rfl

/-- Alike errors by which an operator rejects its arguments. -/
def FilterError.RejectAlike (op : Operator) (x y : FilterError) : Prop :=
  x.Rejects op ∧ y.Rejects op ∧ x.Alike y

namespace FilterError.RejectAlike
variable {op : Operator}

theorem invalid (fault fault' : Fault) :
    RejectAlike op (.invalidArgument op.name fault) (.invalidArgument op.name fault') :=
  ⟨.invalid fault, .invalid fault', rfl, rfl, rfl⟩

theorem incompatible (mem : op ∈ Operator.comparisons) {s t s' t' : Term}
    (h : s.compatible t = false) (h' : s'.compatible t' = false) :
    RejectAlike op (.incompatible op.name s t) (.incompatible op.name s' t') :=
  ⟨.incompatible s t mem h, .incompatible s' t' mem h', rfl, rfl, rfl⟩

theorem alike {x y : FilterError} (h : RejectAlike op x y) : x.Alike y := h.2.2

end FilterError.RejectAlike

/-- Values of alike terms, of the same number or of the same truth value. -/
inductive Value.Alike : Value → Value → Prop where
  | term {s t : Term} (h : s.Alike t) : Alike (.term s) (.term t)
  | number (x : Double) : Alike (.number x) (.number x)
  | boolean (b : Bool) : Alike (.boolean b) (.boolean b)

theorem Value.Alike.refl : (v : Value) → v.Alike v
  | .term t => .term (.refl t)
  | .number x => .number x
  | .boolean b => .boolean b

/-- Two computations agree: both give results, or both give errors, which are related. -/
inductive Agree (E : FilterError → FilterError → Prop) (R : α → β → Prop) :
    Except FilterError α → Except FilterError β → Prop where
  | ok {a : α} {b : β} (h : R a b) : Agree E R (.ok a) (.ok b)
  | error {x y : FilterError} (h : E x y) : Agree E R (.error x) (.error y)

section Agreement
variable {E F : FilterError → FilterError → Prop} {R : α → β → Prop} {Q : γ → δ → Prop}

namespace Agree

theorem mono {x : Except FilterError α} {y : Except FilterError β} (h : Agree E R x y)
    (hEF : ∀ x y, E x y → F x y) : Agree F R x y := by
  cases h with
  | ok h => exact ok h
  | error h => exact error (hEF _ _ h)

theorem bind {x : Except FilterError α} {y : Except FilterError β} {f : α → Except FilterError γ}
    {g : β → Except FilterError δ} (h : Agree E R x y)
    (hfg : ∀ a b, R a b → Agree E Q (f a) (g b)) : Agree E Q (x >>= f) (y >>= g) := by
  cases h with
  | ok h => exact hfg _ _ h
  | error h => exact error h

theorem bind_eq {x y : Except FilterError α} {f : α → Except FilterError γ}
    {g : α → Except FilterError δ} (h : Agree E Eq x y) (hfg : ∀ a, Agree E Q (f a) (g a)) :
    Agree E Q (x >>= f) (y >>= g) := by
  refine bind h fun a b hab => ?_
  cases hab
  exact hfg a

theorem mapM {as : List α} {bs : List β} {f : α → Except FilterError γ}
    {g : β → Except FilterError δ} (h : List.Forall₂ R as bs)
    (hfg : ∀ a b, R a b → Agree E Q (f a) (g b)) :
    Agree E (List.Forall₂ Q) (as.mapM f) (bs.mapM g) := by
  induction h with
  | nil => exact ok .nil
  | cons hab _ ih =>
    rw [List.mapM_cons, List.mapM_cons]
    exact bind (hfg _ _ hab) fun c d hcd => bind ih fun cs ds hcs => ok (.cons hcd hcs)

end Agree

/-- Runs agree: so do their results, with alike errors, and they reach the same state of the random
source. -/
def Outcome.Agree (R : α → β → Prop) (o : Outcome σ α) (o' : Outcome σ β) : Prop :=
  SparqlExpr.Agree FilterError.Alike R o.1 o'.1 ∧ o.2 = o'.2

namespace Outcome.Agree

theorem ok {a : α} {b : β} (h : R a b) (s : σ) : Agree R (.ok a, s) (.ok b, s) := ⟨.ok h, rfl⟩

theorem error {x y : FilterError} (h : x.Alike y) (s : σ) :
    Agree R ((.error x, s) : Outcome σ α) ((.error y, s) : Outcome σ β) := ⟨.error h, rfl⟩

theorem andThen {o : Outcome σ α} {o' : Outcome σ β} {f : α → σ → Outcome σ γ}
    {g : β → σ → Outcome σ δ} (h : Agree R o o')
    (hfg : ∀ a b s, R a b → Agree Q (f a s) (g b s)) : Agree Q (o.andThen f) (o'.andThen g) := by
  obtain ⟨x, s⟩ := o
  obtain ⟨y, s'⟩ := o'
  obtain ⟨hxy, rfl⟩ : SparqlExpr.Agree FilterError.Alike R x y ∧ s = s' := h
  cases hxy with
  | ok h => exact hfg _ _ s h
  | error h => exact error h s

end Outcome.Agree

end Agreement

end SparqlExpr
