import SparqlExpr.Proofs.Connectives
import SparqlExpr.Proofs.TextOperators

/-! Language ranges: matching is a preorder on texts, and the ranges of one tag form a chain, `*`
apart. -/
namespace SparqlExpr

namespace Strings
variable {tag range other : List Char}

theorem inRange_star : inRange tag ['*'] = true ↔ tag ≠ [] := by
  rw [inRange, if_pos rfl, Bool.not_eq_true', List.isEmpty_eq_false_iff]

/-- With a hyphen behind both, what a range takes is what it is a prefix of. -/
theorem inRange_iff (h : range ≠ ['*']) :
    inRange tag range = true ↔ range ++ ['-'] <+: tag ++ ['-'] := by
  rw [inRange, if_neg h, Bool.or_eq_true, beq_iff_eq, List.isPrefixOf_iff_prefix,
    List.prefix_concat_iff, List.append_cancel_right_eq, eq_comm]

theorem inRange_refl (tag : List Char) : inRange tag tag = true := by
  by_cases h : tag = ['*']
  · subst h
    exact inRange_star.mpr (List.cons_ne_nil _ _)
  · exact (inRange_iff h).mpr (List.prefix_refl _)

/-- The tag `*` is in no range but its own. -/
theorem eq_star_of_inRange (h : inRange ['*'] range = true) : range = ['*'] := by
  by_contra hrange
  have hprefix := (inRange_iff hrange).mp h
  cases range with
  | nil =>
    have hfirst := hprefix.head (List.cons_ne_nil _ _)
    cases hfirst
  | cons c cs =>
    obtain ⟨rfl, hrest⟩ := List.cons_prefix_cons.mp hprefix
    have hlength : (cs ++ ['-']).length ≤ ['-'].length := hrest.length_le
    rw [List.length_append, List.length_singleton] at hlength
    have hempty : cs = [] := List.eq_nil_of_length_eq_zero (by omega)
    exact hrange (by rw [hempty])

theorem ne_nil_of_inRange (h : inRange tag range = true) (hrange : range ≠ []) : tag ≠ [] := by
  by_cases hstar : range = ['*']
  · subst hstar
    exact inRange_star.mp h
  · rintro rfl
    have hlength := ((inRange_iff hstar).mp h).length_le
    have hpositive := List.length_pos_iff.mpr hrange
    simp only [List.length_append, List.length_nil] at hlength
    omega

theorem inRange_trans (h : inRange tag range = true) (h' : inRange range other = true) :
    inRange tag other = true := by
  by_cases hother : other = ['*']
  · subst hother
    exact inRange_star.mpr (ne_nil_of_inRange h (inRange_star.mp h'))
  · have hrange : range ≠ ['*'] := by
      rintro rfl
      exact hother (eq_star_of_inRange h')
    rw [inRange_iff hrange] at h
    rw [inRange_iff hother] at h' ⊢
    exact h'.trans h

/-- Of two ranges of one tag, one takes the other. -/
theorem inRange_comparable (hrange : range ≠ ['*']) (hother : other ≠ ['*'])
    (h : inRange tag range = true) (h' : inRange tag other = true) :
    inRange range other = true ∨ inRange other range = true := by
  rw [inRange_iff hrange] at h
  rw [inRange_iff hother] at h'
  rw [inRange_iff hrange, inRange_iff hother]
  exact List.prefix_or_prefix_of_prefix h' h

end Strings

/-- Matching one term against another comes to a truth value, in every row and from every state of
the random source. -/
def Evaluator.LangMatches (v : Evaluator) (tag range : Term) (b : Bool) : Prop :=
  ∀ (σ : Type) [RandomSource σ] (row : Row) (a : σ),
    (v.evalOnce (.call "langmatches" [.const tag, .const range]) row).runFrom a =
      (.ok (.ofBool b), a)

section Call
variable {lower : List Char → List Char} {v : Evaluator} {s t : Term} {l m : Literal} {b : Bool}

theorem Evaluator.runFrom_langMatches {σ : Type} [RandomSource σ]
    (hregistry : v.registry.get? .langMatches =
      some ⟨.asIs, .boolean, false, Strings.langMatchesBy lower⟩)
    (hdepth : 2 ≤ v.config.maxDepth) (hs : s.literal? = some l) (ht : t.literal? = some m)
    (row : Row) (a : σ) :
    (v.evalOnce (.call "langmatches" [.const s, .const t]) row).runFrom a =
      (.ok (.ofBool (Strings.inRange (lower l.lexical.toList) (lower m.lexical.toList))), a) := by
  have hname : Operator.ofName? "langmatches" = some .langMatches := by decide
  have hresolve : v.registry.resolve "langmatches" =
      .ok (.langMatches, ⟨.asIs, .boolean, false, Strings.langMatchesBy lower⟩) := by
    simp [Registry.resolve, hname, hregistry]
  have hwf : v.compiler.WellFormed 1 (.call "langmatches" [.const s, .const t]) := by
    refine Compiler.wellFormed_one.mpr ⟨hdepth, fun name args ho => ?_⟩
    rcases Expr.occurs_call.mp ho with heq | ⟨e, he, ho⟩
    · cases heq
      refine ⟨⟨.asIs, .boolean, false, Strings.langMatchesBy lower⟩, ?_, rfl, rfl⟩
      rw [Registry.find?, hname]
      exact hregistry
    · simp only [List.mem_cons, List.not_mem_nil, or_false] at he
      rcases he with rfl | rfl
      · cases ho
      · cases ho
  rw [Evaluator.runFrom_evalOnce, Compiler.validate_eq_ok_iff.mpr hwf]
  change interpret v.registry row (.call "langmatches" [.const s, .const t]) a = _
  rw [interpret_value hresolve rfl]
  simp only [interpretAll, interpret, Outcome.andThen_ok, Descriptor.apply,
    Coercion.mapM_argument_asIs, List.map_cons, List.map_nil, Strings.langMatchesBy,
    Implementation.invoke, Value.toLiteral_of_literal? hs, Value.toLiteral_of_literal? ht, ok_bind,
    pure_eq_ok, EvalM.runFrom_lift]
  rfl

theorem Evaluator.langMatches_iff
    (hregistry : v.registry.get? .langMatches =
      some ⟨.asIs, .boolean, false, Strings.langMatchesBy lower⟩)
    (hdepth : 2 ≤ v.config.maxDepth) (hs : s.literal? = some l) (ht : t.literal? = some m) :
    v.LangMatches s t b ↔
      Strings.inRange (lower l.lexical.toList) (lower m.lexical.toList) = b := by
  constructor
  · intro h
    have hrun := h Script .empty { doubles := [], uuids := [] }
    rw [runFrom_langMatches hregistry hdepth hs ht] at hrun
    have hterm := Except.ok.inj (congrArg Prod.fst hrun)
    rw [← Term.truth_ofBool (Strings.inRange _ _), hterm, Term.truth_ofBool]
  · rintro rfl σ _ row a
    exact runFrom_langMatches hregistry hdepth hs ht row a

end Call

/-- Whatever the lower case of a text is, matching literals is a preorder. Ranges that take the same
tag are comparable, `*` apart. The result is a truth value for all literals, and only the lower case
of both lexical forms tells which. -/
theorem langMatches_preorder (lower : List Char → List Char) (v : Evaluator)
    (hregistry : v.registry.get? .langMatches =
      some ⟨.asIs, .boolean, false, Strings.langMatchesBy lower⟩)
    (hdepth : 2 ≤ v.config.maxDepth) {s t u : Term} {l m n : Literal} (hs : s.literal? = some l)
    (ht : t.literal? = some m) (hu : u.literal? = some n) :
    v.LangMatches s s true ∧
      (v.LangMatches s t true → v.LangMatches t u true → v.LangMatches s u true) ∧
      (lower m.lexical.toList ≠ ['*'] → lower n.lexical.toList ≠ ['*'] →
        v.LangMatches s t true → v.LangMatches s u true →
          v.LangMatches t u true ∨ v.LangMatches u t true) ∧
      (∃ b, v.LangMatches s t b) ∧
      ∀ (s' t' : Term) (l' m' : Literal), s'.literal? = some l' → t'.literal? = some m' →
        lower l'.lexical.toList = lower l.lexical.toList →
        lower m'.lexical.toList = lower m.lexical.toList →
        ∀ b, v.LangMatches s' t' b ↔ v.LangMatches s t b := by
  have hmatch {x y : Term} {i j : Literal} {b : Bool} (hx : x.literal? = some i)
      (hy : y.literal? = some j) : v.LangMatches x y b ↔
        Strings.inRange (lower i.lexical.toList) (lower j.lexical.toList) = b :=
    Evaluator.langMatches_iff hregistry hdepth hx hy
  refine ⟨(hmatch hs hs).mpr (Strings.inRange_refl _), ?_, ?_, ⟨_, (hmatch hs ht).mpr rfl⟩, ?_⟩
  · intro hst htu
    exact (hmatch hs hu).mpr
      (Strings.inRange_trans ((hmatch hs ht).mp hst) ((hmatch ht hu).mp htu))
  · intro hrange hother hst hsu
    rw [hmatch ht hu, hmatch hu ht]
    exact Strings.inRange_comparable hrange hother ((hmatch hs ht).mp hst) ((hmatch hs hu).mp hsu)
  · intro s' t' l' m' hs' ht' hl hm b
    rw [hmatch hs' ht', hmatch hs ht, hl, hm]

/-- Capital letters, and a range that ends in a hyphen, first with the lower case of all letters and
then with that of ASCII letters only. -/
theorem langMatches_preorder_tags :
    let v := Evaluator.standard
    let w : Evaluator := ⟨{}, Registry.standard.register .langMatches .asIs .boolean
      (Strings.langMatchesBy fun text => text.map Char.toLower)⟩
    let s : Term := ⟨"\"sr-LATN--rs\"@x"⟩
    let t : Term := ⟨"\"SR-latn-\""⟩
    let u : Term := ⟨"\"sr\"^^<d>"⟩
    v.LangMatches s s true ∧ w.LangMatches s t true ∧ w.LangMatches t u true ∧
      w.LangMatches s u true ∧ (w.LangMatches t u true ∨ w.LangMatches u t true) := by
  intro v w s t u
  have hs : s.literal? = some ⟨"sr-LATN--rs", .tagged "x"⟩ := by decide
  have ht : t.literal? = some ⟨"SR-latn-", .simple⟩ := by decide
  have hu : u.literal? = some ⟨"sr", .typed "d"⟩ := by decide
  have hv : v.registry.get? .langMatches =
      some ⟨.asIs, .boolean, false, Strings.langMatchesBy Unicode.toLower⟩ := rfl
  have hw : w.registry.get? .langMatches =
      some ⟨.asIs, .boolean, false, Strings.langMatchesBy fun text => text.map Char.toLower⟩ := rfl
  have hdepth : 2 ≤ v.config.maxDepth := by decide
  have hst : w.LangMatches s t true := (Evaluator.langMatches_iff hw hdepth hs ht).mpr (by decide)
  have htu : w.LangMatches t u true := (Evaluator.langMatches_iff hw hdepth ht hu).mpr (by decide)
  obtain ⟨hself, -⟩ := langMatches_preorder Unicode.toLower v hv hdepth hs ht hu
  obtain ⟨-, htrans, hcompare, -⟩ := langMatches_preorder _ w hw hdepth hs ht hu
  have hsu := htrans hst htu
  exact ⟨hself, hst, htu, hsu, hcompare (by decide) (by decide) hst hsu⟩

end SparqlExpr
