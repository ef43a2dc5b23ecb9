import SparqlExpr.Proofs.LiteralRoundTrip
import SparqlExpr.Proofs.Refinement
import SparqlExpr.Proofs.Returns
import SparqlExpr.Proofs.Standard

/-! The datatype of a calculated number: each operation takes it from its first argument, so it
comes from the leftmost argument that is not calculated itself. -/
namespace SparqlExpr

/-- The number that a literal spells. -/
def Term.number? (t : Term) : Option Double :=
  t.literal?.bind fun l => Double.ofLexical? l.lexical

namespace Coercion
variable {t : Term}

/-- Arguments are read as numbers, and any other is rejected. -/
theorem argument_numeric_eq_ok_iff {operator : String} {v : Value} :
    numeric.argument operator t = .ok v ↔ ∃ x, t.number? = some x ∧ v = .number x := by
  unfold argument Term.number?
  cases hl : t.literal? with
  | none => simp
  | some l =>
    cases hx : Double.ofLexical? l.lexical with
    | none => simp [hx]
    | some x => simp [hx, eq_comm]

theorem resultDatatype_quoteFree (first : Option Term) :
    (LiteralKind.typed (resultDatatype first)).QuoteFree := by
  unfold resultDatatype
  cases h : first.bind (·.datatype?) with
  | none =>
    have hinteger : (LiteralKind.typed Vocabulary.xsdInteger).QuoteFree := by decide
    exact hinteger
  | some datatype =>
    obtain ⟨t, -, ht⟩ := Option.bind_eq_some_iff.mp h
    exact Term.quoteFree_of_datatype? ht

/-- A numeric result is read back with the datatype that it is given. -/
theorem literal?_typed_resultDatatype (lexical : String) (first : Option Term) :
    (Term.typed lexical (resultDatatype first)).literal? =
      some ⟨lexical, .typed (resultDatatype first)⟩ :=
  Term.literal?_ofLiteral_iff.mpr (resultDatatype_quoteFree first)

/-- The datatype of a result is passed on by the next operation. -/
theorem resultDatatype_typed (lexical : String) (first : Option Term) :
    resultDatatype (some (.typed lexical (resultDatatype first))) = resultDatatype first := by
  rw [resultDatatype, Option.bind_some, Term.datatype?, literal?_typed_resultDatatype]
  rfl

theorem resultDatatype_of_literal? {l : Literal} (h : t.literal? = some l) :
    resultDatatype (some t) = l.kind.datatype?.getD Vocabulary.xsdInteger := by
  rw [resultDatatype, Option.bind_some, Term.datatype?, h]
  rfl

end Coercion

/-- The operators that return a number with the datatype of their first argument. -/
def Operator.arithmetic : List Operator :=
  [.add, .subtract, .multiply, .divide, .abs, .round, .ceil, .floor]

section Operation
variable {op : Operator}

namespace Arithmetic

/-- A number returned for one argument or more. -/
def ReturnsNumber (args : List Value) (w : Value) : Prop :=
  args ≠ [] ∧ ∃ x, w = .number x

theorem reckon_ensures (op : Operator) (f : Double → Double) :
    (reckon op f).Ensures ReturnsNumber := by
  intro v w hw
  obtain ⟨x, -, hx⟩ := bind_eq_ok hw
  cases hx
  exact ⟨List.cons_ne_nil _ _, f x, rfl⟩

theorem calculate_ensures (op : Operator) (f : Double → Double → Double) :
    (calculate op f).Ensures ReturnsNumber := by
  intro v v' w hw
  obtain ⟨x, -, hw⟩ := bind_eq_ok hw
  obtain ⟨y, -, hw⟩ := bind_eq_ok hw
  cases hw
  exact ⟨List.cons_ne_nil _ _, f x y, rfl⟩

end Arithmetic

theorem Descriptor.standard_arithmetic (h : op ∈ Operator.arithmetic) :
    (standard op).argument = .numeric ∧ (standard op).result = .numeric ∧
      (standard op).raw = false ∧
      (standard op).implementation.Ensures Arithmetic.ReturnsNumber := by
  simp only [Operator.arithmetic, List.mem_cons, List.not_mem_nil, or_false] at h
  rcases h with rfl | rfl | rfl | rfl | rfl | rfl | rfl | rfl
  · exact ⟨rfl, rfl, rfl, Arithmetic.calculate_ensures .add _⟩
  · exact ⟨rfl, rfl, rfl, Arithmetic.calculate_ensures .subtract _⟩
  · exact ⟨rfl, rfl, rfl, Arithmetic.calculate_ensures .multiply _⟩
  · exact ⟨rfl, rfl, rfl, Arithmetic.calculate_ensures .divide _⟩
  · exact ⟨rfl, rfl, rfl, Arithmetic.reckon_ensures .abs _⟩
  · exact ⟨rfl, rfl, rfl, Arithmetic.reckon_ensures .round _⟩
  · exact ⟨rfl, rfl, rfl, Arithmetic.reckon_ensures .ceil _⟩
  · exact ⟨rfl, rfl, rfl, Arithmetic.reckon_ensures .floor _⟩

theorem Descriptor.arity_ne_zero_of_arithmetic (h : op ∈ Operator.arithmetic) :
    (standard op).arity ≠ 0 := by
  revert op
  decide

/-- An operation that succeeds has a literal for its first argument, and writes its number with the
datatype of that. -/
theorem Descriptor.apply_arithmetic_eq_ok {σ : Type} [RandomSource σ]
    (hop : op ∈ Operator.arithmetic) {ts : List Term} {t : Term} {s s' : σ}
    (h : (standard op).apply op ts s = (.ok t, s')) :
    ∃ u rest l x, ts = u :: rest ∧ u.literal? = some l ∧
      t = .typed (Double.toLexical x) (Coercion.resultDatatype (some u)) := by
  obtain ⟨hargument, hresult, -, hensures⟩ := standard_arithmetic hop
  unfold apply at h
  split at h
  · cases h
  · next values hvalues =>
    obtain ⟨w, s₁, hw, ht⟩ := Outcome.andThen_eq_ok h
    obtain ⟨hne, x, rfl⟩ := hensures.of_invoke hw
    cases ts with
    | nil =>
      cases hvalues
      exact absurd rfl hne
    | cons u rest =>
      rw [List.mapM_cons, hargument] at hvalues
      obtain ⟨v, hv, -⟩ := bind_eq_ok hvalues
      obtain ⟨y, hy, -⟩ := Coercion.argument_numeric_eq_ok_iff.mp hv
      obtain ⟨l, hl, -⟩ := Option.bind_eq_some_iff.mp hy
      rw [hresult] at ht
      cases ht
      exact ⟨u, rest, l, x, rfl, hl, rfl⟩

end Operation

namespace Expr

/-- An operation that returns a number with the datatype of its first argument. -/
def isArithmetic : Expr → Bool
  | call name _ => (Operator.ofName? name).any fun op => Operator.arithmetic.contains op
  | _ => false

mutual

/-- The first argument of the first argument and so on, as long as there are arithmetic operations.
-/
def leftmostLeaf : Expr → Expr
  | const t => const t
  | var name => var name
  | call name args =>
    if (call name args).isArithmetic then (leftmostLeaf? args).getD (call name args)
    else call name args

def leftmostLeaf? : List Expr → Option Expr
  | [] => none
  | e :: _ => some (leftmostLeaf e)

end

variable {name : String} {args : List Expr} {e : Expr} {es : List Expr}

theorem isArithmetic_call : (call name args).isArithmetic = true ↔
    ∃ op ∈ Operator.arithmetic, Operator.ofName? name = some op := by
  rw [isArithmetic]
  cases Operator.ofName? name with
  | none => simp
  | some op => simp

theorem leftmostLeaf_of_not_arithmetic (h : e.isArithmetic = false) : e.leftmostLeaf = e := by
  cases e with
  | const t => rw [leftmostLeaf]
  | var name => rw [leftmostLeaf]
  | call name args => rw [leftmostLeaf, if_neg (by simp [h])]

theorem leftmostLeaf_cons (h : (call name (e :: es)).isArithmetic = true) :
    (call name (e :: es)).leftmostLeaf = e.leftmostLeaf := by
  rw [leftmostLeaf, if_pos h, leftmostLeaf?, Option.getD_some]

theorem leftmostLeaf_occurs (e : Expr) : e.leftmostLeaf.Occurs e := by
  induction e with
  | const t => rw [leftmostLeaf]; exact .here
  | var name => rw [leftmostLeaf]; exact .here
  | call name args ih =>
    cases h : (call name args).isArithmetic with
    | false => rw [leftmostLeaf_of_not_arithmetic h]; exact .here
    | true =>
      cases args with
      | nil => rw [leftmostLeaf, leftmostLeaf?, Option.getD_none, ite_self]; exact .here
      | cons e es =>
        rw [leftmostLeaf_cons h]
        exact .inside List.mem_cons_self (ih e List.mem_cons_self)

end Expr

section Evaluation
variable {σ : Type} [RandomSource σ] {row : Row} {name : String} {args : List Expr} {e : Expr}
  {t : Term} {s s' : σ}

/-- What an operation does if it succeeds: its first argument comes to a literal, and the result is
a number with the datatype of that. -/
theorem interpret_arithmetic_eq_ok (hcall : (Expr.call name args).isArithmetic = true)
    (h : interpret .standard row (.call name args) s = (.ok t, s')) :
    ∃ e es u l s₁ x, args = e :: es ∧ interpret .standard row e s = (.ok u, s₁) ∧
      u.literal? = some l ∧ t = .typed (Double.toLexical x) (Coercion.resultDatatype (some u)) := by
  obtain ⟨op, hop, hname⟩ := Expr.isArithmetic_call.mp hcall
  obtain ⟨-, -, hraw, -⟩ := Descriptor.standard_arithmetic hop
  rw [interpret_value (Registry.resolve_of_ofName? hname) hraw] at h
  obtain ⟨ts, s₂, hargs, happly⟩ := Outcome.andThen_eq_ok h
  obtain ⟨u, rest, l, x, rfl, hl, ht⟩ := Descriptor.apply_arithmetic_eq_ok hop happly
  cases args with
  | nil => cases hargs
  | cons e es =>
    obtain ⟨u', s₁, ts', he, -, hts⟩ := interpretAll_cons_eq_ok hargs
    cases hts
    exact ⟨e, es, u, l, s₁, x, rfl, he, hl, ht⟩

/-- Along the left spine of a tree that comes to a literal, the datatype for the next operation
stays the one of the leftmost leaf, which is evaluated first. -/
theorem interpret_leftmostLeaf {l : Literal} (h : interpret .standard row e s = (.ok t, s'))
    (hl : t.literal? = some l) :
    ∃ u m s₁, interpret .standard row e.leftmostLeaf s = (.ok u, s₁) ∧ u.literal? = some m ∧
      Coercion.resultDatatype (some t) = Coercion.resultDatatype (some u) := by
  induction e generalizing t l s' with
  | const u => exact ⟨t, l, s', h, hl, rfl⟩
  | var name => exact ⟨t, l, s', h, hl, rfl⟩
  | call name args ih =>
    cases hcall : (Expr.call name args).isArithmetic with
    | false =>
      rw [Expr.leftmostLeaf_of_not_arithmetic hcall]
      exact ⟨t, l, s', h, hl, rfl⟩
    | true =>
      obtain ⟨e, es, u, m, s₁, x, rfl, he, hm, rfl⟩ := interpret_arithmetic_eq_ok hcall h
      rw [Expr.leftmostLeaf_cons hcall, Coercion.resultDatatype_typed]
      exact ih e List.mem_cons_self he hm

/-- A tree of callable operations has a leaf that is no arithmetic operation at its left end. -/
theorem Expr.leftmostLeaf_isArithmetic
    (h : ∀ name args, (Expr.call name args).Occurs e →
      Registry.standard.Callable name args.length) :
    e.leftmostLeaf.isArithmetic = false := by
  induction e with
  | const t => rfl
  | var name => rfl
  | call name args ih =>
    cases hcall : (Expr.call name args).isArithmetic with
    | false => rwa [leftmostLeaf_of_not_arithmetic hcall]
    | true =>
      obtain ⟨op, hop, hname⟩ := isArithmetic_call.mp hcall
      cases args with
      | nil =>
        obtain ⟨op', hname', -, -, harity⟩ := (h name [] .here).standard
        obtain rfl : op = op' := Option.some.inj (hname.symm.trans hname')
        exact absurd harity (Descriptor.arity_ne_zero_of_arithmetic hop)
      | cons e es =>
        rw [leftmostLeaf_cons hcall]
        refine ih e List.mem_cons_self fun name args ho => ?_
        exact h name args (.inside List.mem_cons_self ho)

end Evaluation

/-- If an arithmetic tree succeeds, its leftmost leaf comes to a literal in the same row and from the
same state. The result is a number written with the datatype that this literal writes out, in
brackets, or with `xsd:integer` if it writes none, whatever the other operands and the number. -/
theorem compiled_eval_arithmetic_datatype {σ : Type} [RandomSource σ] (config : Config) {e : Expr}
    {p : Compiled σ} (hp : (Evaluator.compiler ⟨config, .standard⟩).compile? (some e) = .ok p)
    (he : e.isArithmetic = true) (row : Row) (s : σ) :
    e.leftmostLeaf.isArithmetic = false ∧ ∃ q : Compiled σ,
      (Evaluator.compiler ⟨config, .standard⟩).compile? (some e.leftmostLeaf) = .ok q ∧
      ∀ t s', (p.eval row).runFrom s = (.ok (some t), s') →
        ∃ u l s₁ x, (q.eval row).runFrom s = (.ok (some u), s₁) ∧ u.literal? = some l ∧
          let datatype := l.kind.datatype?.getD Vocabulary.xsdInteger
          t = .typed (Double.toLexical x) datatype ∧
            t.literal? = some ⟨x.toLexical, .typed datatype⟩ ∧ t.language? = none := by
  have hwf := Compiler.exists_compile?_iff.mp ⟨p, hp⟩
  obtain ⟨q, hq⟩ := Compiler.exists_compile?_of_occurs hp e.leftmostLeaf_occurs
  refine ⟨Expr.leftmostLeaf_isArithmetic hwf.2, q, hq, fun t s' ht => ?_⟩
  have hmeaning : interpret .standard row e s = (.ok t, s') :=
    (Compiler.runFrom_eval_eq_ok_iff hp).mp ht
  cases e with
  | const t => cases he
  | var name => cases he
  | call name args =>
    obtain ⟨e, es, v, m, s₁, x, rfl, hv, hm, rfl⟩ := interpret_arithmetic_eq_ok he hmeaning
    obtain ⟨u, l, s₂, hu, hl, hdatatype⟩ := interpret_leftmostLeaf hv hm
    rw [← Expr.leftmostLeaf_cons he] at hu
    rw [Coercion.resultDatatype_of_literal? hl] at hdatatype
    have hread := Coercion.literal?_typed_resultDatatype x.toLexical (some v)
    rw [hdatatype] at hread ⊢
    refine ⟨u, l, s₂, x, (Compiler.runFrom_eval_eq_ok_iff hq).mpr hu, hl, rfl, hread, ?_⟩
    rw [Term.language?, hread]
    rfl

/-- Half a bracket is part of the datatype, so the result has another pair around it. -/
theorem abs_plus_rand_datatype :
    let leaf : Expr := .call "coalesce" [.var "?y", .var "?x"]
    let e : Expr := .call "+" [.call "abs" [leaf], .call "rand" []]
    let u : Term := ⟨"\"-1.5\"^^<d"⟩
    let t : Term := ⟨"\"1.5\"^^<<d>"⟩
    let row : Row := .ofList [("?x", u)]
    let s : Script := { doubles := [], uuids := [] }
    let c := Evaluator.standard.compiler
    e.leftmostLeaf = leaf ∧ ∃ p q : Compiled Script,
      c.compile? (some e) = .ok p ∧ c.compile? (some leaf) = .ok q ∧
        (p.eval row).runFrom s = (.ok (some t), { s with doublePosition := 1 }) ∧
        (q.eval row).runFrom s = (.ok (some u), s) ∧ u.literal? = some ⟨"-1.5", .typed "<d"⟩ ∧
        ∃ x : Double, t = .typed x.toLexical "<d" ∧
          t.literal? = some ⟨x.toLexical, .typed "<d"⟩ ∧ t.language? = none := by
  intro leaf e u t row s c
  have hmeaning : interpret .standard row e s = (.ok t, { s with doublePosition := 1 }) := by
    subst leaf e u t row s
    decide +kernel
  have hleaf : interpret .standard row leaf s = (.ok u, s) := by
    subst leaf u row s
    rfl
  have hl : u.literal? = some ⟨"-1.5", .typed "<d"⟩ := by decide
  obtain ⟨p, hp⟩ : ∃ p : Compiled Script, c.compile? (some e) = .ok p := ⟨_, rfl⟩
  have heval := (Compiler.runFrom_eval_eq_ok_iff hp).mpr hmeaning
  obtain ⟨-, q, hq, h⟩ := compiled_eval_arithmetic_datatype {} hp rfl row s
  have hu := (Compiler.runFrom_eval_eq_ok_iff hq).mpr hleaf
  obtain ⟨u', l, s₁, x, hu', hl', hresult⟩ := h t _ heval
  cases hu.symm.trans hu'
  cases hl.symm.trans hl'
  exact ⟨rfl, p, q, hp, hq, heval, hu, hl, x, hresult⟩

end SparqlExpr
