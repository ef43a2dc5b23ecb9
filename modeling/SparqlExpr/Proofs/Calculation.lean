import SparqlExpr.Proofs.NumberText
import SparqlExpr.Proofs.ResultDatatype

/-! Calculating with texts: every number on the way is written as a literal and read again, and the
result is the one of the numbers themselves, signs of zeros apart. -/
namespace SparqlExpr

/-- A function of one or two numbers. -/
inductive Calculation where
  | one (f : Double → Double)
  | two (f : Double → Double → Double)

namespace Calculation

def arity : Calculation → Nat
  | one _ => 1
  | two _ => 2

/-- The function of as many numbers as it takes. -/
def value? : Calculation → List Double → Option Double
  | one f, [x] => some (f x)
  | two f, [x, y] => some (f x y)
  | _, _ => none

theorem value?_one_eq_some {f : Double → Double} {xs : List Double} {y : Double}
    (h : (one f).value? xs = some y) : ∃ x, xs = [x] ∧ y = f x := by
  rcases xs with _ | ⟨x, _ | ⟨x', rest⟩⟩
  · cases h
  · exact ⟨x, rfl, (Option.some.inj h).symm⟩
  · cases h

theorem value?_two_eq_some {f : Double → Double → Double} {xs : List Double} {y : Double}
    (h : (two f).value? xs = some y) : ∃ x x', xs = [x, x'] ∧ y = f x x' := by
  rcases xs with _ | ⟨x, _ | ⟨x', _ | ⟨x'', rest⟩⟩⟩
  · cases h
  · cases h
  · exact ⟨x, x', rfl, (Option.some.inj h).symm⟩
  · cases h

theorem exists_value? {f : Calculation} {xs : List Double} (h : xs.length = f.arity) :
    ∃ y, f.value? xs = some y := by
  cases f with
  | one f =>
    obtain ⟨x, rfl⟩ := List.length_eq_one_iff.mp h
    exact ⟨f x, rfl⟩
  | two f =>
    obtain ⟨x, y, rfl⟩ := List.length_eq_two.mp h
    exact ⟨f x y, rfl⟩

end Calculation

/-- The operators on numbers that return one. -/
def Operator.calculation? : Operator → Option Calculation
  | add => some (.two (· + ·))
  | subtract => some (.two (· - ·))
  | multiply => some (.two (· * ·))
  | divide => some (.two (· / ·))
  | abs => some (.one Double.abs)
  | round => some (.one Double.round)
  | ceil => some (.one Double.ceil)
  | floor => some (.one Double.floor)
  | xsdDouble => some (.one id)
  | _ => none

namespace Expr

mutual

/-- The number of a tree whose leaves spell numbers, with no texts between the operations. A
negative zero that an operation returns counts as a positive one. -/
def number? (row : Row) : Expr → Option Double
  | const t => t.number?
  | var name => (row.get? name).bind Term.number?
  | call name args => do
    let op ← Operator.ofName? name
    let f ← op.calculation?
    let xs ← numbers? row args
    let x ← f.value? xs
    return x.dropZeroSign

def numbers? (row : Row) : List Expr → Option (List Double)
  | [] => some []
  | e :: es => do
    let x ← number? row e
    let xs ← numbers? row es
    return x :: xs

end

/-- Operations on numbers over leaves that spell numbers in a row. -/
inductive Calculates (row : Row) : Expr → Prop where
  | const {t : Term} {x : Double} (number : t.number? = some x) : Calculates row (.const t)
  | var {name : String} {t : Term} {x : Double} (bound : row.get? name = some t)
    (number : t.number? = some x) : Calculates row (.var name)
  | call {name : String} {args : List Expr} {op : Operator} {f : Calculation}
    (operator : Operator.ofName? name = some op) (calculation : op.calculation? = some f)
    (arguments : ∀ e ∈ args, Calculates row e) : Calculates row (.call name args)

end Expr

section Operation
variable {t : Term} {x y : Double} {ts : List Term} {xs : List Double} {op : Operator}
  {f : Calculation}

theorem Coercion.mapM_argument_numeric (operator : String)
    (h : List.Forall₂ (fun t x => t.number? = some x) ts xs) :
    ts.mapM (numeric.argument operator) = .ok (xs.map .number) := by
  induction h with
  | nil => rfl
  | cons ht _ ih =>
    rw [List.mapM_cons, argument_numeric_eq_ok_iff.mpr ⟨_, ht, rfl⟩, ih]
    rfl

/-- A literal with a number for its lexical form. -/
def Term.Spells (t : Term) (x : Double) : Prop :=
  ∃ l, t.literal? = some l ∧ l.lexical = x.toLexical

/-- What was written for a number is read as that number, signs of zeros apart. -/
theorem Term.Spells.number? (h : t.Spells x) : t.number? = some x.dropZeroSign := by
  obtain ⟨l, hl, hlexical⟩ := h
  rw [Term.number?, hl, Option.bind_some, hlexical, Double.ofLexical?_toLexical]

theorem Coercion.result_numeric_spells (first : Option Term) (x : Double) :
    (numeric.result first (.number x)).Spells x :=
  ⟨_, literal?_typed_resultDatatype x.toLexical first, rfl⟩

theorem Arithmetic.doubleTerm_spells (first : Option Term) (x : Double) :
    (Coercion.asIs.result first (doubleTerm x)).Spells x := by
  have hquote : (LiteralKind.typed Vocabulary.xsdDouble).QuoteFree := by decide
  exact ⟨_, Term.literal?_ofLiteral_iff.mpr hquote, rfl⟩

/-- An operator on numbers reads all its arguments as numbers and writes its function of them. -/
structure Descriptor.Computes (d : Descriptor) (f : Calculation) : Prop where
  arity : d.arity = f.arity
  raw : d.raw = false
  argument : d.argument = .numeric
  invoke {σ : Type} [RandomSource σ] (op : Operator) {xs : List Double} {y : Double}
    (h : f.value? xs = some y) : ∃ w, (∀ first, (d.result.result first w).Spells y) ∧
      ∀ s : σ, (d.implementation.invoke op (xs.map .number)).runFrom s = (.ok w, s)

theorem Arithmetic.calculate_computes (op : Operator) (g : Double → Double → Double) :
    Descriptor.Computes ⟨.numeric, .numeric, false, calculate op g⟩ (.two g) := by
  refine ⟨rfl, rfl, rfl, fun op' xs y h => ?_⟩
  obtain ⟨x, x', rfl, rfl⟩ := Calculation.value?_two_eq_some h
  exact ⟨.number (g x x'), fun first => Coercion.result_numeric_spells first _, fun s => rfl⟩

theorem Arithmetic.reckon_computes (op : Operator) (g : Double → Double) :
    Descriptor.Computes ⟨.numeric, .numeric, false, reckon op g⟩ (.one g) := by
  refine ⟨rfl, rfl, rfl, fun op' xs y h => ?_⟩
  obtain ⟨x, rfl, rfl⟩ := Calculation.value?_one_eq_some h
  exact ⟨.number (g x), fun first => Coercion.result_numeric_spells first _, fun s => rfl⟩

theorem Arithmetic.xsdDouble_computes :
    Descriptor.Computes ⟨.numeric, .asIs, false, xsdDouble⟩ (.one id) := by
  refine ⟨rfl, rfl, rfl, fun op' xs y h => ?_⟩
  obtain ⟨x, rfl, rfl⟩ := Calculation.value?_one_eq_some h
  exact ⟨doubleTerm y, fun first => doubleTerm_spells first y, fun s => rfl⟩

theorem Descriptor.standard_computes (h : op.calculation? = some f) : (standard op).Computes f := by
  cases op with
  | add => cases h; exact Arithmetic.calculate_computes .add _
  | subtract => cases h; exact Arithmetic.calculate_computes .subtract _
  | multiply => cases h; exact Arithmetic.calculate_computes .multiply _
  | divide => cases h; exact Arithmetic.calculate_computes .divide _
  | abs => cases h; exact Arithmetic.reckon_computes .abs _
  | round => cases h; exact Arithmetic.reckon_computes .round _
  | ceil => cases h; exact Arithmetic.reckon_computes .ceil _
  | floor => cases h; exact Arithmetic.reckon_computes .floor _
  | xsdDouble => cases h; exact Arithmetic.xsdDouble_computes
  | _ => cases h

theorem Descriptor.Computes.apply {σ : Type} [RandomSource σ] {d : Descriptor} (hd : d.Computes f)
    (op : Operator) (hts : List.Forall₂ (fun t x => t.number? = some x) ts xs)
    (hy : f.value? xs = some y) :
    ∃ t : Term, t.Spells y ∧ ∀ s : σ, d.apply op ts s = (.ok t, s) := by
  obtain ⟨w, hw, hrun⟩ := hd.invoke (σ := σ) op hy
  refine ⟨d.result.result ts.head? w, hw ts.head?, fun s => ?_⟩
  rw [Descriptor.apply, hd.argument, Coercion.mapM_argument_numeric op.name hts]
  simp only [hrun s, Outcome.andThen_ok]

end Operation

section Evaluation
variable {σ : Type} [RandomSource σ] {row : Row} {name : String} {args : List Expr} {e : Expr}

/-- A tree comes to a literal that spells its number, from every state and without a draw. -/
def Expr.Yields (σ : Type) [RandomSource σ] (row : Row) (e : Expr) (x : Double) : Prop :=
  e.number? row = some x ∧
    ∃ t : Term, t.number? = some x ∧ ∀ s : σ, interpret .standard row e s = (.ok t, s)

theorem interpretAll_yields {es : List Expr} (h : ∀ e ∈ es, ∃ x, e.Yields σ row x) :
    ∃ xs ts, Expr.numbers? row es = some xs ∧ xs.length = es.length ∧
      List.Forall₂ (fun t x => Term.number? t = some x) ts xs ∧
      ∀ s : σ, interpretAll .standard row es s = (.ok ts, s) := by
  induction es with
  | nil => exact ⟨[], [], rfl, rfl, .nil, fun s => rfl⟩
  | cons e es ih =>
    rw [List.forall_mem_cons] at h
    obtain ⟨⟨x, hx, t, ht, he⟩, hes⟩ := h
    obtain ⟨xs, ts, hxs, hlength, hts, hall⟩ := ih hes
    refine ⟨x :: xs, t :: ts, ?_, congrArg (· + 1) hlength, .cons ht hts, fun s => ?_⟩
    · rw [Expr.numbers?, hx, hxs]
      rfl
    · rw [interpretAll, he, Outcome.andThen_ok, hall, Outcome.andThen_ok]

/-- One operation on arguments that spell their numbers: what it writes is the number that the tree
stands for. -/
theorem interpret_computes {op : Operator} {f : Calculation}
    (hname : Operator.ofName? name = some op) (hf : op.calculation? = some f)
    (hcall : Registry.standard.Callable name args.length)
    (hargs : ∀ e ∈ args, ∃ x, e.Yields σ row x) :
    ∃ x t, (Expr.call name args).number? row = some x ∧ x.dropZeroSign = x ∧ t.Spells x ∧
      ∀ s : σ, interpret .standard row (.call name args) s = (.ok t, s) := by
  have hd := Descriptor.standard_computes hf
  obtain ⟨op', hname', -, -, harity⟩ := hcall.standard
  obtain rfl : op = op' := Option.some.inj (hname.symm.trans hname')
  obtain ⟨xs, ts, hxs, hlength, hts, hall⟩ := interpretAll_yields hargs
  obtain ⟨y, hy⟩ := Calculation.exists_value? (hlength.trans (harity.symm.trans hd.arity))
  obtain ⟨t, ht, hrun⟩ := hd.apply (σ := σ) op hts hy
  refine ⟨y.dropZeroSign, t, ?_, y.dropZeroSign_dropZeroSign, ?_, fun s => ?_⟩
  · simp only [Expr.number?, hname, hf, hxs, hy, Option.bind_eq_bind, Option.bind_some]
    rfl
  · obtain ⟨l, hl, hlexical⟩ := ht
    exact ⟨l, hl, hlexical.trans y.toLexical_dropZeroSign.symm⟩
  · rw [interpret_value (Registry.resolve_of_ofName? hname) hd.raw, hall, Outcome.andThen_ok, hrun]

/-- A tree of calculations yields its number. -/
theorem interpret_yields (h : e.Calculates row)
    (hcall : ∀ name args, (Expr.call name args).Occurs e →
      Registry.standard.Callable name args.length) : ∃ x, e.Yields σ row x := by
  induction h with
  | @const t x ht => exact ⟨x, ht, t, ht, fun s => rfl⟩
  | @var name t x hbound ht =>
    refine ⟨x, ?_, t, ht, fun s => ?_⟩
    · rw [Expr.number?, hbound, Option.bind_some, ht]
    · rw [interpret, hbound]
  | @call name args op f hname hf hargs ih =>
    have hyields (e : Expr) (he : e ∈ args) : ∃ x, e.Yields σ row x :=
      ih e he fun name args ho => hcall name args (.inside he ho)
    obtain ⟨x, t, hx, hdrop, ht, hrun⟩ :=
      interpret_computes hname hf (hcall name args .here) hyields
    refine ⟨x, hx, t, ?_, hrun⟩
    rw [ht.number?, hdrop]

end Evaluation

/-- The lexical form of a number is read as that number, a negative zero as a positive one. So a
compiled tree of operations on numbers, over leaves that spell numbers in a row, succeeds there
without a draw, and its result spells the number that the operations come to on the numbers of the
leaves themselves. -/
theorem compiled_eval_of_calculates {σ : Type} [RandomSource σ] (config : Config) :
    (∀ x : Double, Double.ofLexical? x.toLexical = some x.dropZeroSign) ∧
    ∀ (row : Row) (name : String) (args : List Expr) (p : Compiled σ),
      (Evaluator.compiler ⟨config, .standard⟩).compile? (some (.call name args)) = .ok p →
      (Expr.call name args).Calculates row →
      ∃ x t l, (Expr.call name args).number? row = some x ∧ t.literal? = some l ∧
        l.lexical = Double.toLexical x ∧ ∀ s, (p.eval row).runFrom s = (.ok (some t), s) := by
  refine ⟨Double.ofLexical?_toLexical, fun row name args p hp h => ?_⟩
  have hwf := Compiler.exists_compile?_iff.mp ⟨p, hp⟩
  cases h with
  | @call _ _ op f hname hf hargs =>
    have hyields (e : Expr) (he : e ∈ args) : ∃ x, e.Yields σ row x :=
      interpret_yields (hargs e he) fun name args ho => hwf.2 name args (.inside he ho)
    obtain ⟨x, t, hx, -, ⟨l, hl, hlexical⟩, hrun⟩ :=
      interpret_computes hname hf (hwf.2 name args .here) hyields
    exact ⟨x, t, l, hx, hl, hlexical, fun s => (Compiler.runFrom_eval_eq_ok_iff hp).mpr (hrun s)⟩

/-- The ceiling is a negative zero, which the division takes for a positive one. -/
theorem one_div_ceil_eval :
    let args : List Expr := [.const ⟨"\"1\""⟩, .call "ceil" [.call "xsd:double" [.var "?x"]]]
    let row : Row := .ofList [("?x", ⟨"\" -0.5 \"@en"⟩)]
    (Expr.call "/" args).Calculates row ∧
      (Expr.call "/" args).number? row = some (.infinity false) ∧
      ∃ (p : Compiled Script) (t : Term) (l : Literal),
        Evaluator.standard.compiler.compile? (some (.call "/" args)) = .ok p ∧
        t.literal? = some l ∧ l.lexical = "INF" ∧
        ∀ s, (p.eval row).runFrom s = (.ok (some t), s) := by
  intro args row
  obtain ⟨one, hone⟩ : ∃ x, Term.number? ⟨"\"1\""⟩ = some x :=
    Option.isSome_iff_exists.mp (by decide +kernel)
  obtain ⟨half, hhalf⟩ : ∃ x, Term.number? ⟨"\" -0.5 \"@en"⟩ = some x :=
    Option.isSome_iff_exists.mp (by decide +kernel)
  have hceil : (Expr.call "ceil" [.call "xsd:double" [.var "?x"]]).Calculates row := by
    have hdouble : Operator.ofName? "xsd:double" = some .xsdDouble := by decide
    have hname : Operator.ofName? "ceil" = some .ceil := by decide
    refine .call hname rfl (List.forall_mem_singleton.mpr ?_)
    refine .call hdouble rfl (List.forall_mem_singleton.mpr ?_)
    exact .var rfl hhalf
  have hcalculates : (Expr.call "/" args).Calculates row := by
    have hname : Operator.ofName? "/" = some .divide := by decide
    refine .call hname rfl (List.forall_mem_cons.mpr ⟨.const hone, ?_⟩)
    exact List.forall_mem_singleton.mpr hceil
  have hnumber : (Expr.call "/" args).number? row = some (.infinity false) := by
    subst args row
    decide +kernel
  obtain ⟨p, hp⟩ : ∃ p : Compiled Script,
      Evaluator.standard.compiler.compile? (some (.call "/" args)) = .ok p := ⟨_, rfl⟩
  obtain ⟨x, t, l, hx, hl, hlexical, hrun⟩ :=
    (compiled_eval_of_calculates {}).2 row "/" args p hp hcalculates
  cases hnumber.symm.trans hx
  exact ⟨hcalculates, hnumber, p, t, l, hp, hl, hlexical, hrun⟩

end SparqlExpr
