import SparqlExpr.Proofs.Alike
import SparqlExpr.Proofs.Bindings
import SparqlExpr.Proofs.Drawless

/-! Replacing a variable by a constant is the same as binding it, and replacing a part of a tree by
one that comes to the same leaves what the whole comes to. -/
namespace SparqlExpr

variable {σ : Type} [RandomSource σ]

/-- In a tree whose variable is not below `bound`, trees that come to the same can stand for it. -/
theorem interpret_replace_congr {row row' : Row} {hole : String} {a b : Expr}
    (h : ∀ s : σ, interpret .standard row a s = interpret .standard row' b s)
    (hrow : ∀ name, name ≠ hole → row.get? name = row'.get? name) {context : Expr}
    (hno : ¬(Expr.var hole).OccursUnder .bound context) (s : σ) :
    interpret .standard row (context.replace hole a) s =
      interpret .standard row' (context.replace hole b) s := by
  have hind : Expr.Indifferent (.same σ) .standard row row'
      (fun name => if name = hole then a else .var name)
      (fun name => if name = hole then b else .var name) context := by
    refine ⟨?_, fun _ _ _ op d _ => d.relatedBy_sameUnless _ op, ?_, fun _ _ _ _ _ => not_false⟩
    · rintro name - s _ rfl
      have hleaf : interpret .standard row (if name = hole then a else .var name) s =
          interpret .standard row' (if name = hole then b else .var name) s := by
        split
        · exact h s
        · next hname => rw [interpret, interpret, hrow name hname]
      rw [hleaf]
      exact .of_agree (.refl (fun _ => rfl) (fun _ => rfl) _) rfl
    · intro name args ho hf arg harg n hn
      have hname : n ≠ hole := by
        rintro rfl
        exact hno ⟨name, args, ho, hf.ofName?, arg, harg, hn⟩
      exact ⟨if_neg hname, if_neg hname, by rw [Row.contains, Row.contains, hrow n hname]⟩
  exact (hind.related s s rfl).eq

/-- A constant in the place of a variable reads as the variable bound to it. -/
theorem interpret_replace_const {v : String} {e : Expr} (t : Term)
    (hno : ¬(Expr.var v).OccursUnder .bound e) (row : Row) (s : σ) :
    interpret .standard row (e.replace v (.const t)) s =
      interpret .standard (row.set v t) e s := by
  have hself : e.replace v (.var v) = e := Expr.subst_eq_self fun name _ => by
    split
    · next h => rw [h]
    · rfl
  have hleaf (s : σ) : interpret .standard row (.const t) s =
      interpret .standard (row.set v t) (.var v) s := by
    rw [interpret, interpret, Row.get?_set, if_pos rfl]
  have hrow (name : String) (hname : name ≠ v) : row.get? name = (row.set v t).get? name := by
    rw [Row.get?_set, if_neg hname]
  have h := interpret_replace_congr hleaf hrow hno s
  rwa [hself] at h

/-- A tree without variables and draws comes to the same everywhere. -/
theorem interpret_eq_of_closed {r : Registry} {e : Expr} (hclosed : e.variableNames = [])
    (hdrawless : e.Drawless r) (row row' : Row) (s s' : σ) :
    interpret r row' e s' = ((interpret r row e s).1, s') := by
  refine interpret_eq_of_drawless hdrawless (fun name ho => ?_) s s'
  rw [← Expr.mem_variableNames, hclosed] at ho
  exact absurd ho List.not_mem_nil

namespace Compiler

/-- A constant can stand wherever some tree can. -/
theorem WellFormed.replace_const {c : Compiler} {level : Nat} {context : Expr} {hole : String}
    {a : Expr} (t : Term) (h : c.WellFormed level (context.replace hole a)) :
    c.WellFormed level (context.replace hole (.const t)) := by
  refine WellFormed.subst_mono (fun name level hname => ?_) h
  split at hname
  · rw [if_pos ‹_›]
    exact wellFormed_const.mpr hname.le_maxDepth
  · rwa [if_neg ‹_›]

/-- Trees that are checked alike are compiled alike. -/
theorem compile?_agree {c c' : Compiler} {e e' : Expr} {R : Compiled σ → Compiled σ → Prop}
    (hv : c.validate 1 e = c'.validate 1 e')
    (hR : ∀ p p', c.compile? (some e) = .ok p → c'.compile? (some e') = .ok p' → R p p') :
    Agree Eq R (c.compile? (some e)) (c'.compile? (some e')) := by
  rw [← forget_build (σ := σ), ← forget_build (σ := σ)] at hv
  rw [compile?_some, compile?_some] at hR ⊢
  cases hb : c.build (σ := σ) 1 e with
  | error error =>
    cases hb' : c'.build (σ := σ) 1 e' with
    | error error' => rw [hb, hb'] at hv; cases hv; exact .error rfl
    | ok run' => rw [hb, hb'] at hv; cases hv
  | ok run =>
    cases hb' : c'.build (σ := σ) 1 e' with
    | error error' => rw [hb, hb'] at hv; cases hv
    | ok run' => rw [hb, hb'] at hR; exact .ok (hR _ _ rfl rfl)

end Compiler

/-- With a constant for a variable that is not below `bound`, a tree compiles as before or is
refused for the same reason; in every row and from every state of the source it comes to what it
came to before with the variable bound to the constant, and leaves the source in the same state. -/
theorem replace_const_compile_agree (config : Config) {e : Expr} {v : String} (t : Term)
    (h : ¬(Expr.var v).OccursUnder .bound e) :
    Agree Eq
      (fun p p' : Compiled σ => ∀ (row : Row) (s : σ),
        (p'.eval row).runFrom s = (p.eval (row.set v t)).runFrom s)
      ((Evaluator.compiler ⟨config, .standard⟩).compile? (some e))
      ((Evaluator.compiler ⟨config, .standard⟩).compile? (some (e.replace v (.const t)))) := by
  refine Compiler.compile?_agree (Eq.symm (Compiler.validate_subst (fun name level => ?_) 1 e)) ?_
  · split <;> rfl
  · intro p p' hp hp' row s
    exact (Compiler.runFrom_eval_eq_iff hp' hp).mpr (interpret_replace_const t h row s)

/-- The constant looks like a variable but is not looked up, and the branch that holds it is taken
because `bound` still sees the variable that it looks like. -/
theorem replace_below_branch_compile_agree :
    let e : Expr := .call "coalesce" [.call "+" [.var "?x", .call "rand" []],
      .call "if" [.call "bound" [.var "?y"], .var "?x", .var "?z"]]
    let t : Term := ⟨"?y"⟩
    let row : Row := .ofList [("?y", ⟨"http://example.org/a"⟩)]
    let s : Script := { doubles := [], uuids := [] }
    ¬(Expr.var "?x").OccursUnder .bound e ∧
      ∃ p p' : Compiled Script, Evaluator.standard.compiler.compile? (some e) = .ok p ∧
        Evaluator.standard.compiler.compile? (some (e.replace "?x" (.const t))) = .ok p' ∧
        (p'.eval row).runFrom s = (p.eval (row.set "?x" t)).runFrom s ∧
        (p'.eval row).runFrom s = (.ok (some t), { s with doublePosition := 1 }) := by
  intro e t row s
  have hno : ¬(Expr.var "?x").OccursUnder .bound e := by
    simp only [e, Expr.occursUnder_call, List.mem_cons, List.not_mem_nil, or_false,
      exists_eq_or_imp, exists_eq_left, Expr.not_occursUnder_var, exists_false, false_and,
      Expr.occurs_call, Expr.occurs_var]
    decide
  have hmeaning : interpret .standard row (e.replace "?x" (.const t)) s =
      (.ok t, { s with doublePosition := 1 }) := by
    subst e t row s
    rfl
  obtain ⟨p, hp⟩ : ∃ p : Compiled Script, Evaluator.standard.compiler.compile? (some e) = .ok p :=
    ⟨_, rfl⟩
  obtain ⟨p', hp'⟩ : ∃ p' : Compiled Script,
      Evaluator.standard.compiler.compile? (some (e.replace "?x" (.const t))) = .ok p' := ⟨_, rfl⟩
  have hval : (p'.eval row).runFrom s = (.ok (some t), { s with doublePosition := 1 }) :=
    (Compiler.runFrom_eval hp' row s).trans (congrArg (Outcome.andThen · _) hmeaning)
  have h := replace_const_compile_agree {} t hno (σ := Script)
  rw [show (Evaluator.compiler ⟨{}, .standard⟩).compile? (some e) = .ok p from hp,
    show (Evaluator.compiler ⟨{}, .standard⟩).compile? _ = .ok p' from hp'] at h
  cases h with
  | ok h => exact ⟨hno, p, p', hp, hp', h row s, hval⟩

/-- In a context whose hole is not below `bound`, trees that come to the same in a row, from every
state of the source, are as good as each other: the whole comes to the same. So a tree without
variables and draws may give way to the constant that it comes to. -/
theorem compiled_eval_replace_congr (config : Config) (row : Row) {context : Expr} {hole : String}
    (hno : ¬(Expr.var hole).OccursUnder .bound context) :
    let c := Evaluator.compiler ⟨config, .standard⟩
    (∀ (a b : Expr) (pa pb p p' : Compiled σ),
      c.compile? (some a) = .ok pa → c.compile? (some b) = .ok pb →
      (∀ s, (pa.eval row).runFrom s = (pb.eval row).runFrom s) →
      c.compile? (some (context.replace hole a)) = .ok p →
      c.compile? (some (context.replace hole b)) = .ok p' →
      ∀ s, (p.eval row).runFrom s = (p'.eval row).runFrom s) ∧
    ∀ (a : Expr) (t : Term) (pa p : Compiled σ), c.compile? (some a) = .ok pa →
      a.variableNames = [] → (∀ op ∈ Operator.drawing, ¬a.Calls op) →
      (∃ row₀ s₀, ((pa.eval row₀).runFrom s₀).1 = .ok (some t)) →
      c.compile? (some (context.replace hole a)) = .ok p →
      ∃ p' : Compiled σ, c.compile? (some (context.replace hole (.const t))) = .ok p' ∧
        ∀ s, (p.eval row).runFrom s = (p'.eval row).runFrom s := by
  intro c
  constructor
  · intro a b pa pb p p' ha hb hab hp hp' s
    have hsame (s : σ) : interpret .standard row a s = interpret .standard row b s :=
      (Compiler.runFrom_eval_eq_iff ha hb).mp (hab s)
    exact (Compiler.runFrom_eval_eq_iff hp hp').mpr
      (interpret_replace_congr hsame (fun _ _ => rfl) hno s)
  · rintro a t pa p ha hclosed hdraws ⟨row₀, s₀, heval⟩ hp
    have hresult : (interpret .standard row₀ a s₀).1 = .ok t :=
      (Compiler.fst_runFrom_eval_eq_ok_iff ha).mp heval
    have hsame (s : σ) : interpret .standard row a s = interpret .standard row (.const t) s := by
      rw [interpret_eq_of_closed hclosed (Expr.drawless_standard hdraws) row₀ row s₀ s, hresult,
        interpret]
    have hwf := (Compiler.exists_compile?_iff.mp ⟨p, hp⟩).replace_const t
    obtain ⟨p', hp'⟩ := (Compiler.exists_compile?_iff (σ := σ)).mpr hwf
    refine ⟨p', hp', fun s => ?_⟩
    exact (Compiler.runFrom_eval_eq_iff hp hp').mpr
      (interpret_replace_congr hsame (fun _ _ => rfl) hno s)

/-- The hole stands in an argument and in a branch, and each filling is evaluated in both places. A
part that draws must draw as often as what takes its place; a part that does not may be folded. -/
theorem compiled_eval_replace_congr_twice :
    let context : Expr := .call "coalesce" [.call "+" [.var "?h", .var "?y"],
      .call "if" [.call "bound" [.var "?y"], .var "?h", .var "?z"]]
    let row : Row := .ofList [("?y", ⟨"http://example.org/a"⟩)]
    let a : Expr := .call "struuid" []
    let b : Expr := .call "coalesce" [.call "lang" [.var "?y"], .call "struuid" []]
    let d : Expr := .call "concat" [.const ⟨"\"a\"@en"⟩, .call "str" [.const ⟨"\"b\""⟩]]
    let t : Term := ⟨"\"ab\"@en"⟩
    let s : Script := { doubles := [], uuids := [] }
    let c := Evaluator.standard.compiler
    ¬(Expr.var "?h").OccursUnder .bound context ∧
      (∃ pa pb p p' : Compiled Script,
        c.compile? (some a) = .ok pa ∧ c.compile? (some b) = .ok pb ∧
        (∀ s, (pa.eval row).runFrom s = (pb.eval row).runFrom s) ∧
        c.compile? (some (context.replace "?h" a)) = .ok p ∧
        c.compile? (some (context.replace "?h" b)) = .ok p' ∧
        ∀ s, (p.eval row).runFrom s = (p'.eval row).runFrom s) ∧
      d.variableNames = [] ∧ (∀ op ∈ Operator.drawing, ¬d.Calls op) ∧
      ∃ pd p p' : Compiled Script,
        c.compile? (some d) = .ok pd ∧ ((pd.eval .empty).runFrom s).1 = .ok (some t) ∧
        c.compile? (some (context.replace "?h" d)) = .ok p ∧
        c.compile? (some (context.replace "?h" (.const t))) = .ok p' ∧
        ∀ s, (p.eval row).runFrom s = (p'.eval row).runFrom s := by
  intro context row a b d t s c
  have hno : ¬(Expr.var "?h").OccursUnder .bound context := by
    simp only [context, Expr.occursUnder_call, List.mem_cons, List.not_mem_nil, or_false,
      exists_eq_or_imp, exists_eq_left, Expr.not_occursUnder_var, Expr.occurs_call, Expr.occurs_var]
    decide
  have hdraws : ∀ op ∈ Operator.drawing, ¬d.Calls op := by
    simp only [d, Expr.calls_call, List.mem_cons, List.not_mem_nil, or_false, exists_eq_or_imp,
      exists_eq_left, Expr.not_calls_const, false_or]
    decide
  obtain ⟨hcongr, hfold⟩ := compiled_eval_replace_congr (σ := Script) {} row hno
  obtain ⟨pa, ha⟩ : ∃ pa : Compiled Script, c.compile? (some a) = .ok pa := ⟨_, rfl⟩
  obtain ⟨pb, hb⟩ : ∃ pb : Compiled Script, c.compile? (some b) = .ok pb := ⟨_, rfl⟩
  have hab : ∀ s, (pa.eval row).runFrom s = (pb.eval row).runFrom s := fun s =>
    (Compiler.runFrom_eval_eq_iff ha hb).mpr rfl
  obtain ⟨p, hp⟩ : ∃ p : Compiled Script, c.compile? (some (context.replace "?h" a)) = .ok p :=
    ⟨_, rfl⟩
  obtain ⟨p', hp'⟩ : ∃ p' : Compiled Script, c.compile? (some (context.replace "?h" b)) = .ok p' :=
    ⟨_, rfl⟩
  obtain ⟨pd, hd⟩ : ∃ pd : Compiled Script, c.compile? (some d) = .ok pd := ⟨_, rfl⟩
  have heval : ((pd.eval .empty).runFrom s).1 = .ok (some t) :=
    (Compiler.fst_runFrom_eval_eq_ok_iff hd).mpr rfl
  obtain ⟨q, hq⟩ : ∃ q : Compiled Script, c.compile? (some (context.replace "?h" d)) = .ok q :=
    ⟨_, rfl⟩
  obtain ⟨q', hq', hfolded⟩ := hfold d t pd q hd rfl hdraws ⟨.empty, s, heval⟩ hq
  exact ⟨hno, ⟨pa, pb, p, p', ha, hb, hab, hp, hp', hcongr a b pa pb p p' ha hb hab hp hp'⟩,
    rfl, hdraws, pd, q, q', hd, heval, hq, hq', hfolded⟩

end SparqlExpr
