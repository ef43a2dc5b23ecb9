import SparqlExpr.Decimal.Shortest

/-! Rounding keeps what binary64 holds, so the decimal that is chosen for a number rounds to that
number, whether it is a shortest one or the one with all digits. -/
namespace SparqlExpr

namespace Double
variable {negative : Bool} {units den : Nat}

theorem roundHalfEven_mul (n : Nat) (h : 0 < den) : roundHalfEven (n * den) den = n := by
  have hbelow : n * den / den = n := Nat.mul_div_cancel n h
  have hrest : n * den % den = 0 := Nat.mul_mod_left n den
  unfold roundHalfEven
  simp only [hbelow, hrest]
  rw [if_pos (Or.inl (by omega))]

/-- A representable magnitude is a multiple of the step that it would be rounded to. -/
theorem roundUnits_mul (h : Representable units) (hden : 0 < den) :
    roundUnits (units * den) den = units := by
  have hquot : units * den / den = units := Nat.mul_div_cancel units hden
  unfold roundUnits
  simp only [hquot]
  generalize hstep : Nat.pow 2 (units.log2 - 52) = step
  have hpos : 0 < step := hstep ▸ Nat.pow_pos (by decide)
  obtain ⟨n, hn⟩ : step ∣ units := Nat.dvd_of_mod_eq_zero (hstep ▸ h.1)
  have hnum : units * den = n * (den * step) := by
    rw [hn, Nat.mul_comm step n, Nat.mul_assoc, Nat.mul_comm step den]
  rw [hnum, roundHalfEven_mul n (Nat.mul_pos hden hpos), hn, Nat.mul_comm]

theorem ofUnits_of_representable (negative : Bool) (h : Representable units) :
    ofUnits negative units = finite negative units h := by
  unfold ofUnits
  rw [dif_pos h]

theorem ofRatio_mul (negative : Bool) (h : Representable units) (hden : 0 < den) :
    ofRatio negative (units * den) den = finite negative units h := by
  rw [ofRatio, roundUnits_mul h hden, ofUnits_of_representable negative h]

theorem neg_ofUnits (negative : Bool) (units : Nat) :
    (ofUnits negative units).neg = ofUnits (!negative) units := by
  unfold ofUnits
  split <;> rfl

theorem neg_ofRatio (negative : Bool) (num den : Nat) :
    (ofRatio negative num den).neg = ofRatio (!negative) num den :=
  neg_ofUnits negative (roundUnits num den)

end Double

namespace Decimal
variable {negative : Bool} {d : Decimal} {units : Nat}

/-- The sign takes no part in rounding. -/
theorem neg_toDouble (negative : Bool) (d : Decimal) :
    (d.toDouble negative).neg = d.toDouble (!negative) := by
  unfold toDouble
  split
  · rfl
  · split
    · rfl
    · split
      · exact Double.neg_ofRatio negative _ _
      · exact Double.neg_ofRatio negative _ _

theorem toDouble_of_ofNat {e : Nat} (he : d.exponent = .ofNat e) (hne : d.coefficient ≠ 0)
    (hle : e ≤ 400) : d.toDouble negative =
      .ofRatio negative (d.coefficient * Nat.pow 10 e * Double.unitsPerOne) 1 := by
  have hpos : (Int.ofNat e : Int) = (e : Int) := rfl
  unfold toDouble
  rw [he, if_neg (by omega), if_neg (by omega)]

theorem toDouble_of_negSucc {e : Nat} (he : d.exponent = .negSucc e) (hne : d.coefficient ≠ 0)
    (hle : e < 400 + d.coefficient.log2) : d.toDouble negative =
      .ofRatio negative (d.coefficient * Double.unitsPerOne) (Nat.pow 10 (e + 1)) := by
  unfold toDouble
  rw [he, if_neg (by omega), if_neg (by omega)]

/-- Units that are multiplied by a factor and divided by a power of ten are the number itself if the
factor makes up for that power. -/
theorem toDouble_scaled (negative : Bool) {factor places : Nat} (h : Representable units)
    (hne : units ≠ 0)
    (hfactor : factor * Double.unitsPerOne = Nat.pow 10 (places + 1))
    (hplaces : places < factor.log2) :
    toDouble negative ⟨units * factor, .negSucc places⟩ = .finite negative units h := by
  have hpos : factor ≠ 0 := by
    intro hzero
    rw [hzero, Nat.log2_zero] at hplaces
    omega
  have hle : factor ≤ units * factor := Nat.le_mul_of_pos_left factor (Nat.pos_of_ne_zero hne)
  have hpow : 2 ^ factor.log2 ≤ factor := Nat.log2_self_le hpos
  have hlog : factor.log2 ≤ (units * factor).log2 :=
    (Nat.le_log2 (by omega)).mpr (Nat.le_trans hpow hle)
  have hnum : units * factor * Double.unitsPerOne = units * Nat.pow 10 (places + 1) := by
    rw [Nat.mul_assoc, hfactor]
  have hbound : places < 400 + (units * factor).log2 := by omega
  rw [toDouble_of_negSucc rfl (Nat.mul_ne_zero hne hpos) hbound, hnum]
  exact Double.ofRatio_mul negative h (Nat.pow_pos (by decide))

/-- The units of the number one make up for this power of ten. -/
theorem five_pow_scale : Nat.pow 5 1074 * Double.unitsPerOne = Nat.pow 10 (1073 + 1) ∧
    1073 < (Nat.pow 5 1074).log2 := by
  decide +kernel

theorem toDouble_exact (negative : Bool) (h : Representable units) (hne : units ≠ 0) :
    (exact units).toDouble negative = .finite negative units h := by
  have hscaled := toDouble_scaled negative h hne five_pow_scale.1 five_pow_scale.2
  exact hscaled

theorem readsBack_iff (h : Representable units) :
    readsBack units d = true ↔ ∀ negative, d.toDouble negative = .finite negative units h := by
  unfold readsBack
  rw [decide_eq_true_eq, Double.ofUnits_of_representable false h]
  constructor
  · intro hd negative
    cases negative with
    | false => exact hd
    | true => rw [← Bool.not_false, ← neg_toDouble, hd]; rfl
  · intro hd
    exact hd false

theorem readsBack_of_choose? {tie : Tie} {low high : Decimal}
    (h : choose? tie units low high = some d) : readsBack units d = true := by
  unfold choose? at h
  split at h
  · next hlow hhigh =>
    rw [← Option.some.inj h]
    split
    · exact hhigh
    · exact hlow
  · next hlow _ => cases h; exact hlow
  · next _ hhigh => cases h; exact hhigh
  · cases h

/-- The shortest decimal of a number is rounded to that number. -/
theorem toDouble_shortest (tie : Tie) (negative : Bool) (h : Representable units)
    (hne : units ≠ 0) : (shortest tie units).toDouble negative = .finite negative units h := by
  refine (readsBack_iff h).mp ?_ negative
  unfold shortest
  dsimp only
  generalize hfound : List.findSome? _ (List.range 17) = found
  cases found with
  | none =>
    rw [Option.getD_none, readsBack_iff h]
    exact fun negative => toDouble_exact negative h hne
  | some d =>
    obtain ⟨size, -, hsize⟩ := List.exists_of_findSome?_eq_some hfound
    rw [Option.getD_some]
    exact readsBack_of_choose? hsize

end Decimal

end SparqlExpr
