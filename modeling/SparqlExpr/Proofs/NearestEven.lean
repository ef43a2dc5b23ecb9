import Mathlib
import SparqlExpr.Proofs.WholeNumber

/-! Rounding on the grid of binary64. Between two powers of two the numbers with 53 significant bits
are the multiples of one gap; what lies between two of them goes to the nearer one, and from the
middle to the even one. Sums are rounded so; floors and ceilings are exact. -/
namespace SparqlExpr.Double

/-- The distance of the numbers with 53 significant bits around this one, in units. -/
def gap (units : Nat) : Nat := Nat.pow 2 (units.log2 - 52)

variable {m n c d k q num den : Nat}

theorem gap_pos (m : Nat) : 0 < gap m := Nat.pow_pos (by decide)

theorem representable_iff : Representable m ↔ gap m ∣ m ∧ m < unitLimit :=
  and_congr_left' Nat.dvd_iff_mod_eq_zero.symm

theorem roundUnits_one (m : Nat) : roundUnits m 1 = roundHalfEven m (gap m) * gap m := by
  unfold roundUnits gap
  simp only [Nat.div_one, Nat.one_mul]

theorem gap_dvd_pow (h : m < 2 ^ 53 * 2 ^ k) : gap m ∣ 2 ^ k := by
  refine Nat.pow_dvd_pow 2 ?_
  by_cases hm : m = 0
  · simp [hm]
  · have hlog : m.log2 < 53 + k := by rwa [Nat.log2_lt hm, Nat.pow_add]
    omega

theorem pow_dvd_gap (h : 2 ^ 52 * 2 ^ k ≤ m) : 2 ^ k ∣ gap m := by
  have hpos : 0 < 2 ^ 52 * 2 ^ k := by positivity
  have hlog : 52 + k ≤ m.log2 := by rwa [Nat.le_log2 (by omega), Nat.pow_add]
  exact Nat.pow_dvd_pow 2 (by omega)

theorem gap_eq_pow (hlow : 2 ^ 52 * 2 ^ k ≤ m) (hhigh : m < 2 ^ 53 * 2 ^ k) : gap m = 2 ^ k :=
  Nat.dvd_antisymm (gap_dvd_pow hhigh) (pow_dvd_gap hlow)

theorem lt_mul_gap (m : Nat) : m < 2 ^ 53 * gap m := by
  have hlog : m < 2 ^ (m.log2 + 1) := Nat.lt_log2_self
  refine Nat.lt_of_lt_of_le hlog ?_
  change 2 ^ (m.log2 + 1) ≤ 2 ^ 53 * 2 ^ (m.log2 - 52)
  rw [← Nat.pow_add]
  exact Nat.pow_le_pow_right (by decide) (by omega)

theorem gap_dvd_gap (h : m ≤ n) : gap m ∣ gap n :=
  gap_dvd_pow (Nat.lt_of_le_of_lt h (lt_mul_gap n))

theorem mul_gap_le (h : 2 ^ 52 ≤ m) : 2 ^ 52 * gap m ≤ m := by
  have hlog : 52 ≤ m.log2 := by rwa [Nat.le_log2 (by omega)]
  change 2 ^ 52 * 2 ^ (m.log2 - 52) ≤ m
  rw [← Nat.pow_add, Nat.add_sub_cancel' hlog]
  exact Nat.log2_self_le (by omega)

/-- A number above 2^52 units is written with 53 bits, in gaps. -/
theorem exists_eq_mul_gap (hn : Representable n) (h : 2 ^ 52 ≤ n) :
    ∃ q e, n = q * 2 ^ e ∧ gap n = 2 ^ e ∧ 2 ^ 52 ≤ q ∧ q < 2 ^ 53 := by
  obtain ⟨q, hq⟩ := (representable_iff.mp hn).1
  have hlow := mul_gap_le h
  have hhigh := lt_mul_gap n
  have hpos := gap_pos n
  rw [Nat.mul_comm] at hq
  refine ⟨q, n.log2 - 52, hq, rfl, ?_, ?_⟩
  · refine Nat.le_of_mul_le_mul_right ?_ hpos
    omega
  · refine Nat.lt_of_mul_lt_mul_right (a := gap n) ?_
    omega

/-- The nearest multiple, the even one of two. -/
theorem roundHalfEven_eq (hden : 0 < den) (hlow : 2 * (q * den) ≤ 2 * num + den)
    (hhigh : 2 * num ≤ 2 * (q * den) + den)
    (htie : 2 * (q * den) = 2 * num + den ∨ 2 * num = 2 * (q * den) + den → q % 2 = 0) :
    roundHalfEven num den = q := by
  have hnum : num / den * den + num % den = num := Nat.div_add_mod' num den
  have hrest : num % den < den := Nat.mod_lt num hden
  unfold roundHalfEven
  dsimp only
  generalize num / den = below at *
  generalize num % den = rest at *
  have hle : below ≤ q := by
    by_contra h
    have hstep : (q + 1) * den ≤ below * den := Nat.mul_le_mul_right den (by omega)
    rw [Nat.add_mul] at hstep
    omega
  have hge : q ≤ below + 1 := by
    by_contra h
    have hstep : (below + 2) * den ≤ q * den := Nat.mul_le_mul_right den (by omega)
    rw [Nat.add_mul] at hstep
    omega
  obtain rfl | rfl : q = below ∨ q = below + 1 := by omega
  · rw [if_pos (by omega)]
  · rw [Nat.add_mul] at hlow hhigh htie
    rw [if_neg (by omega)]

theorem roundUnits_eq (hgap : gap m = d) (hlow : 2 * (q * d) ≤ 2 * m + d)
    (hhigh : 2 * m ≤ 2 * (q * d) + d)
    (htie : 2 * (q * d) = 2 * m + d ∨ 2 * m = 2 * (q * d) + d → q % 2 = 0) :
    roundUnits m 1 = q * d := by
  subst hgap
  rw [roundUnits_one, roundHalfEven_eq (gap_pos m) hlow hhigh htie]

/-- What is rounded comes to a multiple of the gap, at most half a gap away. -/
theorem roundUnits_bounds (m : Nat) : gap m ∣ roundUnits m 1 ∧
    2 * roundUnits m 1 ≤ 2 * m + gap m ∧ 2 * m ≤ 2 * roundUnits m 1 + gap m := by
  have hpos := gap_pos m
  have hm : m / gap m * gap m + m % gap m = m := Nat.div_add_mod' m (gap m)
  have hrest : m % gap m < gap m := Nat.mod_lt m hpos
  rw [roundUnits_one]
  refine ⟨Nat.dvd_mul_left _ _, ?_⟩
  unfold roundHalfEven
  dsimp only
  split
  · omega
  · rw [Nat.add_mul]
    omega

theorem roundUnits_of_dvd (h : gap m ∣ m) : roundUnits m 1 = m := by
  have hpos := gap_pos m
  have hm : m / gap m * gap m = m := Nat.div_mul_cancel h
  have heq : roundUnits m 1 = m / gap m * gap m :=
    roundUnits_eq rfl (by omega) (by omega) (by omega)
  rw [heq, hm]

/-- Rounding does not pass a multiple of the gap. -/
theorem roundUnits_le (hc : gap m ∣ c) (h : m ≤ c) : roundUnits m 1 ≤ c := by
  have hpos := gap_pos m
  obtain ⟨⟨q, hq⟩, hhigh, -⟩ := roundUnits_bounds m
  obtain ⟨k, rfl⟩ := hc
  rw [hq] at hhigh ⊢
  refine Nat.mul_le_mul_left _ ?_
  by_contra hlt
  have hstep : gap m * (k + 1) ≤ gap m * q := Nat.mul_le_mul_left _ (by omega)
  rw [Nat.mul_add] at hstep
  omega

theorem le_roundUnits (hc : gap m ∣ c) (h : c ≤ m) : c ≤ roundUnits m 1 := by
  have hpos := gap_pos m
  obtain ⟨⟨q, hq⟩, -, hlow⟩ := roundUnits_bounds m
  obtain ⟨k, rfl⟩ := hc
  rw [hq] at hlow ⊢
  refine Nat.mul_le_mul_left _ ?_
  by_contra hlt
  have hstep : gap m * (q + 1) ≤ gap m * k := Nat.mul_le_mul_left _ (by omega)
  rw [Nat.mul_add] at hstep
  omega

/-- The next power of two is representable as well. -/
theorem representable_mul_pow_of_le (hn : n ≤ 2 ^ 53) (hk : 2 ^ 54 * 2 ^ k ≤ unitLimit) :
    Representable (n * 2 ^ k) := by
  rcases Nat.lt_or_eq_of_le hn with hlt | rfl
  · exact representable_mul_pow hlt (le_trans (Nat.mul_le_mul_right _ (by decide)) hk)
  · have htwice : 2 ^ 53 * 2 ^ k = 2 ^ 52 * 2 ^ (k + 1) := by ring
    rw [htwice]
    refine representable_mul_pow (by decide) (le_trans (le_of_eq ?_) hk)
    rw [Nat.pow_eq]
    ring

theorem representable_roundUnits (h : m < 2 ^ 53 * 2 ^ k) (hk : 2 ^ 54 * 2 ^ k ≤ unitLimit) :
    Representable (roundUnits m 1) := by
  have hgap : gap m ≤ 2 ^ k := Nat.le_of_dvd (by positivity) (gap_dvd_pow h)
  have hle : roundUnits m 1 ≤ 2 ^ 53 * gap m :=
    roundUnits_le (Nat.dvd_mul_left _ _) (Nat.le_of_lt (lt_mul_gap m))
  obtain ⟨q, hq⟩ := (roundUnits_bounds m).1
  rw [hq, Nat.mul_comm] at hle ⊢
  have hq : q ≤ 2 ^ 53 := Nat.le_of_mul_le_mul_right hle (gap_pos m)
  exact representable_mul_pow_of_le hq (le_trans (Nat.mul_le_mul_left _ hgap) hk)

/-- An exact sum of units, rounded. -/
def roundInt (z : Int) : Int := signed (decide (z < 0)) (roundUnits z.natAbs 1)

theorem roundInt_natCast (m : Nat) : roundInt m = roundUnits m 1 := by
  unfold roundInt signed
  rw [if_neg (by simp), Int.natAbs_natCast]

theorem roundInt_neg {m : Nat} (hm : 0 < m) : roundInt (-m) = -(roundUnits m 1 : Int) := by
  unfold roundInt signed
  rw [if_pos (by simpa using hm), Int.natAbs_neg, Int.natAbs_natCast]

theorem roundInt_of_representable {z : Int} (h : Representable z.natAbs) : roundInt z = z := by
  rw [roundInt, roundUnits_of_dvd (representable_iff.mp h).1, signed_natAbs]

variable {x y : Double} {z a b : Int}

/-- A sum is computed exactly and rounded once. -/
theorem IsUnits.add (hx : x.IsUnits a) (hy : y.IsUnits b)
    (h : Representable (roundUnits (a + b).natAbs 1)) : (x + y).IsUnits (roundInt (a + b)) := by
  obtain ⟨s, m, hm, rfl, rfl⟩ := hx
  obtain ⟨t, n, hn, rfl, rfl⟩ := hy
  change (Double.add _ _).IsUnits _
  simp only [Double.add]
  split
  · next hsum =>
    rw [hsum, show (0 : Int) = ((0 : Nat) : Int) from rfl, roundInt_natCast,
      roundUnits_of_dvd (Nat.dvd_zero _)]
    cases hst : s && t
    · exact isUnits_finite false _
    · exact isUnits_finite true _
  · exact isUnits_ofUnits _ h

/-- A sum of halves that fits is not rounded. -/
theorem IsHalves.add (hx : x.IsHalves a) (hy : y.IsHalves b) (hlt : (a + b).natAbs < 2 ^ 53) :
    (x + y).IsHalves (a + b) := by
  have hfits : Representable ((a + b) * unitsPerHalf).natAbs := by
    rw [Int.natAbs_mul, Int.natAbs_natCast]
    exact representable_halves hlt
  rw [Int.add_mul] at hfits
  have hsum := hx.isUnits.add hy.isUnits (by rwa [roundUnits_of_dvd (representable_iff.mp hfits).1])
  rw [roundInt_of_representable hfits, ← Int.add_mul] at hsum
  exact hsum.isHalves

theorem unitsPerOne_pos : 0 < unitsPerOne := by
  rw [unitsPerOne_eq]
  have := unitsPerHalf_pos
  omega

theorem exists_unitsPerOne_pow : ∃ k, unitsPerOne = 2 ^ k :=
  exists_scale.elim fun k h => ⟨k + 1, h.2.1⟩

/-- From 2^52 on there are whole numbers only. -/
theorem unitsPerOne_dvd (h : Representable n) (hle : 2 ^ 52 * unitsPerOne ≤ n) :
    unitsPerOne ∣ n := by
  obtain ⟨k, hk⟩ := exists_unitsPerOne_pow
  rw [hk] at hle ⊢
  exact Nat.dvd_trans (pow_dvd_gap hle) (representable_iff.mp h).1

theorem representable_ones (hn : n ≤ 2 ^ 53) : Representable (n * unitsPerOne) := by
  have hlimit := pow_mul_unitsPerOne_le (k := 54) (by decide)
  obtain ⟨k, hk⟩ := exists_unitsPerOne_pow
  rw [hk] at hlimit ⊢
  exact representable_mul_pow_of_le hn hlimit

theorem representable_onesBelow (h : Representable n) : Representable (onesBelow n) := by
  have hpos := unitsPerOne_pos
  unfold onesBelow
  by_cases hle : 2 ^ 52 * unitsPerOne ≤ n
  · rwa [Nat.div_mul_cancel (unitsPerOne_dvd h hle)]
  · refine representable_ones (Nat.le_of_lt_succ ?_)
    rw [Nat.div_lt_iff_lt_mul hpos]
    omega

theorem mul_add_pred_div {u : Nat} (hu : 0 < u) : (u * k + (u - 1)) / u = k := by
  rw [Nat.mul_add_div hu, Nat.div_eq_of_lt (by omega), Nat.add_zero]

theorem representable_onesAbove (h : Representable n) : Representable (onesAbove n) := by
  have hpos := unitsPerOne_pos
  unfold onesAbove
  by_cases hle : 2 ^ 52 * unitsPerOne ≤ n
  · obtain ⟨k, hk⟩ := unitsPerOne_dvd h hle
    rw [hk] at h ⊢
    rwa [mul_add_pred_div hpos, Nat.mul_comm]
  · refine representable_ones (Nat.le_of_lt_succ ?_)
    rw [Nat.div_lt_iff_lt_mul hpos]
    omega

/-- Upwards for a magnitude is downwards for the number with a minus sign. -/
theorem neg_ediv_natCast {u : Nat} (n : Nat) (hu : 0 < u) :
    -(n : Int) / u = -((n + (u - 1)) / u : Nat) := by
  rw [Int.ediv_eq_iff_of_pos (by omega)]
  have hdiv : (n + (u - 1)) / u * u + (n + (u - 1)) % u = n + (u - 1) := Nat.div_add_mod' _ _
  have hmod : (n + (u - 1)) % u < u := Nat.mod_lt _ hu
  generalize (n + (u - 1)) / u = q at *
  generalize (n + (u - 1)) % u = r at *
  zify [hu] at *
  constructor <;> nlinarith

theorem signed_onesBelow (n : Nat) :
    signed false (onesBelow n) = (n : Int) / unitsPerOne * unitsPerOne := by
  unfold onesBelow signed
  generalize unitsPerOne = u
  simp

theorem signed_onesAbove (n : Nat) :
    signed true (onesAbove n) = -(n : Int) / unitsPerOne * unitsPerOne := by
  rw [neg_ediv_natCast n unitsPerOne_pos, Int.neg_mul]
  unfold onesAbove signed
  generalize unitsPerOne = u
  simp

theorem floor_finite_false (h : Representable n) :
    (finite false n h).floor = ofUnits false (onesBelow n) := rfl

theorem floor_finite_true (h : Representable n) :
    (finite true n h).floor = ofUnits true (onesAbove n) := rfl

theorem IsUnits.floor (hx : x.IsUnits z) : x.floor.IsUnits (z / unitsPerOne * unitsPerOne) := by
  obtain ⟨negative, n, hn, rfl, rfl⟩ := hx
  cases negative with
  | false =>
    rw [floor_finite_false, show signed false n = n from rfl, ← signed_onesBelow]
    exact isUnits_ofUnits false (representable_onesBelow hn)
  | true =>
    rw [floor_finite_true, show signed true n = -(n : Int) from rfl, ← signed_onesAbove]
    exact isUnits_ofUnits true (representable_onesAbove hn)

theorem IsHalves.floor (hx : x.IsHalves z) : x.floor.IsHalves (2 * (z / 2)) := by
  have hones : z * unitsPerHalf / unitsPerOne = z / 2 := by
    rw [unitsPerOne_eq, Int.natCast_mul]
    exact Int.mul_ediv_mul_of_pos_left z 2 (Int.natCast_pos.mpr unitsPerHalf_pos)
  have hfloor := hx.isUnits.floor
  rw [hones] at hfloor
  exact hfloor.isHalves_ones

/-- A whole number is rounded to itself: half a step up does not reach the next one. -/
theorem IsHalves.round {i : Int} (hx : x.IsHalves (2 * i)) (hlt : (2 * i).natAbs + 1 < 2 ^ 53) :
    x.round.IsHalves (2 * i) := by
  have hsum : (x + half).IsHalves (2 * i + 1) := hx.add isHalves_half (by omega)
  have hfloor := hsum.floor
  rwa [show (2 * i + 1) / 2 = i by omega] at hfloor

theorem IsUnits.neg (hx : x.IsUnits z) : x.neg.IsUnits (-z) := by
  obtain ⟨negative, n, hn, rfl, rfl⟩ := hx
  refine ⟨!negative, n, hn, rfl, ?_⟩
  cases negative
  · rfl
  · exact (Int.neg_neg _).symm

/-- The ceiling is the floor from below. -/
theorem neg_floor_neg (x : Double) : x.neg.floor.neg = x.ceil := by
  cases x with
  | nan => rfl
  | infinity negative => cases negative <;> rfl
  | finite negative n hn =>
    cases negative with
    | false => exact neg_ofUnits true (onesAbove n)
    | true => exact neg_ofUnits false (onesBelow n)

theorem IsUnits.ceil (hx : x.IsUnits z) :
    x.ceil.IsUnits (-(-z / unitsPerOne * unitsPerOne)) := by
  rw [← neg_floor_neg]
  exact hx.neg.floor.neg

end SparqlExpr.Double
