import Mathlib
import SparqlExpr.Proofs.ShortestDecimal

/-! The finite numbers as integers, in units of the least one and, where that is exact, in halves.
Comparing numbers is comparing these integers. -/
namespace SparqlExpr

/-- A magnitude of at most 53 bits stays representable when it is shifted within the range. -/
theorem representable_mul_pow {n k : Nat} (hn : n < 2 ^ 53)
    (hk : 2 ^ 53 * Nat.pow 2 k ≤ unitLimit) : Representable (n * Nat.pow 2 k) := by
  by_cases hzero : n = 0
  · rw [hzero, Nat.zero_mul]
    exact representable_zero
  have hpow : 0 < Nat.pow 2 k := Nat.pow_pos (by decide)
  have hlt : n * Nat.pow 2 k < 2 ^ 53 * Nat.pow 2 k := Nat.mul_lt_mul_of_pos_right hn hpow
  constructor
  · have hlog : (n * Nat.pow 2 k).log2 < 53 + k := by
      rw [Nat.log2_lt (Nat.mul_ne_zero hzero (Nat.ne_of_gt hpow)), Nat.pow_add]
      exact hlt
    have hstep : Nat.pow 2 ((n * Nat.pow 2 k).log2 - 52) ∣ Nat.pow 2 k :=
      Nat.pow_dvd_pow 2 (by omega)
    exact Nat.mod_eq_zero_of_dvd (Nat.dvd_mul_left_of_dvd hstep n)
  · exact Nat.lt_of_lt_of_le hlt hk

namespace Double
variable {x y : Double} {z a b : Int} {n den : Nat}

/-- One half, counted in units. -/
def unitsPerHalf : Nat := Nat.pow 2 1073

/-- The powers of two that the units count in. The exponents stay unnamed, so that no later step
computes a power this large. -/
theorem exists_scale : ∃ k, unitsPerHalf = 2 ^ k ∧ unitsPerOne = 2 ^ (k + 1) ∧
    2 ^ 64 * 2 ^ (k + 1) ≤ unitLimit :=
  ⟨1073, by decide +kernel⟩

theorem unitsPerHalf_pos : 0 < unitsPerHalf := by
  obtain ⟨k, hhalf, -⟩ := exists_scale
  rw [hhalf]
  exact Nat.two_pow_pos k

theorem unitsPerOne_eq : unitsPerOne = 2 * unitsPerHalf := by
  obtain ⟨k, hhalf, hone, -⟩ := exists_scale
  rw [hhalf, hone, pow_succ']

theorem pow_mul_unitsPerOne_le {k : Nat} (hk : k ≤ 64) : 2 ^ k * unitsPerOne ≤ unitLimit := by
  obtain ⟨e, -, hone, hlimit⟩ := exists_scale
  rw [hone]
  exact Nat.le_trans (Nat.mul_le_mul_right _ (Nat.pow_le_pow_right (by decide) hk)) hlimit

theorem representable_halves (hn : n < 2 ^ 53) : Representable (n * unitsPerHalf) := by
  have hlimit := pow_mul_unitsPerOne_le (k := 53) (by decide)
  have hle : 2 ^ 53 * unitsPerHalf ≤ 2 ^ 53 * unitsPerOne := by
    rw [unitsPerOne_eq]
    omega
  obtain ⟨k, hhalf, -⟩ := exists_scale
  rw [hhalf] at hle ⊢
  exact representable_mul_pow hn (Nat.le_trans hle hlimit)

theorem signed_mul (negative : Bool) (m n : Nat) :
    signed negative (m * n) = signed negative m * n := by
  cases negative with
  | true => exact (congrArg Neg.neg (Int.natCast_mul m n)).trans (Int.neg_mul m n).symm
  | false => exact Int.natCast_mul m n

theorem natAbs_signed (negative : Bool) (n : Nat) : (signed negative n).natAbs = n := by
  cases negative with
  | true => exact Int.natAbs_neg n
  | false => rfl

theorem signed_natAbs (i : Int) : signed (decide (i < 0)) i.natAbs = i := by
  unfold signed
  by_cases h : i < 0
  · rw [if_pos (decide_eq_true h), Int.ofNat_natAbs_of_nonpos (Int.le_of_lt h), Int.neg_neg]
  · rw [if_neg (by simpa using h), Int.natAbs_of_nonneg (Int.not_lt.mp h)]

/-- A finite number of so many units; zero may have either sign. -/
def IsUnits (x : Double) (z : Int) : Prop :=
  ∃ negative units representable,
    x = finite negative units representable ∧ signed negative units = z

theorem isUnits_finite (negative : Bool) (h : Representable n) :
    (finite negative n h).IsUnits (signed negative n) :=
  ⟨negative, n, h, rfl, rfl⟩

theorem isUnits_ofUnits (negative : Bool) (h : Representable n) :
    (ofUnits negative n).IsUnits (signed negative n) := by
  rw [ofUnits_of_representable negative h]
  exact isUnits_finite negative h

theorem IsUnits.representable (h : x.IsUnits z) : Representable z.natAbs := by
  obtain ⟨negative, n, hn, rfl, rfl⟩ := h
  rwa [natAbs_signed]

theorem IsUnits.rank (hx : x.IsUnits z) : x.rank = some z := by
  obtain ⟨negative, n, -, rfl, rfl⟩ := hx
  rfl

theorem IsUnits.compare? (hx : x.IsUnits a) (hy : y.IsUnits b) :
    x.compare? y = some (compare a b) := by
  simp only [Double.compare?, hx.rank, hy.rank]

theorem IsUnits.less_iff (hx : x.IsUnits a) (hy : y.IsUnits b) : x.less y = true ↔ a < b := by
  rw [less, hx.compare? hy]
  simp [Int.compare_eq_lt]

theorem IsUnits.lessOrEqual_iff (hx : x.IsUnits a) (hy : y.IsUnits b) :
    x.lessOrEqual y = true ↔ a ≤ b := by
  rw [lessOrEqual, Bool.or_eq_true, hx.less_iff hy, equals, hx.compare? hy]
  simp
  omega

/-- A finite number of so many halves; zero halves may have either sign. -/
def IsHalves (x : Double) (h : Int) : Prop :=
  ∃ negative n representable,
    x = finite negative (n * unitsPerHalf) representable ∧ signed negative n = h

theorem IsHalves.isUnits (h : x.IsHalves z) : x.IsUnits (z * unitsPerHalf) := by
  obtain ⟨negative, n, representable, rfl, rfl⟩ := h
  exact ⟨negative, _, representable, rfl, signed_mul negative n unitsPerHalf⟩

theorem mul_unitsPerHalf_le : a * unitsPerHalf ≤ b * unitsPerHalf ↔ a ≤ b :=
  Int.mul_le_mul_right (Int.natCast_pos.mpr unitsPerHalf_pos)

theorem mul_unitsPerHalf_lt : a * unitsPerHalf < b * unitsPerHalf ↔ a < b :=
  Int.mul_lt_mul_right (Int.natCast_pos.mpr unitsPerHalf_pos)

theorem mul_unitsPerHalf_inj : a * unitsPerHalf = b * unitsPerHalf ↔ a = b :=
  Int.mul_eq_mul_right_iff (Int.natCast_ne_zero.mpr (Nat.ne_of_gt unitsPerHalf_pos))

/-- The sign goes with the count, so a number of whole halves is one of so many halves. -/
theorem IsUnits.isHalves {h : Int} (hx : x.IsUnits (h * unitsPerHalf)) : x.IsHalves h := by
  obtain ⟨negative, n, hn, rfl, hsigned⟩ := hx
  have hunits : n = h.natAbs * unitsPerHalf := by
    rw [← natAbs_signed negative n, hsigned, Int.natAbs_mul, Int.natAbs_natCast]
  refine ⟨negative, h.natAbs, hunits ▸ hn, by simp only [hunits], ?_⟩
  rwa [hunits, signed_mul, mul_unitsPerHalf_inj] at hsigned

theorem IsUnits.isHalves_ones {i : Int} (hx : x.IsUnits (i * unitsPerOne)) :
    x.IsHalves (2 * i) := by
  refine IsUnits.isHalves ?_
  rwa [unitsPerOne_eq, Int.natCast_mul, ← Int.mul_assoc, Int.mul_comm i] at hx

theorem IsHalves.less_iff (hx : x.IsHalves a) (hy : y.IsHalves b) : x.less y = true ↔ a < b :=
  (hx.isUnits.less_iff hy.isUnits).trans mul_unitsPerHalf_lt

theorem IsHalves.lessOrEqual_iff (hx : x.IsHalves a) (hy : y.IsHalves b) :
    x.lessOrEqual y = true ↔ a ≤ b :=
  (hx.isUnits.lessOrEqual_iff hy.isUnits).trans mul_unitsPerHalf_le

theorem isHalves_ofRatio (negative : Bool) (hn : n < 2 ^ 53) (hden : 0 < den) :
    (ofRatio negative (n * unitsPerHalf * den) den).IsHalves (signed negative n) := by
  rw [ofRatio, roundUnits_mul (representable_halves hn) hden]
  exact ⟨_, _, _, ofUnits_of_representable negative (representable_halves hn), rfl⟩

theorem isHalves_half : half.IsHalves 1 := by
  have hhalf : half = ofRatio false (1 * unitsPerHalf * 2) 2 := by
    rw [half, unitsPerOne_eq, Nat.one_mul, Nat.mul_comm]
  rw [hhalf]
  exact isHalves_ofRatio false (by decide) (by decide)

theorem isUnits_half : half.IsUnits unitsPerHalf := by
  have h := isHalves_half.isUnits
  rwa [Int.one_mul] at h

theorem isHalves_ofNat (hn : 2 * n < 2 ^ 53) : (ofNat n).IsHalves (2 * n) := by
  have hnat : ofNat n = ofRatio false (2 * n * unitsPerHalf * 1) 1 := by
    rw [ofNat, unitsPerOne_eq, Nat.mul_one, ← Nat.mul_assoc, Nat.mul_comm n 2]
  rw [hnat]
  exact isHalves_ofRatio false hn (by decide)

end Double

end SparqlExpr
