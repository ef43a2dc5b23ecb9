import Mathlib
import SparqlExpr.Proofs.NearestEven

/-! Rounding to whole numbers by adding one half first. The sum is itself rounded to binary64, which
moves it up to the next whole number right below one half and at the odd numbers of 53 bits. -/
namespace SparqlExpr

namespace Double
variable {m n k : Nat} {z : Int} {x : Double}

/-- The distance of one half from the number before it, in units. -/
def unitsBelowHalf : Nat := Nat.pow 2 1020

theorem exists_fine_scale : ∃ k, unitsBelowHalf = 2 ^ k ∧ unitsPerHalf = 2 ^ 53 * 2 ^ k :=
  ⟨1020, by decide +kernel⟩

theorem exists_unitsBelowHalf_pow : ∃ k, unitsBelowHalf = 2 ^ k :=
  exists_fine_scale.imp fun _ h => h.1

theorem exists_unitsPerHalf_pow : ∃ k, unitsPerHalf = 2 ^ k :=
  exists_scale.imp fun _ h => h.1

theorem unitsBelowHalf_pos : 0 < unitsBelowHalf := by
  obtain ⟨k, hk⟩ := exists_unitsBelowHalf_pow
  rw [hk]
  exact Nat.two_pow_pos k

theorem unitsPerHalf_eq : unitsPerHalf = 2 ^ 53 * unitsBelowHalf := by
  obtain ⟨k, hbelow, hhalf⟩ := exists_fine_scale
  rw [hhalf, hbelow]

section Large
variable (hn : Representable n) (h : 2 ^ 53 * unitsPerOne ≤ n)
include hn h

/-- Above 2^53 the gap is two ones or more. -/
theorem exists_wide_gap : ∃ q e, n = q * 2 ^ e ∧ gap n = 2 ^ e ∧ 2 ^ 52 ≤ q ∧ q < 2 ^ 53 ∧
    4 * unitsPerHalf ≤ 2 ^ e := by
  have hone := unitsPerOne_eq
  have hpos := unitsPerHalf_pos
  obtain ⟨k, hk⟩ := exists_unitsPerOne_pow
  obtain ⟨q, e, hq, hgap, hlow, hhigh⟩ := exists_eq_mul_gap hn (by omega)
  have htwice : 2 ^ (k + 1) = 4 * unitsPerHalf := by
    rw [pow_succ, ← hk]
    omega
  have hwide : 2 ^ (k + 1) ∣ gap n := pow_dvd_gap (by omega)
  refine ⟨q, e, hq, hgap, hlow, hhigh, ?_⟩
  rw [← htwice, ← hgap]
  exact Nat.le_of_dvd (gap_pos n) hwide

theorem roundUnits_add_half_large : roundUnits (n + unitsPerHalf) 1 = n := by
  obtain ⟨q, e, hq, -, hlow, hhigh, hwide⟩ := exists_wide_gap hn h
  have hpos := unitsPerHalf_pos
  have hbelow : 2 ^ 52 * 2 ^ e ≤ q * 2 ^ e := Nat.mul_le_mul_right _ hlow
  have habove : (q + 1) * 2 ^ e ≤ 2 ^ 53 * 2 ^ e := Nat.mul_le_mul_right _ hhigh
  rw [Nat.add_mul] at habove
  have hgap : gap (n + unitsPerHalf) = 2 ^ e := gap_eq_pow (by omega) (by omega)
  have hround := roundUnits_eq (q := q) hgap (by omega) (by omega) (by omega)
  rw [hround, hq]

/-- Below a power of two the gaps are half as wide, which is wide enough: from the middle the sum
goes back to the power. -/
theorem roundUnits_sub_half_large : roundUnits (n - unitsPerHalf) 1 = n := by
  obtain ⟨q, e, hq, -, hlow, hhigh, hwide⟩ := exists_wide_gap hn h
  have hpos := unitsPerHalf_pos
  rcases Nat.lt_or_eq_of_le hlow with hlt | heq
  · have hbelow : (2 ^ 52 + 1) * 2 ^ e ≤ q * 2 ^ e := Nat.mul_le_mul_right _ hlt
    have habove : q * 2 ^ e < 2 ^ 53 * 2 ^ e :=
      Nat.mul_lt_mul_of_pos_right hhigh (Nat.two_pow_pos e)
    rw [Nat.add_mul] at hbelow
    have hgap : gap (n - unitsPerHalf) = 2 ^ e := gap_eq_pow (by omega) (by omega)
    have hround := roundUnits_eq (q := q) hgap (by omega) (by omega) (by omega)
    rw [hround, hq]
  · subst heq
    obtain ⟨i, rfl⟩ : ∃ i, e = i + 1 := by
      refine Nat.exists_eq_succ_of_ne_zero ?_
      rintro rfl
      omega
    rw [pow_succ] at hq hwide
    have hgap : gap (n - unitsPerHalf) = 2 ^ i := gap_eq_pow (by omega) (by omega)
    have hround := roundUnits_eq (q := 2 ^ 53) hgap (by omega) (by omega) (by omega)
    rw [hround, hq]
    ring

end Large

/-- Between 2^52 and 2^53 a half is the middle between two whole numbers, and goes to the even one.
-/
theorem roundUnits_add_half_whole (hlow : 2 ^ 52 ≤ k) (hhigh : k < 2 ^ 53) :
    roundUnits (k * unitsPerOne + unitsPerHalf) 1 = (k + k % 2) * unitsPerOne := by
  obtain ⟨e, he⟩ := exists_unitsPerOne_pow
  have hone := unitsPerOne_eq
  have hpos := unitsPerHalf_pos
  have hbelow : 2 ^ 52 * unitsPerOne ≤ k * unitsPerOne := Nat.mul_le_mul_right _ hlow
  have habove : (k + 1) * unitsPerOne ≤ 2 ^ 53 * unitsPerOne := Nat.mul_le_mul_right _ hhigh
  rw [Nat.add_mul] at habove
  have hgap : gap (k * unitsPerOne + unitsPerHalf) = unitsPerOne := by
    rw [he] at hbelow habove ⊢
    exact gap_eq_pow (by omega) (by omega)
  rcases Nat.mod_two_eq_zero_or_one k with heven | hodd
  · rw [heven, Nat.add_zero]
    exact roundUnits_eq hgap (by omega) (by omega) (by omega)
  · have hnext : (k + 1) * unitsPerOne = k * unitsPerOne + unitsPerOne := Nat.succ_mul k _
    rw [hodd]
    exact roundUnits_eq hgap (by omega) (by omega) (by omega)

theorem roundUnits_sub_half_whole (hlow : 2 ^ 52 < k) (hhigh : k < 2 ^ 53) :
    roundUnits (k * unitsPerOne - unitsPerHalf) 1 = (k - k % 2) * unitsPerOne := by
  obtain ⟨e, he⟩ := exists_unitsPerOne_pow
  have hone := unitsPerOne_eq
  have hpos := unitsPerHalf_pos
  have hbelow : (2 ^ 52 + 1) * unitsPerOne ≤ k * unitsPerOne := Nat.mul_le_mul_right _ hlow
  have habove : (k + 1) * unitsPerOne ≤ 2 ^ 53 * unitsPerOne := Nat.mul_le_mul_right _ hhigh
  rw [Nat.add_mul] at hbelow habove
  have hgap : gap (k * unitsPerOne - unitsPerHalf) = unitsPerOne := by
    rw [he] at hbelow habove ⊢
    exact gap_eq_pow (by omega) (by omega)
  rcases Nat.mod_two_eq_zero_or_one k with heven | hodd
  · rw [heven, Nat.sub_zero]
    exact roundUnits_eq hgap (by omega) (by omega) (by omega)
  · have hnext : (k - 1) * unitsPerOne = k * unitsPerOne - unitsPerOne := Nat.sub_one_mul k _
    rw [hodd]
    exact roundUnits_eq hgap (by omega) (by omega) (by omega)

/-- Towards zero the sum has no more bits than the number itself. -/
theorem roundUnits_sub_half_exact (hn : Representable n) (hlow : unitsPerHalf < n)
    (hhigh : n ≤ 2 ^ 53 * unitsPerHalf) :
    roundUnits (n - unitsPerHalf) 1 = n - unitsPerHalf := by
  obtain ⟨e, he⟩ := exists_unitsPerHalf_pow
  have hpos := unitsPerHalf_pos
  have hhalf : gap (n - unitsPerHalf) ∣ unitsPerHalf := by
    rw [he] at hhigh hpos ⊢
    exact gap_dvd_pow (by omega)
  have hself : gap (n - unitsPerHalf) ∣ n :=
    Nat.dvd_trans (gap_dvd_gap (Nat.sub_le n _)) (representable_iff.mp hn).1
  exact roundUnits_of_dvd (Nat.dvd_sub hself hhalf)

/-- Between minus one half and zero the sum stays below one. -/
theorem roundUnits_half_sub_le (n : Nat) : roundUnits (unitsPerHalf - n) 1 ≤ unitsPerHalf := by
  obtain ⟨e, he⟩ := exists_unitsPerHalf_pow
  have hpos := unitsPerHalf_pos
  refine roundUnits_le ?_ (Nat.sub_le _ n)
  rw [he] at hpos ⊢
  exact gap_dvd_pow (by omega)

/-- Only the number right before one half is so close to it that the sum reaches one. -/
theorem roundUnits_add_half_small (hn : Representable n) (h : n < unitsPerHalf) :
    (n + unitsBelowHalf = unitsPerHalf → roundUnits (n + unitsPerHalf) 1 = unitsPerOne) ∧
      (n + unitsBelowHalf ≠ unitsPerHalf → roundUnits (n + unitsPerHalf) 1 < unitsPerOne) := by
  obtain ⟨e, he⟩ := exists_unitsBelowHalf_pow
  have hone := unitsPerOne_eq
  have hhalf := unitsPerHalf_eq
  have hpos := unitsBelowHalf_pos
  have htwice : 2 ^ (e + 1) = 2 * unitsBelowHalf := by
    rw [pow_succ, ← he, Nat.mul_comm]
  have hgap : gap (n + unitsPerHalf) = 2 ^ (e + 1) := gap_eq_pow (by omega) (by omega)
  constructor
  · intro heq
    have hround := roundUnits_eq (q := 2 ^ 53) hgap (by omega) (by omega) (by omega)
    rw [hround]
    omega
  · intro hne
    have hfar : n + unitsBelowHalf < unitsPerHalf := by
      by_contra hnear
      -- The gap below one half is the distance in question, so no number lies closer.
      have hdvd : unitsBelowHalf ∣ n := by
        refine Nat.dvd_trans ?_ (representable_iff.mp hn).1
        rw [he] at hhalf hnear hpos ⊢
        exact pow_dvd_gap (by omega)
      obtain ⟨q, hq⟩ := hdvd
      rw [hhalf, Nat.mul_comm, hq] at h
      have hlt : q < 2 ^ 53 := Nat.lt_of_mul_lt_mul_left h
      have hle : unitsBelowHalf * (q + 1) ≤ unitsBelowHalf * 2 ^ 53 := Nat.mul_le_mul_left _ hlt
      rw [Nat.mul_add, ← hq] at hle
      omega
    have hhigh := (roundUnits_bounds (n + unitsPerHalf)).2.1
    omega

/-- From one half up to 2^52 the sum needs one bit more at most. If it does, it has just passed a
power of two, and stays in the half above it. -/
theorem roundUnits_add_half_div (hn : Representable n) (hlow : unitsPerHalf ≤ n)
    (hhigh : n < 2 ^ 53 * unitsPerHalf) :
    roundUnits (n + unitsPerHalf) 1 / unitsPerOne = (n + unitsPerHalf) / unitsPerOne := by
  obtain ⟨i, hi⟩ := exists_unitsPerHalf_pow
  obtain ⟨j, hj⟩ := exists_unitsBelowHalf_pow
  have hone := unitsPerOne_eq
  have hhalf := unitsPerHalf_eq
  have hpos := unitsBelowHalf_pos
  obtain ⟨q, e, hq, hgap, hlow', hhigh'⟩ := exists_eq_mul_gap hn (by omega)
  have hdvd : 2 ^ e ∣ unitsPerHalf := by
    rw [← hgap]
    rw [hi] at hhigh ⊢
    exact gap_dvd_pow hhigh
  have hself : 2 ^ e ∣ n := hq ▸ Nat.dvd_mul_left _ _
  have hnext : (q + 1) * 2 ^ e ≤ 2 ^ 53 * 2 ^ e := Nat.mul_le_mul_right _ hhigh'
  have hbelow : 2 ^ 52 * 2 ^ e ≤ q * 2 ^ e := Nat.mul_le_mul_right _ hlow'
  rw [Nat.add_mul] at hnext
  by_cases hlt : n + unitsPerHalf < 2 ^ 53 * 2 ^ e
  · have hgap' : gap (n + unitsPerHalf) = 2 ^ e := gap_eq_pow (by omega) hlt
    rw [roundUnits_of_dvd (hgap' ▸ Nat.dvd_add hself hdvd)]
  · have htwice : 2 ^ (e + 1) = 2 * 2 ^ e := by ring
    have hgap' : gap (n + unitsPerHalf) = 2 ^ (e + 1) := gap_eq_pow (by omega) (by omega)
    have hpower : gap (n + unitsPerHalf) ∣ 2 ^ 53 * 2 ^ e := by
      rw [hgap', htwice]
      exact Nat.mul_dvd_mul (by decide) (Nat.dvd_refl _)
    have hle := le_roundUnits hpower (Nat.not_lt.mp hlt)
    have hge := (roundUnits_bounds (n + unitsPerHalf)).2.1
    -- The power of two is a whole number, as the gap below it is at least that below one.
    have hwhole : unitsPerOne ∣ 2 ^ 53 * 2 ^ e := by
      have hones : unitsPerOne = 2 ^ 53 * 2 ^ (j + 1) := by
        rw [pow_succ 2 j, ← hj]
        omega
      rw [hones, ← hgap]
      exact Nat.mul_dvd_mul_left _ (pow_dvd_gap (by omega))
    obtain ⟨p, hp⟩ := hwhole
    rw [hgap', htwice] at hge
    have hsame : ∀ r, unitsPerOne * p ≤ r → r < unitsPerOne * p + unitsPerOne →
        r / unitsPerOne = p := fun r hr hr' =>
      Nat.div_eq_of_lt_le (by rwa [Nat.mul_comm]) (by rwa [Nat.succ_mul, Nat.mul_comm])
    rw [hsame _ (by omega) (by omega), hsame _ (by omega) (by omega)]

/-- A whole number, odd and of 53 bits, the half above which goes up to the next one. -/
def IsHighOdd (k : Int) : Prop := Odd k ∧ 2 ^ 52 < k.natAbs ∧ k.natAbs < 2 ^ 53

instance (k : Int) : Decidable (IsHighOdd k) :=
  inferInstanceAs (Decidable (_ ∧ _))

theorem isHighOdd_neg {k : Int} : IsHighOdd (-k) ↔ IsHighOdd k := by
  simp only [IsHighOdd, Int.natAbs_neg, ← Int.natAbs_odd]

theorem isHighOdd_natCast (hlow : 2 ^ 52 ≤ k) (hhigh : k < 2 ^ 53) : IsHighOdd k ↔ k % 2 = 1 := by
  rw [IsHighOdd, Int.odd_coe_nat, Nat.odd_iff, Int.natAbs_natCast]
  omega

theorem add_half_ediv (k : Int) : (k * unitsPerOne + unitsPerHalf) / unitsPerOne = k := by
  have hone := unitsPerOne_eq
  have hpos := unitsPerHalf_pos
  rw [Int.ediv_eq_iff_of_pos (by omega)]
  constructor <;> nlinarith

theorem mul_unitsPerOne_ediv (k : Int) : k * unitsPerOne / unitsPerOne = k :=
  Int.mul_ediv_cancel k (by have := unitsPerOne_pos; omega)

theorem roundInt_add_half_natCast (hn : Representable (k * unitsPerOne)) (hk : 2 ^ 52 ≤ k) :
    roundInt ((k : Int) * unitsPerOne + unitsPerHalf) / unitsPerOne =
      if IsHighOdd k then (k : Int) + 1 else k := by
  have hcast : (k : Int) * unitsPerOne + unitsPerHalf =
      ((k * unitsPerOne + unitsPerHalf : Nat) : Int) := by push_cast; rfl
  rw [hcast, roundInt_natCast]
  by_cases hlt : k < 2 ^ 53
  · rw [roundUnits_add_half_whole hk hlt, Nat.cast_mul, mul_unitsPerOne_ediv]
    simp only [isHighOdd_natCast hk hlt]
    split <;> omega
  · have hle : 2 ^ 53 * unitsPerOne ≤ k * unitsPerOne :=
      Nat.mul_le_mul_right _ (Nat.not_lt.mp hlt)
    rw [roundUnits_add_half_large hn hle, Nat.cast_mul, mul_unitsPerOne_ediv,
      if_neg (fun h => hlt h.2.2)]

theorem roundInt_add_half_neg (hn : Representable (k * unitsPerOne)) (hk : 2 ^ 52 ≤ k) :
    roundInt (-(k : Int) * unitsPerOne + unitsPerHalf) / unitsPerOne =
      if IsHighOdd (-k) then -(k : Int) + 1 else -k := by
  have hone := unitsPerOne_eq
  have hpos := unitsPerHalf_pos
  have hle : 2 ^ 52 * unitsPerOne ≤ k * unitsPerOne := Nat.mul_le_mul_right _ hk
  have hcast : -(k : Int) * unitsPerOne + unitsPerHalf =
      -((k * unitsPerOne - unitsPerHalf : Nat) : Int) := by
    rw [Nat.cast_sub (by omega)]
    push_cast
    ring
  simp only [isHighOdd_neg]
  rcases Nat.lt_or_eq_of_le hk with hgt | heq
  · rw [hcast, roundInt_neg (by omega)]
    by_cases hlt : k < 2 ^ 53
    · rw [roundUnits_sub_half_whole hgt hlt, Nat.cast_mul, ← Int.neg_mul, mul_unitsPerOne_ediv]
      simp only [isHighOdd_natCast hk hlt]
      split <;> omega
    · have hle : 2 ^ 53 * unitsPerOne ≤ k * unitsPerOne :=
        Nat.mul_le_mul_right _ (Nat.not_lt.mp hlt)
      rw [roundUnits_sub_half_large hn hle, Nat.cast_mul, ← Int.neg_mul, mul_unitsPerOne_ediv,
        if_neg (fun h => hlt h.2.2)]
  · -- The sum is below a power of two, where it has the bits for the half.
    have hexact := roundUnits_sub_half_exact hn (by omega) (by rw [← heq]; omega)
    have hnot : ¬IsHighOdd k := fun h => absurd h.2.1 (by rw [Int.natAbs_natCast]; omega)
    rw [if_neg hnot, hcast, roundInt_neg (by omega), hexact, ← hcast, add_half_ediv]

theorem roundInt_add_half_whole {k : Int} (hk : Representable (k * unitsPerOne).natAbs)
    (hlow : 2 ^ 52 ≤ k.natAbs) : roundInt (k * unitsPerOne + unitsPerHalf) / unitsPerOne =
      if IsHighOdd k then k + 1 else k := by
  rw [Int.natAbs_mul, Int.natAbs_natCast] at hk
  obtain ⟨j, rfl | rfl⟩ := k.eq_nat_or_neg
  · rw [Int.natAbs_natCast] at hk hlow
    exact roundInt_add_half_natCast hk hlow
  · rw [Int.natAbs_neg, Int.natAbs_natCast] at hk hlow
    exact roundInt_add_half_neg hk hlow

/-- Below 2^52 one number alone goes up, the one right before one half. -/
theorem roundInt_add_half_nonneg (hn : Representable n) (h : n < 2 ^ 53 * unitsPerHalf) :
    roundInt (n + unitsPerHalf) / unitsPerOne =
      if (n + unitsBelowHalf : Int) = unitsPerHalf then (n + unitsPerHalf : Int) / unitsPerOne + 1
      else (n + unitsPerHalf : Int) / unitsPerOne := by
  have hone := unitsPerOne_eq
  have hhalf := unitsPerHalf_eq
  have hpos := unitsBelowHalf_pos
  have hcast : (n + unitsPerHalf : Int) = ((n + unitsPerHalf : Nat) : Int) := by push_cast; rfl
  rw [hcast, roundInt_natCast]
  by_cases hlow : n < unitsPerHalf
  · obtain ⟨hup, hdown⟩ := roundUnits_add_half_small hn hlow
    have hzero : (n + unitsPerHalf) / unitsPerOne = 0 := Nat.div_eq_of_lt (by omega)
    split
    · next heq =>
      rw [hup (by omega)]
      have hself : unitsPerOne / unitsPerOne = 1 := Nat.div_self (by omega)
      exact_mod_cast hself.trans (congrArg (· + 1) hzero).symm
    · next hne =>
      have hzero' : roundUnits (n + unitsPerHalf) 1 / unitsPerOne = 0 :=
        Nat.div_eq_of_lt (hdown (by omega))
      exact_mod_cast hzero'.trans hzero.symm
  · rw [if_neg (by omega)]
    exact_mod_cast roundUnits_add_half_div hn (by omega) h

theorem roundInt_add_half_neg_small (hn : Representable n) (h : n ≤ 2 ^ 53 * unitsPerHalf) :
    roundInt (-n + unitsPerHalf) / unitsPerOne = (-n + unitsPerHalf : Int) / unitsPerOne := by
  have hone := unitsPerOne_eq
  have hpos := unitsPerHalf_pos
  by_cases hlow : n ≤ unitsPerHalf
  · have hcast : (-n + unitsPerHalf : Int) = ((unitsPerHalf - n : Nat) : Int) := by
      rw [Nat.cast_sub hlow]
      ring
    have hle := roundUnits_half_sub_le n
    rw [hcast, roundInt_natCast]
    have hzero : roundUnits (unitsPerHalf - n) 1 / unitsPerOne = 0 := Nat.div_eq_of_lt (by omega)
    have hzero' : (unitsPerHalf - n) / unitsPerOne = 0 := Nat.div_eq_of_lt (by omega)
    exact_mod_cast hzero.trans hzero'.symm
  · have hcast : (-n + unitsPerHalf : Int) = -((n - unitsPerHalf : Nat) : Int) := by
      rw [Nat.cast_sub (by omega)]
      ring
    rw [hcast, roundInt_neg (by omega), roundUnits_sub_half_exact hn (by omega) h]

/-- The sum of a number with one half is moved up to the next whole number. -/
def HalfGoesUp (z : Int) : Prop :=
  z + unitsBelowHalf = unitsPerHalf ∨ (unitsPerOne : Int) ∣ z ∧ IsHighOdd (z / unitsPerOne)

instance (z : Int) : Decidable (HalfGoesUp z) :=
  inferInstanceAs (Decidable (_ ∨ _))

theorem representable_before_half : Representable (unitsPerHalf - unitsBelowHalf) := by
  obtain ⟨k, hbelow, -⟩ := exists_fine_scale
  have hhalf := unitsPerHalf_eq
  have hone := unitsPerOne_eq
  have hlimit := pow_mul_unitsPerOne_le (k := 0) (by decide)
  have hunits : unitsPerHalf - unitsBelowHalf = (2 ^ 53 - 1) * unitsBelowHalf := by omega
  have hle : 2 ^ 53 * unitsBelowHalf ≤ unitLimit := by omega
  rw [hbelow] at hunits hle
  rw [hbelow, hunits]
  exact representable_mul_pow (by decide) hle

theorem halfGoesUp_before_half : HalfGoesUp (signed false (unitsPerHalf - unitsBelowHalf)) := by
  have hhalf := unitsPerHalf_eq
  have hsigned : signed false (unitsPerHalf - unitsBelowHalf) =
      ((unitsPerHalf - unitsBelowHalf : Nat) : Int) := rfl
  refine .inl ?_
  omega

theorem halfGoesUp_iff_of_lt (h : z.natAbs < 2 ^ 53 * unitsPerHalf) :
    HalfGoesUp z ↔ z + unitsBelowHalf = unitsPerHalf := by
  have hone := unitsPerOne_eq
  refine or_iff_left ?_
  rintro ⟨⟨k, hk⟩, -, hlow, -⟩
  rw [Int.mul_comm] at hk
  rw [hk, mul_unitsPerOne_ediv] at hlow
  rw [hk, Int.natAbs_mul, Int.natAbs_natCast] at h
  have hle : 2 ^ 52 * unitsPerOne ≤ k.natAbs * unitsPerOne :=
    Nat.mul_le_mul_right _ (Nat.le_of_lt hlow)
  omega

theorem halfGoesUp_mul_iff {k : Int} : HalfGoesUp (k * unitsPerOne) ↔ IsHighOdd k := by
  have hone := unitsPerOne_eq
  have hhalf := unitsPerHalf_eq
  have hpos := unitsBelowHalf_pos
  rw [HalfGoesUp, mul_unitsPerOne_ediv, and_iff_right (Int.dvd_mul_left _ _)]
  refine or_iff_right fun heq => ?_
  have hsmall : k * unitsPerOne ≤ 0 ∨ (unitsPerOne : Int) ≤ k * unitsPerOne := by
    rcases (by omega : k ≤ 0 ∨ 1 ≤ k) with hk | hk
    · exact Or.inl (Int.mul_nonpos_of_nonpos_of_nonneg hk (by omega))
    · exact Or.inr (le_mul_of_one_le_left (by omega) hk)
  omega

/-- Adding one half comes to the whole number that it should come to, or to the one after it. -/
theorem roundInt_add_half (hz : Representable z.natAbs) :
    roundInt (z + unitsPerHalf) / unitsPerOne = if HalfGoesUp z then
      (z + unitsPerHalf) / unitsPerOne + 1 else (z + unitsPerHalf) / unitsPerOne := by
  have hone := unitsPerOne_eq
  by_cases hwhole : 2 ^ 52 * unitsPerOne ≤ z.natAbs
  · obtain ⟨k, hk⟩ := Int.natCast_dvd.mpr (unitsPerOne_dvd hz hwhole)
    rw [Int.mul_comm] at hk
    subst hk
    have hlow : 2 ^ 52 ≤ k.natAbs := by
      rw [Int.natAbs_mul, Int.natAbs_natCast] at hwhole
      exact Nat.le_of_mul_le_mul_right hwhole unitsPerOne_pos
    simp only [roundInt_add_half_whole hz hlow, add_half_ediv, halfGoesUp_mul_iff]
  · have hlt : z.natAbs < 2 ^ 53 * unitsPerHalf := by omega
    simp only [halfGoesUp_iff_of_lt hlt]
    obtain ⟨n, rfl | rfl⟩ := z.eq_nat_or_neg
    · rw [Int.natAbs_natCast] at hz hlt
      exact roundInt_add_half_nonneg hz hlt
    · rw [Int.natAbs_neg, Int.natAbs_natCast] at hz hlt
      have hhalf := unitsPerHalf_eq
      have hpos := unitsBelowHalf_pos
      rw [if_neg (by omega)]
      exact roundInt_add_half_neg_small hz (Nat.le_of_lt hlt)

theorem representable_add_half (hz : Representable z.natAbs) :
    Representable (roundUnits (z + unitsPerHalf).natAbs 1) := by
  have hone := unitsPerOne_eq
  have hpos := unitsPerHalf_pos
  by_cases hlarge : 2 ^ 53 * unitsPerOne ≤ z.natAbs
  · obtain ⟨n, rfl | rfl⟩ := z.eq_nat_or_neg
    · rw [Int.natAbs_natCast] at hz hlarge
      have hsum : ((n : Int) + unitsPerHalf).natAbs = n + unitsPerHalf := by omega
      rwa [hsum, roundUnits_add_half_large hz hlarge]
    · rw [Int.natAbs_neg, Int.natAbs_natCast] at hz hlarge
      have hsum : (-(n : Int) + unitsPerHalf).natAbs = n - unitsPerHalf := by omega
      rwa [hsum, roundUnits_sub_half_large hz hlarge]
  · have hlimit : 2 ^ 54 * (unitsPerOne * 2) ≤ unitLimit := by
      have := pow_mul_unitsPerOne_le (k := 55) (by decide)
      omega
    obtain ⟨k, hk⟩ := exists_unitsPerOne_pow
    have hlt : (z + unitsPerHalf).natAbs < 2 ^ 53 * (unitsPerOne * 2) := by omega
    rw [hk, ← pow_succ] at hlt hlimit
    exact representable_roundUnits hlt hlimit

theorem IsUnits.round (hx : x.IsUnits z) : x.round.IsUnits
    ((if HalfGoesUp z then (z + unitsPerHalf) / unitsPerOne + 1
      else (z + unitsPerHalf) / unitsPerOne) * unitsPerOne) := by
  rw [← roundInt_add_half hx.representable]
  exact (hx.add isUnits_half (representable_add_half hx.representable)).floor

/-- The value of a finite number. -/
def toRat? : Double → Option ℚ
  | finite negative units _ => some (signed negative units / unitsPerOne)
  | _ => none

theorem IsUnits.toRat? (hx : x.IsUnits z) : x.toRat? = some (z / unitsPerOne : ℚ) := by
  obtain ⟨negative, n, hn, rfl, rfl⟩ := hx
  rfl

theorem exists_isUnits {q : ℚ} (h : x.toRat? = some q) :
    ∃ z : Int, x.IsUnits z ∧ q = z / unitsPerOne := by
  cases x with
  | nan => cases h
  | infinity negative => cases h
  | finite negative n hn => exact ⟨_, isUnits_finite negative hn, (Option.some.inj h).symm⟩

theorem IsUnits.toRat?_whole (hx : x.IsUnits (z * unitsPerOne)) : x.toRat? = some (z : ℚ) := by
  have hne : (unitsPerOne : ℚ) ≠ 0 := Nat.cast_ne_zero.mpr (Nat.ne_of_gt unitsPerOne_pos)
  rw [hx.toRat?, Int.cast_mul, Int.cast_natCast, mul_div_cancel_right₀ _ hne]

/-- The values at which rounding comes to the whole number after the right one: the number right
before one half, and the odd ones with 53 bits before the point. -/
def RoundsPast (q : ℚ) : Prop :=
  q = 1 / 2 - 1 / 2 ^ 54 ∨ q.den = 1 ∧ IsHighOdd q.num

instance (q : ℚ) : Decidable (RoundsPast q) :=
  inferInstanceAs (Decidable (_ ∨ _))

theorem halfGoesUp_iff_roundsPast (z : Int) : HalfGoesUp z ↔ RoundsPast (z / unitsPerOne) := by
  have hne : (unitsPerOne : Int) ≠ 0 := Int.natCast_ne_zero.mpr (Nat.ne_of_gt unitsPerOne_pos)
  have hwhole : ((z : ℚ) / unitsPerOne).den = 1 ↔ (unitsPerOne : Int) ∣ z := by
    exact_mod_cast Rat.den_div_intCast_eq_one_iff z unitsPerOne hne
  refine or_congr ?_ ?_
  · have hhalf : (unitsPerHalf : ℚ) = 2 ^ 53 * unitsBelowHalf := by exact_mod_cast unitsPerHalf_eq
    have hone : (unitsPerOne : ℚ) = 2 ^ 54 * unitsBelowHalf := by
      rw [unitsPerOne_eq, unitsPerHalf_eq]
      push_cast
      ring
    have hpos : (0 : ℚ) < unitsBelowHalf := Nat.cast_pos.mpr unitsBelowHalf_pos
    rw [← Int.cast_inj (α := ℚ), hone]
    push_cast
    rw [hhalf]
    generalize (unitsBelowHalf : ℚ) = below at hpos
    rw [div_eq_iff (by positivity)]
    constructor <;> intro h <;> linarith
  · rw [hwhole]
    refine and_congr_right fun hdvd => ?_
    obtain ⟨k, hk⟩ := hdvd
    have hquot : (z : ℚ) / unitsPerOne = k := by
      rw [hk, Int.cast_mul, Int.cast_natCast, mul_div_cancel_left₀ _ (by exact_mod_cast hne)]
    rw [hquot, Rat.num_intCast, hk, Int.mul_ediv_cancel_left k hne]

/-- The whole number that rounding comes to. -/
def roundedTo (q : ℚ) : Int :=
  if RoundsPast q then ⌊q + 1 / 2⌋ + 1 else ⌊q + 1 / 2⌋

theorem roundedTo_eq_iff {q : ℚ} : roundedTo q = ⌊q + 1 / 2⌋ ↔ ¬RoundsPast q := by
  unfold roundedTo
  split
  · next h => simp [h]
  · next h => simp [h]

theorem toRat?_round {q : ℚ} (h : x.toRat? = some q) : x.round.toRat? = some (roundedTo q : ℚ) := by
  obtain ⟨z, hz, rfl⟩ := exists_isUnits h
  have hfloor : ⌊(z : ℚ) / unitsPerOne + 1 / 2⌋ = (z + unitsPerHalf) / unitsPerOne := by
    have hne : (unitsPerHalf : ℚ) ≠ 0 := Nat.cast_ne_zero.mpr (Nat.ne_of_gt unitsPerHalf_pos)
    have hone : (unitsPerOne : ℚ) = 2 * unitsPerHalf := by exact_mod_cast unitsPerOne_eq
    have hhalf : (1 / 2 : ℚ) = unitsPerHalf / unitsPerOne := by
      rw [hone, div_mul_cancel_right₀ hne, one_div]
    rw [hhalf, ← add_div, ← Rat.floor_intCast_div_natCast, Int.cast_add, Int.cast_natCast]
  rw [hz.round.toRat?_whole, roundedTo, hfloor]
  simp only [halfGoesUp_iff_roundsPast]

theorem toRat?_floor {q : ℚ} (h : x.toRat? = some q) : x.floor.toRat? = some (⌊q⌋ : ℚ) := by
  obtain ⟨z, hz, rfl⟩ := exists_isUnits h
  rw [hz.floor.toRat?_whole, Rat.floor_intCast_div_natCast]

theorem toRat?_ceil {q : ℚ} (h : x.toRat? = some q) : x.ceil.toRat? = some (⌈q⌉ : ℚ) := by
  obtain ⟨z, hz, rfl⟩ := exists_isUnits h
  have hceil := hz.ceil
  rw [← Int.neg_mul] at hceil
  rw [hceil.toRat?_whole, Rat.ceil_intCast_div_natCast]

theorem roundsPast_intCast {k : Int} : RoundsPast k ↔ IsHighOdd k := by
  rw [RoundsPast, Rat.den_intCast, Rat.num_intCast, and_iff_right rfl]
  refine or_iff_right fun h => ?_
  have heven : 2 ^ 54 * k = 2 ^ 53 - 1 := by
    have hcast : (2 ^ 54 * k : ℚ) = 2 ^ 53 - 1 := by rw [h]; norm_num
    exact_mod_cast hcast
  omega

/-- A whole number is rounded to itself, unless it is a high odd one. -/
theorem roundedTo_intCast (k : Int) : roundedTo k = if IsHighOdd k then k + 1 else k := by
  have hfloor : ⌊(k : ℚ) + 1 / 2⌋ = k := by
    rw [Int.floor_intCast_add]
    norm_num
  simp only [roundedTo, roundsPast_intCast, hfloor]

end Double

end SparqlExpr
