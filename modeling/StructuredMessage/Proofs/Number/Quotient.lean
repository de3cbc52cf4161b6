import Mathlib.Algebra.Order.Field.Power
import Mathlib.Algebra.Order.Floor.Ring
import Mathlib.Data.Rat.Floor
import Mathlib.Tactic.FieldSimp
import Mathlib.Tactic.Linarith
import Mathlib.Tactic.NormNum
import Mathlib.Tactic.Positivity
import Mathlib.Tactic.Ring
import StructuredMessage.Number.Binary

namespace StructuredMessage

theorem cast_twoPow (n : Nat) : (twoPow n : ℚ) = 2 ^ n := by
  rw [twoPow]
  push_cast [Nat.pow_eq]
  rfl

theorem cast_tenPow (n : Nat) : (tenPow n : ℚ) = 10 ^ n := by
  rw [tenPow]
  push_cast [Nat.pow_eq]
  rfl

theorem twoPow_pos (n : Nat) : 0 < twoPow n :=
  Nat.pow_pos (by decide)

theorem tenPow_pos (n : Nat) : 0 < tenPow n :=
  Nat.pow_pos (by decide)

/-- A power with an exponent of either sign, as the quotient of natural numbers that a computation uses. -/
theorem two_zpow (e : Int) : (2 : ℚ) ^ e = twoPow e.toNat / twoPow (-e).toNat := by
  rw [cast_twoPow, cast_twoPow, ← zpow_natCast, ← zpow_natCast, ← zpow_sub₀ (by norm_num)]
  congr 1
  omega

theorem ten_zpow (e : Int) : (10 : ℚ) ^ e = tenPow e.toNat / tenPow (-e).toNat := by
  rw [cast_tenPow, cast_tenPow, ← zpow_natCast, ← zpow_natCast, ← zpow_sub₀ (by norm_num)]
  congr 1
  omega

section Rounding

variable (tie : Tie) (num : Nat) {den : Nat}

theorem div_le_roundDiv (den : Nat) : num / den ≤ roundDiv tie num den := by
  unfold roundDiv
  dsimp only
  split
  next => exact Nat.le_refl _
  next =>
    split
    next => exact Nat.le_succ _
    next => cases tie with
      | toEven => exact Nat.le_add_right _ _
      | awayFromZero => exact Nat.le_succ _

theorem roundDiv_le_div_add_one (den : Nat) : roundDiv tie num den ≤ num / den + 1 := by
  unfold roundDiv
  dsimp only
  split
  next => exact Nat.le_succ _
  next =>
    split
    next => exact Nat.le_refl _
    next => cases tie with
      | toEven => dsimp only; omega
      | awayFromZero => exact Nat.le_refl _

theorem roundDiv_of_lt (h : 2 * (num % den) < den) : roundDiv tie num den = num / den := by
  unfold roundDiv
  exact if_pos h

theorem roundDiv_of_gt (h : den < 2 * (num % den)) : roundDiv tie num den = num / den + 1 := by
  unfold roundDiv
  exact (if_neg (by omega)).trans (if_pos h)

theorem cast_div_mod (hden : 0 < den) : (num / den : ℚ) = (num / den : Nat) + (num % den : Nat) / den := by
  have hne : (den : ℚ) ≠ 0 := by exact_mod_cast hden.ne'
  have hsum : (den : ℚ) * (num / den : Nat) + (num % den : Nat) = num := by exact_mod_cast Nat.div_add_mod num den
  field_simp
  linarith

variable (hden : 0 < den)
include hden

theorem abs_roundDiv_sub_le : |(roundDiv tie num den : ℚ) - num / den| ≤ 1 / 2 := by
  have hpos : (0 : ℚ) < den := by exact_mod_cast hden
  have hrem : ((num % den : Nat) : ℚ) < den := by exact_mod_cast Nat.mod_lt num hden
  have hnonneg : (0 : ℚ) ≤ (num % den : Nat) := Nat.cast_nonneg _
  have hlow := div_le_roundDiv tie num den
  have hhigh := roundDiv_le_div_add_one tie num den
  rw [cast_div_mod num hden, abs_le]
  rcases Nat.lt_trichotomy (2 * (num % den)) den with hlt | heq | hgt
  · have hhalf : ((num % den : Nat) : ℚ) / den ≤ 1 / 2 := by
      rw [div_le_div_iff₀ hpos two_pos]
      exact_mod_cast (by omega : num % den * 2 ≤ 1 * den)
    have hfraction : (0 : ℚ) ≤ (num % den : Nat) / den := by positivity
    rw [roundDiv_of_lt tie num hlt]
    constructor <;> linarith
  · have hhalf : ((num % den : Nat) : ℚ) / den = 1 / 2 := by
      rw [div_eq_div_iff hpos.ne' two_ne_zero]
      exact_mod_cast (by omega : num % den * 2 = 1 * den)
    have hlow' : ((num / den : Nat) : ℚ) ≤ roundDiv tie num den := by exact_mod_cast hlow
    have hhigh' : (roundDiv tie num den : ℚ) ≤ (num / den : Nat) + 1 := by exact_mod_cast hhigh
    rw [hhalf]
    constructor <;> linarith
  · have hhalf : 1 / 2 ≤ ((num % den : Nat) : ℚ) / den := by
      rw [div_le_div_iff₀ two_pos hpos]
      exact_mod_cast (by omega : 1 * den ≤ num % den * 2)
    have hfraction : ((num % den : Nat) : ℚ) / den ≤ 1 := (div_le_one hpos).mpr hrem.le
    rw [roundDiv_of_gt tie num hgt]
    push_cast
    constructor <;> linarith

theorem roundDiv_awayFromZero : (roundDiv .awayFromZero num den : Int) = ⌊(num / den + 1 / 2 : ℚ)⌋ := by
  have hpos : (0 : ℚ) < den := by exact_mod_cast hden
  have hrem : ((num % den : Nat) : ℚ) / den < 1 := by
    rw [div_lt_one hpos]
    exact_mod_cast Nat.mod_lt num hden
  have hnonneg : (0 : ℚ) ≤ (num % den : Nat) / den := by positivity
  refine (Int.floor_eq_iff.mpr ?_).symm
  rw [cast_div_mod num hden]
  by_cases hlt : 2 * (num % den) < den
  · have hhalf : ((num % den : Nat) : ℚ) / den < 1 / 2 := by
      rw [div_lt_div_iff₀ hpos two_pos]
      exact_mod_cast (by omega : num % den * 2 < 1 * den)
    rw [roundDiv_of_lt _ num hlt, Int.cast_natCast]
    constructor <;> linarith
  · have hhalf : 1 / 2 ≤ ((num % den : Nat) : ℚ) / den := by
      rw [div_le_div_iff₀ two_pos hpos]
      exact_mod_cast (by omega : 1 * den ≤ num % den * 2)
    have hup : roundDiv .awayFromZero num den = num / den + 1 := by
      rw [roundDiv]
      exact (if_neg hlt).trans (by split <;> rfl)
    rw [hup, Int.cast_natCast, Nat.cast_add, Nat.cast_one]
    constructor <;> linarith

theorem le_roundDiv {n : Nat} (h : n * den ≤ num) : n ≤ roundDiv tie num den :=
  ((Nat.le_div_iff_mul_le hden).mpr h).trans (div_le_roundDiv tie num den)

theorem roundDiv_le {n : Nat} (h : num ≤ n * den) : roundDiv tie num den ≤ n := by
  rcases Nat.eq_zero_or_pos (num % den) with hzero | hpos
  · rw [roundDiv_of_lt tie num (by omega)]
    exact Nat.div_le_of_le_mul (by rwa [Nat.mul_comm])
  · have hlt : num / den < n := by
      by_contra hge
      have hmul := Nat.mul_le_mul_left den (Nat.le_of_not_lt hge)
      have hsum := Nat.div_add_mod num den
      rw [Nat.mul_comm] at h
      omega
    exact (roundDiv_le_div_add_one tie num den).trans hlt

/-- A tie below an even number goes up to it. -/
theorem le_roundDiv_toEven_iff {n : Nat} (hn : n % 2 = 0) :
    n ≤ roundDiv .toEven num den ↔ 2 * n * den ≤ 2 * num + den := by
  have hsum := Nat.div_add_mod num den
  have hrem := Nat.mod_lt num hden
  have hlow := div_le_roundDiv .toEven num den
  have hhigh := roundDiv_le_div_add_one .toEven num den
  rcases Nat.lt_trichotomy (num / den + 1) n with hlt | heq | hgt
  · have hmul := Nat.mul_le_mul_left den hlt
    rw [Nat.mul_succ, Nat.mul_succ] at hmul
    have hcomm : 2 * n * den = 2 * (den * n) := by ring
    omega
  · have hcomm : 2 * n * den = 2 * (den * (num / den)) + 2 * den := by
      rw [← heq]
      ring
    by_cases hhalf : 2 * (num % den) < den
    · rw [roundDiv_of_lt .toEven num hhalf]
      omega
    · have hup : roundDiv .toEven num den = num / den + 1 := by
        rw [roundDiv]
        refine (if_neg hhalf).trans ?_
        split
        next => rfl
        next => omega
      rw [hup]
      omega
  · have hmul := Nat.mul_le_mul_left den (Nat.le_of_lt_succ hgt)
    have hcomm : 2 * n * den = 2 * (den * n) := by ring
    omega

end Rounding

end StructuredMessage
