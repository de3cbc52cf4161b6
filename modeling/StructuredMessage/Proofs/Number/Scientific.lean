import StructuredMessage.Number.Scientific
import StructuredMessage.Proofs.Number.Conversion

namespace StructuredMessage

namespace Shortest

theorem tenPow_length_digits {n : Nat} (hn : 0 < n) :
    tenPow ((Nat.toDigits 10 n).length - 1) ≤ n ∧ n < tenPow (Nat.toDigits 10 n).length := by
  have hne : Nat.toDigits 10 n ≠ [] := Nat.toDigits_ne_nil
  have hlength : 0 < (Nat.toDigits 10 n).length := List.length_pos_iff.mpr hne
  refine ⟨?_, (Numeral.length_digits_le hlength).mp le_rfl⟩
  by_contra hlt
  rcases Nat.eq_zero_or_pos ((Nat.toDigits 10 n).length - 1) with hzero | hpos
  · rw [hzero] at hlt
    exact hlt hn
  · have hshort := (Numeral.length_digits_le hpos).mpr (Nat.lt_of_not_le hlt)
    unfold Numeral.digits at hshort
    omega

theorem leadingExponent_spec {num den : Nat} (hnum : 0 < num) (hden : 0 < den) :
    (10 : ℚ) ^ leadingExponent num den ≤ num / den ∧ (num / den : ℚ) < 10 ^ (leadingExponent num den + 1) := by
  have hn : (0 : ℚ) < num := by exact_mod_cast hnum
  have hd : (0 : ℚ) < den := by exact_mod_cast hden
  unfold leadingExponent
  split
  next hle =>
    obtain ⟨hlow, hhigh⟩ := tenPow_length_digits (Nat.div_pos hle hden)
    have hlength : 0 < (Nat.toDigits 10 (num / den)).length := List.length_pos_iff.mpr Nat.toDigits_ne_nil
    rw [← Nat.cast_add_one, Nat.sub_add_cancel hlength, zpow_natCast, zpow_natCast, ← cast_tenPow, ← cast_tenPow,
      le_div_iff₀ hd, div_lt_iff₀ hd]
    exact ⟨by exact_mod_cast (Nat.le_div_iff_mul_le hden).mp hlow, by exact_mod_cast (Nat.div_lt_iff_lt_mul hden).mp hhigh⟩
  next hlt =>
    have hpos : 0 < (den - 1) / num := Nat.div_pos (by omega) hnum
    obtain ⟨hlow, hhigh⟩ := tenPow_length_digits hpos
    have hlength : 0 < (Nat.toDigits 10 ((den - 1) / num)).length := List.length_pos_iff.mpr Nat.toDigits_ne_nil
    have hlow' := (Nat.le_div_iff_mul_le hnum).mp hlow
    have hhigh' := (Nat.div_lt_iff_lt_mul hnum).mp hhigh
    generalize (Nat.toDigits 10 ((den - 1) / num)).length = n at *
    have hexponent : -(n : Int) + 1 = -((n - 1 : Nat) : Int) := by omega
    rw [hexponent, zpow_neg, zpow_neg, zpow_natCast, zpow_natCast, ← cast_tenPow, ← cast_tenPow]
    have hbig : (0 : ℚ) < tenPow n := by exact_mod_cast tenPow_pos n
    have hsmall : (0 : ℚ) < tenPow (n - 1) := by exact_mod_cast tenPow_pos (n - 1)
    have hlow'' : (tenPow (n - 1) * num : ℚ) < den := by exact_mod_cast (by omega : tenPow (n - 1) * num < den)
    have hhigh'' : (den : ℚ) ≤ tenPow n * num := by exact_mod_cast (by omega : den ≤ tenPow n * num)
    constructor
    · rw [inv_eq_one_div, div_le_div_iff₀ hbig hd]
      linarith
    · rw [inv_eq_one_div, div_lt_div_iff₀ hd hsmall]
      linarith

end Shortest

namespace Numeral

theorem length_digits_eq {n k : Nat} (hlow : tenPow k ≤ n) (hhigh : n < tenPow (k + 1)) : (digits n).length = k + 1 := by
  have hle := (length_digits_le (Nat.succ_pos k)).mpr hhigh
  have hpos : 0 < (digits n).length := List.length_pos_iff.mpr (digits_ne_nil n)
  rcases Nat.eq_zero_or_pos k with rfl | hk
  · omega
  · have hlong : ¬(digits n).length ≤ k := fun hshort => Nat.not_lt.mpr hlow ((length_digits_le hk).mp hshort)
    omega

end Numeral

namespace Binary

/-- The quotient `num / den` in units of `10 ^ e`, rounded. -/
def tenthSteps (num den : Nat) (e : Int) : Nat :=
  roundDiv .toEven (num * tenPow (-e).toNat) (den * tenPow e.toNat)

section Steps

variable (num : Nat) {den : Nat} (hden : 0 < den) (e : Int)
include hden

theorem cast_steps : ((num * tenPow (-e).toNat : Nat) : ℚ) / (den * tenPow e.toNat : Nat) = num / den / 10 ^ e := by
  have hlow : (tenPow (-e).toNat : ℚ) ≠ 0 := by exact_mod_cast (tenPow_pos _).ne'
  rw [ten_zpow]
  push_cast
  field_simp

theorem abs_tenthSteps_sub_le : |(tenthSteps num den e : ℚ) * 10 ^ e - num / den| ≤ 1 / 2 * 10 ^ e := by
  have hpow : (0 : ℚ) < 10 ^ e := by positivity
  have hround := abs_roundDiv_sub_le .toEven (num * tenPow (-e).toNat) (Nat.mul_pos hden (tenPow_pos e.toNat))
  rw [cast_steps num hden] at hround
  have hscaled : (tenthSteps num den e : ℚ) * 10 ^ e - num / den = (tenthSteps num den e - num / den / 10 ^ e) * 10 ^ e := by
    rw [sub_mul, div_mul_cancel₀ _ hpow.ne']
  rw [hscaled, abs_mul, abs_of_pos hpow]
  exact mul_le_mul_of_nonneg_right hround hpow.le

theorem le_tenthSteps {k : Nat} (h : (10 : ℚ) ^ (e + k) ≤ num / den) : tenPow k ≤ tenthSteps num den e := by
  refine le_roundDiv .toEven _ (Nat.mul_pos hden (tenPow_pos _)) ?_
  have hpos : (0 : ℚ) < (den * tenPow e.toNat : Nat) := by exact_mod_cast Nat.mul_pos hden (tenPow_pos _)
  rw [zpow_add₀ (by norm_num), zpow_natCast, ← cast_tenPow, mul_comm, ← le_div_iff₀ (by positivity), ← cast_steps num hden,
    le_div_iff₀ hpos] at h
  exact_mod_cast h

theorem tenthSteps_le {k : Nat} (h : (num / den : ℚ) < 10 ^ (e + k)) : tenthSteps num den e ≤ tenPow k := by
  refine roundDiv_le .toEven _ (Nat.mul_pos hden (tenPow_pos _)) ?_
  have hpos : (0 : ℚ) < (den * tenPow e.toNat : Nat) := by exact_mod_cast Nat.mul_pos hden (tenPow_pos _)
  rw [zpow_add₀ (by norm_num), zpow_natCast, ← cast_tenPow, mul_comm, ← div_lt_iff₀ (by positivity), ← cast_steps num hden,
    div_lt_iff₀ hpos] at h
  exact_mod_cast h.le

end Steps

theorem scientificDigits_zero {w : Width} {x : Binary w} {e : Int} (hx : x.magnitude = .finite 0 e) (k : Nat) :
    x.scientificDigits k = (List.replicate (k + 1) '0', 0) := by
  simp only [scientificDigits, hx]

theorem scientificDigits_of_pos {w : Width} {x : Binary w} {m : Nat} {e : Int} (hx : x.magnitude = .finite m e) (hm : 0 < m)
    (k : Nat) : x.scientificDigits k =
      let leading := Shortest.leadingExponent (ratio m e).1 (ratio m e).2
      let n := tenthSteps (ratio m e).1 (ratio m e).2 (leading - k)
      if n < tenPow (k + 1) then (Numeral.digits n, leading) else (Numeral.digits (n / 10), leading + 1) := by
  unfold scientificDigits
  rw [hx]
  split
  next heq =>
    cases heq
    exact absurd hm (Nat.lt_irrefl 0)
  next heq =>
    cases heq
    rfl
  next heq => cases heq
  next heq => cases heq

/-- Rounding up may carry into one digit more, all others being zero; the last zero goes then. -/
theorem carried_digits_spec {n k : Nat} {leading : Int} {v : ℚ} (hleast : tenPow k ≤ n) (hmost : n ≤ tenPow (k + 1))
    (hsteps : |(n * 10 ^ (leading - k) - v : ℚ)| ≤ 1 / 2 * 10 ^ (leading - k)) :
    let shown := if n < tenPow (k + 1) then (Numeral.digits n, leading) else (Numeral.digits (n / 10), leading + 1)
    shown.1.length = k + 1 ∧ (∀ c ∈ shown.1, c.isDigit) ∧
      |(Nat.ofDigitChars 10 shown.1 0 : ℚ) * 10 ^ (shown.2 - k) - v| ≤ 1 / 2 * 10 ^ (shown.2 - k) := by
  have hvalue (n : Nat) : Nat.ofDigitChars 10 (Numeral.digits n) 0 = n := Nat.ofDigitChars_ten_toDigits
  intro shown
  by_cases hlt : n < tenPow (k + 1)
  · have hshown : shown = (Numeral.digits n, leading) := if_pos hlt
    rw [hshown]
    exact ⟨Numeral.length_digits_eq hleast hlt, fun _ => Numeral.isDigit_of_mem_digits, by rwa [hvalue]⟩
  · have hshown : shown = (Numeral.digits (n / 10), leading + 1) := if_neg hlt
    have hcarry : n = tenPow k * 10 := Nat.le_antisymm hmost (Nat.le_of_not_lt hlt)
    have htenth : n / 10 = tenPow k := by rw [hcarry, Nat.mul_div_cancel _ (by decide)]
    have hexponent : leading + 1 - k = leading - k + 1 := by omega
    have hten : (10 : ℚ) ^ (leading - k + 1) = 10 ^ (leading - k) * 10 := zpow_add_one₀ (by norm_num) _
    have hpow : (0 : ℚ) < 10 ^ (leading - k) := by positivity
    rw [hshown]
    refine ⟨?_, fun _ => Numeral.isDigit_of_mem_digits, ?_⟩
    · rw [htenth]
      exact Numeral.length_digits_eq le_rfl (Nat.pow_lt_pow_right (by decide) (Nat.lt_succ_self k))
    · rw [hvalue, htenth, hexponent, hten]
      rw [hcarry] at hsteps
      push_cast at hsteps
      rw [mul_right_comm, mul_assoc] at hsteps
      refine hsteps.trans ?_
      linarith

/-- The first digit and `k` more, together with the exponent of the first, come to a number that is half a unit of the last
digit away from the magnitude at most. -/
theorem scientificDigits_spec {w : Width} {x : Binary w} (hx : ∃ m e, x.magnitude = .finite m e) (k : Nat) :
    (x.scientificDigits k).1.length = k + 1 ∧ (∀ c ∈ (x.scientificDigits k).1, c.isDigit) ∧
      |(Nat.ofDigitChars 10 (x.scientificDigits k).1 0 : ℚ) * 10 ^ ((x.scientificDigits k).2 - k) - x.magnitude.value| ≤
        1 / 2 * 10 ^ ((x.scientificDigits k).2 - k) := by
  obtain ⟨m, e, hmagnitude⟩ := hx
  rw [hmagnitude, Magnitude.value]
  rcases Nat.eq_zero_or_pos m with rfl | hm
  · rw [scientificDigits_zero hmagnitude]
    refine ⟨List.length_replicate, fun c hc => Number.isDigit_of_mem_zeros hc, ?_⟩
    rw [Nat.ofDigitChars_replicate_zero, Nat.mul_zero, Nat.cast_zero, zero_mul, zero_mul, sub_zero, abs_zero]
    positivity
  · have hnum : 0 < (ratio m e).1 := Nat.mul_pos hm (twoPow_pos _)
    obtain ⟨hlow, hhigh⟩ := Shortest.leadingExponent_spec hnum (ratio_pos m e)
    rw [scientificDigits_of_pos hmagnitude hm]
    dsimp only
    generalize Shortest.leadingExponent (ratio m e).1 (ratio m e).2 = leading at *
    have hsteps := abs_tenthSteps_sub_le (ratio m e).1 (ratio_pos m e) (leading - k)
    have hleast := le_tenthSteps (ratio m e).1 (ratio_pos m e) (leading - k) (k := k) (by rwa [sub_add_cancel])
    have hmost := tenthSteps_le (ratio m e).1 (ratio_pos m e) (leading - k) (k := k + 1)
      (by rwa [Nat.cast_add_one, ← add_assoc, sub_add_cancel])
    rw [ratio_value] at hsteps
    exact carried_digits_spec hleast hmost hsteps

end Binary

namespace Numeral

/-- `text` is scientific notation with `k` digits behind the first, and half a unit of the last of them away from `v` at
most. -/
def IsScientific (symbols : NumberSymbols) (mark : Char) (k : Nat) (v : ℚ) (text : String) : Prop :=
  ∃ (negative : Bool) (mantissa : List Char) (exponent : Int),
    text = (if negative then symbols.negativeSign else "") ++ mantissaText symbols mantissa ++
        exponentText mark 3 symbols exponent ∧
      mantissa.length = k + 1 ∧ (∀ c ∈ mantissa, c.isDigit) ∧
      |(if negative then -1 else 1) * Nat.ofDigitChars 10 mantissa 0 * 10 ^ (exponent - k) - v| ≤
        1 / 2 * 10 ^ (exponent - k)

end Numeral

namespace Number

/-- Scientific notation shows the double that a number is converted to. -/
theorem scientific_isScientific {x : Number} (hfinite : ∃ m e, x.toDouble.magnitude = .finite m e)
    (hsign : x.isNegative = true ↔ x.toDouble.value < 0) (mark : Char) (k : Nat) (symbols : NumberSymbols) :
    Numeral.IsScientific symbols mark k x.toDouble.value (x.scientific mark k symbols) := by
  obtain ⟨hlength, hdigits, herror⟩ := Binary.scientificDigits_spec hfinite k
  refine ⟨x.isNegative && (x.toDouble.scientificDigits k).1.any (· != '0'), (x.toDouble.scientificDigits k).1,
    (x.toDouble.scientificDigits k).2, rfl, hlength, hdigits, ?_⟩
  rw [← Binary.abs_value] at herror
  by_cases hneg : x.toDouble.value < 0
  · rw [hsign.mpr hneg, Bool.true_and]
    rw [abs_of_neg hneg] at herror
    by_cases hany : (x.toDouble.scientificDigits k).1.any (· != '0')
    · rw [if_pos hany, neg_one_mul, neg_mul, ← abs_neg, neg_sub, sub_neg_eq_add, add_comm]
      rwa [sub_neg_eq_add] at herror
    · -- only zeros are left of a number below zero, and no sign stands before them
      have hzero : (x.toDouble.scientificDigits k).1 = List.replicate (k + 1) '0' := by
        refine List.eq_replicate_iff.mpr ⟨hlength, fun c hc => ?_⟩
        by_contra hne
        exact hany (List.any_eq_true.mpr ⟨c, hc, by simpa using hne⟩)
      have hnone : Nat.ofDigitChars 10 (x.toDouble.scientificDigits k).1 0 = 0 := by
        rw [hzero, Nat.ofDigitChars_replicate_zero, Nat.mul_zero]
      rw [hnone, Nat.cast_zero, zero_mul, zero_sub, neg_neg] at herror
      rwa [if_neg hany, hnone, Nat.cast_zero, mul_zero, zero_mul, zero_sub, abs_neg]
  · have hpositive : ¬x.isNegative = true := fun h => hneg (hsign.mp h)
    rw [Bool.not_eq_true] at hpositive
    rw [hpositive, Bool.false_and, if_neg Bool.false_ne_true, one_mul]
    rwa [abs_of_nonneg (not_lt.mp hneg)] at herror

end Number

end StructuredMessage
