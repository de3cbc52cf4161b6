import StructuredMessage.Scalar.Basic
import StructuredMessage.Proofs.Number.Conversion

namespace StructuredMessage

namespace Decimal

open Binary

theorem value_eq (x : Decimal) :
    x.value = if x.negative then -(x.mantissa / 10 ^ x.scale : ℚ) else x.mantissa / 10 ^ x.scale := by
  rw [value, signed]
  split
  next => rw [Int.cast_neg, Int.cast_natCast, neg_div]
  next => rw [Int.cast_natCast]

theorem of?_eq_some (negative : Bool) {mantissa scale : Nat} (hmantissa : mantissa < twoPow 96) (hscale : scale ≤ 28) :
    of? negative mantissa scale = some ⟨negative, mantissa, scale, hmantissa, hscale⟩ :=
  dif_pos ⟨hmantissa, hscale⟩

theorem value_eq_hundred_mul {x y : Decimal} (hsign : y.negative = x.negative)
    (hvalue : (y.mantissa / 10 ^ y.scale : ℚ) = 100 * (x.mantissa / 10 ^ x.scale)) : y.value = 100 * x.value := by
  rw [value_eq, value_eq, hsign, hvalue]
  split
  next => ring
  next => rfl

/-- A hundred times a decimal number is exact. There is none if the number has one place at most and its digits alone
exceed every mantissa. -/
theorem timesHundred_cases (x : Decimal) :
    (∃ y, x.timesHundred = some y ∧ y.value = 100 * x.value) ∨
      x.timesHundred = none ∧ x.scale ≤ 1 ∧ twoPow 96 * 10 ^ x.scale ≤ x.mantissa * 100 := by
  have hmantissa := x.mantissa_lt
  have hscale := x.scale_le
  unfold timesHundred
  split
  next hzero =>
    refine Or.inl ⟨_, of?_eq_some _ (twoPow_pos 96) (Nat.zero_le 28), ?_⟩
    rw [value_eq, value_eq, hzero]
    simp
  next =>
    split
    next hroom =>
      refine Or.inl ⟨_, of?_eq_some _ hroom hscale, value_eq_hundred_mul rfl ?_⟩
      push_cast
      ring
    next hfull =>
      split
      next hroom =>
        split
        next hplace =>
          obtain ⟨n, hn⟩ : ∃ n, x.scale = n + 1 := ⟨x.scale - 1, by omega⟩
          refine Or.inl ⟨_, of?_eq_some _ hroom (by omega), value_eq_hundred_mul rfl ?_⟩
          dsimp only
          rw [hn, Nat.add_sub_cancel, pow_succ]
          push_cast
          field_simp
          ring
        next hplace =>
          have hnone : x.scale = 0 := by omega
          refine Or.inr ⟨rfl, by omega, ?_⟩
          rw [hnone, pow_zero]
          omega
      next hfuller =>
        split
        next hplaces =>
          obtain ⟨n, hn⟩ : ∃ n, x.scale = n + 2 := ⟨x.scale - 2, by omega⟩
          refine Or.inl ⟨_, of?_eq_some _ hmantissa (by omega), value_eq_hundred_mul rfl ?_⟩
          dsimp only
          rw [hn, Nat.add_sub_cancel, pow_add]
          field_simp
          ring
        next hplaces =>
          have hone : (10 : Nat) ^ x.scale ≤ 10 ^ 1 := Nat.pow_le_pow_right (by decide) (by omega)
          have hmul := Nat.mul_le_mul_left (twoPow 96) hone
          exact Or.inr ⟨rfl, by omega, by omega⟩

theorem value_timesHundred {x y : Decimal} (h : x.timesHundred = some y) : y.value = 100 * x.value := by
  rcases x.timesHundred_cases with ⟨z, hz, hvalue⟩ | ⟨hnone, -⟩
  · rw [h] at hz
    cases hz
    exact hvalue
  · rw [hnone] at h
    cases h

theorem of_timesHundred_eq_none {x : Decimal} (h : x.timesHundred = none) :
    x.scale ≤ 1 ∧ twoPow 96 * 10 ^ x.scale ≤ x.mantissa * 100 := by
  rcases x.timesHundred_cases with ⟨z, hz, -⟩ | ⟨-, hspec⟩
  · rw [h] at hz
    cases hz
  · exact hspec

theorem abs_value_lt (x : Decimal) : |x.value| < 2 ^ 96 := by
  have hmantissa : (x.mantissa : ℚ) < 2 ^ 96 := by
    rw [← cast_twoPow]
    exact_mod_cast x.mantissa_lt
  rw [abs_value]
  exact (div_le_self (Nat.cast_nonneg _) (one_le_pow₀ (by norm_num))).trans_lt hmantissa

/-- There is room for a hundred times a number iff it stays below the bound of all mantissas. -/
theorem timesHundred_eq_none_iff (x : Decimal) : x.timesHundred = none ↔ (2 : ℚ) ^ 96 ≤ 100 * |x.value| := by
  constructor
  · intro h
    have hlarge : (twoPow 96 * 10 ^ x.scale : Nat) ≤ ((x.mantissa * 100 : Nat) : ℚ) := by
      exact_mod_cast (of_timesHundred_eq_none h).2
    push_cast [cast_twoPow] at hlarge
    rw [abs_value, mul_div_assoc', le_div_iff₀ (by positivity), mul_comm (100 : ℚ)]
    exact hlarge
  · intro h
    by_contra hsome
    obtain ⟨y, hy⟩ := Option.ne_none_iff_exists'.mp hsome
    have hvalue := congrArg abs (value_timesHundred hy)
    rw [abs_mul, abs_of_pos (by norm_num : (0 : ℚ) < 100)] at hvalue
    exact absurd (hvalue ▸ y.abs_value_lt) (not_lt.mpr h)

end Decimal

namespace Number

open Binary

/-- A hundred times the number fits its own kind: the widest integers of its signedness, or the mantissas of decimal
numbers. -/
def HasRoom : Number → Prop
  | integer signed _ n => fitsWidest signed (n * 100) = true
  | decimal y => 100 * |y.value| < 2 ^ 96
  | _ => False

theorem value_timesHundred_of_hasRoom {x : Number} (hx : x.HasRoom) :
    x.timesHundred.IsExact ∧ x.timesHundred.value = 100 * x.value := by
  cases x with
  | single y => exact hx.elim
  | double y => exact hx.elim
  | integer signed bits n =>
    simp only [timesHundred, if_pos (show fitsWidest signed (n * 100) = true from hx)]
    refine ⟨trivial, ?_⟩
    rw [value, value]
    push_cast
    ring
  | decimal y =>
    have hsome : y.timesHundred ≠ none := fun h => absurd (y.timesHundred_eq_none_iff.mp h) (not_le.mpr hx)
    obtain ⟨z, hz⟩ := Option.ne_none_iff_exists'.mp hsome
    simp only [timesHundred, hz]
    exact ⟨trivial, Decimal.value_timesHundred hz⟩

theorem timesHundred_of_not_hasRoom {x : Number} (hexact : x.IsExact) (hx : ¬x.HasRoom) :
    x.timesHundred = double (x.toDouble.times (ofInt .double 100)) := by
  obtain ⟨signed, bits, n, rfl⟩ | ⟨y, rfl⟩ := hexact.integer_or_decimal
  · simp only [timesHundred, if_neg (show ¬fitsWidest signed (n * 100) = true from hx), toDouble]
  · have hnone := y.timesHundred_eq_none_iff.mpr (not_lt.mp hx)
    simp only [timesHundred, hnone, toDouble]

theorem lt_of_not_hasRoom {x : Number} (hexact : x.IsExact) (hrange : x.InRange) (hx : ¬x.HasRoom) :
    2 ^ 96 ≤ 100 * |x.value| := by
  obtain ⟨signed, bits, n, rfl⟩ | ⟨y, rfl⟩ := hexact.integer_or_decimal
  · have hlarge : 2 ^ 96 ≤ 100 * |n| := by
      rw [InRange, fitsWidest_iff] at hrange
      rw [HasRoom, fitsWidest_iff] at hx
      rcases abs_cases n with ⟨habs, hsign⟩ | ⟨habs, hsign⟩ <;> rw [habs] <;>
        cases signed <;> simp only [if_true, Bool.false_eq_true, if_false] at hrange hx <;> omega
    rw [value]
    exact_mod_cast hlarge
  · exact not_lt.mp hx

theorem abs_value_le {x : Number} (hexact : x.IsExact) (hrange : x.InRange) : |x.value| ≤ 2 ^ 128 := by
  obtain ⟨signed, bits, n, rfl⟩ | ⟨y, rfl⟩ := hexact.integer_or_decimal
  · exact abs_le_of_fitsWidest hrange
  · exact y.abs_value_lt.le.trans (by norm_num)

theorem exists_hundred_of_not_hasRoom {x : Number} (hexact : x.IsExact) (hx : ¬x.HasRoom) : ∃ n : Int, 100 * x.value = n := by
  obtain ⟨signed, bits, n, rfl⟩ | ⟨y, rfl⟩ := hexact.integer_or_decimal
  · exact ⟨100 * n, by rw [value]; push_cast; rfl⟩
  · obtain ⟨hscale, -⟩ := Decimal.of_timesHundred_eq_none (y.timesHundred_eq_none_iff.mpr (not_lt.mp hx))
    obtain ⟨n, hn⟩ : ∃ n, 1 = y.scale + n := ⟨1 - y.scale, by omega⟩
    refine ⟨10 * 10 ^ n * y.signed, ?_⟩
    have hten : (100 : ℚ) = 10 * 10 ^ n * 10 ^ y.scale := by
      rw [mul_assoc, ← pow_add, add_comm n, ← hn]
      norm_num
    rw [value, Decimal.value, hten]
    push_cast
    field_simp

theorem magnitude_ofInt_hundred : (ofInt .double 100).magnitude = .finite 7036874417766400 (-46) := by
  decide +kernel

theorem value_hundred : (ofInt .double 100).magnitude.value = 100 := by
  rw [magnitude_ofInt_hundred, Magnitude.value]
  norm_num

/-- Without room a hundred times the number is a double close to it, and an integer. -/
theorem timesHundred_approximates {x : Number} (hexact : x.IsExact) (hrange : x.InRange) (hx : ¬x.HasRoom) :
    ∃ y, x.timesHundred = double y ∧ Approximates y (100 * x.value) (1 / 2 ^ 47) ∧
      ∃ n : Nat, y.magnitude.value = n := by
  have hlarge := lt_of_not_hasRoom hexact hrange hx
  have hsmall := abs_value_le hexact hrange
  have hconverted := approximates_toDouble hexact hrange
  have hmoderate := moderate_abs_value hexact hrange
  have hproduct : Moderate (|x.value| * 100) := by
    refine Or.inr ⟨?_, ?_⟩
    · linarith [show (1 / 2 ^ 200 : ℚ) ≤ 1 by norm_num]
    · linarith [show (100 * 2 ^ 128 : ℚ) ≤ 2 ^ 200 by norm_num]
  have hclose := hconverted.close
  have hhundred : Close (ofInt .double 100) 100 0 := by
    refine ⟨⟨_, _, magnitude_ofInt_hundred⟩, ?_⟩
    rw [value_hundred, sub_self, abs_zero, zero_mul]
  have htimes := (hclose.times hhundred hmoderate.nonneg (by norm_num) hproduct
    (by norm_num [Decimal.conversionError])).weaken hproduct
    (show _ ≤ (1 / 2 ^ 47 : ℚ) by norm_num [roundoff, Decimal.conversionError])
  refine ⟨_, timesHundred_of_not_hasRoom hexact hx, ⟨?_, fun hzero => ?_⟩, ?_⟩
  · rwa [abs_mul, abs_of_pos (by norm_num : (0 : ℚ) < 100), mul_comm]
  · obtain ⟨m, e, hm⟩ := hclose.1
    have hsign := hconverted.sign (right_ne_zero_of_mul hzero)
    have hpositive : (ofInt .double 100).isNegative = false := by decide +kernel
    rw [times_of_finite hm magnitude_ofInt_hundred, isNegative_nearest, hpositive, Bool.bne_false, hsign]
    constructor <;> intro h <;> linarith
  · refine value_times_integral hclose.1 hhundred.1 ((finite_times_iff hclose.1 hhundred.1).mp htimes.1) ?_
    have hlow := (abs_le.mp hclose.2).1
    rw [Decimal.conversionError] at hlow
    rw [value_hundred, unit_eq]
    push_cast
    linarith

theorem isFinite_timesHundred {x : Number} (hexact : x.IsExact) (hrange : x.InRange) : x.timesHundred.IsFinite := by
  by_cases hroom : x.HasRoom
  · exact (value_timesHundred_of_hasRoom hroom).1.isFinite
  · obtain ⟨y, hy, happrox, -⟩ := timesHundred_approximates hexact hrange hroom
    rw [hy]
    exact happrox.close.1

/-- A hundred times a finite double is finite iff it stays below the limit of doubles. -/
theorem isFinite_timesHundred_double {y : Binary .double} (hy : (double y).IsFinite) :
    (double y).timesHundred.IsFinite ↔ 100 * |y.value| < limit .double := by
  rw [timesHundred, IsFinite, finite_times_iff hy ⟨_, _, magnitude_ofInt_hundred⟩, value_hundred, Binary.abs_value, mul_comm]

/-- Singles are so far below the limit of doubles that there is always room for a hundred times one. -/
theorem isFinite_timesHundred_single {y : Binary .single} (hy : (single y).IsFinite) : (single y).timesHundred.IsFinite := by
  obtain ⟨hfinite, hsame⟩ := value_widened hy
  have hsmall := value_lt_of_single hy
  have hlimit : (100 * 2 ^ 128 : ℚ) < limit .double := lt_trans (by norm_num) two_pow_lt_limit
  rw [timesHundred, IsFinite, finite_times_iff hfinite ⟨_, _, magnitude_ofInt_hundred⟩, value_hundred, hsame]
  linarith

theorem positional_fixedDigits_of_integral {w : Width} {y : Binary w} (hy : ∃ m e, y.magnitude = .finite m e) {n : Nat}
    (hn : y.magnitude.value = n) (k : Nat) : Numeral.positional (y.fixedDigits k).1 (y.fixedDigits k).2 = n := by
  obtain ⟨m, e, hm⟩ := hy
  have hround := abs_roundDiv_sub_le .toEven ((ratio m e).1 * tenPow k) (ratio_pos m e)
  rw [hm, Magnitude.value] at hn
  rw [Nat.cast_mul, mul_div_right_comm, ratio_value, hn, ← Nat.cast_mul] at hround
  have hexact : roundDiv .toEven ((ratio m e).1 * tenPow k) (ratio m e).2 = n * tenPow k := by
    have hless : |((roundDiv .toEven ((ratio m e).1 * tenPow k) (ratio m e).2 : Int) - (n * tenPow k : Nat) : Int)| < 1 := by
      have hhalf := hround.trans_lt (show (1 / 2 : ℚ) < 1 by norm_num)
      exact_mod_cast hhalf
    have hzero := Int.abs_lt_one_iff.mp hless
    omega
  simp only [Binary.fixedDigits, hm, hexact, Decimal.positional_splitDigits]
  rw [Nat.cast_mul, cast_tenPow, mul_div_cancel_right₀ _ (by positivity)]

/-- A double that is an integer is shown as it is. -/
theorem fixed_value_of_integral {y : Binary .double} (hy : (double y).IsFinite) {n : Nat} (hn : y.magnitude.value = n)
    (k : Nat) : ((double y).fixed k).value = y.value := by
  have hdigits : Numeral.positional ((double y).fixed k).whole ((double y).fixed k).fraction = |y.value| := by
    simp only [fixed, Digits.settled_whole, Digits.settled_fraction]
    rw [positional_fixedDigits_of_integral hy hn, y.abs_value, hn]
  rw [fixed_value hy, hdigits, value]
  split
  next hneg => rw [abs_of_neg hneg, neg_neg]
  next hnonneg => exact abs_of_nonneg (not_lt.mp hnonneg)

theorem exists_value_of_integral {w : Width} {y : Binary w} {n : Nat} (hn : y.magnitude.value = n) : ∃ m : Int, y.value = m := by
  rw [Binary.value, hn]
  split
  next => exact ⟨-n, by push_cast; rfl⟩
  next => exact ⟨n, by push_cast; rfl⟩

/-- The digits of a hundred times an exact number are right iff the product is. -/
theorem rounds_hundred_iff {x : Number} (hexact : x.IsExact) (hrange : x.InRange) (k : Nat) :
    (x.timesHundred.fixed k).Rounds k (100 * x.value) ↔ x.timesHundred.value = 100 * x.value := by
  constructor
  · rintro ⟨-, -, hright⟩
    by_cases hroom : x.HasRoom
    · exact (value_timesHundred_of_hasRoom hroom).2
    · -- two integers that are less than one apart are the same
      obtain ⟨y, hy, happrox, n, hn⟩ := timesHundred_approximates hexact hrange hroom
      obtain ⟨hundred, hhundred⟩ := exists_hundred_of_not_hasRoom hexact hroom
      obtain ⟨product, hproduct⟩ := exists_value_of_integral hn
      rw [hy, fixed_value_of_integral happrox.close.1 hn, hproduct, hhundred] at hright
      have hhalf : (1 / 2 / 10 ^ k : ℚ) < 1 :=
        (div_le_self (by norm_num) (one_le_pow₀ (by norm_num))).trans_lt (by norm_num)
      have hless : |product - hundred| < 1 := by exact_mod_cast hright.trans_lt hhalf
      rw [hy, value, hproduct, hhundred, sub_eq_zero.mp (Int.abs_lt_one_iff.mp hless)]
  · intro hproduct
    rw [← hproduct]
    exact rounds_fixed (isFinite_timesHundred hexact hrange) k

theorem abs_timesHundred_sub_le {x : Number} (hexact : x.IsExact) (hrange : x.InRange) :
    |x.timesHundred.value - 100 * x.value| ≤ 1 / 2 ^ 47 * |100 * x.value| := by
  by_cases hroom : x.HasRoom
  · rw [(value_timesHundred_of_hasRoom hroom).2, sub_self, abs_zero]
    positivity
  · obtain ⟨y, hy, happrox, -⟩ := timesHundred_approximates hexact hrange hroom
    rw [hy]
    exact happrox.abs_value_sub_le

end Number

theorem Scalar.inRange_of_number? {s : Scalar} {x : Number} (h : s.number? = some x) : x.InRange := by
  cases s with
  | integer n =>
    cases h
    have hfits := n.fits
    rw [Number.ofInteger, Number.InRange, Number.fitsWidest_iff]
    cases htype : n.type <;>
      simp [htype, IntegerType.lowest, IntegerType.highest, IntegerType.isSigned, IntegerType.bits, twoPow] at hfits ⊢ <;> omega
  | single y => cases h; trivial
  | double y => cases h; trivial
  | decimal y => cases h; trivial
  | _ => cases h

end StructuredMessage
