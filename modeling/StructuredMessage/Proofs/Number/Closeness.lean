import StructuredMessage.Proofs.Number.Nearest

namespace StructuredMessage

namespace Binary

/-- The relative error of one rounding to double width. -/
def roundoff : ℚ :=
  1 / 2 ^ 53

theorem roundoff_eq : roundoff = 1 / (2 * unit .double) := by
  rw [roundoff, unit_eq]
  norm_num

theorem limit_double : limit .double = 2 ^ 1024 - 2 ^ 970 := by
  have hgreatest : greatestExponent .double = (971 : Nat) := by decide
  have hhigh : (2 : ℚ) ^ 1024 = 2 ^ 54 * 2 ^ 970 := by rw [← pow_add]
  have hmiddle : (2 : ℚ) ^ 971 = 2 * 2 ^ 970 := pow_succ' _ _
  rw [limit, hgreatest, unit_eq, zpow_natCast, hhigh, hmiddle]
  generalize (2 : ℚ) ^ 970 = far
  ring

/-- The limit of doubles is far beyond everything that is rounded here. -/
theorem two_pow_lt_limit : (2 : ℚ) ^ 201 < limit .double := by
  rw [limit_double, show (2 : ℚ) ^ 1024 = 2 ^ 54 * 2 ^ 970 by rw [← pow_add]]
  have hpow : (2 : ℚ) ^ 201 ≤ 2 ^ 970 := pow_le_pow_right₀ one_le_two (by norm_num)
  have hpos : (0 : ℚ) < 2 ^ 201 := by positivity
  generalize (2 : ℚ) ^ 970 = far at hpow ⊢
  linarith

/-- The word is finite, and its magnitude misses `q` by the fraction `ε` of it at most. -/
def Close (x : Binary .double) (q ε : ℚ) : Prop :=
  (∃ m e, x.magnitude = .finite m e) ∧ |x.magnitude.value - q| ≤ ε * q

/-- Zero, or a number far from both ends of the range of doubles. -/
def Moderate (q : ℚ) : Prop :=
  q = 0 ∨ (1 / 2 ^ 200 ≤ q ∧ q ≤ 2 ^ 200)

theorem Moderate.nonneg {q : ℚ} (h : Moderate q) : 0 ≤ q := by
  rcases h with rfl | ⟨hlow, -⟩
  · exact le_rfl
  · exact le_trans (by positivity) hlow

theorem Moderate.le {q : ℚ} (h : Moderate q) : q ≤ 2 ^ 200 := by
  rcases h with rfl | ⟨-, hhigh⟩
  · positivity
  · exact hhigh

theorem Close.value_eq {x : Binary .double} {q : ℚ} (h : Close x q 0) : x.magnitude.value = q := by
  have herror := h.2
  rw [zero_mul] at herror
  exact sub_eq_zero.mp (abs_nonpos_iff.mp herror)

theorem Close.weaken {x : Binary .double} {q ε δ : ℚ} (h : Close x q ε) (hq : Moderate q) (hle : ε ≤ δ) : Close x q δ :=
  ⟨h.1, h.2.trans (mul_le_mul_of_nonneg_right hle hq.nonneg)⟩

theorem normal_of_moderate {num den : Nat} (hden : 0 < den) {q ε : ℚ} (hq : Moderate q) (hε : ε ≤ 1 / 2)
    (h : |(num / den : ℚ) - q| ≤ ε * q) : num = 0 ∨ unit .double * 2 ^ Width.double.leastExponent ≤ (num / den : ℚ) := by
  rcases hq with rfl | ⟨hmoderate, -⟩
  · refine Or.inl ?_
    have hzero : (num / den : ℚ) = 0 := by simpa using h
    have hd : (den : ℚ) ≠ 0 := by exact_mod_cast hden.ne'
    exact_mod_cast (div_eq_zero_iff.mp hzero).resolve_right hd
  · refine Or.inr ?_
    have hleast : (unit .double : ℚ) * 2 ^ Width.double.leastExponent ≤ 1 / 2 * (1 / 2 ^ 200) := by
      have hexact : (1 / 2 * (1 / 2 ^ 200) : ℚ) = 2 ^ (-201 : Int) := by norm_num
      rw [hexact, cast_unit, ← zpow_add₀ two_ne_zero]
      exact zpow_le_zpow_right₀ one_le_two (by decide)
    have hnonneg : 0 ≤ q := le_trans (by positivity) hmoderate
    have hlow := (abs_le.mp h).1
    have hhalf := mul_le_mul_of_nonneg_right hε hnonneg
    linarith

/-- Rounding something close to a number gives a word close to it. -/
theorem close_nearest (negative : Bool) {num den : Nat} (hden : 0 < den) {q ε : ℚ} (hq : Moderate q) (hε : ε ≤ 1 / 2)
    (h : |(num / den : ℚ) - q| ≤ ε * q) : Close (nearest .double negative num den) q (ε + roundoff * (1 + ε)) := by
  have hnonneg := hq.nonneg
  obtain ⟨hlow, hhigh⟩ := abs_le.mp h
  have hp : (num / den : ℚ) ≤ (1 + ε) * q := by linarith
  have hhalf := mul_le_mul_of_nonneg_right hε hnonneg
  have hlimit : (num / den : ℚ) < limit .double := by
    have hwide := two_pow_lt_limit
    rw [pow_succ] at hwide
    linarith [hq.le]
  have hnormal := normal_of_moderate hden hq hε h
  have herror := relative_error_nearest .double negative num hden hnormal hlimit
  refine ⟨(finite_nearest_iff .double negative num hden).mpr hlimit, ?_⟩
  have hround : (num / den : ℚ) / (2 * unit .double) = roundoff * (num / den) := by
    rw [roundoff_eq]
    ring
  rw [hround] at herror
  have hroundoff : (0 : ℚ) ≤ roundoff := by
    unfold roundoff
    positivity
  have htriangle := abs_sub_le (nearest .double negative num den).magnitude.value (num / den : ℚ) q
  have hscaled := mul_le_mul_of_nonneg_left hp hroundoff
  calc _ ≤ _ := htriangle
    _ ≤ roundoff * ((1 + ε) * q) + ε * q := add_le_add (herror.trans hscaled) h
    _ = (ε + roundoff * (1 + ε)) * q := by ring

/-- A number of moderate size that is a double already is rounded to itself. -/
theorem close_nearest_of_word (negative : Bool) {num den : Nat} (hden : 0 < den) (hq : Moderate (num / den : ℚ)) {m : Nat}
    {e : Int} (hm : m < 2 ^ 53) (he : -1074 ≤ e) (hvalue : (num / den : ℚ) = m * 2 ^ e) :
    Close (nearest .double negative num den) (num / den) 0 := by
  have hlimit : (num / den : ℚ) < limit .double := by
    have hwide := two_pow_lt_limit
    rw [pow_succ] at hwide
    linarith [hq.le, show (0 : ℚ) < 2 ^ 200 by positivity]
  have hunit : m < 2 * unit .double := by
    rw [unit_eq]
    exact hm
  refine ⟨(finite_nearest_iff .double negative num hden).mpr hlimit, ?_⟩
  rw [value_nearest_of_word .double negative hden hlimit hunit he hvalue, sub_self, abs_zero, zero_mul]

theorem abs_mul_sub_mul_le {a b q r ε δ : ℚ} (hq : 0 ≤ q) (hr : 0 ≤ r) (ha : |a - q| ≤ ε * q) (hb : |b - r| ≤ δ * r) :
    |a * b - q * r| ≤ (ε + δ + ε * δ) * (q * r) := by
  have hsplit : a * b - q * r = (a - q) * (b - r) + (a - q) * r + q * (b - r) := by ring
  have hproduct : |(a - q) * (b - r)| ≤ ε * q * (δ * r) := by
    rw [abs_mul]
    exact mul_le_mul ha hb (abs_nonneg _) ((abs_nonneg _).trans ha)
  have hleft : |(a - q) * r| ≤ ε * q * r := by
    rw [abs_mul, abs_of_nonneg hr]
    exact mul_le_mul_of_nonneg_right ha hr
  have hright : |q * (b - r)| ≤ q * (δ * r) := by
    rw [abs_mul, abs_of_nonneg hq]
    exact mul_le_mul_of_nonneg_left hb hq
  rw [hsplit]
  calc _ ≤ |(a - q) * (b - r) + (a - q) * r| + |q * (b - r)| := abs_add_le _ _
    _ ≤ |(a - q) * (b - r)| + |(a - q) * r| + |q * (b - r)| := add_le_add (abs_add_le _ _) le_rfl
    _ ≤ ε * q * (δ * r) + ε * q * r + q * (δ * r) := add_le_add (add_le_add hproduct hleft) hright
    _ = (ε + δ + ε * δ) * (q * r) := by ring

theorem abs_div_sub_div_le {a b q r ε δ : ℚ} (hq : 0 ≤ q) (hr : 0 < r) (hδ : δ < 1) (ha : |a - q| ≤ ε * q)
    (hb : |b - r| ≤ δ * r) : |a / b - q / r| ≤ (ε + δ) / (1 - δ) * (q / r) := by
  obtain ⟨hlow, -⟩ := abs_le.mp hb
  have hless : 0 < (1 - δ) * r := mul_pos (by linarith) hr
  have hle : (1 - δ) * r ≤ b := by linarith
  have hpos : 0 < b := hless.trans_le hle
  have hsplit : a / b - q / r = ((a - q) * r - q * (b - r)) / (b * r) := by
    field_simp
    ring
  have hnumerator : |(a - q) * r - q * (b - r)| ≤ (ε + δ) * (q * r) := by
    have hleft : |(a - q) * r| ≤ ε * q * r := by
      rw [abs_mul, abs_of_pos hr]
      exact mul_le_mul_of_nonneg_right ha hr.le
    have hright : |q * (b - r)| ≤ q * (δ * r) := by
      rw [abs_mul, abs_of_nonneg hq]
      exact mul_le_mul_of_nonneg_left hb hq
    calc _ ≤ |(a - q) * r| + |q * (b - r)| := abs_sub _ _
      _ ≤ ε * q * r + q * (δ * r) := add_le_add hleft hright
      _ = (ε + δ) * (q * r) := by ring
  rw [hsplit, abs_div, abs_of_pos (mul_pos hpos hr)]
  calc _ ≤ (ε + δ) * (q * r) / ((1 - δ) * r * r) :=
        div_le_div₀ ((abs_nonneg _).trans hnumerator) hnumerator (mul_pos hless hr) (mul_le_mul_of_nonneg_right hle hr.le)
    _ = (ε + δ) / (1 - δ) * (q / r) := by
      have hne : 1 - δ ≠ 0 := by linarith
      field_simp

theorem Close.times {x y : Binary .double} {q r ε δ : ℚ} (hx : Close x q ε) (hy : Close y r δ) (hq : 0 ≤ q) (hr : 0 ≤ r)
    (hproduct : Moderate (q * r)) (hhalf : ε + δ + ε * δ ≤ 1 / 2) :
    Close (x.times y) (q * r) (ε + δ + ε * δ + roundoff * (1 + (ε + δ + ε * δ))) := by
  obtain ⟨⟨m, e, hmagnitude⟩, herror⟩ := hx
  obtain ⟨⟨n, f, hmagnitude'⟩, herror'⟩ := hy
  rw [hmagnitude, Magnitude.value] at herror
  rw [hmagnitude', Magnitude.value] at herror'
  have hnearest := close_nearest (x.isNegative != y.isNegative) (Nat.mul_pos (ratio_pos m e) (ratio_pos n f)) hproduct hhalf
    (ratio_mul_value m n e f ▸ abs_mul_sub_mul_le hq hr herror herror')
  rw [times_of_finite hmagnitude hmagnitude']
  exact hnearest

theorem exists_quotient_eq {x y : Binary .double} (hx : ∃ m e, x.magnitude = .finite m e)
    (hy : ∃ m e, y.magnitude = .finite m e) (hpos : 0 < y.magnitude.value) :
    ∃ num den : Nat, 0 < den ∧ (num / den : ℚ) = x.magnitude.value / y.magnitude.value ∧
      Decimal.quotient x y = nearest .double false num den := by
  obtain ⟨m, e, hx⟩ := hx
  obtain ⟨n, f, hy⟩ := hy
  rw [hy, Magnitude.value] at hpos
  have hn : 0 < (ratio n f).1 := by
    have hratio := ratio_value n f
    by_contra hzero
    rw [Nat.eq_zero_of_not_pos hzero, Nat.cast_zero, zero_div] at hratio
    linarith
  refine ⟨(ratio m e).1 * (ratio n f).2, (ratio m e).2 * (ratio n f).1, Nat.mul_pos (ratio_pos m e) hn, ?_, ?_⟩
  · rw [hx, hy, Magnitude.value, Magnitude.value, Nat.cast_mul, Nat.cast_mul, ← ratio_value, ← ratio_value, div_div_div_eq]
  · rw [Decimal.quotient, hx, hy]

theorem Close.quotient {x y : Binary .double} {q r ε δ : ℚ} (hx : Close x q ε) (hy : Close y r δ) (hq : 0 ≤ q) (hr : 0 < r)
    (hδ : δ < 1) (hquotient : Moderate (q / r)) (hhalf : (ε + δ) / (1 - δ) ≤ 1 / 2) :
    Close (Decimal.quotient x y) (q / r) ((ε + δ) / (1 - δ) + roundoff * (1 + (ε + δ) / (1 - δ))) := by
  have hpos : 0 < y.magnitude.value := by nlinarith [(abs_le.mp hy.2).1]
  obtain ⟨num, den, hden, hvalue, heq⟩ := exists_quotient_eq hx.1 hy.1 hpos
  rw [heq]
  exact close_nearest false hden hquotient hhalf (hvalue ▸ abs_div_sub_div_le hq hr hδ hx.2 hy.2)

theorem Close.sum {x y : Binary .double} {q r ε : ℚ} (hx : Close x q ε) (hy : Close y r ε) (hsum : Moderate (q + r))
    (hhalf : ε ≤ 1 / 2) : Close (Decimal.sum x y) (q + r) (ε + roundoff * (1 + ε)) := by
  obtain ⟨⟨m, e, hmagnitude⟩, herror⟩ := hx
  obtain ⟨⟨n, f, hmagnitude'⟩, herror'⟩ := hy
  rw [hmagnitude, Magnitude.value] at herror
  rw [hmagnitude', Magnitude.value] at herror'
  have hm : ((ratio m e).2 : ℚ) ≠ 0 := by exact_mod_cast (ratio_pos m e).ne'
  have hn : ((ratio n f).2 : ℚ) ≠ 0 := by exact_mod_cast (ratio_pos n f).ne'
  have hvalue : (((ratio m e).1 * (ratio n f).2 + (ratio n f).1 * (ratio m e).2 : Nat) : ℚ) /
      ((ratio m e).2 * (ratio n f).2 : Nat) = m * 2 ^ e + n * 2 ^ f := by
    rw [← ratio_value, ← ratio_value]
    push_cast
    field_simp
  have htotal : |(m * 2 ^ e + n * 2 ^ f : ℚ) - (q + r)| ≤ ε * (q + r) := by
    have hsplit : (m * 2 ^ e + n * 2 ^ f : ℚ) - (q + r) = m * 2 ^ e - q + (n * 2 ^ f - r) := by ring
    rw [hsplit, mul_add]
    exact (abs_add_le _ _).trans (add_le_add herror herror')
  have hnearest := close_nearest false (Nat.mul_pos (ratio_pos m e) (ratio_pos n f)) hsum hhalf (hvalue ▸ htotal)
  rw [Decimal.sum, hmagnitude, hmagnitude']
  exact hnearest

theorem close_ofInt {n : Int} (hn : Moderate |(n : ℚ)|) : Close (ofInt .double n) |(n : ℚ)| roundoff := by
  have hvalue : ((n.natAbs : Nat) : ℚ) / (1 : Nat) = |(n : ℚ)| := by
    rw [Nat.cast_one, div_one, Nat.cast_natAbs, Int.cast_abs]
  have hexact : abs (((n.natAbs : Nat) : ℚ) / (1 : Nat) - |(n : ℚ)|) ≤ 0 * |(n : ℚ)| := by
    rw [hvalue, sub_self, abs_zero, zero_mul]
  simpa [ofInt] using close_nearest (n < 0) Nat.one_pos hn (by norm_num) hexact

theorem wholeNearest_eq {x : Binary .double} {m : Nat} {e : Int} (hx : x.magnitude = .finite m e) :
    Decimal.wholeNearest x = nearest .double false (roundDiv .awayFromZero (ratio m e).1 (ratio m e).2) 1 := by
  rw [Decimal.wholeNearest, hx]

/-- Going to the nearest integer brings back an integer that was missed by less than a half. -/
theorem Close.wholeNearest_eq {x : Binary .double} {n : Nat} {ε : ℚ} (hx : Close x n ε) (hsmall : ε * n < 1 / 2) :
    Decimal.wholeNearest x = nearest .double false n 1 := by
  obtain ⟨⟨m, e, hmagnitude⟩, herror⟩ := hx
  rw [hmagnitude, Magnitude.value] at herror
  have hround := abs_roundDiv_sub_le .awayFromZero (ratio m e).1 (ratio_pos m e)
  rw [ratio_value] at hround
  have htriangle := abs_sub_le (roundDiv .awayFromZero (ratio m e).1 (ratio m e).2 : ℚ) (m * 2 ^ e : ℚ) n
  have hless : |(roundDiv .awayFromZero (ratio m e).1 (ratio m e).2 : ℚ) - n| < 1 := by linarith
  have hzero : (roundDiv .awayFromZero (ratio m e).1 (ratio m e).2 : ℤ) - n = 0 := by
    rw [← Int.abs_lt_one_iff]
    exact_mod_cast hless
  rw [Binary.wholeNearest_eq hmagnitude, Nat.cast_inj.mp (sub_eq_zero.mp hzero)]

theorem Close.wholeNearest {x : Binary .double} {n : Nat} {ε : ℚ} (hx : Close x n ε) (hn : Moderate (n : ℚ))
    (hε : 0 ≤ ε) (hquarter : ε ≤ 1 / 4) :
    Close (Decimal.wholeNearest x) n (2 * ε + roundoff * (1 + 2 * ε)) := by
  by_cases hsmall : ε * n < 1 / 2
  · have hexact : |(n : ℚ) / (1 : Nat) - n| ≤ 2 * ε * n := by
      rw [Nat.cast_one, div_one, sub_self, abs_zero]
      positivity
    rw [hx.wholeNearest_eq hsmall]
    exact close_nearest false Nat.one_pos hn (by linarith) hexact
  · -- a half is not much of the number then
    obtain ⟨⟨m, e, hmagnitude⟩, herror⟩ := hx
    rw [hmagnitude, Magnitude.value] at herror
    have hround := abs_roundDiv_sub_le .awayFromZero (ratio m e).1 (ratio_pos m e)
    rw [ratio_value] at hround
    have hwhole : |((roundDiv .awayFromZero (ratio m e).1 (ratio m e).2 : Nat) : ℚ) / (1 : Nat) - n| ≤ 2 * ε * n := by
      have htriangle := abs_sub_le (roundDiv .awayFromZero (ratio m e).1 (ratio m e).2 : ℚ) (m * 2 ^ e : ℚ) n
      rw [Nat.cast_one, div_one]
      linarith
    rw [Binary.wholeNearest_eq hmagnitude]
    exact close_nearest false Nat.one_pos hn (by linarith) hwhole

end Binary

end StructuredMessage
