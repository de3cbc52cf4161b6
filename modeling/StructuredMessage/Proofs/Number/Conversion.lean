import StructuredMessage.Proofs.Number.Closeness

namespace StructuredMessage

namespace Binary

theorem isZero_iff {w : Width} {x : Binary w} (hx : ∃ m e, x.magnitude = .finite m e) :
    x.isZero = true ↔ x.magnitude.value = 0 := by
  obtain ⟨m, e, hmagnitude⟩ := hx
  have hpow : (2 : ℚ) ^ e ≠ 0 := by positivity
  rw [isZero, hmagnitude, Magnitude.value, mul_eq_zero, or_iff_left hpow, Nat.cast_eq_zero]
  cases m <;> simp

theorem value_lt_of_single {x : Binary .single} (hx : ∃ m e, x.magnitude = .finite m e) : x.magnitude.value < 2 ^ 128 := by
  obtain ⟨m, e, hmagnitude⟩ := hx
  have hgreatest : greatestExponent .single = (104 : Nat) := by decide
  refine (value_lt_of_finite hmagnitude).trans_le ?_
  rw [hgreatest, unit_eq, zpow_natCast]
  norm_num

/-- Every finite single is a double. -/
theorem value_widened {x : Binary .single} (hx : ∃ m e, x.magnitude = .finite m e) :
    (∃ m e, x.widened.magnitude = .finite m e) ∧ x.widened.magnitude.value = x.magnitude.value := by
  have hsmall := value_lt_of_single hx
  obtain ⟨m, e, hmagnitude⟩ := hx
  obtain ⟨hm, he, -⟩ := bounds_of_finite hmagnitude
  have hvalue : ((ratio m e).1 : ℚ) / (ratio m e).2 = x.magnitude.value := by
    rw [ratio_value, hmagnitude, Magnitude.value]
  have hlimit : ((ratio m e).1 : ℚ) / (ratio m e).2 < limit .double := by
    rw [hvalue]
    exact hsmall.trans (lt_trans (by norm_num) two_pow_lt_limit)
  have hunits : unit .single ≤ unit .double := by decide
  have hexponents : Width.double.leastExponent ≤ Width.single.leastExponent := by decide
  have hwidened : x.widened = nearest .double x.isNegative (ratio m e).1 (ratio m e).2 := by rw [widened, hmagnitude]
  rw [hwidened]
  refine ⟨(finite_nearest_iff .double _ _ (ratio_pos m e)).mpr hlimit, ?_⟩
  rw [value_nearest_of_word .double _ (ratio_pos m e) hlimit (by omega) (by omega) (ratio_value m e), hvalue]

theorem Close.isZero_iff {x : Binary .double} {q ε : ℚ} (hx : Close x q ε) (hq : 0 ≤ q) (hε : ε < 1) :
    x.isZero = true ↔ q = 0 := by
  rw [Binary.isZero_iff hx.1]
  have herror := hx.2
  constructor
  · intro hzero
    rw [hzero, zero_sub, abs_neg, abs_of_nonneg hq] at herror
    nlinarith
  · rintro rfl
    simpa using herror

end Binary

namespace Decimal

open Binary

theorem isNegative_quotient (x y : Binary .double) : (quotient x y).isNegative = false := by
  unfold quotient
  split
  next => exact isNegative_nearest _ _ _ _
  next => decide

/-- Every power of ten that a scale asks for is computed as the double nearest to it. -/
theorem roundedPower_eq {n : Nat} (hn : n ≤ 28) :
    roundedPower 6 (ofInt .double 10) n (ofInt .double 1) = ofInt .double (tenPow n : Nat) := by
  have hall : ∀ n : Fin 29, roundedPower 6 (ofInt .double 10) n (ofInt .double 1) = ofInt .double (tenPow n : Nat) := by
    decide +kernel
  exact hall ⟨n, by omega⟩

theorem moderate_div {n places : Nat} (hn : n < twoPow 96) (hplaces : places ≤ 28) : Moderate (n / 10 ^ places : ℚ) := by
  rcases Nat.eq_zero_or_pos n with rfl | hpos
  · exact Or.inl (by simp)
  · have hone : (1 : ℚ) ≤ n := by exact_mod_cast hpos
    have hless : (n : ℚ) < 2 ^ 96 := by
      rw [← cast_twoPow]
      exact_mod_cast hn
    have hpow : (10 : ℚ) ^ places ≤ 10 ^ 28 := pow_le_pow_right₀ (by norm_num) hplaces
    have hten : (1 : ℚ) ≤ 10 ^ places := one_le_pow₀ (by norm_num)
    refine Or.inr ⟨?_, ?_⟩
    · rw [div_le_div_iff₀ (by positivity) (by positivity)]
      have hwide : (10 : ℚ) ^ 28 ≤ 2 ^ 200 := by norm_num
      nlinarith
    · rw [div_le_iff₀ (by positivity)]
      have hwide : (2 : ℚ) ^ 96 ≤ 2 ^ 200 := by norm_num
      nlinarith

theorem close_ofInt_natCast {n : Nat} (hn : Moderate (n : ℚ)) : Close (ofInt .double n) n roundoff := by
  have hclose := close_ofInt (n := n) (by simpa using hn)
  simpa using hclose

theorem ofInt_natCast (n : Nat) : ofInt .double n = nearest .double false n 1 := by
  rw [ofInt, Int.natAbs_natCast, decide_eq_false (Int.not_lt.mpr (Int.natCast_nonneg n))]

/-- The double that a decimal number without its sign is converted to. -/
def unsignedDouble (x : Decimal) : Binary .double :=
  if x.scale = 0 then ofInt .double x.mantissa
  else
    let whole := ofInt .double (x.mantissa / tenPow x.scale : Nat)
    let fraction := quotient (ofInt .double (x.mantissa % tenPow x.scale : Nat)) (ofInt .double (tenPow x.scale : Nat))
    if fraction.isZero then whole
    else
      quotient (wholeNearest ((sum whole fraction).times (ofInt .double (tenPow x.scale : Nat))))
        (ofInt .double (tenPow x.scale : Nat))

theorem toDouble_eq (x : Decimal) : x.toDouble = ofSign .double x.negative x.unsignedDouble.bits.toNat := by
  rw [toDouble, roundedPower_eq x.scale_le]
  rfl

theorem isNegative_unsignedDouble (x : Decimal) : x.unsignedDouble.isNegative = false := by
  unfold unsignedDouble
  dsimp only
  split
  next => rw [ofInt_natCast, isNegative_nearest]
  next =>
    split
    next => rw [ofInt_natCast, isNegative_nearest]
    next => exact isNegative_quotient _ _

theorem magnitude_toDouble (x : Decimal) : x.toDouble.magnitude = x.unsignedDouble.magnitude := by
  rw [toDouble_eq, magnitude_ofSign_bits _ x.isNegative_unsignedDouble]

theorem isNegative_toDouble (x : Decimal) : x.toDouble.isNegative = x.negative := by
  rw [toDouble_eq, isNegative_ofSign _ _ (toNat_bits_lt x.isNegative_unsignedDouble)]

/-- The relative error of the conversion of a decimal number to a double. -/
def conversionError : ℚ :=
  1 / 2 ^ 48

theorem moderate_natCast {n : Nat} (hn : n < twoPow 96) : Moderate (n : ℚ) := by
  have hmoderate := moderate_div hn (Nat.zero_le 28)
  rwa [pow_zero, div_one] at hmoderate

theorem close_ofInt_of_word {n m j : Nat} (hn : n < twoPow 96) (hm : m < 2 ^ 53) (h : n = m * 2 ^ j) :
    Close (ofInt .double n) n 0 := by
  have hone : (n : ℚ) / (1 : Nat) = n := by rw [Nat.cast_one, div_one]
  have hmoderate : Moderate ((n : ℚ) / (1 : Nat)) := by
    rw [hone]
    exact moderate_natCast hn
  have hclose := close_nearest_of_word false Nat.one_pos hmoderate hm (e := j)
    ((by decide : (-1074 : Int) ≤ 0).trans (Int.natCast_nonneg j)) (by rw [hone, zpow_natCast]; exact_mod_cast h)
  rwa [hone, ← ofInt_natCast] at hclose

theorem tenPow_scale_lt (x : Decimal) : tenPow x.scale < twoPow 96 :=
  (Nat.pow_le_pow_right (by decide) x.scale_le).trans_lt (by decide)

theorem close_power (x : Decimal) : Close (ofInt .double (tenPow x.scale : Nat)) (10 ^ x.scale) roundoff := by
  simpa only [cast_tenPow] using close_ofInt_natCast (moderate_natCast x.tenPow_scale_lt)

theorem close_fraction (x : Decimal) :
    Close (quotient (ofInt .double (x.mantissa % tenPow x.scale : Nat)) (ofInt .double (tenPow x.scale : Nat)))
      ((x.mantissa % tenPow x.scale : Nat) / 10 ^ x.scale) (4 * roundoff) := by
  have hless : x.mantissa % tenPow x.scale < twoPow 96 := (Nat.mod_le _ _).trans_lt x.mantissa_lt
  have hmoderate := moderate_div hless x.scale_le
  refine ((close_ofInt_natCast (moderate_natCast hless)).quotient x.close_power (Nat.cast_nonneg _) (by positivity) ?_
    hmoderate ?_).weaken hmoderate ?_
  · norm_num [roundoff]
  · norm_num [roundoff]
  · norm_num [roundoff]

theorem mantissa_div (x : Decimal) : (x.mantissa / 10 ^ x.scale : ℚ) =
    (x.mantissa / tenPow x.scale : Nat) + (x.mantissa % tenPow x.scale : Nat) / 10 ^ x.scale := by
  have hsplit := cast_div_mod x.mantissa (tenPow_pos x.scale)
  rwa [cast_tenPow] at hsplit

/-- The mantissa comes back from the sum of the whole and the fraction. -/
theorem close_scaledSum (x : Decimal) :
    Close ((sum (ofInt .double (x.mantissa / tenPow x.scale : Nat))
      (quotient (ofInt .double (x.mantissa % tenPow x.scale : Nat)) (ofInt .double (tenPow x.scale : Nat)))).times
        (ofInt .double (tenPow x.scale : Nat))) x.mantissa (9 * roundoff) := by
  have hmoderate := moderate_div x.mantissa_lt x.scale_le
  have hmantissa := moderate_natCast x.mantissa_lt
  have hwhole := moderate_natCast ((Nat.div_le_self x.mantissa (tenPow x.scale)).trans_lt x.mantissa_lt)
  have hwider := (close_ofInt_natCast hwhole).weaken hwhole (show roundoff ≤ 4 * roundoff by norm_num [roundoff])
  have hsum := hwider.sum x.close_fraction (x.mantissa_div ▸ hmoderate) (by norm_num [roundoff])
  rw [← x.mantissa_div] at hsum
  have hback : (x.mantissa / 10 ^ x.scale * 10 ^ x.scale : ℚ) = x.mantissa := by field_simp
  have hscaled := (hsum.weaken hmoderate (show _ ≤ 6 * roundoff by norm_num [roundoff])).times x.close_power
    (by positivity) (by positivity) (by rwa [hback]) (by norm_num [roundoff])
  rw [hback] at hscaled
  exact hscaled.weaken hmantissa (by norm_num [roundoff])

theorem close_unsignedDouble (x : Decimal) : Close x.unsignedDouble (x.mantissa / 10 ^ x.scale) conversionError := by
  have hmoderate := moderate_div x.mantissa_lt x.scale_le
  have hmantissa := moderate_natCast x.mantissa_lt
  have hwhole := close_ofInt_natCast
    (moderate_natCast ((Nat.div_le_self x.mantissa (tenPow x.scale)).trans_lt x.mantissa_lt))
  unfold unsignedDouble
  dsimp only
  split
  next hzero =>
    rw [hzero, pow_zero, div_one]
    exact (close_ofInt_natCast hmantissa).weaken hmantissa (by norm_num [roundoff, conversionError])
  next =>
    split
    next hzero =>
      have hnone := (x.close_fraction.isZero_iff (by positivity) (by norm_num [roundoff])).mp hzero
      have hsplit := x.mantissa_div
      rw [hnone, add_zero] at hsplit
      rw [hsplit] at hmoderate ⊢
      exact hwhole.weaken hmoderate (by norm_num [roundoff, conversionError])
    next =>
      -- the nearest integer and the quotient come on top of the sum and its product
      have hinteger := x.close_scaledSum.wholeNearest hmantissa (by norm_num [roundoff]) (by norm_num [roundoff])
      have hquotient := (hinteger.weaken hmantissa (show _ ≤ 20 * roundoff by norm_num [roundoff])).quotient
        x.close_power (by positivity) (by positivity) (by norm_num [roundoff]) hmoderate (by norm_num [roundoff])
      exact hquotient.weaken hmoderate (by norm_num [roundoff, conversionError])

/-- The mantissa and the power of ten of the scale are doubles, and the mantissa is so small that none of its digits gets
lost on the way. -/
def IsShort (x : Decimal) : Prop :=
  x.mantissa < 2 ^ 48 ∧ x.scale ≤ 22

theorem IsShort.exists_unsignedDouble_eq {x : Decimal} (hx : x.IsShort) :
    ∃ num den : Nat, 0 < den ∧ (num / den : ℚ) = x.mantissa / 10 ^ x.scale ∧
      x.unsignedDouble = nearest .double false num den := by
  obtain ⟨hmantissa, hscale⟩ := hx
  unfold unsignedDouble
  dsimp only
  split
  next hzero => exact ⟨x.mantissa, 1, Nat.one_pos, by rw [hzero, pow_zero, Nat.cast_one], ofInt_natCast _⟩
  next =>
    split
    next hzero =>
      have hnone := (x.close_fraction.isZero_iff (by positivity) (by norm_num [roundoff])).mp hzero
      exact ⟨_, 1, Nat.one_pos, by rw [x.mantissa_div, hnone, add_zero, Nat.cast_one, div_one], ofInt_natCast _⟩
    next =>
      have hmantissa' : (x.mantissa : ℚ) < 2 ^ 48 := by exact_mod_cast hmantissa
      have hback := x.close_scaledSum.wholeNearest_eq (by unfold roundoff; linarith)
      rw [← ofInt_natCast] at hback
      have hword := close_ofInt_of_word x.mantissa_lt (hmantissa.trans (by decide)) (j := 0) (Nat.mul_one _).symm
      have hfive : (5 : Nat) ^ x.scale < 2 ^ 53 := (Nat.pow_le_pow_right (by decide) hscale).trans_lt (by decide)
      have hpower := close_ofInt_of_word x.tenPow_scale_lt hfive (Nat.mul_pow 5 2 x.scale)
      have hpos : (0 : ℚ) < (tenPow x.scale : Nat) := by exact_mod_cast tenPow_pos x.scale
      obtain ⟨num, den, hden, hvalue, heq⟩ := exists_quotient_eq hword.1 hpower.1 (hpower.value_eq ▸ hpos)
      refine ⟨num, den, hden, ?_, by rw [hback, heq]⟩
      rw [hvalue, hword.value_eq, hpower.value_eq, cast_tenPow]

end Decimal

namespace Binary

/-- The word is close to a number and, unless that is zero, has its sign. -/
structure Approximates (y : Binary .double) (v ε : ℚ) : Prop where
  close : Close y |v| ε
  sign : v ≠ 0 → (y.isNegative = true ↔ v < 0)

theorem Approximates.abs_value_sub_le {y : Binary .double} {v ε : ℚ} (h : Approximates y v ε) :
    |y.value - v| ≤ ε * |v| := by
  have herror := h.close.2
  by_cases hzero : v = 0
  · rw [hzero, abs_zero, mul_zero, sub_zero, ← abs_value, abs_abs] at herror
    rwa [hzero, abs_zero, mul_zero, sub_zero]
  · have hsign := h.sign hzero
    rw [value]
    by_cases hneg : v < 0
    · rw [if_pos (hsign.mpr hneg), ← abs_neg, neg_sub, sub_neg_eq_add, add_comm, ← sub_neg_eq_add]
      rwa [abs_of_neg hneg] at herror ⊢
    · rw [if_neg fun hy => hneg (hsign.mp hy)]
      rwa [abs_of_nonneg (not_lt.mp hneg)] at herror ⊢

theorem Approximates.neg_iff {y : Binary .double} {v ε : ℚ} (h : Approximates y v ε) (hε : ε < 1) : y.value < 0 ↔ v < 0 := by
  have herror := h.abs_value_sub_le
  by_cases hneg : v < 0
  · refine iff_of_true ?_ hneg
    rw [abs_of_neg hneg] at herror
    nlinarith [(abs_le.mp herror).2]
  · refine iff_of_false (not_lt.mpr ?_) hneg
    rw [abs_of_nonneg (not_lt.mp hneg)] at herror
    nlinarith [(abs_le.mp herror).1]

end Binary

namespace Number

open Binary

/-- The number fits the widest type of its kind. -/
def InRange : Number → Prop
  | integer signed _ n => fitsWidest signed n = true
  | _ => True

theorem fitsWidest_iff {signed : Bool} {n : Int} :
    fitsWidest signed n = true ↔ if signed then -2 ^ 127 ≤ n ∧ n < 2 ^ 127 else 0 ≤ n ∧ n < 2 ^ 128 := by
  cases signed <;> simp only [fitsWidest, if_true, Bool.false_eq_true, if_false, Bool.and_eq_true, decide_eq_true_iff] <;> rfl

theorem abs_le_of_fitsWidest {signed : Bool} {n : Int} (h : fitsWidest signed n = true) : |(n : ℚ)| ≤ 2 ^ 128 := by
  have hbound : |n| ≤ 2 ^ 128 := by
    rw [fitsWidest_iff] at h
    rw [abs_le]
    cases signed <;> simp only [if_true, Bool.false_eq_true, if_false] at h <;> omega
  exact_mod_cast hbound

theorem moderate_of_fitsWidest {signed : Bool} {n : Int} (h : fitsWidest signed n = true) : Moderate |(n : ℚ)| := by
  have hbound := abs_le_of_fitsWidest h
  by_cases hzero : n = 0
  · exact Or.inl (by rw [hzero, Int.cast_zero, abs_zero])
  · have hone : (1 : ℚ) ≤ |(n : ℚ)| := by exact_mod_cast Int.one_le_abs hzero
    refine Or.inr ⟨le_trans ?_ hone, hbound.trans ?_⟩
    · norm_num
    · norm_num

theorem approximates_toDouble {x : Number} (hx : x.IsExact) (hrange : x.InRange) :
    Approximates x.toDouble x.value Decimal.conversionError := by
  obtain ⟨signed, bits, n, rfl⟩ | ⟨y, rfl⟩ := hx.integer_or_decimal
  · have hmoderate := moderate_of_fitsWidest hrange
    refine ⟨(close_ofInt hmoderate).weaken hmoderate (by norm_num [roundoff, Decimal.conversionError]), fun _ => ?_⟩
    rw [toDouble, value, ofInt, isNegative_nearest, decide_eq_true_iff, Int.cast_lt_zero]
  · refine ⟨⟨?_, ?_⟩, fun hzero => ?_⟩
    · rw [toDouble, y.magnitude_toDouble]
      exact y.close_unsignedDouble.1
    · rw [toDouble, y.magnitude_toDouble, value, y.abs_value]
      exact y.close_unsignedDouble.2
    · rw [value] at hzero ⊢
      have hne : ¬y.isZero = true := by
        intro h
        rw [Decimal.isZero, beq_iff_eq] at h
        exact hzero (abs_eq_zero.mp (by rw [y.abs_value, h, Nat.cast_zero, zero_div]))
      rw [← y.isBelowZero_iff, toDouble, y.isNegative_toDouble, Decimal.isBelowZero]
      simp [hne]

theorem moderate_abs_value {x : Number} (hx : x.IsExact) (hrange : x.InRange) : Moderate |x.value| := by
  obtain ⟨signed, bits, n, rfl⟩ | ⟨y, rfl⟩ := hx.integer_or_decimal
  · exact moderate_of_fitsWidest hrange
  · rw [value, y.abs_value]
    exact Decimal.moderate_div y.mantissa_lt y.scale_le

/-- Integers and short decimal numbers, which are converted to the nearest double. -/
def IsShort : Number → Prop
  | integer _ _ _ => True
  | decimal y => y.IsShort
  | _ => False

theorem IsShort.isExact {x : Number} (hx : x.IsShort) : x.IsExact := by
  cases x with
  | integer signed bits n => trivial
  | decimal y => trivial
  | single y => exact hx.elim
  | double y => exact hx.elim

theorem IsShort.exists_magnitude_eq {x : Number} (hx : x.IsShort) :
    ∃ (negative : Bool) (num den : Nat), 0 < den ∧ (num / den : ℚ) = |x.value| ∧
      x.toDouble.magnitude = (nearest .double negative num den).magnitude := by
  obtain ⟨signed, bits, n, rfl⟩ | ⟨y, rfl⟩ := hx.isExact.integer_or_decimal
  · refine ⟨_, n.natAbs, 1, Nat.one_pos, ?_, rfl⟩
    rw [Nat.cast_one, div_one, Nat.cast_natAbs, Int.cast_abs, value]
  · obtain ⟨num, den, hden, hvalue, heq⟩ := Decimal.IsShort.exists_unsignedDouble_eq hx
    refine ⟨false, num, den, hden, ?_, ?_⟩
    · rw [hvalue, value, y.abs_value]
    · rw [toDouble, y.magnitude_toDouble, heq]

theorem IsShort.approximates_toDouble {x : Number} (hx : x.IsShort) (hrange : x.InRange) :
    Approximates x.toDouble x.value roundoff := by
  obtain ⟨negative, num, den, hden, hvalue, heq⟩ := hx.exists_magnitude_eq
  have hexact : abs ((num / den : ℚ) - |x.value|) ≤ 0 * |x.value| := by rw [hvalue, sub_self, abs_zero, zero_mul]
  obtain ⟨hfinite, herror⟩ := close_nearest negative hden (moderate_abs_value hx.isExact hrange) (by norm_num) hexact
  rw [← heq] at hfinite herror
  rw [zero_add, add_zero, mul_one] at herror
  exact ⟨⟨hfinite, herror⟩, (Number.approximates_toDouble hx.isExact hrange).sign⟩

/-- A short number that is a double becomes that double. -/
theorem IsShort.value_toDouble {x : Number} (hx : x.IsShort) (hrange : x.InRange) {m : Nat} {e : Int} (hm : m < 2 ^ 53)
    (he : -1074 ≤ e) (hword : |x.value| = m * 2 ^ e) : x.toDouble.value = x.value := by
  obtain ⟨negative, num, den, hden, hvalue, heq⟩ := hx.exists_magnitude_eq
  have hmoderate := moderate_abs_value hx.isExact hrange
  rw [← hvalue] at hmoderate hword
  obtain ⟨hfinite, herror⟩ := close_nearest_of_word negative hden hmoderate hm he hword
  rw [← heq] at hfinite herror
  rw [hvalue] at herror
  have happrox : Approximates x.toDouble x.value 0 :=
    ⟨⟨hfinite, herror⟩, (Number.approximates_toDouble hx.isExact hrange).sign⟩
  have hsame := happrox.abs_value_sub_le
  rw [zero_mul] at hsame
  exact sub_eq_zero.mp (abs_nonpos_iff.mp hsame)

end Number

end StructuredMessage
