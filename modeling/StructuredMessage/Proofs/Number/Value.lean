import StructuredMessage.Proofs.Number.Fixed
import StructuredMessage.Proofs.Number.Quotient

namespace StructuredMessage

namespace Numeral

/-- The number that digits before and behind a point write. -/
def positional (whole fraction : List Char) : ℚ :=
  Nat.ofDigitChars 10 (whole ++ fraction) 0 / 10 ^ fraction.length

theorem ofDigitChars_leftpad (n : Nat) (ds : List Char) :
    Nat.ofDigitChars 10 (ds.leftpad n '0') 0 = Nat.ofDigitChars 10 ds 0 := by
  rw [List.leftpad, Nat.ofDigitChars_append, Nat.ofDigitChars_replicate_zero, Nat.mul_zero]

theorem positional_leftpad (n : Nat) (whole fraction : List Char) :
    positional (whole.leftpad n '0') fraction = positional whole fraction := by
  rw [positional, positional, List.leftpad, List.append_assoc, Nat.ofDigitChars_append, Nat.ofDigitChars_replicate_zero,
    Nat.mul_zero]

theorem positional_append_zeros (whole fraction : List Char) (n : Nat) :
    positional whole (fraction ++ List.replicate n '0') = positional whole fraction := by
  rw [positional, positional, ← List.append_assoc, Nat.ofDigitChars_append, Nat.ofDigitChars_replicate_zero,
    List.length_append, List.length_replicate, pow_add]
  push_cast
  rw [mul_comm, mul_div_mul_right _ _ (by positivity)]

theorem positional_lone_zero (whole fraction : List Char) :
    positional (if whole = ['0'] then [] else whole) fraction = positional whole fraction := by
  split
  next h => rw [h, positional, positional]; rfl
  next => rfl

theorem positional_digits (n : Nat) : positional (digits n) [] = n := by
  have hvalue : Nat.ofDigitChars 10 (digits n) 0 = n := Nat.ofDigitChars_ten_toDigits
  rw [positional, List.append_nil, hvalue, List.length_nil, pow_zero, div_one]

theorem positional_eq_zero {whole fraction : List Char} (h : (whole ++ fraction).all (· == '0')) :
    positional whole fraction = 0 := by
  have hzeros : whole ++ fraction = List.replicate (whole ++ fraction).length '0' :=
    List.eq_replicate_iff.mpr ⟨rfl, fun c hc => by simpa using List.all_eq_true.mp h c hc⟩
  rw [positional, hzeros, Nat.ofDigitChars_replicate_zero, Nat.mul_zero, Nat.cast_zero, zero_div]

theorem positional_nonneg (whole fraction : List Char) : 0 ≤ positional whole fraction := by
  unfold positional
  positivity

end Numeral

namespace Decimal

theorem positional_splitDigits (n places : Nat) :
    Numeral.positional (splitDigits n places).1 (splitDigits n places).2 = n / 10 ^ places := by
  have hvalue : Nat.ofDigitChars 10 (Numeral.digits n) 0 = n := Nat.ofDigitChars_ten_toDigits
  have hlength := length_splitDigits_fraction n places
  rw [Numeral.positional, hlength, splitDigits, List.take_append_drop, Numeral.padded, Numeral.ofDigitChars_leftpad, hvalue]

theorem isDigit_of_mem_padded {n width : Nat} {c : Char} (hc : c ∈ Numeral.padded width n) : c.isDigit := by
  rcases List.mem_append.mp hc with hzero | hdigit
  · rw [List.eq_of_mem_replicate hzero]
    decide
  · exact Numeral.isDigit_of_mem_digits hdigit

theorem isDigit_of_mem_splitDigits {n places : Nat} {c : Char}
    (hc : c ∈ (splitDigits n places).1 ∨ c ∈ (splitDigits n places).2) : c.isDigit := by
  rcases hc with hwhole | hfraction
  · exact isDigit_of_mem_padded (List.mem_of_mem_take hwhole)
  · exact isDigit_of_mem_padded (List.mem_of_mem_drop hfraction)

def value (x : Decimal) : ℚ :=
  x.signed / 10 ^ x.scale

theorem abs_value (x : Decimal) : |x.value| = x.mantissa / 10 ^ x.scale := by
  have habs : |(x.signed : ℚ)| = x.mantissa := by
    rw [signed]
    split <;> simp
  rw [value, abs_div, habs, abs_of_pos (by positivity)]

theorem isBelowZero_iff (x : Decimal) : x.isBelowZero = true ↔ x.value < 0 := by
  have hscale : (0 : ℚ) < 10 ^ x.scale := by positivity
  rw [value, div_lt_iff₀ hscale, zero_mul, Int.cast_lt_zero, isBelowZero, isZero, signed]
  cases x.negative <;> simp [Nat.pos_iff_ne_zero]

end Decimal

namespace Magnitude

/-- The number that a finite magnitude is. -/
def value : Magnitude → ℚ
  | finite m e => m * 2 ^ e
  | _ => 0

theorem value_nonneg (x : Magnitude) : 0 ≤ x.value := by
  unfold value
  split
  next => positivity
  next => exact le_rfl

end Magnitude

namespace Binary

variable {w : Width}

def value (x : Binary w) : ℚ :=
  if x.isNegative then -x.magnitude.value else x.magnitude.value

theorem abs_value (x : Binary w) : |x.value| = x.magnitude.value := by
  rw [value]
  split
  next => rw [abs_neg, abs_of_nonneg x.magnitude.value_nonneg]
  next => exact abs_of_nonneg x.magnitude.value_nonneg

theorem ratio_pos (m : Nat) (e : Int) : 0 < (ratio m e).2 :=
  twoPow_pos _

theorem ratio_value (m : Nat) (e : Int) : ((ratio m e).1 : ℚ) / (ratio m e).2 = m * 2 ^ e := by
  rw [two_zpow, ratio, Nat.cast_mul, mul_div_assoc]

theorem isBelowZero_iff {x : Binary w} {m : Nat} {e : Int} (hx : x.magnitude = .finite m e) :
    x.isBelowZero = true ↔ x.value < 0 := by
  have hpow : (0 : ℚ) < 2 ^ e := by positivity
  rw [isBelowZero, isNaN, isZero, value, hx, Magnitude.value]
  cases m with
  | zero => cases x.isNegative <;> simp
  | succ m =>
    have hpos : (0 : ℚ) < (m + 1 : Nat) * 2 ^ e := by positivity
    cases x.isNegative with
    | false => simpa using hpos.le
    | true => simpa using hpos

end Binary

namespace Digits

/-- Both parts are made of decimal digits, and there is one before the point. -/
def IsDecimal (d : Digits) : Prop :=
  d.whole ≠ [] ∧ ∀ c ∈ d.whole ++ d.fraction, c.isDigit

def value (d : Digits) : ℚ :=
  if d.negative then -Numeral.positional d.whole d.fraction else Numeral.positional d.whole d.fraction

/-- The digits are decimal, `k` of them stand behind the point, and they are half a unit of the last of them away from `v`
at most. -/
def Rounds (d : Digits) (k : Nat) (v : ℚ) : Prop :=
  d.IsDecimal ∧ d.fraction.length = k ∧ |d.value - v| ≤ 1 / 2 / 10 ^ k

theorem abs_value (d : Digits) : |d.value| = Numeral.positional d.whole d.fraction := by
  have hnonneg := Numeral.positional_nonneg d.whole d.fraction
  rw [value]
  split
  next => rw [abs_neg, abs_of_nonneg hnonneg]
  next => exact abs_of_nonneg hnonneg

theorem value_settled (d : Digits) : d.settled.value = d.value := by
  unfold settled
  split
  next h => simp [value, Numeral.positional_eq_zero h]
  next => rfl

end Digits

namespace Number

def value : Number → ℚ
  | integer _ _ n => n
  | single x => x.value
  | double x => x.value
  | decimal x => x.value

theorem isNegative_iff {x : Number} (hx : x.IsFinite) : x.isNegative = true ↔ x.value < 0 := by
  cases x with
  | integer signed bits n => simp [isNegative, value]
  | decimal y => exact y.isBelowZero_iff
  | single y =>
    obtain ⟨m, e, hy⟩ := hx
    exact Binary.isBelowZero_iff hy
  | double y =>
    obtain ⟨m, e, hy⟩ := hx
    exact Binary.isBelowZero_iff hy

/-- Rounded digits have the sign of the number, so their value is the rounded magnitude with that sign. -/
theorem fixed_value {x : Number} (hx : x.IsFinite) (k : Nat) :
    (x.fixed k).value = if x.value < 0 then -Numeral.positional (x.fixed k).whole (x.fixed k).fraction
      else Numeral.positional (x.fixed k).whole (x.fixed k).fraction := by
  have hnegative := isNegative_iff hx
  have hdigits : ∃ whole fraction, x.fixed k = Digits.settled ⟨x.isNegative, whole, fraction⟩ := ⟨_, _, rfl⟩
  obtain ⟨whole, fraction, hfixed⟩ := hdigits
  rw [hfixed, Digits.value_settled, Digits.settled_whole, Digits.settled_fraction, Digits.value]
  simp only [hnegative]

/-- The number is an integer or a decimal number, which have exact digits. -/
def IsExact : Number → Prop
  | integer _ _ _ => True
  | decimal _ => True
  | _ => False

theorem IsExact.integer_or_decimal {x : Number} (hx : x.IsExact) :
    (∃ signed bits n, x = integer signed bits n) ∨ ∃ y, x = decimal y := by
  cases x with
  | integer signed bits n => exact Or.inl ⟨signed, bits, n, rfl⟩
  | decimal y => exact Or.inr ⟨y, rfl⟩
  | single y => exact hx.elim
  | double y => exact hx.elim

theorem IsExact.isFinite {x : Number} (hx : x.IsExact) : x.IsFinite := by
  obtain ⟨signed, bits, n, rfl⟩ | ⟨y, rfl⟩ := hx.integer_or_decimal
  · trivial
  · trivial

theorem floor_add_half (n : Nat) : ⌊(n + 1 / 2 : ℚ)⌋ = n := by
  rw [Int.floor_eq_iff]
  constructor <;> norm_num

/-- An exact number is rounded to at most 28 places, a tie going away from zero. -/
theorem positional_fixed_exact {x : Number} (hx : x.IsExact) (k : Nat) :
    Numeral.positional (x.fixed k).whole (x.fixed k).fraction =
      ⌊|x.value| * 10 ^ min k 28 + 1 / 2⌋ / 10 ^ min k 28 := by
  have hpow : (10 : ℚ) ^ min k 28 ≠ 0 := by positivity
  obtain ⟨signed, bits, n, rfl⟩ | ⟨y, rfl⟩ := hx.integer_or_decimal
  · have hfloor := floor_add_half (n.natAbs * 10 ^ min k 28)
    rw [Nat.cast_mul, Nat.cast_pow, Nat.cast_ofNat, Nat.cast_natAbs, Int.cast_abs] at hfloor
    have hzeros := Numeral.positional_append_zeros (Numeral.digits n.natAbs) [] k
    rw [List.nil_append, Numeral.positional_digits] at hzeros
    simp only [fixed, Digits.settled_whole, Digits.settled_fraction, value]
    rw [hzeros, hfloor]
    push_cast [Nat.cast_natAbs]
    field_simp
  · simp only [fixed, Digits.settled_whole, Digits.settled_fraction, value, Decimal.abs_value, decimalDigits]
    rw [Numeral.positional_append_zeros]
    split
    next hle =>
      have hscaled : (y.mantissa : ℚ) / 10 ^ y.scale * 10 ^ min k 28 = (y.mantissa * 10 ^ (min k 28 - y.scale) : Nat) := by
        rw [Nat.cast_mul, Nat.cast_pow, Nat.cast_ofNat, pow_sub₀ _ (by norm_num) hle]
        field_simp
      rw [Decimal.positional_splitDigits, hscaled, floor_add_half, eq_div_iff hpow, hscaled, Int.cast_natCast]
    next hlt =>
      have hrounded := roundDiv_awayFromZero y.mantissa (tenPow_pos (y.scale - min k 28))
      have hscaled : (y.mantissa : ℚ) / tenPow (y.scale - min k 28) = y.mantissa / 10 ^ y.scale * 10 ^ min k 28 := by
        rw [cast_tenPow, pow_sub₀ _ (by norm_num) (Nat.le_of_not_le hlt)]
        field_simp
      rw [Decimal.positional_splitDigits, ← hscaled, ← hrounded, Int.cast_natCast]

theorem IsExact.exists_scaled {x : Number} (hx : x.IsExact) : ∃ n : Nat, |x.value| * 10 ^ 28 = n := by
  obtain ⟨signed, bits, n, rfl⟩ | ⟨y, rfl⟩ := hx.integer_or_decimal
  · refine ⟨n.natAbs * 10 ^ 28, ?_⟩
    push_cast [Nat.cast_natAbs]
    rfl
  · refine ⟨y.mantissa * 10 ^ (28 - y.scale), ?_⟩
    rw [value, Decimal.abs_value, Nat.cast_mul, Nat.cast_pow, Nat.cast_ofNat, pow_sub₀ _ (by norm_num) y.scale_le]
    field_simp

theorem abs_positional_fixed_sub_le_of_exact {x : Number} (hx : x.IsExact) (k : Nat) :
    abs (Numeral.positional (x.fixed k).whole (x.fixed k).fraction - |x.value|) ≤ 1 / 2 / 10 ^ k := by
  rw [positional_fixed_exact hx]
  rcases Nat.le_total k 28 with hle | hle
  · have hlow := Int.floor_le (|x.value| * 10 ^ k + 1 / 2)
    have hhigh := Int.lt_floor_add_one (|x.value| * 10 ^ k + 1 / 2)
    have hpow : (0 : ℚ) < 10 ^ k := by positivity
    rw [Nat.min_eq_left hle, div_sub' hpow.ne', abs_div, abs_of_pos hpow, div_le_div_iff_of_pos_right hpow, abs_le]
    constructor <;> linarith
  · obtain ⟨n, hn⟩ := hx.exists_scaled
    have hexact : |x.value| = n / 10 ^ 28 := by
      rw [eq_div_iff (by positivity), hn]
    rw [Nat.min_eq_right hle, hn, floor_add_half, Int.cast_natCast, ← hexact, sub_self, abs_zero]
    positivity

theorem abs_positional_fixedDigits_sub_le {w : Width} {x : Binary w} {m : Nat} {e : Int} (hx : x.magnitude = .finite m e)
    (k : Nat) : abs (Numeral.positional (x.fixedDigits k).1 (x.fixedDigits k).2 - |x.value|) ≤ 1 / 2 / 10 ^ k := by
  have hround := abs_roundDiv_sub_le .toEven ((Binary.ratio m e).1 * tenPow k) (Binary.ratio_pos m e)
  have hpow : (0 : ℚ) < 10 ^ k := by positivity
  have hscaled : (((Binary.ratio m e).1 * tenPow k : Nat) : ℚ) / (Binary.ratio m e).2 = m * 2 ^ e * 10 ^ k := by
    rw [Nat.cast_mul, cast_tenPow, mul_div_right_comm, Binary.ratio_value]
  rw [hscaled] at hround
  simp only [Binary.fixedDigits, hx, Decimal.positional_splitDigits, Binary.abs_value, Magnitude.value]
  rwa [div_sub' hpow.ne', abs_div, abs_of_pos hpow, div_le_div_iff_of_pos_right hpow, mul_comm (10 ^ k : ℚ)]

theorem abs_positional_fixed_sub_le {x : Number} (hx : x.IsFinite) (k : Nat) :
    abs (Numeral.positional (x.fixed k).whole (x.fixed k).fraction - |x.value|) ≤ 1 / 2 / 10 ^ k := by
  cases x with
  | integer signed bits n => exact abs_positional_fixed_sub_le_of_exact (x := integer signed bits n) trivial k
  | decimal y => exact abs_positional_fixed_sub_le_of_exact (x := decimal y) trivial k
  | single y =>
    obtain ⟨m, e, hy⟩ := hx
    simpa [fixed, value] using abs_positional_fixedDigits_sub_le hy k
  | double y =>
    obtain ⟨m, e, hy⟩ := hx
    simpa [fixed, value] using abs_positional_fixedDigits_sub_le hy k

/-- The digits of a rounded number are half a unit of their last place away from it at most. -/
theorem abs_fixed_value_sub_le {x : Number} (hx : x.IsFinite) (k : Nat) :
    |(x.fixed k).value - x.value| ≤ 1 / 2 / 10 ^ k := by
  have hround := abs_positional_fixed_sub_le hx k
  rw [fixed_value hx]
  split
  next hneg =>
    rw [abs_of_neg hneg, sub_neg_eq_add] at hround
    rwa [← abs_neg, neg_sub, sub_neg_eq_add, add_comm]
  next hnonneg =>
    rwa [abs_of_nonneg (not_lt.mp hnonneg)] at hround

theorem isDigit_of_mem_zeros {n : Nat} {c : Char} (hc : c ∈ List.replicate n '0') : c.isDigit := by
  rw [List.eq_of_mem_replicate hc]
  decide

theorem isDigit_of_mem_fixedDigits {w : Width} {x : Binary w} (hx : ∃ m e, x.magnitude = .finite m e) {k : Nat} {c : Char}
    (hc : c ∈ (x.fixedDigits k).1 ∨ c ∈ (x.fixedDigits k).2) : c.isDigit := by
  obtain ⟨m, e, hmagnitude⟩ := hx
  simp only [Binary.fixedDigits, hmagnitude] at hc
  exact Decimal.isDigit_of_mem_splitDigits hc

theorem isDecimal_fixed {x : Number} (hx : x.IsFinite) (k : Nat) : (x.fixed k).IsDecimal := by
  refine ⟨(fixed_shape hx k).1, fun c hc => ?_⟩
  rw [List.mem_append] at hc
  cases x with
  | integer signed bits n =>
    simp only [fixed, Digits.settled_whole, Digits.settled_fraction] at hc
    exact hc.elim Numeral.isDigit_of_mem_digits isDigit_of_mem_zeros
  | decimal y =>
    simp only [fixed, Digits.settled_whole, Digits.settled_fraction, decimalDigits, List.mem_append] at hc
    rcases hc with hwhole | hfraction | hzero
    · exact Decimal.isDigit_of_mem_splitDigits (Or.inl hwhole)
    · exact Decimal.isDigit_of_mem_splitDigits (Or.inr hfraction)
    · exact isDigit_of_mem_zeros hzero
  | single y =>
    simp only [fixed, Digits.settled_whole, Digits.settled_fraction] at hc
    exact isDigit_of_mem_fixedDigits hx hc
  | double y =>
    simp only [fixed, Digits.settled_whole, Digits.settled_fraction] at hc
    exact isDigit_of_mem_fixedDigits hx hc

theorem rounds_fixed {x : Number} (hx : x.IsFinite) (k : Nat) : (x.fixed k).Rounds k x.value :=
  ⟨isDecimal_fixed hx k, (fixed_shape hx k).2, abs_fixed_value_sub_le hx k⟩

end Number

end StructuredMessage
