import Mathlib.Algebra.Order.Floor.Semifield
import StructuredMessage.Proofs.Number.Value

namespace StructuredMessage

namespace Tie

/-- The natural number nearest to `q`, which is not negative; a number halfway between two of them goes where ties go. -/
def round (tie : Tie) (q : ℚ) : Nat :=
  if q - ⌊q⌋₊ < 1 / 2 then ⌊q⌋₊
  else if 1 / 2 < q - ⌊q⌋₊ then ⌊q⌋₊ + 1
  else match tie with
    | toEven => ⌊q⌋₊ + ⌊q⌋₊ % 2
    | awayFromZero => ⌊q⌋₊ + 1

theorem round_natCast (tie : Tie) (n : Nat) : tie.round n = n := by
  unfold round
  rw [Nat.floor_natCast, if_pos (by rw [sub_self]; norm_num)]

theorem roundDiv_eq_round (tie : Tie) (num : Nat) {den : Nat} (hden : 0 < den) :
    roundDiv tie num den = tie.round (num / den) := by
  have hpos : (0 : ℚ) < den := by exact_mod_cast hden
  have hfloor : ⌊(num / den : ℚ)⌋₊ = num / den := Nat.floor_div_eq_div num den
  have hrest : (num / den : ℚ) - (num / den : Nat) = (num % den : Nat) / den := by
    rw [cast_div_mod num hden, add_sub_cancel_left]
  have hlow : (num / den : ℚ) - (num / den : Nat) < 1 / 2 ↔ 2 * (num % den) < den := by
    rw [hrest, div_lt_div_iff₀ hpos two_pos, one_mul, mul_comm]
    exact_mod_cast Iff.rfl
  have hhigh : 1 / 2 < (num / den : ℚ) - (num / den : Nat) ↔ den < 2 * (num % den) := by
    rw [hrest, div_lt_div_iff₀ two_pos hpos, one_mul, mul_comm]
    exact_mod_cast Iff.rfl
  unfold round roundDiv
  rw [hfloor]
  exact (if_congr hlow rfl (if_congr hhigh rfl rfl)).symm

/-- Halfway between an even number and the next one, where the two ways of breaking a tie part. -/
def Parts (q : ℚ) : Prop :=
  ∃ n : Nat, q = 2 * n + 1 / 2

theorem round_of_parts {q : ℚ} {n : Nat} (h : q = 2 * n + 1 / 2) :
    toEven.round q = 2 * n ∧ awayFromZero.round q = 2 * n + 1 := by
  have hfloor : ⌊q⌋₊ = 2 * n := by
    rw [Nat.floor_eq_iff (by rw [h]; positivity), h]
    push_cast
    constructor <;> linarith
  have hhalf : q - (2 * n : Nat) = 1 / 2 := by
    rw [h]
    push_cast
    ring
  have heven : 2 * n + 2 * n % 2 = 2 * n := by omega
  unfold round
  simp only [hfloor, hhalf, lt_irrefl, if_false]
  exact ⟨heven, trivial⟩

theorem round_of_not_parts {q : ℚ} (h : ¬Parts q) : toEven.round q = awayFromZero.round q := by
  unfold round
  split
  next => rfl
  next hlow =>
    split
    next => rfl
    next hhigh =>
      have hhalf : q = ⌊q⌋₊ + 1 / 2 := by linarith
      have hodd : ⌊q⌋₊ % 2 = 1 := by
        by_contra heven
        obtain ⟨n, hn⟩ : ∃ n, ⌊q⌋₊ = 2 * n := ⟨⌊q⌋₊ / 2, by omega⟩
        refine h ⟨n, ?_⟩
        rw [hhalf, hn]
        push_cast
        rfl
      rw [hodd]

end Tie

namespace Numeral

theorem digits_zero : digits 0 = ['0'] :=
  rfl

theorem digits_eq_if (n : Nat) :
    digits n = if n < 10 then [n.digitChar] else digits (n / 10) ++ [(n % 10).digitChar] :=
  Nat.toDigits_eq_if (by decide)

/-- The last digit behind the others. -/
theorem padded_add_two (width n : Nat) :
    padded (width + 2) n = padded (width + 1) (n / 10) ++ [(n % 10).digitChar] := by
  rw [padded, padded, digits_eq_if n]
  split
  next hlt =>
    have hwidth : width + 2 - 1 = width + 1 := rfl
    rw [Nat.div_eq_of_lt hlt, Nat.mod_eq_of_lt hlt, digits_zero, List.leftpad, List.leftpad, List.length_singleton,
      List.length_singleton, hwidth, Nat.add_sub_cancel, ← List.replicate_succ']
  next =>
    rw [List.leftpad, List.leftpad, List.append_assoc, List.length_append, List.length_singleton]
    congr 2
    omega

end Numeral

namespace Decimal

/-- One place more takes the last digit. -/
theorem splitDigits_succ (n places : Nat) :
    splitDigits n (places + 1) =
      ((splitDigits (n / 10) places).1, (splitDigits (n / 10) places).2 ++ [(n % 10).digitChar]) := by
  have hlength := length_padded places (n / 10)
  rw [splitDigits, splitDigits, Numeral.padded_add_two, List.length_append, List.length_singleton, Nat.add_sub_add_right,
    List.take_append_of_le_length (Nat.sub_le _ _), List.drop_append_of_le_length (Nat.sub_le _ _)]

theorem splitDigits_zero (n : Nat) : splitDigits n 0 = (Numeral.digits n, []) := by
  have hlength := List.length_pos_iff.mpr (Numeral.digits_ne_nil n)
  rw [splitDigits, Numeral.padded, List.leftpad, Nat.sub_eq_zero_of_le hlength]
  simp

/-- Places more than a number has are filled up with zeros. -/
theorem splitDigits_mul_tenPow (n places k : Nat) :
    splitDigits (n * tenPow k) (places + k) =
      ((splitDigits n places).1, (splitDigits n places).2 ++ List.replicate k '0') := by
  induction k with
  | zero => simp [tenPow]
  | succ k ih =>
    have hpow : n * tenPow (k + 1) = n * tenPow k * 10 := (Nat.mul_assoc _ _ _).symm
    have hzero : Nat.digitChar 0 = '0' := rfl
    rw [← Nat.add_assoc, splitDigits_succ, hpow, Nat.mul_div_cancel _ (by decide), Nat.mul_mod_left, ih, hzero,
      List.append_assoc, List.replicate_succ']

end Decimal

namespace Number

/-- Where a number goes that lies halfway: numbers with exact digits away from zero, words to an even digit. -/
def tie : Number → Tie
  | integer _ _ _ => .awayFromZero
  | single _ => .toEven
  | double _ => .toEven
  | decimal _ => .awayFromZero

theorem decimalDigits_eq_splitDigits (x : Decimal) (k : Nat) :
    decimalDigits x k = Decimal.splitDigits (Tie.awayFromZero.round (|x.value| * 10 ^ k)) k := by
  have hscale := x.scale_le
  have hfilled (n places : Nat) (hle : places ≤ k) :
      ((Decimal.splitDigits n places).1, (Decimal.splitDigits n places).2 ++
        List.replicate (k - (Decimal.splitDigits n places).2.length) '0') = Decimal.splitDigits (n * tenPow (k - places)) k := by
    have hsplit := Decimal.splitDigits_mul_tenPow n places (k - places)
    rw [Nat.add_sub_cancel' hle] at hsplit
    rw [hsplit, Decimal.length_splitDigits_fraction]
  rw [decimalDigits, Decimal.abs_value]
  dsimp only
  by_cases hle : x.scale ≤ min k 28
  · have hk : x.scale ≤ k := hle.trans (Nat.min_le_left _ _)
    have hvalue : (x.mantissa / 10 ^ x.scale * 10 ^ k : ℚ) = (x.mantissa * tenPow (k - x.scale) : Nat) := by
      rw [Nat.cast_mul, cast_tenPow, pow_sub₀ _ (by norm_num) hk]
      field_simp
    rw [if_pos hle, hfilled _ _ hk, hvalue, Tie.round_natCast]
  · have hk : min k 28 = k := by omega
    have hvalue : (x.mantissa / 10 ^ x.scale * 10 ^ k : ℚ) = x.mantissa / tenPow (x.scale - k) := by
      rw [cast_tenPow, pow_sub₀ _ (by norm_num) (by omega)]
      field_simp
    rw [if_neg hle, hk, hfilled _ _ le_rfl, hvalue, Nat.sub_self, Tie.roundDiv_eq_round _ _ (tenPow_pos _)]
    simp [tenPow]

theorem fixedDigits_eq_splitDigits {w : Width} {x : Binary w} (hx : ∃ m e, x.magnitude = .finite m e) (k : Nat) :
    x.fixedDigits k = Decimal.splitDigits (Tie.toEven.round (|x.value| * 10 ^ k)) k := by
  obtain ⟨m, e, hmagnitude⟩ := hx
  have hvalue : |x.value| * 10 ^ k = ((Binary.ratio m e).1 * tenPow k : Nat) / (Binary.ratio m e).2 := by
    rw [Nat.cast_mul, cast_tenPow, mul_div_right_comm, Binary.ratio_value, x.abs_value, hmagnitude, Magnitude.value]
  simp only [Binary.fixedDigits, hmagnitude]
  rw [Tie.roundDiv_eq_round _ _ (Binary.ratio_pos m e), hvalue]

/-- The digits of a number are those of its magnitude in units of the last place, rounded by the tie rule of its kind. -/
theorem fixed_eq_ofScaled {x : Number} (hx : x.IsFinite) (k : Nat) :
    x.fixed k = (Digits.ofScaled x.isNegative (x.tie.round (|x.value| * 10 ^ k)) k).settled := by
  cases x with
  | integer signed bits n =>
    have hvalue : |(n : ℚ)| * 10 ^ k = (n.natAbs * tenPow k : Nat) := by
      rw [Nat.cast_mul, cast_tenPow, Nat.cast_natAbs, Int.cast_abs]
    have hsplit := Decimal.splitDigits_mul_tenPow n.natAbs 0 k
    rw [Nat.zero_add, Decimal.splitDigits_zero] at hsplit
    rw [value, hvalue, Tie.round_natCast, Digits.ofScaled, hsplit]
    rfl
  | decimal y =>
    rw [fixed, decimalDigits_eq_splitDigits]
    rfl
  | single y =>
    rw [fixed, fixedDigits_eq_splitDigits hx]
    rfl
  | double y =>
    rw [fixed, fixedDigits_eq_splitDigits hx]
    rfl

end Number

end StructuredMessage
