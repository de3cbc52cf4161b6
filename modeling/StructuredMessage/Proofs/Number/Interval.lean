import StructuredMessage.Number.Shortest
import StructuredMessage.Proofs.Number.Scientific
import StructuredMessage.Proofs.Number.Unsigned
import StructuredMessage.Proofs.Scalar.Same

namespace StructuredMessage

def DecimalPoint.value (x : DecimalPoint) : ℚ :=
  x.digits * 10 ^ x.exponent

namespace Shortest

namespace Interval

/-- Whether a number rounds to the middle of the interval. -/
def Contains (i : Interval) (v : ℚ) : Prop :=
  (i.low * 2 ^ i.exponent < v ∧ v < i.high * 2 ^ i.exponent) ∨
    i.closed ∧ (i.low * 2 ^ i.exponent = v ∨ v = i.high * 2 ^ i.exponent)

/-- On the common scale a multiple of the grid and a number of quarters are natural numbers. -/
theorem exists_scale (i : Interval) (grid : Int) :
    ∃ c : ℚ, 0 < c ∧ 10 ^ grid * c = (i.scales grid).1 ∧ 2 ^ i.exponent * c = (i.scales grid).2 := by
  have hten : (0 : ℚ) < tenPow (-grid).toNat := by exact_mod_cast tenPow_pos _
  have htwo : (0 : ℚ) < twoPow (-i.exponent).toNat := by exact_mod_cast twoPow_pos _
  refine ⟨tenPow (-grid).toNat * twoPow (-i.exponent).toNat, mul_pos hten htwo, ?_, ?_⟩
  · rw [ten_zpow, scales]
    push_cast
    field_simp
  · rw [two_zpow, scales]
    push_cast
    field_simp

theorem holds_iff (i : Interval) (grid : Int) (n : Nat) : i.holds grid n ↔ i.Contains (n * 10 ^ grid) := by
  obtain ⟨c, hc, hstep, hquarter⟩ := i.exists_scale grid
  have hn : (n * 10 ^ grid : ℚ) * c = (n * (i.scales grid).1 : Nat) := by
    push_cast
    rw [mul_assoc, hstep]
  have hk (k : Nat) : (k * 2 ^ i.exponent : ℚ) * c = (k * (i.scales grid).2 : Nat) := by
    push_cast
    rw [mul_assoc, hquarter]
  have hlt (a b : ℚ) : a < b ↔ a * c < b * c := (mul_lt_mul_iff_left₀ hc).symm
  have heq (a b : ℚ) : a = b ↔ a * c = b * c := (mul_left_inj' hc.ne').symm
  rw [Contains, hlt (i.low * _), hlt (n * _), heq (i.low * _), heq (n * _), hn, hk, hk]
  simp only [holds, Bool.or_eq_true, Bool.and_eq_true, decide_eq_true_eq, beq_iff_eq, Nat.cast_lt, Nat.cast_inj]

/-- The nearer one of the neighbours is half a step away at most. -/
theorem abs_near_sub_le (i : Interval) (tie : Tie) (grid : Int) :
    |((i.neighbours tie grid).1 * 10 ^ grid - i.middle * 2 ^ i.exponent : ℚ)| ≤ 10 ^ grid / 2 := by
  obtain ⟨c, hc, hstep, hquarter⟩ := i.exists_scale grid
  have hten : (0 : ℚ) < 10 ^ grid := by positivity
  have hpos : 0 < (i.scales grid).1 := by
    rw [← Nat.cast_pos (α := ℚ), ← hstep]
    exact mul_pos hten hc
  have hnear := abs_roundDiv_sub_le tie (i.middle * (i.scales grid).2) hpos
  have hscaled : ((i.middle * (i.scales grid).2 : Nat) : ℚ) / (i.scales grid).1 =
      i.middle * 2 ^ i.exponent / 10 ^ grid := by
    push_cast
    rw [← hstep, ← hquarter]
    field_simp
  rw [hscaled] at hnear
  calc |((i.neighbours tie grid).1 * 10 ^ grid - i.middle * 2 ^ i.exponent : ℚ)|
      = |((i.neighbours tie grid).1 - i.middle * 2 ^ i.exponent / 10 ^ grid : ℚ)| * 10 ^ grid := by
        rw [← abs_of_pos hten, ← abs_mul, abs_of_pos hten, sub_mul, div_mul_cancel₀ _ hten.ne']
    _ ≤ 1 / 2 * 10 ^ grid := mul_le_mul_of_nonneg_right hnear hten.le
    _ = 10 ^ grid / 2 := by ring

/-- Whatever is closer to the middle than a quarter lies in the interval. -/
theorem contains_of_abs_sub_lt {i : Interval} {v : ℚ} (hlow : i.low < i.middle) (hhigh : i.middle < i.high)
    (hv : |v - i.middle * 2 ^ i.exponent| < 2 ^ i.exponent) : i.Contains v := by
  have hpow : (0 : ℚ) < 2 ^ i.exponent := by positivity
  have hlow' : (i.low : ℚ) + 1 ≤ i.middle := by exact_mod_cast hlow
  have hhigh' : (i.middle : ℚ) + 1 ≤ i.high := by exact_mod_cast hhigh
  obtain ⟨hv, hv'⟩ := abs_lt.mp hv
  refine .inl ⟨?_, ?_⟩
  · have := mul_le_mul_of_nonneg_right hlow' hpow.le
    linarith
  · have := mul_le_mul_of_nonneg_right hhigh' hpow.le
    linarith

/-- If no coarser grid has a point in the interval, the last one must. -/
theorem contains_search {i : Interval} {tie : Tie} {tries : Nat} {grid : Int}
    (hlast : i.Contains ((i.neighbours tie (grid - tries)).1 * 10 ^ (grid - tries))) :
    i.Contains (i.search tie tries grid).value := by
  induction tries generalizing grid with
  | zero => simpa [search, DecimalPoint.value] using hlast
  | succ tries ih =>
    rw [search]
    dsimp only
    split
    next h => exact (i.holds_iff _ _).mp h
    next =>
      split
      next h => exact (i.holds_iff _ _).mp h
      next =>
        refine ih ?_
        rwa [show grid - 1 - tries = grid - (tries + 1 : Nat) by omega]

end Interval

theorem value_stripped (steps : Nat) (x : DecimalPoint) : (stripped steps x).value = x.value := by
  induction steps generalizing x with
  | zero => rfl
  | succ steps ih =>
    rw [stripped]
    split
    next h =>
      have hdigits : (x.digits : ℚ) = (x.digits / 10 : Nat) * 10 := by
        exact_mod_cast (by omega : x.digits = x.digits / 10 * 10)
      rw [ih, DecimalPoint.value, DecimalPoint.value, zpow_add_one₀ (by norm_num), hdigits]
      ring_nf
    next => rfl

variable {w : Width}

theorem contains_shortest (tie : Tie) {m : Nat} {e : Int} (hm : 0 < m) (hbound : m < 2 * Binary.unit w) :
    (Interval.of w m e).Contains (shortest w tie m e).value := by
  have hnum : 0 < (Binary.ratio m e).1 := Nat.mul_pos hm (twoPow_pos _)
  obtain ⟨hleading, -⟩ := leadingExponent_spec hnum (Binary.ratio_pos m e)
  rw [Binary.ratio_value] at hleading
  rw [shortest, if_neg hm.ne']
  dsimp only
  rw [value_stripped]
  generalize leadingExponent (Binary.ratio m e).1 (Binary.ratio m e).2 = leading at *
  refine Interval.contains_search (Interval.contains_of_abs_sub_lt ?_ ?_ ?_)
  · dsimp only [Interval.of]
    split <;> omega
  · dsimp only [Interval.of]
    omega
  · refine lt_of_le_of_lt (Interval.abs_near_sub_le _ _ _) ?_
    have hpow : (0 : ℚ) < 2 ^ e := by positivity
    have hunit : (m : ℚ) ≤ 2 ^ 54 := by
      have : 2 * Binary.unit w ≤ 2 ^ 54 := by
        rw [Binary.unit_eq]
        cases w <;> norm_num
      exact_mod_cast hbound.le.trans this
    have hgrid : (10 : ℚ) ^ (leading - (17 : Nat)) = 10 ^ leading / 10 ^ 17 := by
      rw [zpow_sub₀ (by norm_num), zpow_natCast]
    have hquarter : (2 : ℚ) ^ (e - 2) = 2 ^ e / 4 := by
      rw [zpow_sub₀ (by norm_num)]
      norm_num
    rw [hgrid, show (Interval.of w m e).exponent = e - 2 from rfl, hquarter]
    have hvalue : (m : ℚ) * 2 ^ e ≤ 2 ^ 54 * 2 ^ e := mul_le_mul_of_nonneg_right hunit hpow.le
    linarith

/-- Whether a word has this significand and this exponent: only at the least exponent the leading bit may be missing. -/
def IsNormal (w : Width) (m : Nat) (e : Int) : Prop :=
  m < 2 * Binary.unit w ∧ w.leastExponent ≤ e ∧ (e = w.leastExponent ∨ Binary.unit w ≤ m)

namespace Interval

variable {i : Interval} {v : ℚ} {m n : Nat} {e f : Int}

theorem Contains.le_high (h : i.Contains v) (hle : i.low ≤ i.high) :
    v < i.high * 2 ^ i.exponent ∨ i.closed ∧ v = i.high * 2 ^ i.exponent := by
  have hle' : (i.low * 2 ^ i.exponent : ℚ) ≤ i.high * 2 ^ i.exponent :=
    mul_le_mul_of_nonneg_right (by exact_mod_cast hle) (by positivity)
  rcases h with ⟨-, hhigh⟩ | ⟨hclosed, rfl | hhigh⟩
  · exact .inl hhigh
  · exact hle'.lt_or_eq.imp id fun heq => ⟨hclosed, heq⟩
  · exact .inr ⟨hclosed, hhigh⟩

theorem Contains.low_le (h : i.Contains v) (hle : i.low ≤ i.high) :
    i.low * 2 ^ i.exponent < v ∨ i.closed ∧ i.low * 2 ^ i.exponent = v := by
  have hle' : (i.low * 2 ^ i.exponent : ℚ) ≤ i.high * 2 ^ i.exponent :=
    mul_le_mul_of_nonneg_right (by exact_mod_cast hle) (by positivity)
  rcases h with ⟨hlow, -⟩ | ⟨hclosed, hlow | rfl⟩
  · exact .inl hlow
  · exact .inr ⟨hclosed, hlow⟩
  · exact hle'.lt_or_eq.imp id fun heq => ⟨hclosed, heq⟩

theorem low_le_high (w : Width) (m : Nat) (e : Int) : (of w m e).low ≤ (of w m e).high := by
  dsimp only [of]
  omega

/-- One interval ends where a later one begins at the latest, and if they meet there one of them is open. -/
theorem high_le_low (hm : IsNormal w m e) (hn : IsNormal w n f) (hlt : e < f ∨ e = f ∧ m < n) :
    ((of w m e).high * 2 ^ (e - 2) : ℚ) ≤ (of w n f).low * 2 ^ (f - 2) ∧
      (((of w m e).high * 2 ^ (e - 2) : ℚ) = (of w n f).low * 2 ^ (f - 2) →
        ¬((of w m e).closed ∧ (of w n f).closed)) := by
  have hunit : Binary.unit w % 2 = 0 := by
    rw [Binary.unit_eq]
    cases w <;> rfl
  have hpow : (0 : ℚ) < 2 ^ (e - 2) := by positivity
  obtain ⟨hm, hme, -⟩ := hm
  obtain ⟨hn, hnf, hnormal⟩ := hn
  have hclosed : ¬((of w m e).closed ∧ (of w n f).closed) ↔ m % 2 = 1 ∨ n % 2 = 1 := by
    simp only [of, beq_iff_eq]
    omega
  rw [hclosed]
  rcases hlt with hlt | ⟨rfl, hlt⟩
  · -- The later unit is at least twice the earlier one, and the later significand has its leading bit.
    have hn' : Binary.unit w ≤ n := by omega
    have hlow : 4 * Binary.unit w ≤ (of w n f).low + 1 := by
      dsimp only [of]
      split
      next h => omega
      next h => have : n ≠ Binary.unit w := fun heq => h ⟨heq, by omega⟩; omega
    have hhigh : (of w m e).high + 2 ≤ 8 * Binary.unit w := by
      dsimp only [of]
      omega
    have hdouble : (2 : ℚ) * 2 ^ (e - 2) ≤ 2 ^ (f - 2) := by
      rw [← zpow_one_add₀ two_ne_zero]
      exact zpow_le_zpow_right₀ one_le_two (by omega)
    have hlow' : (4 * Binary.unit w : ℚ) ≤ (of w n f).low + 1 := by exact_mod_cast hlow
    have hhigh' : ((of w m e).high + 2 : ℚ) ≤ 8 * Binary.unit w := by exact_mod_cast hhigh
    have hstep : ((of w n f).low * (2 * 2 ^ (e - 2)) : ℚ) ≤ (of w n f).low * 2 ^ (f - 2) :=
      mul_le_mul_of_nonneg_left hdouble (Nat.cast_nonneg _)
    have hle : ((of w m e).high * 2 ^ (e - 2) : ℚ) ≤ (of w n f).low * (2 * 2 ^ (e - 2)) := by
      rw [← mul_assoc]
      exact mul_le_mul_of_nonneg_right (by linarith) hpow.le
    refine ⟨hle.trans hstep, fun heq => .inl ?_⟩
    have htop : (2 * (of w n f).low : ℚ) ≤ (of w m e).high :=
      le_of_mul_le_mul_right (by linarith) hpow
    have htop' : 2 * (of w n f).low ≤ (of w m e).high := by exact_mod_cast htop
    have hodd : (of w m e).high = 4 * m + 2 := rfl
    omega
  · have hle : (of w m e).high ≤ (of w n e).low ∧
        ((of w m e).high = (of w n e).low → m % 2 = 1 ∨ n % 2 = 1) := by
      dsimp only [of]
      split <;> omega
    refine ⟨mul_le_mul_of_nonneg_right (by exact_mod_cast hle.1) hpow.le, fun heq => hle.2 ?_⟩
    exact_mod_cast mul_right_cancel₀ hpow.ne' heq

theorem Contains.not_of_lt (hm : IsNormal w m e) (hn : IsNormal w n f) (hlt : e < f ∨ e = f ∧ m < n)
    (h : (of w m e).Contains v) : ¬(of w n f).Contains v := by
  intro h'
  obtain ⟨hle, hopen⟩ := high_le_low hm hn hlt
  have hhigh := h.le_high (low_le_high w m e)
  have hlow := h'.low_le (low_le_high w n f)
  change v < (of w m e).high * 2 ^ (e - 2) ∨ _ ∧ v = (of w m e).high * 2 ^ (e - 2) at hhigh
  change (of w n f).low * 2 ^ (f - 2) < v ∨ _ ∧ (of w n f).low * 2 ^ (f - 2) = v at hlow
  rcases hhigh with hhigh | ⟨hclosed, hhigh⟩
  · rcases hlow with hlow | ⟨-, hlow⟩ <;> linarith
  · rcases hlow with hlow | ⟨hclosed', hlow⟩
    · linarith
    · exact hopen (hhigh.symm.trans hlow.symm) ⟨hclosed, hclosed'⟩

/-- A number rounds to one word only. -/
theorem Contains.unique (hm : IsNormal w m e) (hn : IsNormal w n f) (h : (of w m e).Contains v)
    (h' : (of w n f).Contains v) : m = n ∧ e = f := by
  rcases lt_trichotomy e f with hlt | rfl | hgt
  · exact absurd h' (h.not_of_lt hm hn (.inl hlt))
  · rcases lt_trichotomy m n with hlt | rfl | hgt
    · exact absurd h' (h.not_of_lt hm hn (.inr ⟨rfl, hlt⟩))
    · exact ⟨rfl, rfl⟩
    · exact absurd h (h'.not_of_lt hn hm (.inr ⟨rfl, hgt⟩))
  · exact absurd h (h'.not_of_lt hn hm (.inl hgt))

theorem Contains.pos (hm : 0 < m) (h : (of w m e).Contains v) : 0 < v := by
  have hlow : 0 < (of w m e).low := by
    dsimp only [of]
    split <;> omega
  have hpos : (0 : ℚ) < (of w m e).low * 2 ^ (of w m e).exponent :=
    mul_pos (by exact_mod_cast hlow) (by positivity)
  rcases h.low_le (low_le_high w m e) with hlt | ⟨-, heq⟩
  · exact hpos.trans hlt
  · exact heq ▸ hpos

end Interval

theorem shortest_pos_iff (tie : Tie) {m : Nat} {e : Int} (h : m < 2 * Binary.unit w) :
    0 < (shortest w tie m e).value ↔ 0 < m := by
  rcases Nat.eq_zero_or_pos m with rfl | hm
  · simp [shortest, DecimalPoint.value]
  · exact iff_of_true ((contains_shortest tie hm h).pos hm) hm

/-- The shortest digits tell words apart. -/
theorem eq_of_value_shortest {tie : Tie} {m n : Nat} {e f : Int} (hm : IsNormal w m e) (hn : IsNormal w n f)
    (h : (shortest w tie m e).value = (shortest w tie n f).value) : m = n ∧ e = f := by
  have hiff : 0 < m ↔ 0 < n := by
    rw [← shortest_pos_iff tie (e := e) hm.1, h, shortest_pos_iff tie hn.1]
  rcases Nat.eq_zero_or_pos m with rfl | hpos
  · have hzero : n = 0 := by omega
    have hunit : 0 < Binary.unit w := twoPow_pos _
    obtain ⟨-, -, he⟩ := hm
    obtain ⟨-, -, hf⟩ := hn
    exact ⟨hzero.symm, by omega⟩
  · have hcontains := contains_shortest (e := f) tie (hiff.mp hpos) hn.1
    rw [← h] at hcontains
    exact (contains_shortest tie hpos hm.1).unique hm hn hcontains

end Shortest

namespace Binary

variable {w : Width} {x y : Binary w}

theorem isNormal_of_finite {m : Nat} {e : Int} (hx : x.magnitude = .finite m e) : Shortest.IsNormal w m e := by
  obtain ⟨hm, he, -⟩ := bounds_of_finite hx
  refine ⟨hm, he, ?_⟩
  unfold magnitude at hx
  dsimp only at hx
  rw [show twoPow (w.precision - 1) = unit w from rfl] at hx
  split at hx
  next => split at hx <;> cases hx
  next =>
    split at hx
    next => cases hx; exact .inl rfl
    next => cases hx; exact .inr (Nat.le_add_right _ _)

/-- A magnitude that is one has one field and one fraction. -/
theorem fields_eq_of_magnitude_eq (hx : x.magnitude ≠ .nan) (h : x.magnitude = y.magnitude) :
    x.bits.toNat / unit w % twoPow (w.size - w.precision) = y.bits.toNat / unit w % twoPow (w.size - w.precision) ∧
      x.bits.toNat % unit w = y.bits.toNat % unit w := by
  have hpos : 0 < unit w := twoPow_pos _
  have hxfraction := Nat.mod_lt x.bits.toNat hpos
  have hyfraction := Nat.mod_lt y.bits.toNat hpos
  unfold magnitude at h hx
  dsimp only at h hx
  rw [show twoPow (w.precision - 1) = unit w from rfl] at h hx
  grind

theorem eq_of_magnitude_eq (hsign : x.isNegative = y.isNegative) (hx : x.magnitude ≠ .nan)
    (h : x.magnitude = y.magnitude) : x = y := by
  obtain ⟨hfield, hfraction⟩ := fields_eq_of_magnitude_eq hx h
  have hxlt : x.bits.toNat < twoPow w.size := x.bits.isLt
  have hylt : y.bits.toNat < twoPow w.size := y.bits.isLt
  rw [isNegative, isNegative, BitVec.msb_eq_decide, BitVec.msb_eq_decide, decide_eq_decide] at hsign
  have hbits : x.bits.toNat = y.bits.toNat := by
    rw [unit_eq] at hfield hfraction
    generalize x.bits.toNat = a at *
    generalize y.bits.toNat = b at *
    cases w <;>
      simp only [Width.size, Width.precision, twoPow, Nat.pow_eq, Nat.reduceSub, Nat.reducePow] at * <;> omega
  obtain ⟨x⟩ := x
  obtain ⟨y⟩ := y
  exact congrArg Binary.mk (BitVec.eq_of_toNat_eq hbits)

/-- Finite words of one sign whose shortest digits have one value are the same number. -/
theorem same_of_value_shortest {tie : Tie} {m n : Nat} {e f : Int} (hx : x.magnitude = .finite m e)
    (hy : y.magnitude = .finite n f) (hsign : x.isBelowZero = y.isBelowZero)
    (hvalue : (shortest w tie m e).value = (shortest w tie n f).value) : x.same y := by
  obtain ⟨rfl, rfl⟩ := Shortest.eq_of_value_shortest (isNormal_of_finite hx) (isNormal_of_finite hy) hvalue
  have hxnan : x.isNaN = false := by simp [isNaN, hx]
  have hynan : y.isNaN = false := by simp [isNaN, hy]
  refine same_iff.mpr ⟨hxnan, hynan, ?_⟩
  cases m with
  | zero => exact .inr ⟨by simp [isZero, hx], by simp [isZero, hy]⟩
  | succ m =>
    have hxzero : x.isZero = false := by simp [isZero, hx]
    have hyzero : y.isZero = false := by simp [isZero, hy]
    rw [isBelowZero, isBelowZero, hxnan, hynan, hxzero, hyzero] at hsign
    exact .inl (eq_of_magnitude_eq (by simpa using hsign) (by simp [hx]) (hx.trans hy.symm))

end Binary

end StructuredMessage
