import StructuredMessage.Proofs.Number.Value

namespace StructuredMessage

namespace Binary

variable {w : Width}

/-- The least significand of a number whose exponent could not be lowered. -/
def unit (w : Width) : Nat :=
  twoPow (w.precision - 1)

theorem unit_eq (w : Width) : unit w = match w with | .single => 8388608 | .double => 4503599627370496 := by
  cases w <;> rfl

theorem special_lt_sign (w : Width) : w.specialField * unit w < twoPow (w.size - 1) := by
  cases w <;> decide

section Sign

variable (w : Width) (negative : Bool) {rest : Nat} (h : rest < twoPow (w.size - 1))
include h

theorem toNat_bits_ofSign : (ofSign w negative rest).bits.toNat = rest + if negative then twoPow (w.size - 1) else 0 := by
  have hroom : rest + (if negative then twoPow (w.size - 1) else 0) < 2 ^ w.size := by
    cases w <;> cases negative <;>
      simp only [Width.size, twoPow, Nat.pow_eq, if_true, Bool.false_eq_true, if_false] at h ⊢ <;> omega
  rw [ofSign, BitVec.toNat_ofNat, Nat.mod_eq_of_lt hroom]

theorem isNegative_ofSign : (ofSign w negative rest).isNegative = negative := by
  rw [isNegative, BitVec.msb_eq_decide, toNat_bits_ofSign w negative h]
  cases w <;> cases negative <;> simp [Width.size, twoPow] at h ⊢ <;> omega

theorem fields_ofSign :
    (ofSign w negative rest).bits.toNat / unit w % twoPow (w.size - w.precision) = rest / unit w ∧
      (ofSign w negative rest).bits.toNat % unit w = rest % unit w := by
  rw [toNat_bits_ofSign w negative h, unit_eq]
  cases w <;> cases negative <;> simp [Width.size, Width.precision, twoPow] at h ⊢ <;> omega

end Sign

theorem toNat_bits_lt {x : Binary w} (hx : x.isNegative = false) : x.bits.toNat < twoPow (w.size - 1) := by
  rw [isNegative, BitVec.msb_eq_decide, decide_eq_false_iff_not, not_le] at hx
  exact hx

theorem magnitude_ofSign_bits (negative : Bool) {x : Binary w} (hx : x.isNegative = false) :
    (ofSign w negative x.bits.toNat).magnitude = x.magnitude := by
  have hbits := toNat_bits_lt hx
  obtain ⟨hfield, hfraction⟩ := fields_ofSign w negative hbits
  have hsame : x.bits.toNat / unit w % twoPow (w.size - w.precision) = x.bits.toNat / unit w := by
    rw [unit_eq]
    cases w <;> simp [Width.size, Width.precision, twoPow] at hbits ⊢ <;> omega
  unfold magnitude
  dsimp only
  rw [show twoPow (w.precision - 1) = unit w from rfl, hfield, hfraction, hsame]

theorem magnitude_ofSign (w : Width) (negative : Bool) {rest : Nat} (h : rest < w.specialField * unit w) :
    (ofSign w negative rest).magnitude =
      if rest < unit w then .finite rest w.leastExponent
      else .finite (unit w + rest % unit w) ((rest / unit w : Nat) - 1 + w.leastExponent) := by
  obtain ⟨hfield, hfraction⟩ := fields_ofSign w negative (h.trans (special_lt_sign w))
  have hpos : 0 < unit w := twoPow_pos _
  have hspecial : ¬rest / unit w = w.specialField := by
    have := (Nat.div_lt_iff_lt_mul hpos).mpr h
    omega
  unfold magnitude
  dsimp only
  rw [show twoPow (w.precision - 1) = unit w from rfl, hfield, hfraction, if_neg hspecial]
  by_cases hlt : rest < unit w
  · rw [if_pos hlt, if_pos (Nat.div_eq_of_lt hlt), Nat.mod_eq_of_lt hlt]
  · rw [if_neg hlt, if_neg (by have := Nat.div_pos (Nat.le_of_not_lt hlt) hpos; omega)]

theorem magnitude_ofSign_special (w : Width) (negative : Bool) :
    (ofSign w negative (w.specialField * unit w)).magnitude = .infinite := by
  cases w <;> cases negative <;> decide +kernel

/-- A word whose field is `k + 1` has the least exponent plus `k`, and a leading bit that its fraction leaves out. -/
theorem magnitude_ofSign_normal (w : Width) (negative : Bool) {k fraction : Nat} (hfraction : fraction < unit w)
    (h : (k + 1) * unit w + fraction < w.specialField * unit w) :
    (ofSign w negative ((k + 1) * unit w + fraction)).magnitude = .finite (unit w + fraction) (k + w.leastExponent) := by
  have hpos : 0 < unit w := twoPow_pos _
  have hnormal : ¬(k + 1) * unit w + fraction < unit w := by
    have hmul := Nat.mul_le_mul_right (unit w) (Nat.le_add_left 1 k)
    omega
  have hfield : ((k + 1) * unit w + fraction) / unit w = k + 1 := by
    rw [Nat.mul_comm, Nat.mul_add_div hpos, Nat.div_eq_of_lt hfraction, Nat.add_zero]
  have hrest : ((k + 1) * unit w + fraction) % unit w = fraction := by
    rw [Nat.mul_comm, Nat.mul_add_mod, Nat.mod_eq_of_lt hfraction]
  rw [magnitude_ofSign w negative h, if_neg hnormal, hfield, hrest, Nat.cast_add_one, add_sub_cancel_right]

/-- A word whose bits below the sign are `steps` steps of the grid that belongs to exponent `e`. -/
theorem exists_magnitude_ofSign (w : Width) (negative : Bool) {e : Int} {steps : Nat} (he : w.leastExponent ≤ e)
    (hsteps : steps ≤ 2 * unit w) (hnormal : e = w.leastExponent ∨ unit w ≤ steps)
    (h : (e - w.leastExponent).toNat * unit w + steps < w.specialField * unit w) :
    ∃ m e', (ofSign w negative ((e - w.leastExponent).toNat * unit w + steps)).magnitude = .finite m e' ∧
      (m * 2 ^ e' : ℚ) = steps * 2 ^ e := by
  obtain ⟨k, rfl⟩ : ∃ k : Nat, e = k + w.leastExponent := ⟨(e - w.leastExponent).toNat, by omega⟩
  have hk : ((k : Int) + w.leastExponent - w.leastExponent).toNat = k := by omega
  rw [hk] at h ⊢
  by_cases hlt : steps < unit w
  · have hzero : k = 0 := by omega
    rw [hzero, Nat.zero_mul, Nat.zero_add] at h ⊢
    rw [magnitude_ofSign w negative h, if_pos hlt, Nat.cast_zero, zero_add]
    exact ⟨_, _, rfl, rfl⟩
  · rcases Nat.lt_or_eq_of_le hsteps with hless | hequal
    · have hsum : k * unit w + steps = (k + 1) * unit w + (steps - unit w) := by
        rw [Nat.add_mul]
        omega
      rw [hsum] at h ⊢
      rw [magnitude_ofSign_normal w negative (by omega) h, Nat.add_sub_cancel' (Nat.le_of_not_lt hlt)]
      exact ⟨_, _, rfl, rfl⟩
    · -- all steps of the grid make the first significand of the next exponent
      have hsum : k * unit w + steps = (k + 1 + 1) * unit w + 0 := by
        rw [hequal, Nat.add_mul, Nat.add_mul]
        omega
      rw [hsum] at h ⊢
      refine ⟨_, _, magnitude_ofSign_normal w negative (twoPow_pos _) h, ?_⟩
      rw [hequal, Nat.cast_add_one, add_right_comm, zpow_add_one₀ two_ne_zero]
      push_cast
      ring

theorem two_zpow_le_div_iff (num : Nat) {den : Nat} (hden : 0 < den) (e : Int) :
    (2 : ℚ) ^ e ≤ num / den ↔ den * twoPow e.toNat ≤ num * twoPow (-e).toNat := by
  have hd : (0 : ℚ) < den := by exact_mod_cast hden
  have ht : (0 : ℚ) < twoPow (-e).toNat := by exact_mod_cast twoPow_pos _
  rw [two_zpow, div_le_div_iff₀ ht hd, mul_comm (twoPow e.toNat : ℚ)]
  exact_mod_cast Iff.rfl

section Nearest

variable {num den : Nat} (hnum : 0 < num) (hden : 0 < den)

include hnum hden in
theorem leadingExponent_spec : (2 : ℚ) ^ leadingExponent num den ≤ num / den ∧
    (num / den : ℚ) < 2 ^ (leadingExponent num den + 1) := by
  have hd : (0 : ℚ) < den := by exact_mod_cast hden
  have hnumLow : (2 : ℚ) ^ (Nat.log2 num : Int) ≤ num := by
    rw [zpow_natCast]
    exact_mod_cast Nat.log2_self_le hnum.ne'
  have hnumHigh : (num : ℚ) < 2 ^ ((Nat.log2 num : Int) + 1) := by
    rw [← Nat.cast_add_one, zpow_natCast]
    exact_mod_cast Nat.lt_log2_self
  have hdenLow : (2 : ℚ) ^ (Nat.log2 den : Int) ≤ den := by
    rw [zpow_natCast]
    exact_mod_cast Nat.log2_self_le hden.ne'
  have hdenHigh : (den : ℚ) < 2 ^ ((Nat.log2 den : Int) + 1) := by
    rw [← Nat.cast_add_one, zpow_natCast]
    exact_mod_cast Nat.lt_log2_self
  have hiff := two_zpow_le_div_iff num hden ((Nat.log2 num : Int) - Nat.log2 den)
  have hlow : (2 : ℚ) ^ ((Nat.log2 num : Int) - Nat.log2 den - 1) ≤ num / den := by
    rw [le_div_iff₀ hd, sub_sub, zpow_sub₀ two_ne_zero, div_mul_eq_mul_div, div_le_iff₀ (by positivity)]
    exact mul_le_mul hnumLow hdenHigh.le hd.le (by positivity)
  have hhigh : (num / den : ℚ) < 2 ^ ((Nat.log2 num : Int) - Nat.log2 den + 1) := by
    rw [div_lt_iff₀ hd, sub_add_eq_add_sub, zpow_sub₀ two_ne_zero, div_mul_eq_mul_div, lt_div_iff₀ (by positivity)]
    exact mul_lt_mul hnumHigh hdenLow (by positivity) (by positivity)
  unfold leadingExponent
  dsimp only
  split
  next h => exact ⟨hiff.mpr h, hhigh⟩
  next h => exact ⟨hlow, by rw [sub_add_cancel]; exact not_le.mp fun hle => h (hiff.mp hle)⟩

/-- The exponent of the unit in the last place of the word nearest to `num / den`. -/
def gridExponent (w : Width) (num den : Nat) : Int :=
  max (leadingExponent num den - (w.precision - 1 : Nat)) w.leastExponent

/-- The number of units that come nearest to `num / den`. -/
def gridSteps (w : Width) (num den : Nat) : Nat :=
  roundDiv .toEven (num * twoPow (-gridExponent w num den).toNat) (den * twoPow (gridExponent w num den).toNat)

/-- The bits of the word nearest to `num / den`, apart from its sign, if no exponent were too large. -/
def gridBits (w : Width) (num den : Nat) : Nat :=
  (gridExponent w num den - w.leastExponent).toNat * unit w + gridSteps w num den

include hnum in
theorem nearest_eq_ofSign (negative : Bool) :
    nearest w negative num den = ofSign w negative (min (gridBits w num den) (w.specialField * unit w)) := by
  rw [nearest, if_neg hnum.ne']
  rfl

theorem leastExponent_le_gridExponent (w : Width) (num den : Nat) : w.leastExponent ≤ gridExponent w num den :=
  le_max_right _ _

theorem cast_unit (w : Width) : (unit w : ℚ) = 2 ^ ((w.precision - 1 : Nat) : Int) := by
  rw [unit, cast_twoPow, zpow_natCast]

variable (num) in
include hden in
theorem div_gridExponent (w : Width) : ((num * twoPow (-gridExponent w num den).toNat : Nat) : ℚ) /
    (den * twoPow (gridExponent w num den).toNat : Nat) = num / den / 2 ^ gridExponent w num den := by
  have hlow : (twoPow (-gridExponent w num den).toNat : ℚ) ≠ 0 := by exact_mod_cast (twoPow_pos _).ne'
  rw [two_zpow]
  push_cast
  field_simp

variable (num) in
include hden in
theorem abs_gridSteps_sub_le (w : Width) :
    |(gridSteps w num den : ℚ) - num / den / 2 ^ gridExponent w num den| ≤ 1 / 2 := by
  have hround := abs_roundDiv_sub_le .toEven (num * twoPow (-gridExponent w num den).toNat)
    (Nat.mul_pos hden (twoPow_pos (gridExponent w num den).toNat))
  rwa [div_gridExponent num hden w] at hround

include hnum hden

theorem lt_of_gridExponent (w : Width) : (num / den : ℚ) < 2 * unit w * 2 ^ gridExponent w num den := by
  refine (leadingExponent_spec hnum hden).2.trans_le ?_
  rw [cast_unit, ← zpow_one_add₀ two_ne_zero, ← zpow_add₀ two_ne_zero]
  have hle : leadingExponent num den - (w.precision - 1 : Nat) ≤ gridExponent w num den := le_max_left _ _
  exact zpow_le_zpow_right₀ one_le_two (by omega)

theorem gridExponent_cases (w : Width) :
    gridExponent w num den = w.leastExponent ∨ unit w * 2 ^ gridExponent w num den ≤ (num / den : ℚ) := by
  rcases le_total (leadingExponent num den - (w.precision - 1 : Nat)) w.leastExponent with hle | hle
  · exact Or.inl (max_eq_right hle)
  · refine Or.inr (le_trans ?_ (leadingExponent_spec hnum hden).1)
    have heq : gridExponent w num den = leadingExponent num den - (w.precision - 1 : Nat) := max_eq_left hle
    rw [cast_unit, ← zpow_add₀ two_ne_zero, heq, add_sub_cancel]

theorem gridSteps_le (w : Width) : gridSteps w num den ≤ 2 * unit w := by
  refine roundDiv_le .toEven _ (Nat.mul_pos hden (twoPow_pos _)) ?_
  have hlt := lt_of_gridExponent hnum hden w
  have hpos : (0 : ℚ) < (den * twoPow (gridExponent w num den).toNat : Nat) := by
    exact_mod_cast Nat.mul_pos hden (twoPow_pos _)
  rw [← div_lt_iff₀ (by positivity), ← div_gridExponent num hden w, div_lt_iff₀ hpos] at hlt
  exact_mod_cast hlt.le

theorem unit_le_gridSteps (w : Width) : gridExponent w num den = w.leastExponent ∨ unit w ≤ gridSteps w num den := by
  refine (gridExponent_cases hnum hden w).imp_right fun hle => le_roundDiv .toEven _ (Nat.mul_pos hden (twoPow_pos _)) ?_
  have hpos : (0 : ℚ) < (den * twoPow (gridExponent w num den).toNat : Nat) := by
    exact_mod_cast Nat.mul_pos hden (twoPow_pos _)
  rw [← le_div_iff₀ (by positivity), ← div_gridExponent num hden w, le_div_iff₀ hpos] at hle
  exact_mod_cast hle

end Nearest

/-- The exponent of the largest finite words. -/
def greatestExponent (w : Width) : Int :=
  w.specialField - 2 + w.leastExponent

/-- Half a unit beyond the largest finite word, where a tie goes to infinity. -/
def limit (w : Width) : ℚ :=
  (2 * unit w - 1 / 2) * 2 ^ greatestExponent w

theorem two_le_specialField (w : Width) : 2 < w.specialField := by
  cases w <;> decide

theorem one_le_unit (w : Width) : (1 : ℚ) ≤ unit w := by
  exact_mod_cast twoPow_pos (w.precision - 1)

section Exponents

variable {num den : Nat} (hnum : 0 < num) (hden : 0 < den)
include hnum hden

theorem exists_magnitude_gridBits (negative : Bool) (h : gridBits w num den < w.specialField * unit w) :
    ∃ m e, (nearest w negative num den).magnitude = .finite m e ∧
      (m * 2 ^ e : ℚ) = gridSteps w num den * 2 ^ gridExponent w num den := by
  rw [nearest_eq_ofSign hnum, Nat.min_eq_left h.le]
  exact exists_magnitude_ofSign w negative (leastExponent_le_gridExponent w num den) (gridSteps_le hnum hden w)
    (unit_le_gridSteps hnum hden w) h

theorem finite_nearest_iff_bits (negative : Bool) :
    (∃ m e, (nearest w negative num den).magnitude = .finite m e) ↔ gridBits w num den < w.specialField * unit w := by
  constructor
  · rintro ⟨m, e, hfinite⟩
    by_contra hge
    rw [nearest_eq_ofSign hnum, Nat.min_eq_right (Nat.le_of_not_lt hge), magnitude_ofSign_special] at hfinite
    cases hfinite
  · intro hlt
    obtain ⟨m, e, hfinite, -⟩ := exists_magnitude_gridBits hnum hden negative hlt
    exact ⟨m, e, hfinite⟩

theorem gridBits_of_lt (h : gridExponent w num den < greatestExponent w) :
    gridBits w num den < w.specialField * unit w ∧ (num / den : ℚ) < limit w := by
  have hspecial := two_le_specialField w
  have hunit := one_le_unit w
  have hleast := leastExponent_le_gridExponent w num den
  constructor
  · have hfield : (gridExponent w num den - w.leastExponent).toNat + 3 ≤ w.specialField := by
      unfold greatestExponent at h
      omega
    have hmul := Nat.mul_le_mul_right (unit w) hfield
    rw [Nat.add_mul] at hmul
    have hsteps := gridSteps_le hnum hden w
    have hpos : 0 < unit w := twoPow_pos _
    unfold gridBits
    omega
  · have hstep : (2 : ℚ) ^ gridExponent w num den * 2 ≤ 2 ^ greatestExponent w := by
      rw [← zpow_add_one₀ two_ne_zero]
      exact zpow_le_zpow_right₀ one_le_two h
    have hpow : (0 : ℚ) < 2 ^ greatestExponent w := by positivity
    have hq := lt_of_gridExponent hnum hden w
    unfold limit
    nlinarith

theorem gridBits_of_gt (h : greatestExponent w < gridExponent w num den) :
    w.specialField * unit w ≤ gridBits w num den ∧ limit w ≤ (num / den : ℚ) := by
  have hspecial := two_le_specialField w
  have hunit := one_le_unit w
  have hne : gridExponent w num den ≠ w.leastExponent := by
    unfold greatestExponent at h
    omega
  constructor
  · have hfield : w.specialField ≤ (gridExponent w num den - w.leastExponent).toNat + 1 := by
      unfold greatestExponent at h
      omega
    have hmul := Nat.mul_le_mul_right (unit w) hfield
    rw [Nat.add_mul] at hmul
    have hsteps := (unit_le_gridSteps hnum hden w).resolve_left hne
    unfold gridBits
    omega
  · have hstep : (2 : ℚ) ^ greatestExponent w * 2 ≤ 2 ^ gridExponent w num den := by
      rw [← zpow_add_one₀ two_ne_zero]
      exact zpow_le_zpow_right₀ one_le_two h
    have hpow : (0 : ℚ) < 2 ^ greatestExponent w := by positivity
    have hq := (gridExponent_cases hnum hden w).resolve_left hne
    unfold limit
    nlinarith

omit hnum in
/-- On the grid of the largest words, rounding stays below the next power of two iff the number is below the limit. -/
theorem gridSteps_lt_iff (h : gridExponent w num den = greatestExponent w) :
    gridSteps w num den < 2 * unit w ↔ (num / den : ℚ) < limit w := by
  have hround := le_roundDiv_toEven_iff (num * twoPow (-gridExponent w num den).toNat)
    (Nat.mul_pos hden (twoPow_pos (gridExponent w num den).toNat)) (n := 2 * unit w) (Nat.mul_mod_right 2 _)
  have hpow : (0 : ℚ) < 2 ^ gridExponent w num den := by positivity
  have hpos : (0 : ℚ) < (den * twoPow (gridExponent w num den).toNat : Nat) := by
    exact_mod_cast Nat.mul_pos hden (twoPow_pos _)
  have hscaled := div_gridExponent num hden w
  rw [← not_le, gridSteps, hround, not_le, limit, ← h, ← div_lt_iff₀ hpow, ← hscaled, div_lt_iff₀ hpos]
  generalize num * twoPow (-gridExponent w num den).toNat = n
  generalize den * twoPow (gridExponent w num den).toNat = d
  have hcast : 2 * n + d < 2 * (2 * unit w) * d ↔ (2 * n + d : ℚ) < 2 * (2 * unit w) * d := by exact_mod_cast Iff.rfl
  rw [hcast]
  constructor <;> intro h <;> linarith

theorem gridBits_lt_iff : gridBits w num den < w.specialField * unit w ↔ (num / den : ℚ) < limit w := by
  rcases lt_trichotomy (gridExponent w num den) (greatestExponent w) with hlt | heq | hgt
  · obtain ⟨hbits, hlimit⟩ := gridBits_of_lt hnum hden hlt
    exact iff_of_true hbits hlimit
  · have hspecial := two_le_specialField w
    have hfield : (gridExponent w num den - w.leastExponent).toNat + 2 = w.specialField := by
      unfold greatestExponent at heq
      omega
    rw [← gridSteps_lt_iff hden heq, gridBits, ← hfield, Nat.add_mul]
    omega
  · obtain ⟨hbits, hlimit⟩ := gridBits_of_gt hnum hden hgt
    exact iff_of_false (Nat.not_lt.mpr hbits) (not_lt.mpr hlimit)

end Exponents

theorem limit_pos (w : Width) : 0 < limit w := by
  have hunit := one_le_unit w
  exact mul_pos (by linarith) (by positivity)

theorem nearest_zero (w : Width) (negative : Bool) (den : Nat) :
    (nearest w negative 0 den).magnitude = .finite 0 w.leastExponent := by
  have hpos : 0 < unit w := twoPow_pos _
  have hspecial := two_le_specialField w
  rw [nearest, if_pos rfl, magnitude_ofSign w negative (Nat.mul_pos (by omega) hpos), if_pos hpos]

theorem isNegative_nearest (w : Width) (negative : Bool) (num den : Nat) :
    (nearest w negative num den).isNegative = negative := by
  rcases Nat.eq_zero_or_pos num with rfl | hnum
  · rw [nearest, if_pos rfl, isNegative_ofSign w negative (twoPow_pos _)]
  · rw [nearest_eq_ofSign hnum, isNegative_ofSign w negative ((Nat.min_le_right _ _).trans_lt (special_lt_sign w))]

/-- Rounding is finite iff the number is closer to the largest finite word than to the next power of two. -/
theorem finite_nearest_iff (w : Width) (negative : Bool) (num : Nat) {den : Nat} (hden : 0 < den) :
    (∃ m e, (nearest w negative num den).magnitude = .finite m e) ↔ (num / den : ℚ) < limit w := by
  rcases Nat.eq_zero_or_pos num with rfl | hnum
  · refine iff_of_true ⟨_, _, nearest_zero w negative den⟩ ?_
    rw [Nat.cast_zero, zero_div]
    exact limit_pos w
  · rw [finite_nearest_iff_bits hnum hden, gridBits_lt_iff hnum hden]

theorem value_nearest (w : Width) (negative : Bool) {num den : Nat} (hnum : 0 < num) (hden : 0 < den)
    (h : (num / den : ℚ) < limit w) :
    (nearest w negative num den).magnitude.value = gridSteps w num den * 2 ^ gridExponent w num den := by
  obtain ⟨m, e, hfinite, hvalue⟩ := exists_magnitude_gridBits hnum hden negative ((gridBits_lt_iff hnum hden).mpr h)
  rw [hfinite, Magnitude.value, hvalue]

theorem abs_value_nearest_sub_le (w : Width) (negative : Bool) {num den : Nat} (hnum : 0 < num) (hden : 0 < den)
    (h : (num / den : ℚ) < limit w) :
    |(nearest w negative num den).magnitude.value - num / den| ≤ 2 ^ gridExponent w num den / 2 := by
  have hpow : (0 : ℚ) < 2 ^ gridExponent w num den := by positivity
  have hsteps := abs_gridSteps_sub_le num hden w
  rw [value_nearest w negative hnum hden h]
  have hscaled : (num / den : ℚ) = num / den / 2 ^ gridExponent w num den * 2 ^ gridExponent w num den := by
    field_simp
  rw [hscaled, ← sub_mul, abs_mul, abs_of_pos hpow]
  linarith [mul_le_mul_of_nonneg_right hsteps hpow.le]

/-- Rounding a number that is not too small for all bits of a significand errs by less than the last of them. -/
theorem relative_error_nearest (w : Width) (negative : Bool) (num : Nat) {den : Nat} (hden : 0 < den)
    (hlow : num = 0 ∨ unit w * 2 ^ w.leastExponent ≤ (num / den : ℚ)) (h : (num / den : ℚ) < limit w) :
    |(nearest w negative num den).magnitude.value - num / den| ≤ num / den / (2 * unit w) := by
  have hunit := one_le_unit w
  rcases Nat.eq_zero_or_pos num with rfl | hnum
  · rw [nearest_zero, Magnitude.value, Nat.cast_zero, zero_mul, zero_div, sub_zero, abs_zero, zero_div]
  · refine (abs_value_nearest_sub_le w negative hnum hden h).trans ?_
    have hgrid : unit w * 2 ^ gridExponent w num den ≤ (num / den : ℚ) := by
      rcases gridExponent_cases hnum hden w with hleast | hle
      · rw [hleast]
        exact hlow.resolve_left hnum.ne'
      · exact hle
    rw [div_le_div_iff₀ two_pos (by linarith)]
    linarith

theorem gridExponent_le_of_word {num den m : Nat} {e : Int} (hnum : 0 < num) (hden : 0 < den) (hm : m < 2 * unit w)
    (he : w.leastExponent ≤ e) (hvalue : (num / den : ℚ) = m * 2 ^ e) : gridExponent w num den ≤ e := by
  rcases gridExponent_cases hnum hden w with hleast | hle
  · rwa [hleast]
  · by_contra hgt
    have hstep : (2 : ℚ) ^ e * 2 ≤ 2 ^ gridExponent w num den := by
      rw [← zpow_add_one₀ two_ne_zero]
      exact zpow_le_zpow_right₀ one_le_two (by omega)
    have hpow : (0 : ℚ) < 2 ^ e := by positivity
    have hm' : (m : ℚ) < 2 * unit w := by exact_mod_cast hm
    have hunit := one_le_unit w
    rw [hvalue] at hle
    nlinarith

theorem gridSteps_eq {num den n : Nat} (hden : 0 < den) (h : (num / den / 2 ^ gridExponent w num den : ℚ) = n) :
    gridSteps w num den = n := by
  have hsteps := abs_gridSteps_sub_le num hden w
  rw [h] at hsteps
  have hless : |((gridSteps w num den : Int) - n : Int)| < 1 := by
    exact_mod_cast hsteps.trans_lt (by norm_num : (1 / 2 : ℚ) < 1)
  have hzero := Int.abs_lt_one_iff.mp hless
  omega

/-- A quotient that is a word already is rounded to itself. -/
theorem value_nearest_of_word (w : Width) (negative : Bool) {num den : Nat} (hden : 0 < den)
    (h : (num / den : ℚ) < limit w) {m : Nat} {e : Int} (hm : m < 2 * unit w) (he : w.leastExponent ≤ e)
    (hvalue : (num / den : ℚ) = m * 2 ^ e) :
    (nearest w negative num den).magnitude.value = num / den := by
  rcases Nat.eq_zero_or_pos num with rfl | hnum
  · rw [nearest_zero, Magnitude.value, Nat.cast_zero, zero_mul, zero_div]
  · -- the grid of the number is as fine as the word's or finer, so that the word is a whole number of its steps
    have hgrid := gridExponent_le_of_word hnum hden hm he hvalue
    obtain ⟨k, hk⟩ : ∃ k : Nat, e = gridExponent w num den + k := ⟨(e - gridExponent w num den).toNat, by omega⟩
    have hscaled : (num / den / 2 ^ gridExponent w num den : ℚ) = (m * 2 ^ k : Nat) := by
      rw [hvalue, hk, zpow_add₀ two_ne_zero, zpow_natCast]
      push_cast
      field_simp
    rw [value_nearest w negative hnum hden h, gridSteps_eq hden hscaled, ← hscaled]
    field_simp

/-- Numbers of the size of a whole significand and beyond are rounded to integers. -/
theorem value_nearest_integral (w : Width) (negative : Bool) {num den : Nat} (hden : 0 < den)
    (h : (num / den : ℚ) < limit w) (hlow : (unit w : ℚ) ≤ num / den) :
    ∃ n : Nat, (nearest w negative num den).magnitude.value = n := by
  have hunit := one_le_unit w
  have hnum : 0 < num := by
    rcases Nat.eq_zero_or_pos num with rfl | hnum
    · rw [Nat.cast_zero, zero_div] at hlow
      linarith
    · exact hnum
  have hgrid : 0 ≤ gridExponent w num den := by
    by_contra hneg
    have hpow : (2 : ℚ) ^ gridExponent w num den * 2 ≤ 1 := by
      rw [← zpow_add_one₀ two_ne_zero]
      exact zpow_le_one_of_nonpos₀ one_le_two (by omega)
    have hq := lt_of_gridExponent hnum hden w
    nlinarith
  obtain ⟨k, hk⟩ := Int.eq_ofNat_of_zero_le hgrid
  refine ⟨gridSteps w num den * 2 ^ k, ?_⟩
  rw [value_nearest w negative hnum hden h, hk, zpow_natCast]
  push_cast
  rfl

theorem bounds_of_finite {x : Binary w} {m : Nat} {e : Int} (hx : x.magnitude = .finite m e) :
    m < 2 * unit w ∧ w.leastExponent ≤ e ∧ e ≤ greatestExponent w := by
  have hpos : 0 < unit w := twoPow_pos _
  have hspecial := two_le_specialField w
  have hfraction := Nat.mod_lt x.bits.toNat hpos
  have hfield := Nat.mod_lt (x.bits.toNat / unit w) (twoPow_pos (w.size - w.precision))
  have htop : w.specialField = twoPow (w.size - w.precision) - 1 := rfl
  unfold magnitude at hx
  dsimp only at hx
  rw [show twoPow (w.precision - 1) = unit w from rfl] at hx
  unfold greatestExponent
  split at hx
  next => split at hx <;> cases hx
  next =>
    split at hx
    next =>
      cases hx
      omega
    next =>
      cases hx
      omega

theorem value_lt_of_finite {x : Binary w} {m : Nat} {e : Int} (hx : x.magnitude = .finite m e) :
    x.magnitude.value < 2 * unit w * 2 ^ greatestExponent w := by
  obtain ⟨hm, -, he⟩ := bounds_of_finite hx
  have hm' : (m : ℚ) < 2 * unit w := by exact_mod_cast hm
  have hpow : (2 : ℚ) ^ e ≤ 2 ^ greatestExponent w := zpow_le_zpow_right₀ one_le_two he
  rw [hx, Magnitude.value]
  exact mul_lt_mul hm' hpow (by positivity) (by positivity)

theorem ratio_mul_value (m n : Nat) (e f : Int) :
    (((ratio m e).1 * (ratio n f).1 : Nat) : ℚ) / ((ratio m e).2 * (ratio n f).2 : Nat) = m * 2 ^ e * (n * 2 ^ f) := by
  rw [Nat.cast_mul, Nat.cast_mul, mul_div_mul_comm, ratio_value, ratio_value]

theorem times_of_finite {x y : Binary w} {m n : Nat} {e f : Int} (hx : x.magnitude = .finite m e)
    (hy : y.magnitude = .finite n f) :
    x.times y = nearest w (x.isNegative != y.isNegative) ((ratio m e).1 * (ratio n f).1)
      ((ratio m e).2 * (ratio n f).2) := by
  rw [times, hx, hy]

theorem finite_times_iff {x y : Binary w} (hx : ∃ m e, x.magnitude = .finite m e) (hy : ∃ m e, y.magnitude = .finite m e) :
    (∃ m e, (x.times y).magnitude = .finite m e) ↔ x.magnitude.value * y.magnitude.value < limit w := by
  obtain ⟨m, e, hx⟩ := hx
  obtain ⟨n, f, hy⟩ := hy
  rw [times_of_finite hx hy, finite_nearest_iff w _ _ (Nat.mul_pos (ratio_pos m e) (ratio_pos n f)), ratio_mul_value, hx,
    hy, Magnitude.value, Magnitude.value]

theorem value_times_integral {x y : Binary w} (hx : ∃ m e, x.magnitude = .finite m e)
    (hy : ∃ m e, y.magnitude = .finite m e) (h : x.magnitude.value * y.magnitude.value < limit w)
    (hlow : (unit w : ℚ) ≤ x.magnitude.value * y.magnitude.value) : ∃ n : Nat, (x.times y).magnitude.value = n := by
  obtain ⟨m, e, hx⟩ := hx
  obtain ⟨n, f, hy⟩ := hy
  rw [hx, hy, Magnitude.value, Magnitude.value, ← ratio_mul_value] at h hlow
  rw [times_of_finite hx hy]
  exact value_nearest_integral w _ (Nat.mul_pos (ratio_pos m e) (ratio_pos n f)) h hlow

end Binary

end StructuredMessage
