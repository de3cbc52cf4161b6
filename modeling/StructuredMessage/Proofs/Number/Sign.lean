import StructuredMessage.Proofs.Number.Alike
import StructuredMessage.Proofs.Number.Unsigned

namespace StructuredMessage

namespace Binary

section Nearest

variable {w : Width} {num den : Nat} (hnum : 0 < num) (hden : 0 < den)
include hnum hden

theorem gridSteps_pos (hlow : (2 : ℚ) ^ w.leastExponent ≤ num / den) : 0 < gridSteps w num den := by
  rcases unit_le_gridSteps hnum hden w with hleast | hle
  · have hpow : (0 : ℚ) < 2 ^ w.leastExponent := by positivity
    have hnear := (abs_le.mp (abs_gridSteps_sub_le num hden w)).1
    rw [hleast] at hnear
    have hone : 1 ≤ (num / den : ℚ) / 2 ^ w.leastExponent := (one_le_div hpow).mpr hlow
    have hpos : (0 : ℚ) < gridSteps w num den := by linarith
    exact_mod_cast hpos
  · exact (twoPow_pos _).trans_le hle

theorem magnitude_nearest_of_limit_le (negative : Bool) (h : limit w ≤ (num / den : ℚ)) :
    (nearest w negative num den).magnitude = .infinite := by
  have hbits : w.specialField * unit w ≤ gridBits w num den := by
    by_contra hlt
    exact absurd ((gridBits_lt_iff hnum hden).mp (not_le.mp hlt)) (not_lt.mpr h)
  rw [nearest_eq_ofSign hnum, Nat.min_eq_right hbits, magnitude_ofSign_special]

/-- A number that is not too small for a word is below zero as a word if it is to have the sign. -/
theorem isBelowZero_nearest (negative : Bool) (hlow : (2 : ℚ) ^ w.leastExponent ≤ num / den) :
    (nearest w negative num den).isBelowZero = negative := by
  have hsteps : (0 : ℚ) < gridSteps w num den := by exact_mod_cast gridSteps_pos hnum hden hlow
  have hpow : (0 : ℚ) < 2 ^ gridExponent w num den := by positivity
  rw [isBelowZero, isNegative_nearest]
  by_cases hlimit : (num / den : ℚ) < limit w
  · obtain ⟨m, e, hfinite⟩ := (finite_nearest_iff w negative num hden).mpr hlimit
    have hvalue := value_nearest w negative hnum hden hlimit
    have hnonzero : ¬(nearest w negative num den).isZero = true := by
      rw [isZero_iff ⟨m, e, hfinite⟩, hvalue]
      positivity
    rw [Bool.not_eq_true] at hnonzero
    rw [hnonzero, isNaN, hfinite]
    simp
  · have hinfinite := magnitude_nearest_of_limit_le hnum hden negative (not_lt.mp hlimit)
    rw [isNaN, isZero, hinfinite]
    simp

end Nearest

theorem isBelowZero_times_hundred {x : Binary .double} (hx : ∃ m e, x.magnitude = .finite m e) :
    (x.times (ofInt .double 100)).isBelowZero = x.isBelowZero := by
  have hpositive : (ofInt .double 100).isNegative = false := by decide +kernel
  obtain ⟨m, e, hx⟩ := hx
  obtain ⟨-, hexponent, -⟩ := bounds_of_finite hx
  rw [times_of_finite hx Number.magnitude_ofInt_hundred, hpositive, Bool.bne_false]
  rcases Nat.eq_zero_or_pos m with rfl | hm
  · have hzero (den : Nat) : (nearest .double x.isNegative 0 den).isZero = true := by
      rw [isZero, nearest_zero]
      rfl
    have hnone : (ratio 0 e).1 * (ratio 7036874417766400 (-46)).1 = 0 := by simp [ratio]
    rw [hnone, isBelowZero, hzero, isBelowZero, isZero, hx]
    simp
  · have hnum : 0 < (ratio m e).1 * (ratio 7036874417766400 (-46)).1 :=
      Nat.mul_pos (Nat.mul_pos hm (twoPow_pos _)) (by decide)
    rw [isBelowZero_nearest hnum (Nat.mul_pos (ratio_pos m e) (ratio_pos _ _)), isBelowZero, isNaN, isZero, hx]
    · cases m with
      | zero => exact absurd hm (Nat.lt_irrefl 0)
      | succ m => simp
    · have hpow : (2 : ℚ) ^ Width.double.leastExponent ≤ 2 ^ e := zpow_le_zpow_right₀ one_le_two hexponent
      have hone : (1 : ℚ) ≤ m := by exact_mod_cast hm
      have hpos : (0 : ℚ) < 2 ^ e := by positivity
      rw [ratio_mul_value]
      norm_num
      nlinarith

/-- The first digit of a number that is not zero is not zero. -/
theorem any_scientificDigits {w : Width} {x : Binary w} (hx : ∃ m e, x.magnitude = .finite m e) (hzero : x.isZero = false)
    (k : Nat) : (x.scientificDigits k).1.any (· != '0') = true := by
  obtain ⟨m, e, hx⟩ := hx
  have hm : 0 < m := by
    refine Nat.pos_of_ne_zero fun hm => ?_
    rw [isZero, hx, hm] at hzero
    exact Bool.noConfusion hzero
  have hnum : 0 < (ratio m e).1 := Nat.mul_pos hm (twoPow_pos _)
  have hdigits {n : Nat} (hn : 0 < n) : (Numeral.digits n).any (· != '0') = true := by
    have hall : ¬(Numeral.digits n).all (· == '0') = true := fun h => hn.ne' ((Numeral.digits_all_zero_iff n).mp h)
    simpa [List.any_eq_true, List.all_eq_true] using hall
  obtain ⟨hlow, -⟩ := Shortest.leadingExponent_spec hnum (ratio_pos m e)
  have hleast := le_tenthSteps (ratio m e).1 (ratio_pos m e) (Shortest.leadingExponent (ratio m e).1 (ratio m e).2 - k)
    (k := k) (by rwa [sub_add_cancel])
  have hone := tenPow_pos k
  rw [scientificDigits_of_pos hx hm]
  dsimp only
  split
  next => exact hdigits (hone.trans_le hleast)
  next hcarry =>
    have hten : tenPow (k + 1) = tenPow k * 10 := rfl
    exact hdigits (by omega)

end Binary

namespace Number

variable {x : Number}

theorem isNegative_iff_of_value {x y : Number} (hx : x.IsFinite) (hy : y.IsFinite) (h : y.value < 0 ↔ x.value < 0) :
    y.isNegative = x.isNegative := by
  rw [Bool.eq_iff_iff, isNegative_iff hx, isNegative_iff hy, h]

/-- A hundred times a number has its sign, also where the product is infinite. -/
theorem isNegative_timesHundred (hx : x.IsFinite) (hrange : x.InRange) : x.timesHundred.isNegative = x.isNegative := by
  have hexact (hexact : x.IsExact) : x.timesHundred.isNegative = x.isNegative := by
    refine isNegative_iff_of_value hx (isFinite_timesHundred hexact hrange) ?_
    by_cases hroom : x.HasRoom
    · rw [(value_timesHundred_of_hasRoom hroom).2]
      constructor <;> intro h <;> linarith
    · obtain ⟨y, hy, happrox, -⟩ := timesHundred_approximates hexact hrange hroom
      rw [hy, value, happrox.neg_iff (by norm_num)]
      constructor <;> intro h <;> linarith
  cases x with
  | integer signed bits n => exact hexact trivial
  | decimal y => exact hexact trivial
  | double y => exact Binary.isBelowZero_times_hundred hx
  | single y =>
    obtain ⟨hfinite, hvalue⟩ := Binary.value_widened hx
    have hwidened : (double y.widened).isNegative = (single y).isNegative := by
      refine isNegative_iff_of_value (x := single y) hx hfinite ?_
      rw [value, value, Binary.value, Binary.value, Binary.isNegative_widened hx, hvalue]
    exact (Binary.isBelowZero_times_hundred hfinite).trans hwidened

theorem isZero_toDouble (hx : x.IsFinite) (hrange : x.InRange) : x.toDouble.isZero = x.isZero := by
  have hexact (hexact : x.IsExact) : x.toDouble.isZero = x.isZero := by
    have hclose := (approximates_toDouble hexact hrange).close
    rw [Bool.eq_iff_iff, hclose.isZero_iff (abs_nonneg _) (by norm_num [Decimal.conversionError]), isZero_iff hx, abs_eq_zero]
  cases x with
  | integer signed bits n => exact hexact trivial
  | decimal y => exact hexact trivial
  | double y => rfl
  | single y =>
    obtain ⟨hfinite, hvalue⟩ := Binary.value_widened hx
    rw [toDouble, isZero, Bool.eq_iff_iff, Binary.isZero_iff hfinite, Binary.isZero_iff hx, hvalue]

/-- Rounded digits have a sign iff the number is below zero and something is left of it. -/
theorem fixed_negative_iff_round (hx : x.IsFinite) (k : Nat) :
    (x.fixed k).negative = true ↔ x.value < 0 ∧ 0 < x.tie.round (|x.value| * 10 ^ k) := by
  rw [fixed_eq_ofScaled hx, Digits.settled_ofScaled, Digits.ofScaled_negative, Bool.and_eq_true, isNegative_iff hx,
    bne_iff_ne, Nat.pos_iff_ne_zero]

/-- The name of an infinity keeps its sign. -/
theorem fixed_negative_of_not_isFinite (hx : ¬x.IsFinite) (k : Nat) : (x.fixed k).negative = x.isNegative := by
  have hname {w : Width} {y : Binary w} (hy : ¬∃ m e, y.magnitude = .finite m e) :
      Digits.isZero ⟨y.isBelowZero, (y.fixedDigits k).1, (y.fixedDigits k).2⟩ = false := by
    unfold Binary.fixedDigits
    cases hmagnitude : y.magnitude with
    | finite m e => exact absurd ⟨m, e, hmagnitude⟩ hy
    | infinite => rfl
    | nan => rfl
  cases x with
  | integer signed bits n => exact absurd trivial hx
  | decimal y => exact absurd trivial hx
  | single y => simp only [fixed, isNegative, Digits.settled, hname hx, Bool.false_eq_true, if_false]
  | double y => simp only [fixed, isNegative, Digits.settled, hname hx, Bool.false_eq_true, if_false]

theorem isNegative_generalRendition (hx : x.IsFinite) : x.generalRendition.isNegative = x.isNegative := by
  cases x with
  | integer signed bits n =>
    rw [generalRendition, Rendition.isNegative, fixed_integer]
    rfl
  | decimal y => rfl
  | single y =>
    obtain ⟨m, e, hy⟩ := hx
    exact Binary.isNegative_generalRendition hy
  | double y =>
    obtain ⟨m, e, hy⟩ := hx
    exact Binary.isNegative_generalRendition hy

theorem isNegative_scientificRendition (hx : x.IsFinite) (hrange : x.InRange) (mark : Char) (k : Nat) :
    (x.scientificRendition mark k).isNegative = x.isNegative := by
  rw [scientificRendition, Rendition.isNegative]
  cases hnegative : x.isNegative with
  | false => rw [Bool.false_and]
  | true =>
    have hnonzero : x.isZero = false := by
      rw [Bool.eq_false_iff, Ne, isZero_iff hx]
      exact ((isNegative_iff hx).mp hnegative).ne
    rw [Bool.true_and]
    exact Binary.any_scientificDigits (isFinite_toDouble hx hrange) (by rw [isZero_toDouble hx hrange, hnonzero]) k

/-- The number whose digits a format shows up to a last place, and how many of them stand behind the point. The general
form and scientific notation start from the first digit instead, and an integer has no digits to lose. -/
def shownTo? (x : Number) (format : Option String) : Option (Number × Nat) :=
  let pattern := (format.getD "").toList
  if pattern.isEmpty then none
  else
    match Standard.read? pattern with
    | some standardFormat =>
      if standardFormat.letter ∈ ['F', 'f', 'N', 'n'] then some (x, standardFormat.precision.getD 2)
      else if standardFormat.letter ∈ ['P', 'p'] then some (x.timesHundred, standardFormat.precision.getD 2)
      else none
    | none =>
      let items := Pattern.chosenItems pattern x
      some (Pattern.scaled items x, (Pattern.layout items).maxFraction)

/-- The number is below zero and, where it is rounded to a last place, still is after that. A product that is infinite is
not rounded. -/
def ShownBelowZero (x : Number) (format : Option String) : Prop :=
  x.value < 0 ∧ ∀ y k, x.shownTo? format = some (y, k) → y.IsFinite → 0 < y.tie.round (|y.value| * 10 ^ k)

section Shown

variable {format : Option String}

theorem shownBelowZero_of_none (h : x.shownTo? format = none) : x.ShownBelowZero format ↔ x.value < 0 := by
  rw [ShownBelowZero, h]
  simp

theorem shownBelowZero_of_some {y : Number} {k : Nat} (h : x.shownTo? format = some (y, k)) :
    x.ShownBelowZero format ↔ x.value < 0 ∧ (y.IsFinite → 0 < y.tie.round (|y.value| * 10 ^ k)) := by
  rw [ShownBelowZero, h]
  simp

/-- The sign of the number, or of a hundred times it, when it is rounded. -/
theorem fixed_negative_iff_shownBelowZero (hx : x.IsFinite) {y : Number} (hsign : y.isNegative = x.isNegative) {k : Nat}
    (h : x.shownTo? format = some (y, k)) : (y.fixed k).negative = true ↔ x.ShownBelowZero format := by
  rw [shownBelowZero_of_some h, ← isNegative_iff hx, ← hsign]
  by_cases hy : y.IsFinite
  · rw [fixed_negative_iff_round hy, isNegative_iff hy, forall_prop_of_true hy]
  · rw [fixed_negative_of_not_isFinite hy, forall_prop_of_false hy, and_true]

theorem isNegative_standardRendition_iff (hx : x.IsFinite) (hrange : x.InRange) {standardFormat : Standard}
    (hread : Standard.read? (format.getD "").toList = some standardFormat) (hword : ¬x.InWord standardFormat) :
    (x.standardRendition standardFormat).isNegative = true ↔ x.ShownBelowZero format := by
  have hchars := Standard.isEmpty_of_read? hread
  have hshown : x.shownTo? format =
      if standardFormat.letter ∈ ['F', 'f', 'N', 'n'] then some (x, standardFormat.precision.getD 2)
      else if standardFormat.letter ∈ ['P', 'p'] then some (x.timesHundred, standardFormat.precision.getD 2)
      else none := by
    simp only [shownTo?, hchars, hread, Bool.false_eq_true, if_false]
  by_cases hplaces : standardFormat.letter ∈ ['F', 'f', 'N', 'n']
  · rw [if_pos hplaces] at hshown
    rw [← fixed_negative_iff_shownBelowZero hx rfl hshown, standardRendition_positional x hplaces, Rendition.isNegative]
  rw [if_neg hplaces] at hshown
  by_cases hpercent : standardFormat.letter ∈ ['P', 'p']
  · rw [if_pos hpercent] at hshown
    rw [← fixed_negative_iff_shownBelowZero hx (isNegative_timesHundred hx hrange) hshown,
      standardRendition_percent x standardFormat (by simpa using hpercent), Rendition.isNegative]
  rw [if_neg hpercent] at hshown
  rw [shownBelowZero_of_none hshown, ← isNegative_iff hx]
  by_cases hscientific : standardFormat.letter ∈ ['E', 'e']
  · rw [standardRendition_scientific x hscientific, isNegative_scientificRendition hx hrange]
  have hletter : standardFormat.letter ∉ ['F', 'f', 'N', 'n', 'P', 'p', 'E', 'e'] := by simp_all
  by_cases hinteger : ∃ signed bits n, x = integer signed bits n
  · obtain ⟨signed, bits, n, rfl⟩ := hinteger
    by_cases hpadded : standardFormat.letter ∈ ['D', 'd']
    · rw [standardRendition_padded _ _ _ hpadded, Rendition.isNegative, isNegative]
    · have hnoword : standardFormat.letter ∉ ['X', 'x'] := fun hmem => hword ⟨hmem, _, _, _, rfl⟩
      have hwhole : standardFormat.letter ∉ ['D', 'd', 'X', 'x'] := by simp_all
      rw [standardRendition_general _ hletter fun hmem => absurd hmem hwhole, isNegative_generalRendition hx]
  · rw [standardRendition_general x hletter fun _ signed bits n h => hinteger ⟨signed, bits, n, h⟩,
      isNegative_generalRendition hx]

/-- A text begins with the sign iff the number is still below zero as it is shown. -/
theorem isNegative_rendition_iff (hx : x.IsFinite) (hrange : x.InRange)
    (hword : ∀ standardFormat, Standard.read? (format.getD "").toList = some standardFormat → ¬x.InWord standardFormat)
    (hsection : Standard.read? (format.getD "").toList = none →
      (Pattern.choose (Pattern.sections (format.getD "").toList) x).2 = false) :
    (x.rendition format).isNegative = true ↔ x.ShownBelowZero format := by
  unfold rendition
  dsimp only
  split
  next hempty =>
    have hshown : x.shownTo? format = none := by rw [shownTo?, if_pos hempty]
    rw [shownBelowZero_of_none hshown, isNegative_generalRendition hx, isNegative_iff hx]
  next hchars =>
    cases hread : Standard.read? (format.getD "").toList with
    | some standardFormat => exact isNegative_standardRendition_iff hx hrange hread (hword _ hread)
    | none =>
      have hshown : x.shownTo? format = some (Pattern.scaled (Pattern.chosenItems (format.getD "").toList x) x,
          (Pattern.layout (Pattern.chosenItems (format.getD "").toList x)).maxFraction) := by
        rw [shownTo?, if_neg hchars, hread]
      have hsign : (Pattern.scaled (Pattern.chosenItems (format.getD "").toList x) x).isNegative = x.isNegative := by
        unfold Pattern.scaled
        split
        next => exact isNegative_timesHundred hx hrange
        next => rfl
      dsimp only [Rendition.isNegative]
      rw [hsection hread, Bool.not_false, Bool.and_true]
      exact fixed_negative_iff_shownBelowZero hx hsign hshown

end Shown

end Number

theorem IntegerType.isSigned_wider (t : IntegerType) : t.wider.isSigned = t.isSigned ∨ t = i128 := by
  cases t <;> decide

namespace Scalar

/-- The magnitude of a number in its own type; that of a lowest integer is in the next wider one. -/
def unsigned : Scalar → Scalar
  | integer n => integer n.unsigned
  | single y => single y.unsigned
  | double y => double y.unsigned
  | decimal y => decimal y.unsigned
  | s => s

theorem exists_isUnsigned {s : Scalar} {x : Number} (hx : s.number? = some x) :
    ∃ y, s.unsigned.number? = some y ∧ x.IsUnsigned y := by
  cases s with
  | integer n =>
    cases hx
    refine ⟨_, rfl, ?_⟩
    have hfits := n.fits
    have hvalue : n.unsigned.value = n.value.natAbs := by
      unfold Integer.unsigned
      split <;> rfl
    have hsigned : n.unsigned.type.isSigned = n.type.isSigned ∨ n.value = -2 ^ 127 := by
      unfold Integer.unsigned
      split
      next => exact Or.inl rfl
      next hlowest =>
        refine n.type.isSigned_wider.imp_right fun htype => ?_
        rw [htype] at hfits hlowest
        simp only [IntegerType.lowest, IntegerType.highest, IntegerType.isSigned, IntegerType.bits, twoPow, Nat.pow_eq] at hfits hlowest
        omega
    rw [Number.ofInteger.eq_def n.unsigned, hvalue]
    exact .integer _ _ _ _ _ hsigned
  | single y => cases hx; exact ⟨_, rfl, .single y.magnitude_unsigned y.isNegative_unsigned⟩
  | double y => cases hx; exact ⟨_, rfl, .double y.magnitude_unsigned y.isNegative_unsigned⟩
  | decimal y => cases hx; exact ⟨_, rfl, .decimal y⟩
  | _ => cases hx

end Scalar

end StructuredMessage
