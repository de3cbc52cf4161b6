import StructuredMessage.Proofs.Number.Rendition

namespace StructuredMessage

namespace IntegerType

/-- The type that holds the magnitude of the lowest value. -/
def wider : IntegerType → IntegerType
  | i8 => i16
  | i16 => i32
  | i32 => i64
  | i64 => i128
  | i128 => u128
  | t => t

theorem lowest_le_zero (t : IntegerType) : t.lowest ≤ 0 := by
  cases t <;> decide

theorem neg_lowest_le_wider (t : IntegerType) : -t.lowest ≤ t.wider.highest ∧ t.highest ≤ t.wider.highest := by
  cases t <;> decide

end IntegerType

namespace Integer

/-- The magnitude, in the same type if that holds it and in the next wider one otherwise. -/
def unsigned (n : Integer) : Integer :=
  have hlowest := n.type.lowest_le_zero
  if h : (n.value.natAbs : Int) ≤ n.type.highest then ⟨n.type, n.value.natAbs, by omega, h⟩
  else
    ⟨n.type.wider, n.value.natAbs, by
      have hwider := n.type.neg_lowest_le_wider
      have hfits := n.fits
      have hzero := n.type.wider.lowest_le_zero
      omega⟩

end Integer

namespace Binary

variable {w : Width}

/-- The word with its sign bit cleared. -/
def unsigned (x : Binary w) : Binary w :=
  ofSign w false (x.bits.toNat % twoPow (w.size - 1))

theorem magnitude_ofSign_eq (w : Width) (negative other : Bool) {rest : Nat} (h : rest < twoPow (w.size - 1)) :
    (ofSign w negative rest).magnitude = (ofSign w other rest).magnitude := by
  obtain ⟨hfield, hfraction⟩ := fields_ofSign w negative h
  obtain ⟨hfield', hfraction'⟩ := fields_ofSign w other h
  unfold unit at hfield hfraction hfield' hfraction'
  unfold magnitude
  dsimp only
  rw [hfield, hfraction, hfield', hfraction']

theorem eq_ofSign (x : Binary w) : x = ofSign w x.isNegative (x.bits.toNat % twoPow (w.size - 1)) := by
  have hrest : x.bits.toNat % twoPow (w.size - 1) < twoPow (w.size - 1) := Nat.mod_lt _ (twoPow_pos _)
  have hbits : x.bits.toNat = (ofSign w x.isNegative (x.bits.toNat % twoPow (w.size - 1))).bits.toNat := by
    have hlt := x.bits.isLt
    rw [toNat_bits_ofSign w x.isNegative hrest, isNegative, BitVec.msb_eq_decide]
    by_cases hsign : 2 ^ (w.size - 1) ≤ x.bits.toNat
    · rw [decide_eq_true hsign, if_pos rfl]
      cases w <;> simp only [Width.size, twoPow, Nat.pow_eq] at hlt hsign ⊢ <;> omega
    · rw [decide_eq_false hsign, if_neg Bool.false_ne_true]
      cases w <;> simp only [Width.size, twoPow, Nat.pow_eq] at hlt hsign ⊢ <;> omega
  exact congrArg Binary.mk (BitVec.eq_of_toNat_eq hbits)

theorem magnitude_unsigned (x : Binary w) : x.unsigned.magnitude = x.magnitude := by
  have hrest : x.bits.toNat % twoPow (w.size - 1) < twoPow (w.size - 1) := Nat.mod_lt _ (twoPow_pos _)
  conv_rhs => rw [x.eq_ofSign]
  exact magnitude_ofSign_eq w _ _ hrest

theorem isNegative_unsigned (x : Binary w) : x.unsigned.isNegative = false :=
  isNegative_ofSign w false (Nat.mod_lt _ (twoPow_pos _))

/-- Rounding to a word treats both signs alike. -/
theorem magnitude_nearest_eq (w : Width) (negative other : Bool) (num den : Nat) :
    (nearest w negative num den).magnitude = (nearest w other num den).magnitude := by
  rcases Nat.eq_zero_or_pos num with rfl | hnum
  · rw [nearest_zero, nearest_zero]
  · rw [nearest_eq_ofSign hnum, nearest_eq_ofSign hnum]
    exact magnitude_ofSign_eq w _ _ ((Nat.min_le_right _ _).trans_lt (special_lt_sign w))

theorem isZero_congr {x y : Binary w} (h : y.magnitude = x.magnitude) : y.isZero = x.isZero := by
  rw [isZero, isZero, h]

theorem isBelowZero_of_isNegative {x : Binary w} (h : x.isNegative = false) : x.isBelowZero = false := by
  rw [isBelowZero, h, Bool.false_and, Bool.false_and]

/-- Words of one magnitude have products of one magnitude. -/
theorem magnitude_times_congr {x y z : Binary w} (hx : ∃ m e, x.magnitude = .finite m e) (h : y.magnitude = x.magnitude)
    (hz : ∃ m e, z.magnitude = .finite m e) : (y.times z).magnitude = (x.times z).magnitude := by
  obtain ⟨m, e, hx⟩ := hx
  obtain ⟨n, f, hz⟩ := hz
  rw [times_of_finite hx hz, times_of_finite (h.trans hx) hz]
  exact magnitude_nearest_eq w _ _ _ _

theorem isNegative_times {x z : Binary w} (hx : ∃ m e, x.magnitude = .finite m e) (hz : ∃ m e, z.magnitude = .finite m e) :
    (x.times z).isNegative = (x.isNegative != z.isNegative) := by
  obtain ⟨m, e, hx⟩ := hx
  obtain ⟨n, f, hz⟩ := hz
  rw [times_of_finite hx hz, isNegative_nearest]

theorem magnitude_ofInt_natAbs (w : Width) (n : Int) : (ofInt w n.natAbs).magnitude = (ofInt w n).magnitude := by
  rw [ofInt, ofInt, Int.natAbs_natCast]
  exact magnitude_nearest_eq w _ _ _ _

theorem widened_eq_nearest {x : Binary .single} {m : Nat} {e : Int} (hx : x.magnitude = .finite m e) :
    x.widened = nearest .double x.isNegative (ratio m e).1 (ratio m e).2 := by
  rw [widened, hx]

theorem magnitude_widened_congr {x y : Binary .single} (hx : ∃ m e, x.magnitude = .finite m e) (h : y.magnitude = x.magnitude) :
    y.widened.magnitude = x.widened.magnitude := by
  obtain ⟨m, e, hx⟩ := hx
  rw [widened_eq_nearest hx, widened_eq_nearest (h.trans hx)]
  exact magnitude_nearest_eq _ _ _ _ _

theorem isNegative_widened {x : Binary .single} (hx : ∃ m e, x.magnitude = .finite m e) :
    x.widened.isNegative = x.isNegative := by
  obtain ⟨m, e, hx⟩ := hx
  rw [widened_eq_nearest hx, isNegative_nearest]

end Binary

namespace Decimal

def unsigned (x : Decimal) : Decimal :=
  { x with negative := false }

theorem isBelowZero_unsigned (x : Decimal) : x.unsigned.isBelowZero = false :=
  Bool.false_and _

theorem unsignedDouble_unsigned (x : Decimal) : x.unsigned.unsignedDouble = x.unsignedDouble :=
  rfl

/-- Where there is room for the product, it is the one of the magnitudes with the sign. -/
theorem timesHundred_unsigned (x : Decimal) : x.unsigned.timesHundred = x.timesHundred.map unsigned := by
  have hof (negative : Bool) (mantissa scale : Nat) : of? false mantissa scale = (of? negative mantissa scale).map unsigned := by
    unfold of?
    split
    next => rfl
    next => rfl
  unfold timesHundred
  rw [apply_ite (Option.map unsigned), apply_ite (Option.map unsigned), apply_ite (Option.map unsigned),
    apply_ite (Option.map unsigned), apply_ite (Option.map unsigned), ← hof, ← hof, ← hof, ← hof]
  rfl

end Decimal

namespace Digits

def unsigned (d : Digits) : Digits :=
  { d with negative := false }

theorem text_eq_unsigned (d : Digits) (isGrouped : Bool) (symbols : NumberSymbols) :
    d.text isGrouped symbols = (if d.negative then symbols.negativeSign else "") ++ d.unsigned.text isGrouped symbols := by
  simp only [text, unsigned, Bool.false_eq_true, if_false, String.empty_append, String.append_assoc]
  rfl

theorem settled_unsigned (negative : Bool) (whole fraction : List Char) :
    settled ⟨false, whole, fraction⟩ = (settled ⟨negative, whole, fraction⟩).unsigned := by
  have hzero : isZero ⟨false, whole, fraction⟩ = isZero ⟨negative, whole, fraction⟩ := rfl
  unfold settled
  rw [hzero]
  split
  next => rfl
  next => rfl

theorem ofDecimalPoint_unsigned (negative : Bool) (x : DecimalPoint) :
    ofDecimalPoint false x = (ofDecimalPoint negative x).unsigned := by
  unfold ofDecimalPoint
  split
  next => rfl
  next => rfl

theorem ofDecimalPoint_negative (negative : Bool) (x : DecimalPoint) : (ofDecimalPoint negative x).negative = negative := by
  unfold ofDecimalPoint
  split
  next => rfl
  next => rfl

end Digits

namespace Rendition

/-- Whether the text begins with the negative sign. -/
def isNegative : Rendition → Bool
  | positional d _ _ => d.negative
  | placed _ d signShown => d.negative && !signShown
  | scientific negative _ _ _ _ => negative
  | word _ => false

/-- Everything but the sign. -/
def unsigned : Rendition → Rendition
  | positional d isGrouped isPercent => positional d.unsigned isGrouped isPercent
  | placed items d signShown => placed items d.unsigned signShown
  | scientific _ mantissa mark width exponent => scientific false mantissa mark width exponent
  | word digits => word digits

theorem text_eq_unsigned (r : Rendition) (symbols : NumberSymbols) :
    r.text symbols = (if r.isNegative then symbols.negativeSign else "") ++ r.unsigned.text symbols := by
  cases r with
  | positional d isGrouped isPercent =>
    simp only [text, isNegative, unsigned]
    rw [Digits.text_eq_unsigned, String.append_assoc]
    rfl
  | placed items d signShown =>
    simp only [text, isNegative, unsigned, Digits.unsigned, Bool.false_and, Bool.false_eq_true, if_false, String.empty_append]
    rfl
  | scientific negative mantissa mark width exponent =>
    simp only [text, isNegative, unsigned, Bool.false_eq_true, if_false, String.empty_append, String.append_assoc]
    rfl
  | word digits => simp [text, isNegative, unsigned]

end Rendition

theorem Binary.isNegative_generalRendition {w : Width} {x : Binary w} {m : Nat} {e : Int} (hx : x.magnitude = .finite m e) :
    x.generalRendition.isNegative = x.isBelowZero := by
  unfold generalRendition
  rw [hx]
  dsimp only
  split
  next => exact Digits.ofDecimalPoint_negative _ _
  next => rfl

theorem Binary.generalRendition_unsigned {w : Width} {x y : Binary w} (hmagnitude : y.magnitude = x.magnitude)
    (hsign : y.isNegative = false) : y.generalRendition = x.generalRendition.unsigned := by
  unfold generalRendition
  rw [hmagnitude, isZero_congr hmagnitude, isBelowZero_of_isNegative hsign]
  cases x.magnitude with
  | nan => rfl
  | infinite => rfl
  | finite m e =>
    dsimp only
    split
    next => rw [Digits.ofDecimalPoint_unsigned x.isBelowZero]; rfl
    next => rfl

namespace Number

theorem standardRendition_positional (x : Number) {format : Standard} (h : format.letter ∈ ['F', 'f', 'N', 'n']) :
    x.standardRendition format =
      .positional (x.fixed (format.precision.getD 2)) (decide (format.letter ∈ ['N', 'n'])) false := by
  obtain ⟨letter, precision⟩ := format
  simp only [List.mem_cons, List.not_mem_nil, or_false] at h
  rcases h with rfl | rfl | rfl | rfl
  · cases x <;> rfl
  · cases x <;> rfl
  · cases x <;> rfl
  · cases x <;> rfl

theorem standardRendition_scientific (x : Number) {format : Standard} (h : format.letter ∈ ['E', 'e']) :
    x.standardRendition format = x.scientificRendition format.letter (format.precision.getD 6) := by
  obtain ⟨letter, precision⟩ := format
  simp only [List.mem_cons, List.not_mem_nil, or_false] at h
  rcases h with rfl | rfl
  · cases x <;> rfl
  · cases x <;> rfl

theorem standardRendition_padded (signed : Bool) (bits : Nat) (n : Int) {format : Standard} (h : format.letter ∈ ['D', 'd']) :
    (integer signed bits n).standardRendition format =
      .positional ⟨n < 0, Numeral.padded (format.precision.getD 0) n.natAbs, []⟩ false false := by
  obtain ⟨letter, precision⟩ := format
  simp only [List.mem_cons, List.not_mem_nil, or_false] at h
  rcases h with rfl | rfl
  · rfl
  · rfl

/-- Letters that do not apply give the general form; some apply to integers alone. -/
theorem standardRendition_general (x : Number) {format : Standard}
    (h : format.letter ∉ ['F', 'f', 'N', 'n', 'P', 'p', 'E', 'e'])
    (hwhole : format.letter ∈ ['D', 'd', 'X', 'x'] → ∀ signed bits n, x ≠ integer signed bits n) :
    x.standardRendition format = x.generalRendition := by
  obtain ⟨letter, precision⟩ := format
  unfold standardRendition
  dsimp only at h hwhole ⊢
  split <;> simp_all

/-- A hexadecimal format of an integer, which writes its two's complement word. -/
def InWord (x : Number) (format : Standard) : Prop :=
  format.letter ∈ ['X', 'x'] ∧ ∃ signed bits n, x = integer signed bits n

/-- `y` is `x` without its sign. The lowest integer of all has its magnitude in the other signedness. -/
inductive IsUnsigned : Number → Number → Prop
  | integer (signed other : Bool) (bits width : Nat) (n : Int) (h : other = signed ∨ n = -2 ^ 127) :
      IsUnsigned (.integer signed bits n) (.integer other width n.natAbs)
  | single {x y : Binary .single} (hmagnitude : y.magnitude = x.magnitude) (hsign : y.isNegative = false) :
      IsUnsigned (.single x) (.single y)
  | double {x y : Binary .double} (hmagnitude : y.magnitude = x.magnitude) (hsign : y.isNegative = false) :
      IsUnsigned (.double x) (.double y)
  | decimal (x : Decimal) : IsUnsigned (.decimal x) (.decimal x.unsigned)

namespace IsUnsigned

variable {x y : Number} (h : IsUnsigned x y)
include h

theorem isNegative : y.isNegative = false := by
  cases h with
  | integer signed other bits width n => simp [Number.isNegative]
  | single _ hsign => exact Binary.isBelowZero_of_isNegative hsign
  | double _ hsign => exact Binary.isBelowZero_of_isNegative hsign
  | decimal x => exact x.isBelowZero_unsigned

theorem isZero : y.isZero = x.isZero := by
  cases h with
  | integer signed other bits width n => simp [Number.isZero]
  | single hmagnitude => exact Binary.isZero_congr hmagnitude
  | double hmagnitude => exact Binary.isZero_congr hmagnitude
  | decimal x => rfl

theorem value : y.value = |x.value| := by
  cases h with
  | integer signed other bits width n => simp [Number.value, Nat.cast_natAbs]
  | single hmagnitude hsign =>
    rw [Number.value, Number.value, Binary.abs_value, Binary.value, hsign, hmagnitude, if_neg Bool.false_ne_true]
  | double hmagnitude hsign =>
    rw [Number.value, Number.value, Binary.abs_value, Binary.value, hsign, hmagnitude, if_neg Bool.false_ne_true]
  | decimal x => rw [Number.value, Number.value, Decimal.abs_value]; simp [Decimal.value, Decimal.signed, Decimal.unsigned]

theorem isFinite (hx : x.IsFinite) : y.IsFinite := by
  cases h with
  | integer => trivial
  | single hmagnitude => rwa [IsFinite, hmagnitude]
  | double hmagnitude => rwa [IsFinite, hmagnitude]
  | decimal => trivial

theorem fixed (k : Nat) : y.fixed k = (x.fixed k).unsigned := by
  have hsign := h.isNegative
  have hdigits : ∃ whole fraction, x.fixed k = Digits.settled ⟨x.isNegative, whole, fraction⟩ ∧
      y.fixed k = Digits.settled ⟨y.isNegative, whole, fraction⟩ := by
    cases h with
    | integer signed other bits width n => exact ⟨_, _, rfl, rfl⟩
    | single hmagnitude => exact ⟨_, _, rfl, by simp only [Number.fixed, Binary.fixedDigits, hmagnitude]⟩
    | double hmagnitude => exact ⟨_, _, rfl, by simp only [Number.fixed, Binary.fixedDigits, hmagnitude]⟩
    | decimal x => exact ⟨_, _, rfl, rfl⟩
  obtain ⟨whole, fraction, hx, hy⟩ := hdigits
  rw [hx, hy, hsign]
  exact Digits.settled_unsigned _ _ _

theorem magnitude_toDouble (hx : x.IsFinite) : y.toDouble.magnitude = x.toDouble.magnitude := by
  cases h with
  | integer signed other bits width n => exact Binary.magnitude_ofInt_natAbs _ n
  | single hmagnitude => exact Binary.magnitude_widened_congr hx hmagnitude
  | double hmagnitude => exact hmagnitude
  | decimal x => rw [toDouble, toDouble, Decimal.magnitude_toDouble, Decimal.magnitude_toDouble, x.unsignedDouble_unsigned]

theorem isNegative_toDouble (hx : x.IsFinite) : y.toDouble.isNegative = false := by
  have hy := h.isFinite hx
  cases h with
  | integer signed other bits width n =>
    rw [toDouble, Decimal.ofInt_natCast, Binary.isNegative_nearest]
  | single _ hsign => rw [toDouble, Binary.isNegative_widened hy, hsign]
  | double _ hsign => exact hsign
  | decimal x => rw [toDouble, Decimal.isNegative_toDouble]; rfl

theorem product (hx : x.IsFinite) (hrange : x.InRange) :
    IsUnsigned (.double (x.toDouble.times (Binary.ofInt .double 100)))
      (.double (y.toDouble.times (Binary.ofInt .double 100))) := by
  have hfinite := isFinite_toDouble hx hrange
  have hmagnitude := h.magnitude_toDouble hx
  have hhundred : ∃ m e, (Binary.ofInt .double 100).magnitude = .finite m e := ⟨_, _, magnitude_ofInt_hundred⟩
  have hpositive : (Binary.ofInt .double 100).isNegative = false := by decide +kernel
  refine .double (Binary.magnitude_times_congr hfinite hmagnitude hhundred) ?_
  rw [Binary.isNegative_times (by rwa [hmagnitude]) hhundred, h.isNegative_toDouble hx, hpositive]
  rfl

/-- A number and its magnitude have room for a hundred times themselves alike. -/
theorem timesHundred (hx : x.IsFinite) (hrange : x.InRange) : IsUnsigned x.timesHundred y.timesHundred := by
  have hproduct := h.product hx hrange
  cases h with
  | integer signed other bits width n hsigned =>
    rw [InRange, fitsWidest_iff] at hrange
    have hroom : fitsWidest other (n.natAbs * 100) = fitsWidest signed (n * 100) := by
      rw [Bool.eq_iff_iff, fitsWidest_iff, fitsWidest_iff]
      rcases hsigned with rfl | rfl
      · cases other <;> simp only [if_true, Bool.false_eq_true, if_false] at hrange ⊢ <;> omega
      · cases signed <;> cases other <;> simp only [if_true, Bool.false_eq_true, if_false] at hrange ⊢ <;> omega
    simp only [Number.timesHundred, hroom]
    split
    next hfits =>
      rw [fitsWidest_iff] at hfits
      have hsame : other = signed := by
        refine hsigned.resolve_right fun hlowest => ?_
        cases signed <;> simp only [if_true, Bool.false_eq_true, if_false] at hfits <;> omega
      have habs : (n.natAbs : Int) * 100 = (n * 100).natAbs := by omega
      rw [habs]
      exact .integer _ _ _ _ _ (Or.inl hsame)
    next => exact hproduct
  | single => exact hproduct
  | double => exact hproduct
  | decimal x =>
    simp only [Number.timesHundred, x.timesHundred_unsigned]
    cases x.timesHundred with
    | none => exact hproduct
    | some z => exact .decimal z

theorem generalRendition : y.generalRendition = x.generalRendition.unsigned := by
  have hfixed := h.fixed 0
  cases h with
  | integer signed other bits width n =>
    rw [Number.generalRendition, hfixed]
    rfl
  | single hmagnitude hsign => exact Binary.generalRendition_unsigned hmagnitude hsign
  | double hmagnitude hsign => exact Binary.generalRendition_unsigned hmagnitude hsign
  | decimal x => rfl

theorem scientificRendition (hx : x.IsFinite) (mark : Char) (k : Nat) :
    y.scientificRendition mark k = (x.scientificRendition mark k).unsigned := by
  have hdigits : y.toDouble.scientificDigits k = x.toDouble.scientificDigits k := by
    rw [Binary.scientificDigits, Binary.scientificDigits, h.magnitude_toDouble hx]
  rw [Number.scientificRendition, Number.scientificRendition, hdigits, h.isNegative]
  rfl

theorem standardRendition (hx : x.IsFinite) (hrange : x.InRange) {format : Standard} (hword : ¬x.InWord format) :
    y.standardRendition format = (x.standardRendition format).unsigned := by
  by_cases hplaces : format.letter ∈ ['F', 'f', 'N', 'n']
  · rw [standardRendition_positional y hplaces, standardRendition_positional x hplaces, h.fixed]
    rfl
  by_cases hpercent : format.letter = 'P' ∨ format.letter = 'p'
  · rw [standardRendition_percent y format hpercent, standardRendition_percent x format hpercent,
      (h.timesHundred hx hrange).fixed]
    rfl
  by_cases hscientific : format.letter ∈ ['E', 'e']
  · rw [standardRendition_scientific y hscientific, standardRendition_scientific x hscientific, h.scientificRendition hx]
  have hletter : format.letter ∉ ['F', 'f', 'N', 'n', 'P', 'p', 'E', 'e'] := by simp_all
  have hgeneral := h.generalRendition
  cases h with
  | integer signed other bits width n =>
    have hnoword : format.letter ∉ ['X', 'x'] := fun hmem => hword ⟨hmem, _, _, _, rfl⟩
    by_cases hpadded : format.letter ∈ ['D', 'd']
    · rw [standardRendition_padded _ _ _ hpadded, standardRendition_padded _ _ _ hpadded, Int.natAbs_natCast]
      simp [Rendition.unsigned, Digits.unsigned]
    · have hwhole : format.letter ∉ ['D', 'd', 'X', 'x'] := by simp_all
      rw [standardRendition_general _ hletter fun hmem => absurd hmem hwhole,
        standardRendition_general _ hletter fun hmem => absurd hmem hwhole, hgeneral]
  | single =>
    rw [standardRendition_general _ hletter fun _ _ _ _ hx => Number.noConfusion hx,
      standardRendition_general _ hletter fun _ _ _ _ hx => Number.noConfusion hx, hgeneral]
  | double =>
    rw [standardRendition_general _ hletter fun _ _ _ _ hx => Number.noConfusion hx,
      standardRendition_general _ hletter fun _ _ _ _ hx => Number.noConfusion hx, hgeneral]
  | decimal =>
    rw [standardRendition_general _ hletter fun _ _ _ _ hx => Number.noConfusion hx,
      standardRendition_general _ hletter fun _ _ _ _ hx => Number.noConfusion hx, hgeneral]

theorem choose {sections : List (List Char)} (hsection : (Pattern.choose sections x).2 = false) :
    Pattern.choose sections y = Pattern.choose sections x := by
  have hy := h.isNegative
  have hzero := h.isZero
  unfold Pattern.choose at hsection ⊢
  dsimp only at hsection ⊢
  rw [hzero, hy]
  split
  next hthird => rw [if_pos hthird] at hsection
  next hthird =>
    rw [if_neg hthird] at hsection
    split at hsection
    next => exact Bool.noConfusion hsection
    next hsecond => rw [if_neg hsecond]; simp

theorem scaled (hx : x.IsFinite) (hrange : x.InRange) (items : List PatternItem) :
    IsUnsigned (Pattern.scaled items x) (Pattern.scaled items y) := by
  unfold Pattern.scaled
  split
  next => exact h.timesHundred hx hrange
  next => exact h

/-- Without its sign a number is written in the same way, but for the sign. -/
theorem rendition (hx : x.IsFinite) (hrange : x.InRange) {format : Option String}
    (hword : ∀ standardFormat, Standard.read? (format.getD "").toList = some standardFormat → ¬x.InWord standardFormat)
    (hsection : Standard.read? (format.getD "").toList = none →
      (Pattern.choose (Pattern.sections (format.getD "").toList) x).2 = false) :
    y.rendition format = (x.rendition format).unsigned := by
  unfold Number.rendition
  dsimp only
  split
  next => exact h.generalRendition
  next =>
    cases hread : Standard.read? (format.getD "").toList with
    | some standardFormat => exact h.standardRendition hx hrange (hword _ hread)
    | none =>
      have hchoose := h.choose (hsection hread)
      have hitems : Pattern.chosenItems (format.getD "").toList y = Pattern.chosenItems (format.getD "").toList x := by
        rw [Pattern.chosenItems, hchoose, Pattern.chosenItems]
      dsimp only [Rendition.unsigned]
      rw [Pattern.chosenDigits, hitems, (h.scaled hx hrange _).fixed, hchoose, Pattern.chosenDigits]

end IsUnsigned

end Number

end StructuredMessage
