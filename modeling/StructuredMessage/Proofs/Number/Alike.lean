import StructuredMessage.Proofs.Number.LastDigit

namespace StructuredMessage

namespace Number

variable {x y : Number}

theorem isZero_iff (hx : x.IsFinite) : x.isZero = true ↔ x.value = 0 := by
  cases x with
  | integer signed bits n => simp [isZero, value]
  | decimal y => simp [isZero, value, Decimal.isZero, ← abs_eq_zero (a := y.value), Decimal.abs_value]
  | single y => rw [value, ← abs_eq_zero, y.abs_value, isZero, Binary.isZero_iff hx]
  | double y => rw [value, ← abs_eq_zero, y.abs_value, isZero, Binary.isZero_iff hx]

theorem choose_congr (hx : x.IsFinite) (hy : y.IsFinite) (h : x.value = y.value) (sections : List (List Char)) :
    Pattern.choose sections x = Pattern.choose sections y := by
  have hzero : x.isZero = y.isZero := by rw [Bool.eq_iff_iff, isZero_iff hx, isZero_iff hy, h]
  have hnegative : x.isNegative = y.isNegative := by rw [Bool.eq_iff_iff, isNegative_iff hx, isNegative_iff hy, h]
  rw [Pattern.choose, Pattern.choose, hzero, hnegative]

/-- Numbers of one value have the same digits where no tie parts them. -/
theorem fixed_congr (hx : x.IsFinite) (hy : y.IsFinite) (h : x.value = y.value) {k : Nat}
    (hround : x.tie.round (|x.value| * 10 ^ k) = y.tie.round (|x.value| * 10 ^ k)) : x.fixed k = y.fixed k := by
  have hnegative : x.isNegative = y.isNegative := by rw [Bool.eq_iff_iff, isNegative_iff hx, isNegative_iff hy, h]
  rw [fixed_eq_ofScaled hx, fixed_eq_ofScaled hy, hround, hnegative, h]

/-- At a tie that parts them the digits of a word are even and those of a decimal number odd. -/
theorem fixed_of_parts {y : Binary .double} (hy : (double y).IsFinite) {x : Decimal} (h : y.value = x.value) {k n : Nat}
    (hn : |x.value| * 10 ^ k = 2 * n + 1 / 2) :
    (double y).fixed k = (Digits.ofScaled x.isBelowZero (2 * n) k).settled ∧
      (decimal x).fixed k = (Digits.ofScaled x.isBelowZero (2 * n + 1) k).settled := by
  have hx : (decimal x).IsFinite := trivial
  obtain ⟨heven, hodd⟩ := Tie.round_of_parts hn
  have hnegative : y.isBelowZero = x.isBelowZero := by
    rw [Bool.eq_iff_iff, x.isBelowZero_iff, ← h]
    exact isNegative_iff hy
  rw [fixed_eq_ofScaled hy, fixed_eq_ofScaled hx, tie, tie, value, value, h, heven, hodd, isNegative, isNegative, hnegative]
  exact ⟨rfl, rfl⟩

theorem Standard.isEmpty_of_read? {cs : List Char} {standardFormat : Standard} (h : read? cs = some standardFormat) :
    cs.isEmpty = false := by
  rw [List.isEmpty_eq_false_iff]
  intro hnil
  rw [hnil] at h
  cases h

theorem format_of_read? (hx : x.IsFinite) {format : String} {standardFormat : Standard}
    (hread : Standard.read? format.toList = some standardFormat) (symbols : NumberSymbols) :
    x.format (some format) symbols = x.standard standardFormat symbols := by
  have hchars := Standard.isEmpty_of_read? hread
  rw [Number.format, symbol?_eq_none_iff.mpr hx]
  simp only [Option.getD_some, hchars, Bool.false_eq_true, if_false, hread]

/-- Where no percent mark asks for another number, a section shows the digits of the number itself. -/
theorem patterned_eq_placed {pattern : List Char}
    (hchoose : Pattern.choose (Pattern.sections pattern) y = Pattern.choose (Pattern.sections pattern) x)
    (hpercent : .percent ∉ Pattern.chosenItems pattern x) (symbols : NumberSymbols) :
    y.patterned pattern symbols =
      (Rendition.placed (Pattern.chosenItems pattern x) (y.fixed (Pattern.layout (Pattern.chosenItems pattern x)).maxFraction)
        (Pattern.choose (Pattern.sections pattern) x).2).text symbols := by
  have hitems : Pattern.chosenItems pattern y = Pattern.chosenItems pattern x := by
    rw [Pattern.chosenItems, hchoose, Pattern.chosenItems]
  have hscaled : Pattern.scaled (Pattern.chosenItems pattern x) y = y := by
    rw [Pattern.scaled, List.contains_eq_mem, decide_eq_false hpercent, if_neg Bool.false_ne_true]
  rw [Pattern.patterned_eq, Pattern.chosenSign, Pattern.chosenDigits, hitems, hscaled, hchoose, Rendition.text]

section Alike

variable {y : Binary .double} (hy : (double y).IsFinite) {x : Decimal} (hvalue : y.value = x.value)
include hy hvalue

theorem fixed_alike {k : Nat} (h : ¬Tie.Parts (|x.value| * 10 ^ k)) : (double y).fixed k = (decimal x).fixed k := by
  refine fixed_congr (y := decimal x) hy trivial hvalue ?_
  rw [value, hvalue]
  exact Tie.round_of_not_parts h

theorem text_alike_iff (isGrouped : Bool) (k : Nat) (symbols : NumberSymbols) :
    ((double y).fixed k).text isGrouped symbols = ((decimal x).fixed k).text isGrouped symbols ↔
      ¬Tie.Parts (|x.value| * 10 ^ k) := by
  constructor
  · rintro h ⟨n, hn⟩
    obtain ⟨heven, hodd⟩ := fixed_of_parts hy hvalue hn
    rw [heven, hodd] at h
    exact Digits.text_even_ne _ _ _ _ _ h
  · intro h
    rw [fixed_alike hy hvalue h]

theorem standard_alike_iff {format : Standard} (hletter : format.letter ∈ ['F', 'f', 'N', 'n']) (symbols : NumberSymbols) :
    (double y).standard format symbols = (decimal x).standard format symbols ↔
      ¬Tie.Parts (|x.value| * 10 ^ format.precision.getD 2) := by
  obtain ⟨letter, precision⟩ := format
  simp only [List.mem_cons, List.not_mem_nil, or_false] at hletter
  rcases hletter with rfl | rfl | rfl | rfl
  · exact text_alike_iff hy hvalue false _ symbols
  · exact text_alike_iff hy hvalue false _ symbols
  · exact text_alike_iff hy hvalue true _ symbols
  · exact text_alike_iff hy hvalue true _ symbols

theorem choose_alike (pattern : List Char) :
    Pattern.choose (Pattern.sections pattern) (double y) = Pattern.choose (Pattern.sections pattern) (decimal x) :=
  choose_congr (y := decimal x) hy trivial hvalue _

theorem patterned_alike {pattern : List Char} (hpercent : .percent ∉ Pattern.chosenItems pattern (decimal x))
    (h : ¬Tie.Parts (|x.value| * 10 ^ (Pattern.layout (Pattern.chosenItems pattern (decimal x))).maxFraction))
    (symbols : NumberSymbols) : (double y).patterned pattern symbols = (decimal x).patterned pattern symbols := by
  rw [patterned_eq_placed (choose_alike hy hvalue pattern) hpercent, patterned_eq_placed rfl hpercent,
    fixed_alike hy hvalue h]

theorem patterned_parted {pattern : List Char} (hpercent : .percent ∉ Pattern.chosenItems pattern (decimal x))
    (hwhole : Pattern.HasWhole (Pattern.chosenItems pattern (decimal x)))
    (h : Tie.Parts (|x.value| * 10 ^ (Pattern.layout (Pattern.chosenItems pattern (decimal x))).maxFraction))
    (symbols : NumberSymbols) : (double y).patterned pattern symbols ≠ (decimal x).patterned pattern symbols := by
  obtain ⟨n, hn⟩ := h
  obtain ⟨heven, hodd⟩ := fixed_of_parts hy hvalue hn
  rw [patterned_eq_placed (choose_alike hy hvalue pattern) hpercent, patterned_eq_placed rfl hpercent, heven, hodd]
  exact Rendition.placed_even_ne (fun _ _ => Pattern.point_not_mem_of_items) hwhole _ n

end Alike

end Number

namespace Scalar

/-- A double and a decimal number of one value are the same text in the fixed form and in the grouped form unless a tie
parts them, and in every pattern without a percent mark as well; a pattern that shows whole digits shows the difference
of a tie that parts them. -/
theorem addBuiltin_alike {y : Binary .double} (hy : ∃ m e, y.magnitude = .finite m e) {x : Decimal} (hvalue : y.value = x.value)
    {format : String} (hne : format ≠ "") (numbers : NumberSymbols) (dates : DateSymbols) (out : String) :
    let shown (s : Scalar) := s.addBuiltin (some format) numbers dates out
    let items := Pattern.chosenItems format.toList (.decimal x)
    let q := |x.value| * 10 ^ (Pattern.layout items).maxFraction
    (∀ standardFormat, Number.Standard.read? format.toList = some standardFormat →
        standardFormat.letter ∈ ['F', 'f', 'N', 'n'] →
          (shown (.double y) = shown (.decimal x) ↔ ¬Tie.Parts (|x.value| * 10 ^ standardFormat.precision.getD 2))) ∧
      (Number.Standard.read? format.toList = none → .percent ∉ items →
        (¬Tie.Parts q → shown (.double y) = shown (.decimal x)) ∧
          (Pattern.HasWhole items → (shown (.double y) = shown (.decimal x) ↔ ¬Tie.Parts q))) := by
  intro shown items q
  have hx : (Number.decimal x).IsFinite := trivial
  have hdouble : shown (.double y) = out ++ (Number.double y).format (some format) numbers := addBuiltin_of_number rfl _ _ _ _
  have hdecimal : shown (.decimal x) = out ++ (Number.decimal x).format (some format) numbers :=
    addBuiltin_of_number rfl _ _ _ _
  have hy : (Number.double y).IsFinite := hy
  rw [hdouble, hdecimal, String.append_right_inj]
  refine ⟨fun standardFormat hread hletter => ?_, fun hread hpercent => ?_⟩
  · rw [Number.format_of_read? hy hread, Number.format_of_read? hx hread]
    exact Number.standard_alike_iff hy hvalue hletter numbers
  · rw [Number.format_patterned hy hne hread, Number.format_patterned hx hne hread]
    have halike (hparts : ¬Tie.Parts q) := Number.patterned_alike hy hvalue hpercent hparts numbers
    refine ⟨halike, fun hwhole => ⟨fun h hparts => ?_, halike⟩⟩
    exact Number.patterned_parted hy hvalue hpercent hwhole hparts numbers h

/-- A tie that does not part them, in the grouped form and in the section for numbers below zero. -/
theorem addBuiltin_alike_odd_tie :
    let y := Binary.ofDecimal .double true 1234375 (-3)
    let x : Decimal := ⟨true, 1234375, 3, by decide, by decide⟩
    let shown (s : Scalar) (format : String) := s.addBuiltin (some format) {} {} ""
    (∃ m e, y.magnitude = .finite m e) ∧ y.value = x.value ∧ ¬Tie.Parts (|x.value| * 10 ^ 2) ∧
      (shown (.double y) "N2" = shown (.decimal x) "N2" ∧ shown (.double y) "N2" = "-1,234.38") ∧
      shown (.double y) "0.0;(0.0#)" = shown (.decimal x) "0.0;(0.0#)" ∧ shown (.double y) "0.0;(0.0#)" = "(1234.38)" := by
  intro y x shown
  have hy : y.magnitude = .finite 5428838662144000 (-42) := by decide +kernel
  have hsign : y.isNegative = true := by decide +kernel
  have hvalue : y.value = x.value := by
    rw [Binary.value, hsign, if_pos rfl, hy, Magnitude.value, Decimal.value, Decimal.signed]
    norm_num [x]
  have hparts : ¬Tie.Parts (|x.value| * 10 ^ 2) := by
    rintro ⟨n, hn⟩
    rw [Decimal.abs_value] at hn
    have hodd : (123437 : ℚ) = 2 * n := by
      norm_num [x] at hn
      linarith
    have hodd : 123437 = 2 * n := by exact_mod_cast hodd
    omega
  have hread : Number.Standard.read? "N2".toList = some ⟨'N', some 2⟩ := by decide +kernel
  have hplaces : (Pattern.layout (Pattern.chosenItems "0.0;(0.0#)".toList (.decimal x))).maxFraction = 2 := by decide +kernel
  have hstandard := (addBuiltin_alike ⟨_, _, hy⟩ hvalue (by decide : "N2" ≠ "") {} {} "").1
  have hpattern := (addBuiltin_alike ⟨_, _, hy⟩ hvalue (by decide : "0.0;(0.0#)" ≠ "") {} {} "").2
  rw [hplaces] at hpattern
  exact ⟨⟨_, _, hy⟩, hvalue, hparts, ⟨(hstandard _ hread (by decide)).mpr hparts, by decide +kernel⟩,
    (hpattern (by decide +kernel) (by decide +kernel)).1 hparts, by decide +kernel⟩

theorem addBuiltin_half_unlike :
    let y := Binary.ofDecimal .double false 5 (-1)
    let x : Decimal := ⟨false, 5, 1, by decide, by decide⟩
    let shown (s : Scalar) (format : String) := s.addBuiltin (some format) {} {} ""
    (∃ m e, y.magnitude = .finite m e) ∧ y.value = x.value ∧
      (shown (.double y) "F0" = "0" ∧ shown (.decimal x) "F0" = "1") ∧
      shown (.double y) "N0" ≠ shown (.decimal x) "N0" ∧ shown (.double y) "0" ≠ shown (.decimal x) "0" := by
  intro y x shown
  have hy : y.magnitude = .finite 4503599627370496 (-53) := by decide +kernel
  have hsign : y.isNegative = false := by decide +kernel
  refine ⟨⟨_, _, hy⟩, ?_, ⟨by decide +kernel, by decide +kernel⟩, by decide +kernel, by decide +kernel⟩
  rw [Binary.value, hsign, if_neg Bool.false_ne_true, hy, Magnitude.value, Decimal.value, Decimal.signed]
  norm_num [x]

end Scalar

end StructuredMessage
