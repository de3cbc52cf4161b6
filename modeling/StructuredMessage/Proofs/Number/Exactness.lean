import StructuredMessage.Proofs.Number.Places
import StructuredMessage.Proofs.Number.Scientific

namespace StructuredMessage

namespace Pattern

/-- Padding, a lone zero and zeros at the end of the fraction make no difference to the number that is shown. -/
theorem positional_shown {items : List PatternItem} {d : Digits} {minimum : Nat} {fraction : List Char}
    (h : Trimmed minimum d.fraction fraction) :
    Numeral.positional (wholeDigits items d.whole) fraction = |d.value| := by
  obtain ⟨⟨n, hn⟩, -⟩ := h
  rw [d.abs_value, hn, Numeral.positional_append_zeros, wholeDigits, Numeral.positional_leftpad,
    Numeral.positional_lone_zero]

end Pattern

namespace Number

theorem standard_percent (x : Number) (k : Nat) (symbols : NumberSymbols) :
    x.standard ⟨'P', some k⟩ symbols = (x.timesHundred.fixed k).text true symbols ++ symbols.percentSuffix := by
  cases x <;> simp [standard]

theorem standard_scientific (x : Number) (k : Nat) (symbols : NumberSymbols) :
    x.standard ⟨'E', some k⟩ symbols = x.scientific 'E' k symbols := by
  cases x <;> simp [standard]

theorem format_percent {x : Number} (hx : x.IsFinite) {k : Nat} (hk : k ≤ 99) (symbols : NumberSymbols) :
    x.format (some ("P" ++ Numeral.text k)) symbols =
      (x.timesHundred.fixed k).text true symbols ++ symbols.percentSuffix := by
  rw [format_letter hx 'P' (by decide) hk rfl, standard_percent]

theorem format_scientific {x : Number} (hexact : x.IsExact) (hrange : x.InRange) {k : Nat} (hk : k ≤ 99)
    (symbols : NumberSymbols) :
    Numeral.IsScientific symbols 'E' k x.toDouble.value (x.format (some ("E" ++ Numeral.text k)) symbols) := by
  have hconverted := approximates_toDouble hexact hrange
  have hless : Decimal.conversionError < 1 := by norm_num [Decimal.conversionError]
  rw [format_letter hexact.isFinite 'E' (by decide) hk rfl, standard_scientific]
  exact scientific_isScientific hconverted.close.1
    ((isNegative_iff hexact.isFinite).trans (hconverted.neg_iff hless).symm) 'E' k symbols

/-- A section with a percent mark and room for whole digits shows the digits of a hundred times the number. -/
theorem format_percent_pattern {x : Number} (hexact : x.IsExact) (hrange : x.InRange) {pattern : String} (hne : pattern ≠ "")
    (hpattern : Standard.read? pattern.toList = none) (hpercent : .percent ∈ Pattern.chosenItems pattern.toList x)
    (hwhole : Pattern.HasWhole (Pattern.chosenItems pattern.toList x)) (symbols : NumberSymbols) :
    ∃ whole fraction body,
      x.format (some pattern) symbols = Pattern.chosenSign pattern.toList x symbols ++ String.ofList body ∧
        Pattern.Shows symbols (Pattern.chosenItems pattern.toList x) whole fraction body ∧
        Numeral.positional whole fraction =
          |(x.timesHundred.fixed (Pattern.layout (Pattern.chosenItems pattern.toList x)).maxFraction).value| := by
  obtain ⟨fraction, body, htext, hshows, htrimmed⟩ :=
    Pattern.patterned_shows hexact.isFinite hrange (Or.inl hexact) hwhole symbols
  refine ⟨_, fraction, body, ?_, hshows, ?_⟩
  · rw [format_patterned hexact.isFinite hne hpattern, htext]
  · have hscaled : Pattern.chosenDigits pattern.toList x =
        x.timesHundred.fixed (Pattern.layout (Pattern.chosenItems pattern.toList x)).maxFraction := by
      rw [Pattern.chosenDigits, Pattern.scaled, List.contains_eq_mem, if_pos (decide_eq_true hpercent)]
    rw [← hscaled]
    exact Pattern.positional_shown htrimmed

end Number

namespace Scalar

/-- Percentages of exact numbers show the product with a hundred, and are right iff the product is: it is where there is
room for it, and near otherwise. Scientific notation shows the double that the number is converted to, which is near, the
nearest for short numbers and the number itself if that is a double. -/
theorem addBuiltin_exact {s : Scalar} {x : Number} (hx : s.number? = some x) (hexact : x.IsExact) (numbers : NumberSymbols)
    (dates : DateSymbols) (out : String) :
    ((∀ k ≤ 99, s.addBuiltin (some ("P" ++ Numeral.text k)) numbers dates out =
          out ++ ((x.timesHundred.fixed k).text true numbers ++ numbers.percentSuffix)) ∧
        (∀ pattern, pattern ≠ "" → Number.Standard.read? pattern.toList = none →
          .percent ∈ Pattern.chosenItems pattern.toList x → Pattern.HasWhole (Pattern.chosenItems pattern.toList x) →
          ∃ whole fraction body,
            s.addBuiltin (some pattern) numbers dates out =
                out ++ (Pattern.chosenSign pattern.toList x numbers ++ String.ofList body) ∧
              Pattern.Shows numbers (Pattern.chosenItems pattern.toList x) whole fraction body ∧
              Numeral.positional whole fraction =
                |(x.timesHundred.fixed (Pattern.layout (Pattern.chosenItems pattern.toList x)).maxFraction).value|) ∧
        (∀ k, (x.timesHundred.fixed k).Rounds k x.timesHundred.value ∧
          ((x.timesHundred.fixed k).Rounds k (100 * x.value) ↔ x.timesHundred.value = 100 * x.value)) ∧
        (x.HasRoom → x.timesHundred.value = 100 * x.value) ∧
        |x.timesHundred.value - 100 * x.value| ≤ 1 / 2 ^ 47 * |100 * x.value|) ∧
      (∀ k ≤ 99, ∃ text, s.addBuiltin (some ("E" ++ Numeral.text k)) numbers dates out = out ++ text ∧
          Numeral.IsScientific numbers 'E' k x.toDouble.value text) ∧
        |x.toDouble.value - x.value| ≤ 1 / 2 ^ 48 * |x.value| ∧
        (x.IsShort → |x.toDouble.value - x.value| ≤ 1 / 2 ^ 53 * |x.value| ∧
          ∀ m e, m < 2 ^ 53 → -1074 ≤ e → |x.value| = (m : Nat) * 2 ^ (e : Int) → x.toDouble.value = x.value) := by
  have hrange := inRange_of_number? hx
  refine ⟨⟨fun k hk => ?_, fun pattern hne hpattern hpercent hwhole => ?_, fun k => ⟨?_, ?_⟩, fun hroom => ?_, ?_⟩,
    fun k hk => ⟨x.format (some ("E" ++ Numeral.text k)) numbers, ?_, ?_⟩, ?_,
    fun hshort => ⟨?_, fun m e hm he hword => ?_⟩⟩
  · rw [addBuiltin_of_number hx, Number.format_percent hexact.isFinite hk]
  · obtain ⟨whole, fraction, body, htext, hshown⟩ :=
      Number.format_percent_pattern hexact hrange hne hpattern hpercent hwhole numbers
    exact ⟨whole, fraction, body, by rw [addBuiltin_of_number hx, htext], hshown⟩
  · exact Number.rounds_fixed (Number.isFinite_timesHundred hexact hrange) k
  · exact Number.rounds_hundred_iff hexact hrange k
  · exact (Number.value_timesHundred_of_hasRoom hroom).2
  · exact Number.abs_timesHundred_sub_le hexact hrange
  · exact addBuiltin_of_number hx _ _ _ _
  · exact Number.format_scientific hexact hrange hk numbers
  · exact (Number.approximates_toDouble hexact hrange).abs_value_sub_le
  · exact (hshort.approximates_toDouble hrange).abs_value_sub_le
  · exact hshort.value_toDouble hrange hm he hword

theorem addBuiltin_exact_greatest :
    let n : Integer := ⟨.i128, 170141183460469231731687303715884105727, by decide⟩
    let x := Number.ofInteger n
    let shown (format : String) := (Scalar.integer n).addBuiltin (some format) {} {} ""
    (shown "P0" = (x.timesHundred.fixed 0).text true {} ++ " %" ∧
        ((x.timesHundred.fixed 0).Rounds 0 (100 * x.value) ↔ x.timesHundred.value = 100 * x.value)) ∧
      (∃ whole fraction body,
        shown "0%" = Pattern.chosenSign "0%".toList x {} ++ String.ofList body ∧
          Pattern.Shows {} (Pattern.chosenItems "0%".toList x) whole fraction body ∧
          Numeral.positional whole fraction =
            |(x.timesHundred.fixed (Pattern.layout (Pattern.chosenItems "0%".toList x)).maxFraction).value|) ∧
      (∃ text, shown "E38" = text ∧ Numeral.IsScientific {} 'E' 38 x.toDouble.value text) ∧
        |x.toDouble.value - x.value| ≤ 1 / 2 ^ 53 * |x.value| := by
  intro n x shown
  have hnames : "P" ++ Numeral.text 0 = "P0" ∧ "E" ++ Numeral.text 38 = "E38" := by decide +kernel
  have hitems : Pattern.chosenItems "0%".toList x = [.zero, .percent] := by decide +kernel
  obtain ⟨⟨hpercent, hpattern, hdigits, -, -⟩, hscientific, -, hshort⟩ :=
    addBuiltin_exact (s := .integer n) (x := x) rfl trivial {} {} ""
  obtain ⟨whole, fraction, body, htext, hshown⟩ := hpattern "0%" (by decide) (by decide) (by rw [hitems]; decide)
    (by rw [hitems]; exact Or.inl (by decide))
  obtain ⟨text, hscientific, hdouble⟩ := hscientific 38 (by decide)
  have hpercent := hpercent 0 (by decide)
  rw [hnames.1, String.empty_append] at hpercent
  rw [String.empty_append] at htext
  rw [hnames.2, String.empty_append] at hscientific
  exact ⟨⟨hpercent, (hdigits 0).2⟩, ⟨whole, fraction, body, htext, hshown⟩, ⟨text, hscientific, hdouble⟩,
    (hshort trivial).1⟩

/-- The greatest integer is a double neither as it is nor times a hundred, and a section without places shows no digits. -/
theorem addBuiltin_greatest_inexact :
    let n : Integer := ⟨.i128, 170141183460469231731687303715884105727, by decide⟩
    let shown (format : String) := (Scalar.integer n).addBuiltin (some format) {} {} ""
    (shown "P0" = "17,014,118,346,046,923,173,168,730,371,588,410,572,800 %" ∧
        1 / 2 < |(17014118346046923173168730371588410572800 : ℚ) - 100 * n.value|) ∧
      (shown "E38" = "1.70141183460469231731687303715884105728E+038" ∧
        1 / 2 < |(170141183460469231731687303715884105728 : ℚ) - n.value|) ∧
      shown "%" = "%" := by
  intro n shown
  refine ⟨⟨by decide +kernel, ?_⟩, ⟨by decide +kernel, ?_⟩, by decide +kernel⟩
  · norm_num [n]
  · norm_num [n]

end Scalar

end StructuredMessage
