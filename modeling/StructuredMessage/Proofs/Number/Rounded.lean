import StructuredMessage.Proofs.Number.Places

namespace StructuredMessage

namespace Digits

/-- The decimal separator and the fraction, where there is one. -/
def tail (symbols : NumberSymbols) (fraction : List Char) : String :=
  if fraction.isEmpty then "" else symbols.decimalSeparator ++ String.ofList fraction

theorem text_eq (d : Digits) (isGrouped : Bool) (symbols : NumberSymbols) :
    d.text isGrouped symbols = (if d.negative then symbols.negativeSign else "") ++
      String.ofList (if isGrouped then grouped symbols.groupSeparator.toList d.whole else d.whole) ++
        tail symbols d.fraction :=
  rfl

theorem settled_negative_iff (d : Digits) :
    d.settled.negative = true ↔ d.negative = true ∧ ∃ c ∈ d.whole ++ d.fraction, c ≠ '0' := by
  have hzero : d.isZero = true ↔ ¬∃ c ∈ d.whole ++ d.fraction, c ≠ '0' := by
    rw [isZero, List.all_eq_true]
    push Not
    simp only [beq_iff_eq]
  unfold settled
  split
  next h => exact iff_of_false Bool.false_ne_true fun hd => hzero.mp h hd.2
  next h => exact ⟨fun hd => ⟨hd, not_not.mp fun hn => h (hzero.mpr hn)⟩, And.left⟩

end Digits

namespace Number

variable {x : Number}

theorem fixed_negative_iff (hx : x.IsFinite) (k : Nat) :
    (x.fixed k).negative = true ↔ x.value < 0 ∧ ∃ c ∈ (x.fixed k).whole ++ (x.fixed k).fraction, c ≠ '0' := by
  obtain ⟨whole, fraction, hfixed⟩ : ∃ whole fraction, x.fixed k = Digits.settled ⟨x.isNegative, whole, fraction⟩ :=
    ⟨_, _, rfl⟩
  rw [hfixed, Digits.settled_negative_iff, Digits.settled_whole, Digits.settled_fraction]
  dsimp only
  rw [isNegative_iff hx]

theorem format_fixed_text (hx : x.IsFinite) {k : Nat} (hk : k ≤ 99) (symbols : NumberSymbols) :
    x.format (some ("F" ++ Numeral.text k)) symbols = (x.fixed k).text false symbols := by
  rw [format_letter hx 'F' (by decide) hk rfl, standard_fixed]

theorem format_grouped_text (hx : x.IsFinite) {k : Nat} (hk : k ≤ 99) (symbols : NumberSymbols) :
    x.format (some ("N" ++ Numeral.text k)) symbols = (x.fixed k).text true symbols := by
  rw [format_letter hx 'N' (by decide) hk rfl, standard_grouped]

end Number

namespace Scalar

/-- The fixed form of an exact number has `k` digits behind the point and is the number rounded to at most 28 places, a
tie going away from zero; the grouped form is the same text with its whole digits in groups. -/
theorem addBuiltin_rounded {s : Scalar} {x : Number} (hx : s.number? = some x) (hexact : x.IsExact) {k : Nat} (hk : k ≤ 99)
    (numbers : NumberSymbols) (dates : DateSymbols) (out : String) :
    ∃ (sign : String) (whole grouped fraction : List Char),
      s.addBuiltin (some ("F" ++ Numeral.text k)) numbers dates out =
          out ++ (sign ++ String.ofList whole ++ Digits.tail numbers fraction) ∧
        s.addBuiltin (some ("N" ++ Numeral.text k)) numbers dates out =
          out ++ (sign ++ String.ofList grouped ++ Digits.tail numbers fraction) ∧
        Digits.InGroups numbers.groupSeparator.toList whole grouped ∧
        whole ≠ [] ∧ (∀ c ∈ whole ++ fraction, c.isDigit) ∧ fraction.length = k ∧
        Numeral.positional whole fraction = ⌊|x.value| * 10 ^ min k 28 + 1 / 2⌋ / 10 ^ min k 28 ∧
        (x.value < 0 ∧ (∃ c ∈ whole ++ fraction, c ≠ '0') → sign = numbers.negativeSign) ∧
        (¬(x.value < 0 ∧ ∃ c ∈ whole ++ fraction, c ≠ '0') → sign = "") := by
  have hfinite := hexact.isFinite
  have hsign := Number.fixed_negative_iff hfinite k
  obtain ⟨hwhole, hdigits⟩ := Number.isDecimal_fixed hfinite k
  refine ⟨if (x.fixed k).negative then numbers.negativeSign else "", (x.fixed k).whole,
    Digits.grouped numbers.groupSeparator.toList (x.fixed k).whole, (x.fixed k).fraction, ?_, ?_,
    Digits.inGroups_grouped _ _, hwhole, hdigits, (Number.fixed_shape hfinite k).2, Number.positional_fixed_exact hexact k,
    fun h => if_pos (hsign.mpr h), fun h => if_neg fun hnegative => h (hsign.mp hnegative)⟩
  · rw [addBuiltin_of_number hx, Number.format_fixed_text hfinite hk, Digits.text_eq, if_neg Bool.false_ne_true]
  · rw [addBuiltin_of_number hx, Number.format_grouped_text hfinite hk, Digits.text_eq, if_pos rfl]

theorem addBuiltin_rounded_carry :
    let x : Decimal := ⟨true, 9999995, 4, by decide, by decide⟩
    let shown (format : String) := (Scalar.decimal x).addBuiltin (some format) {} {} ""
    (∃ (sign : String) (whole grouped fraction : List Char),
      shown "F3" = sign ++ String.ofList whole ++ Digits.tail {} fraction ∧
        shown "N3" = sign ++ String.ofList grouped ++ Digits.tail {} fraction ∧
        Digits.InGroups [','] whole grouped ∧
        whole ≠ [] ∧ (∀ c ∈ whole ++ fraction, c.isDigit) ∧ fraction.length = 3 ∧
        Numeral.positional whole fraction = ⌊|x.value| * 10 ^ 3 + 1 / 2⌋ / 10 ^ 3 ∧
        (x.value < 0 ∧ (∃ c ∈ whole ++ fraction, c ≠ '0') → sign = "-") ∧
        (¬(x.value < 0 ∧ ∃ c ∈ whole ++ fraction, c ≠ '0') → sign = "")) ∧
      shown "F3" = "-1000.000" ∧ shown "N3" = "-1,000.000" := by
  intro x shown
  have hnames : "F" ++ Numeral.text 3 = "F3" ∧ "N" ++ Numeral.text 3 = "N3" := by decide +kernel
  have hrounded := addBuiltin_rounded (s := .decimal x) (x := .decimal x) rfl trivial (k := 3) (by decide) {} {} ""
  rw [hnames.1, hnames.2] at hrounded
  simp only [String.empty_append] at hrounded
  exact ⟨hrounded, by decide +kernel, by decide +kernel⟩

end Scalar

end StructuredMessage
