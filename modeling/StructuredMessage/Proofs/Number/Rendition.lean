import StructuredMessage.Proofs.Number.Places
import StructuredMessage.Proofs.Number.Scientific

namespace StructuredMessage

/-- What the text of a finite number is put together from. -/
inductive Rendition
  /-- Digits on both sides of the point, in groups or not, with what stands behind a percentage or not. -/
  | positional (digits : Digits) (isGrouped isPercent : Bool)
  /-- Digits in the places of a section, which may speak for the sign itself. -/
  | placed (items : List PatternItem) (digits : Digits) (signShown : Bool)
  /-- The digits of a mantissa and an exponent of at least `width` digits. -/
  | scientific (negative : Bool) (mantissa : List Char) (mark : Char) (width : Nat) (exponent : Int)
  /-- The hexadecimal digits of a word. -/
  | word (digits : List Char)

namespace Rendition

def text (symbols : NumberSymbols) : Rendition → String
  | positional d isGrouped isPercent => d.text isGrouped symbols ++ if isPercent then symbols.percentSuffix else ""
  | placed items d signShown =>
    (if d.negative && !signShown then symbols.negativeSign else "") ++ String.ofList (Pattern.digitsText items symbols d)
  | scientific negative mantissa mark width exponent =>
    (if negative then symbols.negativeSign else "") ++ Numeral.mantissaText symbols mantissa ++
      Numeral.exponentText mark width symbols exponent
  | word digits => String.ofList digits

/-- The number is written in decimal digits, at least one of them before the point. A word has digits of its own. -/
def IsDecimal : Rendition → Prop
  | positional d _ _ => d.IsDecimal
  | placed _ d _ => d.IsDecimal
  | scientific _ mantissa _ _ _ => mantissa ≠ [] ∧ ∀ c ∈ mantissa, c.isDigit
  | word _ => True

end Rendition

namespace Digits

theorem isDecimal_ofScaled (negative : Bool) (n places : Nat) : (ofScaled negative n places).IsDecimal :=
  ⟨Decimal.splitDigits_whole_ne_nil n places, fun _ hc => Decimal.isDigit_of_mem_splitDigits (List.mem_append.mp hc)⟩

theorem isDecimal_ofDecimalPoint (negative : Bool) (x : DecimalPoint) : (ofDecimalPoint negative x).IsDecimal := by
  unfold ofDecimalPoint
  split
  next => exact isDecimal_ofScaled _ _ _
  next => exact isDecimal_ofScaled _ _ _

end Digits

namespace Binary

variable {w : Width}

def generalRendition (x : Binary w) : Rendition :=
  match x.magnitude with
  | .finite m e =>
    let short := shortest w .awayFromZero m e
    let digits := Numeral.digits short.digits
    let leading := short.exponent + (digits.length - 1 : Nat)
    if x.isZero ∨ (-4 ≤ leading ∧ leading < 15) then .positional (Digits.ofDecimalPoint x.isBelowZero short) false false
    else .scientific x.isBelowZero digits 'E' 2 leading
  | _ => .word []

theorem text_generalRendition (x : Binary w) (symbols : NumberSymbols) :
    x.generalRendition.text symbols = Number.generalBinary x symbols := by
  unfold generalRendition Number.generalBinary
  cases hx : x.magnitude with
  | nan => rfl
  | infinite => rfl
  | finite m e =>
    dsimp only
    split
    next => exact String.append_empty
    next => rfl

theorem isDecimal_generalRendition (x : Binary w) : x.generalRendition.IsDecimal := by
  unfold generalRendition
  split
  next =>
    dsimp only
    split
    next => exact Digits.isDecimal_ofDecimalPoint _ _
    next => exact ⟨Numeral.digits_ne_nil _, fun _ => Numeral.isDigit_of_mem_digits⟩
  next => trivial

/-- The magnitude of a word that is not finite has a name for digits. -/
theorem isDecimal_fixedDigits_iff (x : Binary w) (places : Nat) (negative : Bool) :
    Digits.IsDecimal ⟨negative, (x.fixedDigits places).1, (x.fixedDigits places).2⟩ ↔
      ∃ m e, x.magnitude = .finite m e := by
  constructor
  · rintro ⟨-, hdigits⟩
    unfold fixedDigits at hdigits
    cases hx : x.magnitude with
    | finite m e => exact ⟨m, e, rfl⟩
    | infinite =>
      rw [hx] at hdigits
      exact absurd (hdigits 'i' (by simp)) (by decide)
    | nan =>
      rw [hx] at hdigits
      exact absurd (hdigits 'N' (by simp)) (by decide)
  · intro hx
    exact ⟨(fixedDigits_shape hx places).1, fun c hc => Number.isDigit_of_mem_fixedDigits hx (List.mem_append.mp hc)⟩

end Binary

namespace Number

def generalRendition (x : Number) : Rendition :=
  match x with
  | single y => y.generalRendition
  | double y => y.generalRendition
  | decimal y => .positional (Digits.ofScaled y.isBelowZero y.mantissa y.scale) false false
  | integer _ _ _ => .positional (x.fixed 0) false false

def scientificRendition (x : Number) (mark : Char) (places : Nat) : Rendition :=
  let (digits, exponent) := x.toDouble.scientificDigits places
  .scientific (x.isNegative && digits.any (· != '0')) digits mark 3 exponent

def standardRendition (x : Number) (format : Standard) : Rendition :=
  let places := format.precision.getD 2
  match format.letter, x with
  | 'D', integer _ _ n | 'd', integer _ _ n =>
    .positional ⟨n < 0, Numeral.padded (format.precision.getD 0) n.natAbs, []⟩ false false
  | 'X', integer _ bits n => .word ((Numeral.hex true (word bits n)).leftpad (format.precision.getD 0) '0')
  | 'x', integer _ bits n => .word ((Numeral.hex false (word bits n)).leftpad (format.precision.getD 0) '0')
  | 'F', _ | 'f', _ => .positional (x.fixed places) false false
  | 'N', _ | 'n', _ => .positional (x.fixed places) true false
  | 'P', _ | 'p', _ => .positional (x.timesHundred.fixed places) true true
  | 'E', _ | 'e', _ => x.scientificRendition format.letter (format.precision.getD 6)
  | _, _ => x.generalRendition

/-- What a number that is finite is written from in a format. -/
def rendition (x : Number) (format : Option String) : Rendition :=
  let pattern := (format.getD "").toList
  if pattern.isEmpty then x.generalRendition
  else
    match Standard.read? pattern with
    | some standardFormat => x.standardRendition standardFormat
    | none =>
      .placed (Pattern.chosenItems pattern x) (Pattern.chosenDigits pattern x)
        (Pattern.choose (Pattern.sections pattern) x).2

theorem text_generalRendition (x : Number) (symbols : NumberSymbols) : x.generalRendition.text symbols = x.general symbols := by
  cases x with
  | single y => exact y.text_generalRendition symbols
  | double y => exact y.text_generalRendition symbols
  | decimal y => exact String.append_empty
  | integer signed bits n => exact String.append_empty

theorem text_standardRendition (x : Number) (format : Standard) (symbols : NumberSymbols) :
    (x.standardRendition format).text symbols = x.standard format symbols := by
  obtain ⟨letter, precision⟩ := format
  unfold standardRendition standard
  dsimp only
  split
  next => simp [Rendition.text, Digits.text, Numeral.paddedText]
  next => simp [Rendition.text, Digits.text, Numeral.paddedText]
  next => rfl
  next => rfl
  next => exact String.append_empty
  next => exact String.append_empty
  next => exact String.append_empty
  next => exact String.append_empty
  next => rfl
  next => rfl
  next => rfl
  next => rfl
  next => simp only [text_generalRendition]

theorem format_eq_text {x : Number} (hx : x.IsFinite) (format : Option String) (symbols : NumberSymbols) :
    x.format format symbols = (x.rendition format).text symbols := by
  rw [Number.format, symbol?_eq_none_iff.mpr hx, rendition]
  dsimp only
  split
  next => exact (x.text_generalRendition symbols).symm
  next =>
    cases hread : Standard.read? (format.getD "").toList with
    | some standardFormat => exact (x.text_standardRendition standardFormat symbols).symm
    | none => rfl

theorem isDecimal_fixed_iff (x : Number) (k : Nat) : (x.fixed k).IsDecimal ↔ x.IsFinite := by
  refine ⟨fun h => ?_, fun hx => isDecimal_fixed hx k⟩
  unfold Digits.IsDecimal at h
  cases x with
  | integer signed bits n => trivial
  | decimal y => trivial
  | single y =>
    simp only [fixed, Digits.settled_whole, Digits.settled_fraction] at h
    exact (y.isDecimal_fixedDigits_iff k false).mp h
  | double y =>
    simp only [fixed, Digits.settled_whole, Digits.settled_fraction] at h
    exact (y.isDecimal_fixedDigits_iff k false).mp h

theorem isDecimal_generalRendition (x : Number) : x.generalRendition.IsDecimal := by
  cases x with
  | single y => exact y.isDecimal_generalRendition
  | double y => exact y.isDecimal_generalRendition
  | decimal y => exact Digits.isDecimal_ofScaled _ _ _
  | integer signed bits n => exact isDecimal_fixed (x := integer signed bits n) trivial 0

theorem isFinite_toDouble {x : Number} (hfinite : x.IsFinite) (hrange : x.InRange) :
    ∃ m e, x.toDouble.magnitude = .finite m e := by
  cases x with
  | integer signed bits n => exact (approximates_toDouble (x := integer signed bits n) trivial hrange).close.1
  | decimal y => exact (approximates_toDouble (x := decimal y) trivial trivial).close.1
  | double y => exact hfinite
  | single y => exact (Binary.value_widened hfinite).1

theorem isDecimal_scientificRendition {x : Number} (hfinite : x.IsFinite) (hrange : x.InRange) (mark : Char) (k : Nat) :
    (x.scientificRendition mark k).IsDecimal := by
  obtain ⟨hlength, hdigits, -⟩ := Binary.scientificDigits_spec (isFinite_toDouble hfinite hrange) k
  have hne : (x.toDouble.scientificDigits k).1 ≠ [] := List.ne_nil_of_length_eq_add_one hlength
  exact ⟨hne, hdigits⟩

theorem isDecimal_padded (negative : Bool) (width n : Nat) : Digits.IsDecimal ⟨negative, Numeral.padded width n, []⟩ := by
  refine ⟨List.append_ne_nil_of_right_ne_nil _ (Numeral.digits_ne_nil n), fun c hc => ?_⟩
  rw [List.append_nil] at hc
  exact Decimal.isDigit_of_mem_padded hc

/-- No standard format but the percentage leaves the digits of the number itself. -/
theorem isDecimal_standardRendition {x : Number} (hfinite : x.IsFinite) (hrange : x.InRange) {format : Standard}
    (hupper : format.letter ≠ 'P') (hlower : format.letter ≠ 'p') : (x.standardRendition format).IsDecimal := by
  obtain ⟨letter, precision⟩ := format
  have hfixed := isDecimal_fixed hfinite (precision.getD 2)
  unfold standardRendition
  dsimp only
  split
  next => exact isDecimal_padded _ _ _
  next => exact isDecimal_padded _ _ _
  next => trivial
  next => trivial
  next => exact hfixed
  next => exact hfixed
  next => exact hfixed
  next => exact hfixed
  next => exact absurd rfl hupper
  next => exact absurd rfl hlower
  next => exact isDecimal_scientificRendition hfinite hrange _ _
  next => exact isDecimal_scientificRendition hfinite hrange _ _
  next => exact isDecimal_generalRendition _

theorem standardRendition_percent (x : Number) (format : Standard) (h : format.letter = 'P' ∨ format.letter = 'p') :
    x.standardRendition format = .positional (x.timesHundred.fixed (format.precision.getD 2)) true true := by
  obtain ⟨letter, precision⟩ := format
  dsimp only at h
  rcases h with rfl | rfl
  · cases x <;> rfl
  · cases x <;> rfl

/-- Whether a format asks for a percentage of the number: the letter for it, or a percent mark in the section chosen. -/
def InPercent (x : Number) (format : Option String) : Prop :=
  let pattern := (format.getD "").toList
  match Standard.read? pattern with
  | some standardFormat => standardFormat.letter = 'P' ∨ standardFormat.letter = 'p'
  | none => .percent ∈ Pattern.chosenItems pattern x

theorem not_inPercent_of_isEmpty (x : Number) {format : Option String} (h : (format.getD "").toList.isEmpty) :
    ¬x.InPercent format := by
  have hnone : Standard.read? [] = none := rfl
  have hitems : Pattern.chosenItems [] x = [] := by
    have hchosen : (Pattern.choose (Pattern.sections []) x).1 = [] := by
      simp [Pattern.sections, Pattern.sectionsFrom, Pattern.choose]
    rw [Pattern.chosenItems, hchosen, Pattern.items, Pattern.itemsFrom]
  rw [InPercent, List.isEmpty_iff.mp h, hnone, hitems]
  exact List.not_mem_nil

/-- The digits of a finite number are decimal in every format but a percentage of it that is not finite. -/
theorem isDecimal_rendition_iff {x : Number} (hfinite : x.IsFinite) (hrange : x.InRange) (format : Option String) :
    (x.rendition format).IsDecimal ↔ (x.InPercent format → x.timesHundred.IsFinite) := by
  unfold rendition
  dsimp only
  split
  next hempty =>
    exact iff_of_true x.isDecimal_generalRendition fun h => absurd h (x.not_inPercent_of_isEmpty hempty)
  next =>
    unfold InPercent
    dsimp only
    cases hread : Standard.read? (format.getD "").toList with
    | some standardFormat =>
      dsimp only
      by_cases hletter : standardFormat.letter = 'P' ∨ standardFormat.letter = 'p'
      · rw [standardRendition_percent x standardFormat hletter, forall_prop_of_true hletter]
        exact isDecimal_fixed_iff _ _
      · obtain ⟨hupper, hlower⟩ := not_or.mp hletter
        exact iff_of_true (isDecimal_standardRendition hfinite hrange hupper hlower) fun h => absurd h hletter
    | none =>
      dsimp only [Rendition.IsDecimal]
      rw [Pattern.chosenDigits, isDecimal_fixed_iff, Pattern.scaled, List.contains_eq_mem]
      split
      next hpercent => rw [forall_prop_of_true (of_decide_eq_true hpercent)]
      next hno => exact iff_of_true hfinite fun h => absurd (decide_eq_true h) hno

/-- Only a double can be so great that a hundred times it is not finite. -/
theorem isFinite_timesHundred_iff {x : Number} (hfinite : x.IsFinite) (hrange : x.InRange) :
    x.timesHundred.IsFinite ↔ ∀ y, x = .double y → 100 * |y.value| < 2 ^ 1024 - 2 ^ 970 := by
  rw [← Binary.limit_double]
  cases x with
  | integer signed bits n => exact iff_of_true (isFinite_timesHundred trivial hrange) fun _ h => by cases h
  | decimal y => exact iff_of_true (isFinite_timesHundred trivial hrange) fun _ h => by cases h
  | single y => exact iff_of_true (isFinite_timesHundred_single hfinite) fun _ h => by cases h
  | double y =>
    rw [isFinite_timesHundred_double hfinite]
    constructor
    · intro h z hz
      cases hz
      exact h
    · intro h
      exact h y rfl

end Number

namespace Scalar

/-- Finite numbers are written in decimal digits, however a format asks for them, unless it asks for a percentage of a
double whose product with a hundred is rounded to infinity. -/
theorem addBuiltin_isDecimal_iff {s : Scalar} {x : Number} (hx : s.number? = some x) (hfinite : x.IsFinite)
    (format : Option String) (numbers : NumberSymbols) (dates : DateSymbols) (out : String) :
    s.addBuiltin format numbers dates out = out ++ (x.rendition format).text numbers ∧
      ((x.rendition format).IsDecimal ↔
        (x.InPercent format → ∀ y, x = .double y → 100 * |y.value| < 2 ^ 1024 - 2 ^ 970)) := by
  have hrange := inRange_of_number? hx
  refine ⟨?_, ?_⟩
  · rw [addBuiltin_of_number hx, Number.format_eq_text hfinite]
  · rw [Number.isDecimal_rendition_iff hfinite hrange, Number.isFinite_timesHundred_iff hfinite hrange]

theorem addBuiltin_isDecimal_percentage :
    let y := Binary.ofDecimal .double false 12345 (-1)
    (∃ m e, y.magnitude = .finite m e) ∧
      (Scalar.double y).addBuiltin (some "P1") {} {} "" = ((Number.double y).rendition (some "P1")).text {} ∧
      ((Number.double y).rendition (some "P1")).IsDecimal ∧
      (Scalar.double y).addBuiltin (some "P1") {} {} "" = "123,450.0 %" := by
  intro y
  have hy : y.magnitude = .finite 5429388417957888 (-42) := by decide +kernel
  obtain ⟨htext, hdecimal⟩ := addBuiltin_isDecimal_iff (s := .double y) (x := .double y) rfl ⟨_, _, hy⟩ (some "P1") {} {} ""
  refine ⟨⟨_, _, hy⟩, by rw [htext, String.empty_append], hdecimal.mpr fun _ z hz => ?_, by decide +kernel⟩
  cases hz
  rw [← Binary.limit_double, y.abs_value, hy, Magnitude.value]
  refine lt_trans ?_ Binary.two_pow_lt_limit
  norm_num

/-- A number that is finite is written as infinity. -/
theorem addBuiltin_infinite_percentage :
    let y := Binary.ofDecimal .double false 1 308
    y.magnitude = .finite 5010420900022432 971 ∧
      (Scalar.double y).addBuiltin (some "P0") {} {} "" = "inf %" ∧
      ((Number.double y).rendition (some "P0")).text {} = "inf %" ∧
      ¬((Number.double y).rendition (some "P0")).IsDecimal := by
  intro y
  have hread : Number.Standard.read? "P0".toList = some ⟨'P', some 0⟩ := by decide +kernel
  have hrendition : (Number.double y).rendition (some "P0") =
      .positional ((Number.double y).timesHundred.fixed 0) true true := by
    rw [Number.rendition, Option.getD_some, hread]
    exact Number.standardRendition_percent _ ⟨'P', some 0⟩ (Or.inl rfl)
  refine ⟨by decide +kernel, by decide +kernel, by rw [hrendition]; decide +kernel, ?_⟩
  rw [hrendition]
  rintro ⟨-, hdigits⟩
  have hwhole : ((Number.double y).timesHundred.fixed 0).whole = ['i', 'n', 'f'] := by decide +kernel
  rw [hwhole] at hdigits
  exact absurd (hdigits 'i' (by simp)) (by decide)

end Scalar

end StructuredMessage
