import StructuredMessage.Calendar.Span
import StructuredMessage.Proofs.Text.Marks
import StructuredMessage.Proofs.Text.Numeral

namespace StructuredMessage.Span

/-- The span in nanoseconds. -/
def value (s : Span) : Int :=
  s.seconds * 1000000000 + s.nanos

/-- The span in ticks of a hundred nanoseconds, cut towards zero. -/
def ticks (s : Span) : Int :=
  s.value.tdiv 100

theorem natAbs_ticks (s : Span) : s.ticks.natAbs = s.value.natAbs / 100 :=
  Int.natAbs_tdiv s.value 100

theorem ticks_neg_iff (s : Span) : s.ticks < 0 ↔ s.value < 0 ∧ s.ticks ≠ 0 := by
  have hsign : Int.sign 100 = 1 := rfl
  unfold ticks
  rw [Int.tdiv_eq_ediv, hsign]
  split <;> omega

theorem parts (s : Span) : (s.wholeSeconds < 0 ∨ s.restNanos < 0 ↔ s.value < 0) ∧
    s.wholeSeconds.natAbs = s.value.natAbs / 100 / 10000000 ∧
    s.restNanos.natAbs / 100 = s.value.natAbs / 100 % 10000000 := by
  have hnanos := s.nanos_lt
  unfold wholeSeconds restNanos value
  split <;> omega

/-- How days, hours, minutes, seconds and ticks are put together. -/
inductive Layout
  /-- The same in all cultures. -/
  | constant
  /-- With a separator of the culture and nothing that could be left out. -/
  | short
  /-- With a separator of the culture and every part in full. -/
  | long
  deriving DecidableEq

namespace Layout

def ofFormat : Option String → Layout
  | some "g" => short
  | some "G" => long
  | _ => constant

def dayMark : Layout → Char
  | constant => '.'
  | short => ':'
  | long => ':'

def dayChars (layout : Layout) (days : Nat) : List Char :=
  if 0 < days ∨ layout = long then Numeral.digits days ++ [layout.dayMark] else []

def hourChars : Layout → Nat → List Char
  | constant => Numeral.padded 2
  | short => Numeral.digits
  | long => Numeral.padded 2

/-- The fraction of a second in ticks, behind the separator of the culture if the layout is not the same in all. -/
def fractionChars (separator : List Char) (ticks : Nat) : Layout → List Char
  | constant => Text.tail '.' (if 0 < ticks then Numeral.padded 7 ticks else [])
  | short =>
    let kept := Numeral.withoutTrailingZeros (Numeral.padded 7 ticks)
    if kept.isEmpty then [] else separator ++ kept
  | long => separator ++ Numeral.padded 7 ticks

/-- So many ticks of a hundred nanoseconds, without a sign. -/
def chars (layout : Layout) (separator : List Char) (ticks : Nat) : List Char :=
  let total := ticks / 10000000
  layout.dayChars (total / 86400) ++ (layout.hourChars (total % 86400 / 3600) ++
    ':' :: (Numeral.padded 2 (total % 3600 / 60) ++
      ':' :: (Numeral.padded 2 (total % 60) ++ layout.fractionChars separator (ticks % 10000000))))

theorem toList_days {layout : Layout} (hlayout : layout ≠ long) {mark : String} (hmark : mark.toList = [layout.dayMark])
    (days : Nat) : (if 0 < days then Numeral.text days ++ mark else "").toList = layout.dayChars days := by
  unfold dayChars
  by_cases h : 0 < days
  · rw [if_pos h, if_pos (Or.inl h), String.toList_append, hmark, Numeral.text, String.toList_ofList]
  · rw [if_neg h, if_neg (not_or.mpr ⟨h, hlayout⟩), String.toList_empty]

theorem toList_fraction_constant (separator : List Char) (ticks : Nat) :
    (if 0 < ticks then "." ++ String.ofList (Numeral.padded 7 ticks) else "").toList =
      constant.fractionChars separator ticks := by
  unfold fractionChars
  split
  next => simp [Text.tail, Numeral.padded_ne_nil]
  next => rfl

theorem toList_fraction_short (separator : String) (ticks : Nat) :
    (if (Numeral.withoutTrailingZeros (Numeral.padded 7 ticks)).isEmpty then ""
      else separator ++ String.ofList (Numeral.withoutTrailingZeros (Numeral.padded 7 ticks))).toList =
      short.fractionChars separator.toList ticks := by
  unfold fractionChars
  dsimp only
  split
  next => rfl
  next => rw [String.toList_append, String.toList_ofList]

end Layout

/-- A span is its sign and its ticks, put together as the format asks for. -/
theorem toList_format (s : Span) (format : Option String) (symbols : NumberSymbols) :
    (s.format format symbols).toList = (if s.value < 0 then ['-'] else []) ++
      (Layout.ofFormat format).chars symbols.decimalSeparator.toList (s.value.natAbs / 100) := by
  obtain ⟨hsign, htotal, hticks⟩ := s.parts
  have hneg : (if s.value < 0 then "-" else "").toList = if s.value < 0 then ['-'] else [] := by
    split <;> rfl
  unfold Span.format Layout.ofFormat Layout.chars
  dsimp only
  simp only [hsign, htotal, hticks]
  split
  next =>
    have hmark : ":".toList = [Layout.short.dayMark] := rfl
    have hdays := Layout.toList_days (by decide) hmark
    simp only [String.toList_append, hneg, hdays, Layout.toList_fraction_short, Layout.hourChars, Numeral.paddedText,
      String.toList_ofList]
    simp [Numeral.text]
  next =>
    simp only [String.toList_append, hneg, Layout.dayChars, Layout.hourChars, Layout.fractionChars, Numeral.text,
      Numeral.paddedText, String.toList_ofList]
    simp [Layout.dayMark]
  next =>
    have hmark : ".".toList = [Layout.constant.dayMark] := rfl
    have hdays := Layout.toList_days (by decide) hmark
    simp only [String.toList_append, hneg, hdays, Layout.toList_fraction_constant symbols.decimalSeparator.toList,
      Layout.hourChars, Numeral.paddedText, String.toList_ofList]
    simp

end StructuredMessage.Span
