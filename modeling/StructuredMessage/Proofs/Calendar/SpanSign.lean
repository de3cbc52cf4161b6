import StructuredMessage.Proofs.Calendar.RoundTrip

namespace StructuredMessage

theorem Numeral.withoutTrailingZeros_padded_eq_nil_iff {width n : Nat} :
    withoutTrailingZeros (padded width n) = [] ↔ n = 0 := by
  constructor
  · intro hnil
    obtain ⟨zeros, hzeros⟩ := withoutTrailingZeros_append (padded width n)
    have hread := read?_padded width n
    rw [hzeros, hnil, List.nil_append, read?_eq_some_iff, Nat.ofDigitChars_replicate_zero] at hread
    simpa using hread.2.2.symm
  · rintro rfl
    have hzeros : ∀ c ∈ (padded width 0).reverse, c == '0' := by
      intro c hc
      rcases List.mem_append.mp (List.mem_reverse.mp hc) with hpad | hdigit
      · simpa using List.eq_of_mem_replicate hpad
      · have hlone : digits 0 = ['0'] := rfl
        simpa [hlone] using hdigit
    rw [withoutTrailingZeros, List.dropWhile_eq_nil_iff.mpr hzeros, List.reverse_nil]

namespace Span

namespace Layout

theorem hyphen_not_mem_front (layout : Layout) (days hours : Nat) :
    '-' ∉ layout.dayChars days ++ layout.hourChars hours := by
  have hpadded (width n : Nat) : '-' ∉ Numeral.padded width n := Numeral.not_mem_padded (by decide)
  have hdigits (n : Nat) : '-' ∉ Numeral.digits n := Numeral.not_mem_digits (by decide)
  unfold dayChars
  cases layout <;> split_ifs <;> simp [hourChars, dayMark, hpadded, hdigits]

/-- No layout begins with a hyphen, so that a sign in front of it is told from it. -/
theorem head?_chars_ne (layout : Layout) (separator : List Char) (ticks : Nat) :
    (layout.chars separator ticks).head? ≠ some '-' := by
  have hfront := layout.hyphen_not_mem_front (ticks / 10000000 / 86400) (ticks / 10000000 % 86400 / 3600)
  unfold chars
  dsimp only
  rw [← List.append_assoc]
  revert hfront
  cases layout.dayChars (ticks / 10000000 / 86400) ++ layout.hourChars (ticks / 10000000 % 86400 / 3600) with
  | nil => simp
  | cons c front =>
    intro hfront hhead
    exact hfront (by rw [← Option.some.inj hhead]; exact List.mem_cons_self)

theorem fractionChars_eq_zero {layout : Layout} {separator : List Char} {ticks : Nat}
    (h : layout.fractionChars separator ticks = layout.fractionChars separator 0) : ticks = 0 := by
  cases layout with
  | constant =>
    unfold fractionChars Text.tail at h
    by_contra hticks
    simp [Nat.pos_of_ne_zero hticks, Numeral.padded_ne_nil] at h
  | short =>
    have hzero : Numeral.withoutTrailingZeros (Numeral.padded 7 0) = [] :=
      Numeral.withoutTrailingZeros_padded_eq_nil_iff.mpr rfl
    unfold fractionChars at h
    dsimp only at h
    rw [hzero, if_pos List.isEmpty_nil] at h
    have hkept : Numeral.withoutTrailingZeros (Numeral.padded 7 ticks) = [] := by
      by_contra hne
      rw [if_neg (by simpa using hne)] at h
      exact hne (List.append_eq_nil_iff.mp h).2
    exact Numeral.withoutTrailingZeros_padded_eq_nil_iff.mp hkept
  | long => exact Numeral.eq_of_padded (List.append_cancel_left h)

theorem eq_of_minutes {m m' s s' : Nat} (hs : s < 60) (hs' : s' < 60) {rest rest' : List Char}
    (h : Numeral.padded 2 m ++ ':' :: (Numeral.padded 2 s ++ rest) =
      Numeral.padded 2 m' ++ ':' :: (Numeral.padded 2 s' ++ rest')) : m = m' ∧ s = s' ∧ rest = rest' := by
  have hcolon := TimeOfDay.colon_not_mem_padded
  have hlength {n : Nat} (hn : n < 60) : (Numeral.padded 2 n).length = 2 :=
    Numeral.length_padded_of_lt (by decide) (Nat.lt_trans hn (by decide))
  obtain ⟨hminutes, hseconds⟩ := Text.eq_of_append_mark (hcolon m) (hcolon m') h
  obtain ⟨hseconds, hrest⟩ := List.append_inj hseconds (by rw [hlength hs, hlength hs'])
  exact ⟨Numeral.eq_of_padded hminutes, Numeral.eq_of_padded hseconds, hrest⟩

/-- Days and hours are told from no days and no hours. -/
theorem eq_zero_of_front {layout : Layout} {days hours : Nat} {rest rest' : List Char}
    (h : layout.dayChars days ++ (layout.hourChars hours ++ ':' :: rest) =
      layout.dayChars 0 ++ (layout.hourChars 0 ++ ':' :: rest')) : days = 0 ∧ hours = 0 ∧ rest = rest' := by
  have hdigits (n : Nat) : ':' ∉ Numeral.digits n := Numeral.not_mem_digits (by decide)
  have hpadded := TimeOfDay.colon_not_mem_padded
  cases layout with
  | constant =>
    rw [← List.append_assoc, ← List.append_assoc, front_constant, front_constant] at h
    obtain ⟨hfront, hrest⟩ := Text.eq_of_append_mark (colon_not_mem_hourPart _ _) (colon_not_mem_hourPart _ _) h
    obtain ⟨hdays, hhours⟩ := eq_of_hourPart hfront
    exact ⟨hdays, hhours, hrest⟩
  | short =>
    have hdays : ¬0 < days := by
      intro hdays
      have hchars : short.dayChars days = Numeral.digits days ++ [':'] := if_pos (Or.inl hdays)
      rw [hchars, List.append_assoc] at h
      have hzero := Numeral.eq_of_digits (Text.eq_of_append_mark (hdigits days) (hdigits 0) h).1
      omega
    have hchars : short.dayChars days = [] := if_neg (by simpa using hdays)
    rw [hchars] at h
    obtain ⟨hhours, hrest⟩ := Text.eq_of_append_mark (hdigits hours) (hdigits 0) h
    exact ⟨Nat.eq_zero_of_not_pos hdays, Numeral.eq_of_digits hhours, hrest⟩
  | long =>
    have hchars (n : Nat) : long.dayChars n = Numeral.digits n ++ [':'] := if_pos (Or.inr rfl)
    rw [hchars, hchars, List.append_assoc, List.append_assoc] at h
    obtain ⟨hdays, hclock⟩ := Text.eq_of_append_mark (hdigits days) (hdigits 0) h
    obtain ⟨hhours, hrest⟩ := Text.eq_of_append_mark (hpadded hours) (hpadded 0) hclock
    exact ⟨Numeral.eq_of_digits hdays, Numeral.eq_of_padded hhours, hrest⟩

/-- Only no ticks at all are written as no ticks are. -/
theorem eq_zero_of_chars {layout : Layout} {separator : List Char} {ticks : Nat}
    (h : layout.chars separator ticks = layout.chars separator 0) : ticks = 0 := by
  obtain ⟨hdays, hhours, hrest⟩ := eq_zero_of_front h
  obtain ⟨hminutes, hseconds, hfraction⟩ := eq_of_minutes (Nat.mod_lt _ (by decide)) (by decide) hrest
  have hticks := fractionChars_eq_zero hfraction
  omega

end Layout

variable {s s' : Span} (format : Option String) (symbols : NumberSymbols)

theorem format_eq_iff_sign (h : s.ticks = s'.ticks) :
    s.format format symbols = s'.format format symbols ↔ (s.value < 0 ↔ s'.value < 0) := by
  have hhead := (Layout.ofFormat format).head?_chars_ne symbols.decimalSeparator.toList
  rw [← String.toList_inj, toList_format, toList_format, ← natAbs_ticks, ← natAbs_ticks, h]
  constructor
  · intro hchars
    exact (Text.eq_of_sign (hhead _) (hhead _) hchars).1
  · intro hsign
    simp only [hsign]

def zero : Span :=
  ⟨0, 0, by decide⟩

theorem toList_format_zero : (zero.format format symbols).toList =
    (Layout.ofFormat format).chars symbols.decimalSeparator.toList 0 := by
  rw [toList_format]
  rfl

theorem format_eq_hyphen_zero_iff :
    s.format format symbols = "-" ++ zero.format format symbols ↔ s.value < 0 ∧ s.ticks = 0 := by
  have hhead := (Layout.ofFormat format).head?_chars_ne symbols.decimalSeparator.toList s.ticks.natAbs
  have hhyphen : "-".toList = ['-'] := rfl
  rw [← String.toList_inj, String.toList_append, hhyphen, toList_format_zero, toList_format, ← natAbs_ticks]
  constructor
  · intro h
    split at h
    next hneg => exact ⟨hneg, Int.natAbs_eq_zero.mp (Layout.eq_zero_of_chars (List.cons.inj h).2)⟩
    next hneg =>
      rw [List.nil_append] at h
      rw [h] at hhead
      exact absurd rfl hhead
  · rintro ⟨hneg, hticks⟩
    rw [if_pos hneg, hticks]
    rfl

/-- Spans that are the same to the tick are written alike in every format unless they come to no ticks and one of them
only is below zero: a hyphen stands in front of what is written for zero iff the span is less than a tick below it. -/
theorem format_canonical_iff (h : s.ticks = s'.ticks) :
    (s.format format symbols = s'.format format symbols ↔ s.ticks ≠ 0 ∨ (s.value < 0 ↔ s'.value < 0)) ∧
      (s.format format symbols = "-" ++ zero.format format symbols ↔ -100 < s.value ∧ s.value < 0) := by
  constructor
  · have hsign := s.ticks_neg_iff
    have hsign' := s'.ticks_neg_iff
    rw [format_eq_iff_sign format symbols h]
    omega
  · have habs := s.natAbs_ticks
    rw [format_eq_hyphen_zero_iff]
    omega

/-- One and a half ticks below zero, and almost two. -/
theorem format_canonical_below_zero :
    let s : Span := ⟨-1, 999999850, by decide⟩
    let s' : Span := ⟨-1, 999999801, by decide⟩
    s.ticks = s'.ticks ∧ s.format (some "G") {} = s'.format (some "G") {} ∧
      s.format (some "G") {} = "-0:00:00:00.0000001" ∧ s.format (some "G") {} ≠ "-" ++ zero.format (some "G") {} := by
  intro s s'
  have hticks : s.ticks = s'.ticks := by decide
  have hne : s.ticks ≠ 0 := by decide
  obtain ⟨halike, hzero⟩ := format_canonical_iff (some "G") {} hticks
  exact ⟨hticks, halike.mpr (Or.inl hne), by decide +kernel, fun heq => absurd (hzero.mp heq) (by decide)⟩

/-- Half a tick below zero is the same to the tick as zero. -/
theorem format_half_tick_below_zero :
    let s : Span := ⟨-1, 999999950, by decide⟩
    s.ticks = zero.ticks ∧ s.format (some "c") {} = "-00:00:00" ∧ zero.format (some "c") {} = "00:00:00" ∧
      s.format (some "c") {} ≠ zero.format (some "c") {} := by
  intro s
  have hformat : s.format (some "c") {} = "-00:00:00" := by decide +kernel
  have hzero : zero.format (some "c") {} = "00:00:00" := by decide +kernel
  exact ⟨by decide, hformat, hzero, by rw [hformat, hzero]; decide⟩

end Span

end StructuredMessage
