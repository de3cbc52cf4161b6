import StructuredMessage.Calendar.Format
import StructuredMessage.Proofs.Calendar.Days
import StructuredMessage.Proofs.Calendar.SpanLayout
import StructuredMessage.Proofs.Number.Legible

namespace StructuredMessage

namespace Numeral

theorem not_mem_digits {n : Nat} {c : Char} (hc : c.isDigit = false) : c ∉ digits n :=
  not_mem_of_isDigit (fun _ => isDigit_of_mem_digits) hc

theorem not_mem_padded {width n : Nat} {c : Char} (hc : c.isDigit = false) : c ∉ padded width n :=
  not_mem_of_isDigit (fun _ => Decimal.isDigit_of_mem_padded) hc

end Numeral

namespace Date

/-- Month, day and year with slashes between them. -/
def slashed (d : Date) : List Char :=
  Numeral.padded 2 d.month ++ '/' :: (Numeral.padded 2 d.dayOfMonth ++
    '/' :: ((if d.year < 0 then "-" else "").toList ++ Numeral.padded 4 d.year.natAbs))

theorem blank_not_mem_slashed (d : Date) : ' ' ∉ d.slashed := by
  have hdigits (width n : Nat) : ' ' ∉ Numeral.padded width n := Numeral.not_mem_padded (by decide)
  unfold slashed
  split <;> simp [hdigits]

theorem eq_of_fields {d d' : Date} (hyear : d.year = d'.year) (hmonth : d.month = d'.month)
    (hday : d.dayOfMonth = d'.dayOfMonth) : d = d' := by
  have hdays : d.day = d'.day := Calendar.eq_of_date hyear hmonth hday
  obtain ⟨day, inRange⟩ := d
  obtain ⟨day', inRange'⟩ := d'
  cases hdays
  rfl

theorem eq_of_slashed {d d' : Date} (h : d.slashed = d'.slashed) : d = d' := by
  have hslash (n : Nat) : '/' ∉ Numeral.padded 2 n := Numeral.not_mem_padded (by decide)
  obtain ⟨hmonth, hrest⟩ := Text.eq_of_append_mark (hslash _) (hslash _) h
  obtain ⟨hday, hyear⟩ := Text.eq_of_append_mark (hslash _) (hslash _) hrest
  have hread := congrArg Numeral.readSigned? hyear
  rw [Numeral.readSigned?_padded, Numeral.readSigned?_padded] at hread
  exact eq_of_fields (Option.some.inj hread) (Numeral.eq_of_padded hmonth) (Numeral.eq_of_padded hday)

end Date

namespace TimeOfDay

/-- Hour and minute with a colon between them. -/
def shortClock (t : TimeOfDay) : List Char :=
  Numeral.padded 2 t.hour ++ ':' :: Numeral.padded 2 t.minute

def longClock (t : TimeOfDay) : List Char :=
  Numeral.padded 2 t.hour ++ ':' :: (Numeral.padded 2 t.minute ++ ':' :: Numeral.padded 2 t.secondOfMinute)

theorem colon_not_mem_padded (n : Nat) : ':' ∉ Numeral.padded 2 n :=
  Numeral.not_mem_padded (by decide)

theorem blank_not_mem_longClock (t : TimeOfDay) : ' ' ∉ t.longClock := by
  have hdigits (n : Nat) : ' ' ∉ Numeral.padded 2 n := Numeral.not_mem_padded (by decide)
  simp [longClock, hdigits]

theorem shortClock_eq_iff {t t' : TimeOfDay} : t.shortClock = t'.shortClock ↔ t.second / 60 = t'.second / 60 := by
  constructor
  · intro h
    obtain ⟨hhour, hminute⟩ := Text.eq_of_append_mark (colon_not_mem_padded _) (colon_not_mem_padded _) h
    have hhour' : t.second / 3600 = t'.second / 3600 := Numeral.eq_of_padded hhour
    have hminute' : t.second / 60 % 60 = t'.second / 60 % 60 := Numeral.eq_of_padded hminute
    omega
  · intro h
    have hhour : t.hour = t'.hour := by
      unfold hour
      omega
    rw [shortClock, shortClock, minute, minute, h, hhour]

theorem longClock_eq_iff {t t' : TimeOfDay} : t.longClock = t'.longClock ↔ t.second = t'.second := by
  constructor
  · intro h
    obtain ⟨hhour, hrest⟩ := Text.eq_of_append_mark (colon_not_mem_padded _) (colon_not_mem_padded _) h
    obtain ⟨hminute, hsecond⟩ := Text.eq_of_append_mark (colon_not_mem_padded _) (colon_not_mem_padded _) hrest
    have hhour' : t.second / 3600 = t'.second / 3600 := Numeral.eq_of_padded hhour
    have hminute' : t.second / 60 % 60 = t'.second / 60 % 60 := Numeral.eq_of_padded hminute
    have hsecond' : t.second % 60 = t'.second % 60 := Numeral.eq_of_padded hsecond
    omega
  · intro h
    rw [longClock, longClock, hour, hour, minute, minute, secondOfMinute, secondOfMinute, h]

end TimeOfDay

namespace DatePattern

theorem toList_offsetText (offset : Int) : (offsetText offset 3).toList =
    (if offset < 0 then '-' else '+') ::
      (Numeral.padded 2 (offset.natAbs / 3600) ++ ':' :: Numeral.padded 2 (offset.natAbs % 3600 / 60)) := by
  have hsign : (if offset < 0 then "-" else "+").toList = [if offset < 0 then '-' else '+'] := by
    split <;> simp
  simp [offsetText, Numeral.paddedText, hsign]

/-- An offset shows its sign and its whole minutes. -/
theorem offsetText_eq_iff {offset offset' : Int} : (offsetText offset 3).toList = (offsetText offset' 3).toList ↔
    (offset < 0 ↔ offset' < 0) ∧ offset.natAbs / 60 = offset'.natAbs / 60 := by
  rw [toList_offsetText, toList_offsetText]
  constructor
  · intro h
    obtain ⟨hsign, hrest⟩ := List.cons.inj h
    obtain ⟨hhour, hminute⟩ :=
      Text.eq_of_append_mark (TimeOfDay.colon_not_mem_padded _) (TimeOfDay.colon_not_mem_padded _) hrest
    have hhour' := Numeral.eq_of_padded hhour
    have hminute' := Numeral.eq_of_padded hminute
    exact ⟨Text.iff_of_sign hsign, by omega⟩
  · rintro ⟨hsign, hminutes⟩
    have hhour : offset.natAbs / 3600 = offset'.natAbs / 3600 := by omega
    have hminute : offset.natAbs % 3600 / 60 = offset'.natAbs % 3600 / 60 := by omega
    simp only [hsign, hhour, hminute]

variable (m : Moment) (offset : Option Int)

theorem toList_add_date : (add "MM/dd/yyyy" m offset {} "").toList = m.date.slashed := by
  have hitems : items "MM/dd/yyyy".toList =
      [.field .month 2, .dateSeparator, .field .day 2, .dateSeparator, .field .year 4] := by
    simp [items, DateField.ofLetter?]
  rw [add, hitems]
  simp [addItem, yearText, Numeral.paddedText, Date.slashed]

theorem toList_add_time : (add "HH:mm" m offset {} "").toList = m.time.shortClock := by
  have hitems : items "HH:mm".toList = [.field .hour 2, .timeSeparator, .field .minute 2] := by
    simp [items, DateField.ofLetter?]
  rw [add, hitems]
  simp [addItem, Numeral.paddedText, TimeOfDay.shortClock]

theorem toList_add_moment : (add ("MM/dd/yyyy" ++ " " ++ "HH:mm:ss") m offset {} "").toList =
    m.date.slashed ++ ' ' :: m.time.longClock := by
  have hitems : items ("MM/dd/yyyy" ++ " " ++ "HH:mm:ss").toList =
      [.field .month 2, .dateSeparator, .field .day 2, .dateSeparator, .field .year 4, .literal [' '],
        .field .hour 2, .timeSeparator, .field .minute 2, .timeSeparator, .field .second 2] := by
    simp [items, DateField.ofLetter?]
  rw [add, hitems]
  simp [addItem, yearText, Numeral.paddedText, Date.slashed, TimeOfDay.longClock]

end DatePattern

namespace Moment

variable (m : Moment)

theorem toList_add_moment : (m.add none none 'G' {} "").toList = m.date.slashed ++ ' ' :: m.time.longClock :=
  DatePattern.toList_add_moment m none

theorem toList_add_zoned (offset : Int) : (m.add (some offset) none 'G' {} "").toList =
    m.date.slashed ++ ' ' :: (m.time.longClock ++ ' ' :: (DatePattern.offsetText offset 3).toList) := by
  have hadd : m.add (some offset) none 'G' {} "" =
      DatePattern.add ("MM/dd/yyyy" ++ " " ++ "HH:mm:ss") m (some offset) {} "" ++ " " ++
        DatePattern.offsetText offset 3 := rfl
  rw [hadd, String.toList_append, String.toList_append, DatePattern.toList_add_moment]
  simp

theorem toList_add_date : (m.add none none 'd' {} "").toList = m.date.slashed :=
  DatePattern.toList_add_date m none

theorem toList_add_time : (m.add none none 't' {} "").toList = m.time.shortClock :=
  DatePattern.toList_add_time m none

/-- A moment shows its date and its seconds. -/
theorem add_moment_eq_iff {m m' : Moment} : m.add none none 'G' {} "" = m'.add none none 'G' {} "" ↔
    m.date = m'.date ∧ m.time.second = m'.time.second := by
  rw [← String.toList_inj, toList_add_moment, toList_add_moment, ← TimeOfDay.longClock_eq_iff]
  constructor
  · intro h
    obtain ⟨hdate, hclock⟩ :=
      Text.eq_of_append_mark m.date.blank_not_mem_slashed m'.date.blank_not_mem_slashed h
    exact ⟨Date.eq_of_slashed hdate, hclock⟩
  · rintro ⟨hdate, hclock⟩
    rw [hdate, hclock]

theorem add_zoned_eq_iff {m m' : Moment} {offset offset' : Int} :
    m.add (some offset) none 'G' {} "" = m'.add (some offset') none 'G' {} "" ↔
      m.date = m'.date ∧ m.time.second = m'.time.second ∧
        (offset < 0 ↔ offset' < 0) ∧ offset.natAbs / 60 = offset'.natAbs / 60 := by
  rw [← String.toList_inj, toList_add_zoned, toList_add_zoned, ← TimeOfDay.longClock_eq_iff,
    ← DatePattern.offsetText_eq_iff]
  constructor
  · intro h
    obtain ⟨hdate, hrest⟩ := Text.eq_of_append_mark m.date.blank_not_mem_slashed m'.date.blank_not_mem_slashed h
    obtain ⟨hclock, hoffset⟩ :=
      Text.eq_of_append_mark m.time.blank_not_mem_longClock m'.time.blank_not_mem_longClock hrest
    exact ⟨Date.eq_of_slashed hdate, hclock, hoffset⟩
  · rintro ⟨hdate, hclock, hoffset⟩
    rw [hdate, hclock, hoffset]

theorem eq_of_add_date {d d' : Date} {t t' : TimeOfDay}
    (h : (Moment.mk d t).add none none 'd' {} "" = (Moment.mk d' t').add none none 'd' {} "") : d = d' := by
  rw [← String.toList_inj, toList_add_date, toList_add_date] at h
  exact Date.eq_of_slashed h

/-- A time of day shows its minutes. -/
theorem add_time_eq_iff {m m' : Moment} :
    m.add none none 't' {} "" = m'.add none none 't' {} "" ↔ m.time.second / 60 = m'.time.second / 60 := by
  rw [← String.toList_inj, toList_add_time, toList_add_time, TimeOfDay.shortClock_eq_iff]

end Moment

namespace Span

/-- The whole days, where there are any, and the hours. -/
def hourPart (days hours : Nat) : List Char :=
  if 0 < days then Numeral.digits days ++ '.' :: Numeral.padded 2 hours else Numeral.padded 2 hours

/-- So many ticks of a hundred nanoseconds, without a sign. -/
def clock (ticks : Nat) : List Char :=
  let total := ticks / 10000000
  hourPart (total / 86400) (total % 86400 / 3600) ++
    ':' :: (Numeral.padded 2 (total % 3600 / 60) ++
      ':' :: (Numeral.padded 2 (total % 60) ++
        Text.tail '.' (if 0 < ticks % 10000000 then Numeral.padded 7 (ticks % 10000000) else [])))

theorem front_constant (days hours : Nat) :
    Layout.constant.dayChars days ++ Layout.constant.hourChars hours = hourPart days hours := by
  unfold Layout.dayChars hourPart
  by_cases h : 0 < days
  · rw [if_pos h, if_pos (Or.inl h)]
    simp [Layout.dayMark, Layout.hourChars]
  · have hnone : ¬(0 < days ∨ Layout.constant = .long) := by simpa using h
    rw [if_neg h, if_neg hnone]
    rfl

theorem chars_constant (separator : List Char) (ticks : Nat) : Layout.constant.chars separator ticks = clock ticks := by
  unfold Layout.chars clock
  dsimp only
  rw [← front_constant, List.append_assoc]
  rfl

theorem toList_format_none (s : Span) :
    (s.format none {}).toList = (if s.value < 0 then ['-'] else []) ++ clock (s.value.natAbs / 100) := by
  rw [toList_format, ← chars_constant]
  rfl

theorem colon_not_mem_hourPart (days hours : Nat) : ':' ∉ hourPart days hours := by
  have hdigits : ':' ∉ Numeral.digits days := Numeral.not_mem_digits (by decide)
  have hpadded := TimeOfDay.colon_not_mem_padded hours
  unfold hourPart
  split <;> simp [hdigits, hpadded]

theorem eq_of_hourPart {days hours days' hours' : Nat} (h : hourPart days hours = hourPart days' hours') :
    days = days' ∧ hours = hours' := by
  have hpadded (n : Nat) : '.' ∉ Numeral.padded 2 n := Numeral.not_mem_padded (by decide)
  have hdigits (n : Nat) : '.' ∉ Numeral.digits n := Numeral.not_mem_digits (by decide)
  unfold hourPart at h
  split at h <;> split at h
  next =>
    obtain ⟨hdays, hhours⟩ := Text.eq_of_append_mark (hdigits _) (hdigits _) h
    exact ⟨Numeral.eq_of_digits hdays, Numeral.eq_of_padded hhours⟩
  next => exact absurd (by rw [← h]; simp) (hpadded hours')
  next => exact absurd (by rw [h]; simp) (hpadded hours)
  next => exact ⟨by omega, Numeral.eq_of_padded h⟩

theorem eq_of_clock {ticks ticks' : Nat} (h : clock ticks = clock ticks') : ticks = ticks' := by
  have hcolon := TimeOfDay.colon_not_mem_padded
  have hpoint (n : Nat) : '.' ∉ Numeral.padded 2 n := Numeral.not_mem_padded (by decide)
  obtain ⟨hhours, hrest⟩ := Text.eq_of_append_mark (colon_not_mem_hourPart _ _) (colon_not_mem_hourPart _ _) h
  obtain ⟨hminute, hrest⟩ := Text.eq_of_append_mark (hcolon _) (hcolon _) hrest
  obtain ⟨hsecond, hfraction⟩ := Text.eq_of_append_tail (hpoint _) (hpoint _) hrest
  obtain ⟨hdays, hhours⟩ := eq_of_hourPart hhours
  have hminute := Numeral.eq_of_padded hminute
  have hsecond := Numeral.eq_of_padded hsecond
  have hticks : ticks % 10000000 = ticks' % 10000000 := by
    split at hfraction <;> split at hfraction
    next => exact Numeral.eq_of_padded hfraction
    next => exact absurd hfraction (Numeral.padded_ne_nil 7 _)
    next => exact absurd hfraction.symm (Numeral.padded_ne_nil 7 _)
    next => omega
  omega

theorem hyphen_not_mem_clock (ticks : Nat) : '-' ∉ clock ticks := by
  have hpadded (width n : Nat) : '-' ∉ Numeral.padded width n := Numeral.not_mem_padded (by decide)
  have hdigits (n : Nat) : '-' ∉ Numeral.digits n := Numeral.not_mem_digits (by decide)
  simp only [clock, hourPart, Text.tail]
  split_ifs <;> simp [hpadded, hdigits]

/-- A span shows its sign and its ticks of a hundred nanoseconds. -/
theorem format_eq_iff {s s' : Span} : s.format none {} = s'.format none {} ↔
    (s.value < 0 ↔ s'.value < 0) ∧ s.value.natAbs / 100 = s'.value.natAbs / 100 := by
  have hhead (ticks : Nat) : (clock ticks).head? ≠ some '-' := fun h =>
    hyphen_not_mem_clock ticks (List.mem_of_head? h)
  rw [← String.toList_inj, toList_format_none, toList_format_none]
  constructor
  · intro h
    obtain ⟨hsign, hclock⟩ := Text.eq_of_sign (hhead _) (hhead _) h
    exact ⟨hsign, eq_of_clock hclock⟩
  · rintro ⟨hsign, hticks⟩
    simp only [hsign, hticks]

end Span

end StructuredMessage
