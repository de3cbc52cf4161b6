import StructuredMessage.Proofs.Calendar.RoundTrip
import StructuredMessage.Proofs.Scalar.Same

namespace StructuredMessage

theorem TimeOfDay.length_longClock (t : TimeOfDay) : t.longClock.length = 8 := by
  obtain ⟨hhour, hminute, hsecond⟩ := t.parts_lt
  simp [longClock, Numeral.length_padded_of_lt, hhour, hminute, hsecond]

namespace Zoned

/-- A leap second on a clock that is ahead of universal time. -/
def LeapAhead (z : Zoned) : Prop :=
  1000000000 ≤ z.wall.time.nano ∧ 0 < z.offset

instance (z : Zoned) : Decidable z.LeapAhead :=
  inferInstanceAs (Decidable (_ ∧ _))

theorem exists_sub_offset (z : Zoned) {nano : Nat} (hnano : nano < 2000000000) :
    ∃ m, Moment.ofSeconds? (z.wall.seconds - z.offset) nano hnano = some m ∧ m.seconds = z.universal.seconds := by
  have huniversal : z.wall.seconds - z.offset = z.universal.seconds := by
    rw [z.seconds_wall, Int.add_sub_cancel]
  obtain ⟨m, hm, hseconds, -⟩ := Moment.exists_ofSeconds? z.universal.day_of_seconds
  rw [huniversal]
  exact ⟨m, hm, hseconds⟩

/-- Taking the offset off leads to the instant, and never out of the calendar. From a leap second on a clock ahead
of universal time it leads to the second behind it. -/
theorem exists_earlier? (z : Zoned) : ∃ m, z.wall.earlier? z.offset = some m ∧
    m.seconds = z.universal.seconds + if z.LeapAhead then 1 else 0 := by
  have hwall := z.seconds_wall
  by_cases hahead : z.LeapAhead
  · obtain ⟨hleap, hpos⟩ := hahead
    have hleap' : ¬z.wall.time.nano < 1000000000 := Nat.not_lt.mpr hleap
    have hneg : ¬z.offset < 0 := Int.not_lt.mpr (Int.le_of_lt hpos)
    -- The wall clock is in the calendar and at least a second ahead.
    have hfirst := z.universal.day_of_seconds
    have hlast := z.wall.day_of_seconds
    have hlater : Calendar.firstDay ≤ (z.universal.seconds + 1) / 86400 ∧
        (z.universal.seconds + 1) / 86400 ≤ Calendar.lastDay := by omega
    have hshift : z.wall.seconds + 1 - z.offset = z.universal.seconds + 1 := by omega
    obtain ⟨m, hm, hseconds, -⟩ := Moment.exists_ofSeconds? hlater
    unfold Moment.earlier?
    dsimp only
    rw [if_neg hleap', if_neg hneg, if_pos hpos, if_pos ⟨hleap, hpos⟩, hshift]
    exact ⟨m, hm, hseconds⟩
  · rw [if_neg hahead, Int.add_zero]
    unfold Moment.earlier?
    dsimp only
    split
    next => exact z.exists_sub_offset _
    next hleap =>
      have hpos : ¬0 < z.offset := fun hpos => hahead ⟨Nat.not_lt.mp hleap, hpos⟩
      split
      next => exact z.exists_sub_offset _
      next hneg =>
        -- Nothing is taken off, and the leap second stays.
        have hzero : z.offset = 0 := by omega
        exact ⟨z.wall, rfl, by omega⟩

end Zoned

/-- The standard formats in universal time. -/
inductive UniversalFormat
  | sortable
  | rfc1123

namespace UniversalFormat

def ofFormat? : String → Option UniversalFormat
  | "u" => some sortable
  | "r" | "R" => some rfc1123
  | _ => none

def pattern : UniversalFormat → String
  | sortable => StandardDate.universalSortable
  | rfc1123 => StandardDate.rfc1123

def weekdayChars (d : Date) : List Char :=
  (DatePattern.nameAt ({} : DateSymbols).shortDayNames (Calendar.weekday d.day)).toList

def monthChars (d : Date) : List Char :=
  (DatePattern.nameAt ({} : DateSymbols).shortMonthNames (d.month - 1)).toList

/-- What stands in front of the clock. -/
def dateChars : UniversalFormat → Date → List Char
  | sortable, d => d.hyphenated ++ [' ']
  | rfc1123, d => weekdayChars d ++ ',' :: ' ' :: (Numeral.padded 2 d.dayOfMonth ++
      ' ' :: (monthChars d ++ ' ' :: (Date.yearChars d.year ++ [' '])))

/-- What stands behind the clock. -/
def zoneChars : UniversalFormat → List Char
  | sortable => ['Z']
  | rfc1123 => [' ', 'G', 'M', 'T']

def chars (u : UniversalFormat) (m : Moment) : List Char :=
  u.dateChars m.date ++ (m.time.longClock ++ u.zoneChars)

theorem comma_not_mem_weekdayChars (d : Date) : ',' ∉ weekdayChars d := by
  have hnames : ∀ i < 7, ',' ∉ (DatePattern.nameAt ({} : DateSymbols).shortDayNames i).toList := by decide
  refine hnames _ ?_
  unfold Calendar.weekday
  omega

theorem month_sub_one_lt (d : Date) : d.month - 1 < 12 := by
  have hmonth : d.month ≤ 12 := Calendar.monthOf_le d.day
  omega

theorem blank_not_mem_monthChars (d : Date) : ' ' ∉ monthChars d := by
  have hnames : ∀ i < 12, ' ' ∉ (DatePattern.nameAt ({} : DateSymbols).shortMonthNames i).toList := by decide
  exact hnames _ (month_sub_one_lt d)

theorem month_eq_of_monthChars {d d' : Date} (h : monthChars d = monthChars d') : d.month = d'.month := by
  have hnames : ∀ i < 12, ∀ j < 12, (DatePattern.nameAt ({} : DateSymbols).shortMonthNames i).toList =
      (DatePattern.nameAt ({} : DateSymbols).shortMonthNames j).toList → i = j := by decide
  have hindex := hnames _ (month_sub_one_lt d) _ (month_sub_one_lt d') h
  have hpos : 0 < d.month := Nat.succ_pos _
  have hpos' : 0 < d'.month := Nat.succ_pos _
  omega

theorem eq_of_dateChars {u : UniversalFormat} {d d' : Date} (h : u.dateChars d = u.dateChars d') : d = d' := by
  have hdigits (n : Nat) : ' ' ∉ Numeral.padded 2 n := Numeral.not_mem_padded (by decide)
  cases u with
  | sortable =>
    have hread := congrArg Date.readFront? h
    rw [dateChars, dateChars, Date.readFront?_hyphenated, Date.readFront?_hyphenated] at hread
    exact (Prod.mk.inj (Option.some.inj hread)).1
  | rfc1123 =>
    obtain ⟨-, hrest⟩ :=
      Text.eq_of_append_mark (comma_not_mem_weekdayChars d) (comma_not_mem_weekdayChars d') h
    obtain ⟨hday, hrest⟩ := Text.eq_of_append_mark (hdigits _) (hdigits _) (List.cons.inj hrest).2
    obtain ⟨hmonth, hrest⟩ :=
      Text.eq_of_append_mark (blank_not_mem_monthChars d) (blank_not_mem_monthChars d') hrest
    have hyear := congrArg Date.readYear? hrest
    rw [Date.readYear?_yearChars _ (by simp), Date.readYear?_yearChars _ (by simp)] at hyear
    exact Date.eq_of_fields (Prod.mk.inj (Option.some.inj hyear)).1 (month_eq_of_monthChars hmonth)
      (Numeral.eq_of_padded hday)

/-- A universal text tells the second. -/
theorem chars_eq_iff (u : UniversalFormat) {m m' : Moment} : u.chars m = u.chars m' ↔ m.seconds = m'.seconds := by
  rw [Moment.seconds_eq_iff, ← TimeOfDay.longClock_eq_iff]
  constructor
  · intro h
    have hlength : (m.time.longClock ++ u.zoneChars).length = (m'.time.longClock ++ u.zoneChars).length := by
      rw [List.length_append, List.length_append, TimeOfDay.length_longClock, TimeOfDay.length_longClock]
    obtain ⟨hdate, hclock⟩ := List.append_inj' h hlength
    exact ⟨eq_of_dateChars hdate, List.append_cancel_right hclock⟩
  · rintro ⟨hdate, hclock⟩
    rw [chars, chars, hdate, hclock]

variable (u : UniversalFormat) (m : Moment) (out : String)

theorem toList_add : (DatePattern.add u.pattern m none {} out).toList = out.toList ++ u.chars m := by
  cases u with
  | sortable =>
    have hitems : DatePattern.items StandardDate.universalSortable.toList =
        [.field .year 4, .literal ['-'], .field .month 2, .literal ['-'], .field .day 2, .literal [' '],
          .field .hour 2, .literal [':'], .field .minute 2, .literal [':'], .field .second 2, .literal ['Z']] := by
      simp [StandardDate.universalSortable, DatePattern.items, DateField.ofLetter?]
    rw [DatePattern.add, pattern, hitems]
    simp [DatePattern.addItem, DatePattern.yearText, Numeral.paddedText, chars, dateChars, zoneChars, Date.hyphenated,
      Date.yearChars, TimeOfDay.longClock]
  | rfc1123 =>
    have hitems : DatePattern.items StandardDate.rfc1123.toList =
        [.field .day 3, .literal [','], .literal [' '], .field .day 2, .literal [' '], .field .month 3,
          .literal [' '], .field .year 4, .literal [' '], .field .hour 2, .literal [':'], .field .minute 2,
          .literal [':'], .field .second 2, .literal [' '], .literal ['G', 'M', 'T']] := by
      simp [StandardDate.rfc1123, DatePattern.items, DateField.ofLetter?]
    rw [DatePattern.add, pattern, hitems]
    simp [DatePattern.addItem, DatePattern.yearText, Numeral.paddedText, chars, dateChars, weekdayChars,
      monthChars, zoneChars, Date.yearChars, TimeOfDay.longClock]

theorem add_eq {format : String} (hformat : ofFormat? format = some u) (offset : Option Int) (dates : DateSymbols) :
    m.add offset (some format) 'G' dates out = StandardDate.add ⟨u.pattern, true, true⟩ m offset dates out := by
  unfold ofFormat? at hformat
  split at hformat <;> cases hformat
  next => exact m.add_of_letter offset dates out 'u' rfl (by decide) rfl
  next => exact m.add_of_letter offset dates out 'r' rfl (by decide) rfl
  next => exact m.add_of_letter offset dates out 'R' rfl (by decide) rfl

end UniversalFormat

namespace Scalar

/-- The universal formats write the moment that is left when the offset is taken off. The symbols of the culture
have no part in them. -/
theorem add_universal {z : Zoned} {m : Moment} (hearlier : z.wall.earlier? z.offset = some m) {u : UniversalFormat}
    {format : String} (hformat : UniversalFormat.ofFormat? format = some u) {locale : Locale}
    (hplain : locale.formatter = none) (out : String) :
    (zoned z).add (some format) locale out = out ++ String.ofList (u.chars m) := by
  have hadd : (zoned z).add (some format) locale out =
      z.wall.add (some z.offset) (some format) 'G' locale.dates out := by
    rw [add, hplain]
    rfl
  have hstandard : StandardDate.add ⟨u.pattern, true, true⟩ z.wall (some z.offset) locale.dates out =
      DatePattern.add u.pattern m none {} out := by
    rw [StandardDate.add, hearlier]
    rfl
  rw [hadd, u.add_eq z.wall out hformat, hstandard, ← String.toList_inj, u.toList_add, String.toList_append,
    String.toList_ofList]

/-- Equal instants have equal universal texts, and these are of the instant, but for leap seconds on clocks ahead of
universal time, which are written as the second behind them. -/
theorem add_universal_eq_iff {x y : Zoned} (hsame : (zoned x).same (zoned y)) {u : UniversalFormat}
    {format format' : String} (hformat : UniversalFormat.ofFormat? format = some u)
    (hformat' : UniversalFormat.ofFormat? format' = some u) {locale locale' : Locale}
    (hplain : locale.formatter = none) (hplain' : locale'.formatter = none) (out : String) :
    ((zoned x).add (some format) locale out = (zoned y).add (some format') locale' out ↔
        (x.LeapAhead ↔ y.LeapAhead)) ∧
      ((zoned x).add (some format) locale out = out ++ String.ofList (u.chars y.universal) ↔ ¬x.LeapAhead) ∧
      ∃ m : Moment, m.seconds = y.universal.seconds + (if x.LeapAhead then 1 else 0) ∧
        (zoned x).add (some format) locale out = out ++ String.ofList (u.chars m) := by
  have hinstant : x.universal = y.universal := Zoned.same_iff.mp hsame
  obtain ⟨m, hm, hseconds⟩ := x.exists_earlier?
  obtain ⟨m', hm', hseconds'⟩ := y.exists_earlier?
  rw [hinstant] at hseconds
  have htext := add_universal hm hformat hplain out
  refine ⟨?_, ?_, m, hseconds, htext⟩
  · rw [htext, add_universal hm' hformat' hplain' out, String.append_right_inj, String.ofList_inj, u.chars_eq_iff,
      hseconds, hseconds']
    split <;> split <;> simp [*]
  · rw [htext, String.append_right_inj, String.ofList_inj, u.chars_eq_iff, hseconds]
    split <;> simp [*]

/-- The leap second at the end of 2016 on a clock an hour ahead of universal time. -/
def leapInParis : Zoned :=
  ⟨⟨⟨⟨17166, by decide⟩, ⟨86399, 1000000000, by decide, by decide⟩⟩, 3600, by decide⟩,
    ⟨⟨17167, by decide⟩, ⟨3599, 1000000000, by decide, by decide⟩⟩, rfl⟩

/-- The same leap second on a clock that shows universal time. -/
def leapInLondon : Zoned :=
  ⟨⟨⟨⟨17166, by decide⟩, ⟨86399, 1000000000, by decide, by decide⟩⟩, 0, by decide⟩,
    ⟨⟨17166, by decide⟩, ⟨86399, 1000000000, by decide, by decide⟩⟩, rfl⟩

theorem add_universal_eq_iff_leap :
    (((zoned leapInLondon).same (zoned leapInParis) = true ∧ UniversalFormat.ofFormat? "r" = some .rfc1123 ∧
        UniversalFormat.ofFormat? "R" = some .rfc1123 ∧ Locale.neutral.formatter = none ∧
        (Locale.ofCulture .french).formatter = none) ∧ ¬leapInLondon.LeapAhead ∧ leapInParis.LeapAhead) ∧
      ((zoned leapInLondon).add (some "r") .neutral "" = (zoned leapInParis).add (some "R") (.ofCulture .french) "" ↔
        (leapInLondon.LeapAhead ↔ leapInParis.LeapAhead)) ∧
      ((zoned leapInLondon).add (some "r") .neutral "" =
        "" ++ String.ofList (UniversalFormat.rfc1123.chars leapInParis.universal) ↔ ¬leapInLondon.LeapAhead) ∧
      ∃ m : Moment, m.seconds = leapInParis.universal.seconds + (if leapInLondon.LeapAhead then 1 else 0) ∧
        (zoned leapInLondon).add (some "r") .neutral "" =
          "" ++ String.ofList (UniversalFormat.rfc1123.chars m) := by
  have hsame : (zoned leapInLondon).same (zoned leapInParis) := by decide
  exact ⟨⟨⟨hsame, rfl, rfl, rfl, rfl⟩, by decide, by decide⟩, add_universal_eq_iff hsame rfl rfl rfl rfl ""⟩

/-- One instant has two universal texts. -/
theorem add_universal_leap_ahead :
    (zoned leapInParis).same (zoned leapInLondon) = true ∧ leapInParis.universal = leapInLondon.wall ∧
      Locale.neutral.formatter = none ∧
      (zoned leapInParis).add (some "u") .neutral "" = "2017-01-01 00:00:00Z" ∧
      (zoned leapInLondon).add (some "u") .neutral "" = "2016-12-31 23:59:59Z" ∧
      (zoned leapInParis).add (some "r") .neutral "" = "Sun, 01 Jan 2017 00:00:00 GMT" ∧
      (zoned leapInLondon).add (some "r") .neutral "" = "Sat, 31 Dec 2016 23:59:59 GMT" := by
  have hparis : leapInParis.wall.earlier? leapInParis.offset =
      some ⟨⟨17167, by decide⟩, ⟨0, 0, by decide, by decide⟩⟩ := by decide
  have hlondon : leapInLondon.wall.earlier? leapInLondon.offset = some leapInLondon.wall := by decide
  refine ⟨by decide, by decide, rfl, ?_, ?_, ?_, ?_⟩
  · rw [add_universal hparis rfl rfl]
    decide
  · rw [add_universal hlondon rfl rfl]
    decide
  · rw [add_universal hparis rfl rfl]
    decide
  · rw [add_universal hlondon rfl rfl]
    decide

end Scalar

end StructuredMessage
