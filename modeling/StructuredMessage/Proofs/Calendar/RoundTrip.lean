import StructuredMessage.Proofs.Calendar.Clock
import StructuredMessage.Proofs.Calendar.Usual
import StructuredMessage.Proofs.Number.Ties
import StructuredMessage.Scalar.Render

namespace StructuredMessage

/-- The text behind a mark. -/
def Text.skip? (mark : Char) : List Char → Option (List Char)
  | c :: rest => if c = mark then some rest else none
  | [] => none

theorem Text.skip?_cons (mark : Char) (rest : List Char) : skip? mark (mark :: rest) = some rest := by
  rw [skip?, if_pos rfl]

namespace Numeral

/-- The number that the first `width` characters write, and the text behind them. -/
def readFront? (width : Nat) (cs : List Char) : Option (Nat × List Char) :=
  if cs.length < width then none else (read? (cs.take width)).map fun n => (n, cs.drop width)

/-- The number that all digits in front write, there being at least `least` of them, and the text behind them. -/
def readRun? (least : Nat) (cs : List Char) : Option (Nat × List Char) :=
  let run := cs.takeWhile Char.isDigit
  if run.length < least then none else (read? run).map fun n => (n, cs.dropWhile Char.isDigit)

theorem length_padded_of_lt {width n : Nat} (hwidth : 0 < width) (h : n < tenPow width) :
    (padded width n).length = width := by
  have hdigits := (length_digits_le hwidth).mpr h
  rw [padded, List.length_leftpad]
  omega

theorem readFront?_padded {width n : Nat} (hwidth : 0 < width) (h : n < tenPow width) (rest : List Char) :
    readFront? width (padded width n ++ rest) = some (n, rest) := by
  have hlength := length_padded_of_lt hwidth h
  have hlong : ¬(padded width n ++ rest).length < width := by
    rw [List.length_append]
    omega
  rw [readFront?, if_neg hlong, List.take_left' hlength, List.drop_left' hlength, read?_padded]
  rfl

theorem readRun?_padded (width n : Nat) {rest : List Char} (hrest : ∀ c ∈ rest.head?, ¬c.isDigit) :
    readRun? width (padded width n ++ rest) = some (n, rest) := by
  have hdigits : ∀ c ∈ padded width n, c.isDigit := fun _ => Decimal.isDigit_of_mem_padded
  have hlong : ¬(padded width n).length < width := Nat.not_lt.mpr (le_length_padded width n)
  unfold readRun?
  rw [takeWhile_exact hdigits hrest, dropWhile_exact hdigits hrest]
  dsimp only
  rw [if_neg hlong, read?_padded]
  rfl

theorem head?_padded_append_ne {width n : Nat} {rest : List Char} {c : Char} (hc : c.isDigit = false) :
    (padded width n ++ rest).head? ≠ some c := by
  intro h
  rw [List.head?_append_of_ne_nil _ (padded_ne_nil width n)] at h
  exact not_mem_padded hc (List.mem_of_head? h)

theorem take_padded_nine {n : Nat} (h : n < 1000000000) : (padded 9 n).take 7 = padded 7 (n / 100) := by
  have hticks : n / 10 / 10 < tenPow 7 := by
    have hpow : tenPow 7 = 10000000 := rfl
    omega
  have hlength := length_padded_of_lt (by decide) hticks
  rw [padded_add_two 7, padded_add_two 6, List.append_assoc, List.take_left' hlength, Nat.div_div_eq_div_mul]

end Numeral

namespace Date

/-- The year with four digits or more, a hyphen in front of the years before 0. -/
def yearChars (year : Int) : List Char :=
  (if year < 0 then "-" else "").toList ++ Numeral.padded 4 year.natAbs

/-- The year that at least four digits write, with a hyphen in front or without, and the text behind it. -/
def readYear? : List Char → Option (Int × List Char)
  | '-' :: cs => (Numeral.readRun? 4 cs).map fun read => (-(read.1 : Int), read.2)
  | cs => (Numeral.readRun? 4 cs).map fun read => ((read.1 : Int), read.2)

theorem readYear?_yearChars (year : Int) {rest : List Char} (hrest : ∀ c ∈ rest.head?, ¬c.isDigit) :
    readYear? (yearChars year ++ rest) = some (year, rest) := by
  have hrun := Numeral.readRun?_padded 4 year.natAbs hrest
  unfold yearChars
  split
  next hneg =>
    have hvalue : -(year.natAbs : Int) = year := by omega
    have hsign : "-".toList = ['-'] := by decide
    rw [hsign, List.singleton_append, List.cons_append, readYear?, hrun, Option.map_some, hvalue]
  next hneg =>
    have hvalue : (year.natAbs : Int) = year := by omega
    rw [String.toList_empty, List.nil_append]
    unfold readYear?
    split
    next heq => exact absurd (congrArg List.head? heq) (Numeral.head?_padded_append_ne (by decide))
    next => rw [hrun, Option.map_some, hvalue]

def hyphenated (d : Date) : List Char :=
  yearChars d.year ++ '-' :: (Numeral.padded 2 d.month ++ '-' :: Numeral.padded 2 d.dayOfMonth)

def readFront? (cs : List Char) : Option (Date × List Char) := do
  let (year, cs) ← readYear? cs
  let cs ← Text.skip? '-' cs
  let (month, cs) ← Numeral.readFront? 2 cs
  let cs ← Text.skip? '-' cs
  let (day, cs) ← Numeral.readFront? 2 cs
  let date ← of? year month day
  some (date, cs)

theorem readFront?_hyphenated (d : Date) (rest : List Char) : readFront? (d.hyphenated ++ rest) = some (d, rest) := by
  have hmonth : d.month < tenPow 2 := Nat.lt_of_le_of_lt (Calendar.monthOf_le d.day) (by decide)
  have hday : d.dayOfMonth < tenPow 2 := Nat.lt_of_le_of_lt (Calendar.dayOfMonth_le_31 d.day) (by decide)
  unfold hyphenated readFront?
  rw [List.append_assoc, readYear?_yearChars d.year (by simp)]
  simp only [Option.bind_eq_bind, Option.bind_some, List.cons_append, List.append_assoc, Text.skip?_cons,
    Numeral.readFront?_padded (by decide) hmonth, Numeral.readFront?_padded (by decide) hday, of?_fields]

end Date

namespace TimeOfDay

/-- The time with its nanoseconds cut to a multiple of `unit`. -/
def truncated (t : TimeOfDay) (unit : Nat) : TimeOfDay :=
  ⟨t.second, t.nano / unit * unit, t.second_lt, Nat.lt_of_le_of_lt (Nat.div_mul_le_self _ _) t.nano_lt⟩

theorem of?_fields (t : TimeOfDay) (unit : Nat) :
    of? t.hour t.minute t.secondOfMinute (t.nano / unit * unit) = some (t.truncated unit) := by
  have htotal : t.hour * 3600 + t.minute * 60 + t.secondOfMinute = t.second := by
    unfold hour minute secondOfMinute
    omega
  have hminute : t.minute < 60 := Nat.mod_lt _ (by decide)
  have hsecond : t.secondOfMinute < 60 := Nat.mod_lt _ (by decide)
  have hvalid : t.second < 86400 ∧ t.nano / unit * unit < 2000000000 := ⟨t.second_lt, (t.truncated unit).nano_lt⟩
  unfold of?
  simp only [htotal]
  rw [dif_pos hvalid, if_pos ⟨hminute, hsecond⟩]
  rfl

def readClock? (cs : List Char) : Option ((Nat × Nat × Nat) × List Char) := do
  let (hour, cs) ← Numeral.readFront? 2 cs
  let cs ← Text.skip? ':' cs
  let (minute, cs) ← Numeral.readFront? 2 cs
  let cs ← Text.skip? ':' cs
  let (second, cs) ← Numeral.readFront? 2 cs
  some ((hour, minute, second), cs)

/-- Two digits are enough for each part of a clock. -/
theorem parts_lt (t : TimeOfDay) : t.hour < tenPow 2 ∧ t.minute < tenPow 2 ∧ t.secondOfMinute < tenPow 2 := by
  have hpow : tenPow 2 = 100 := rfl
  have hlt := t.second_lt
  unfold hour minute secondOfMinute
  omega

theorem readClock?_longClock (t : TimeOfDay) (rest : List Char) :
    readClock? (t.longClock ++ rest) = some ((t.hour, t.minute, t.secondOfMinute), rest) := by
  obtain ⟨hhour, hminute, hsecond⟩ := t.parts_lt
  unfold longClock readClock?
  simp only [Option.bind_eq_bind, Option.bind_some, List.cons_append, List.append_assoc, Text.skip?_cons,
    Numeral.readFront?_padded (by decide) hhour, Numeral.readFront?_padded (by decide) hminute,
    Numeral.readFront?_padded (by decide) hsecond]

end TimeOfDay

namespace DatePattern

/-- The seconds that a sign with hours and minutes writes, and none where there is no text. -/
def readOffset? : List Char → Option (Option Int)
  | [] => some none
  | sign :: cs => do
    let (hours, cs) ← Numeral.readFront? 2 cs
    let cs ← Text.skip? ':' cs
    let (minutes, cs) ← Numeral.readFront? 2 cs
    let seconds : Int := (hours * 3600 + minutes * 60 : Nat)
    if ¬cs.isEmpty then none
    else if sign = '+' then some (some seconds)
    else if sign = '-' then some (some (-seconds))
    else none

def offsetChars (offset : Option Int) : List Char :=
  match offset with
  | some seconds => (offsetText seconds 3).toList
  | none => []

theorem readOffset?_offsetChars {offset : Option Int}
    (h : ∀ seconds ∈ offset, (-86400 < seconds ∧ seconds < 86400) ∧ seconds % 60 = 0) :
    readOffset? (offsetChars offset) = some offset := by
  cases offset with
  | none => rfl
  | some seconds =>
    obtain ⟨⟨hlow, hhigh⟩, hwhole⟩ := h seconds rfl
    have hpow : tenPow 2 = 100 := rfl
    have hhours : seconds.natAbs / 3600 < tenPow 2 := by omega
    have hminutes : seconds.natAbs % 3600 / 60 < tenPow 2 := by omega
    have htotal : seconds.natAbs / 3600 * 3600 + seconds.natAbs % 3600 / 60 * 60 = seconds.natAbs := by omega
    -- Nothing stands behind the minutes.
    have hlast := Numeral.readFront?_padded (by decide) hminutes []
    rw [List.append_nil] at hlast
    unfold offsetChars
    dsimp only
    rw [toList_offsetText, readOffset?]
    simp only [Option.bind_eq_bind, Option.bind_some, Text.skip?_cons, Numeral.readFront?_padded (by decide) hhours,
      hlast, htotal]
    have hend : ¬¬([] : List Char).isEmpty := by simp
    rw [if_neg hend]
    by_cases hneg : seconds < 0
    · have hvalue : -(seconds.natAbs : Int) = seconds := by omega
      rw [if_pos hneg, if_neg (by decide), if_pos rfl, hvalue]
    · have hvalue : (seconds.natAbs : Int) = seconds := by omega
      rw [if_neg hneg, if_pos rfl, hvalue]

end DatePattern

namespace Moment

def truncated (m : Moment) (unit : Nat) : Moment :=
  ⟨m.date, m.time.truncated unit⟩

/-- Date and clock with the letter between them, down to the second. -/
def stamp (m : Moment) : List Char :=
  m.date.hyphenated ++ 'T' :: m.time.longClock

/-- The moment that a date and a clock write. -/
def readSortable? (cs : List Char) : Option Moment := do
  let (date, cs) ← Date.readFront? cs
  let cs ← Text.skip? 'T' cs
  let ((hour, minute, second), cs) ← TimeOfDay.readClock? cs
  let time ← TimeOfDay.of? hour minute second 0
  if cs.isEmpty then some ⟨date, time⟩ else none

/-- The moment that a date, a clock and ticks of a hundred nanoseconds write, and the offset behind it. -/
def readRoundTrip? (cs : List Char) : Option (Moment × Option Int) := do
  let (date, cs) ← Date.readFront? cs
  let cs ← Text.skip? 'T' cs
  let ((hour, minute, second), cs) ← TimeOfDay.readClock? cs
  let cs ← Text.skip? '.' cs
  let (ticks, cs) ← Numeral.readFront? 7 cs
  let time ← TimeOfDay.of? hour minute second (ticks * 100)
  let offset ← DatePattern.readOffset? cs
  some (⟨date, time⟩, offset)

theorem readSortable?_stamp {m : Moment} (hleap : m.time.nano < 1000000000) :
    readSortable? m.stamp = some (m.truncated 1000000000) := by
  have hnano : m.time.nano / 1000000000 * 1000000000 = 0 := by omega
  have htime := m.time.of?_fields 1000000000
  rw [hnano] at htime
  have hclock := m.time.readClock?_longClock []
  rw [List.append_nil] at hclock
  unfold stamp readSortable?
  simp only [Option.bind_eq_bind, Option.bind_some, Date.readFront?_hyphenated, Text.skip?_cons, hclock, htime]
  rfl

theorem readRoundTrip?_stamp {m : Moment} {offset : Option Int} (hleap : m.time.nano < 1000000000)
    (h : ∀ seconds ∈ offset, (-86400 < seconds ∧ seconds < 86400) ∧ seconds % 60 = 0) :
    readRoundTrip? (m.stamp ++ '.' :: (Numeral.padded 7 (m.time.nano / 100) ++ DatePattern.offsetChars offset)) =
      some (m.truncated 100, offset) := by
  have hpow : tenPow 7 = 10000000 := rfl
  have hticks : m.time.nano / 100 < tenPow 7 := by omega
  unfold stamp readRoundTrip?
  simp only [Option.bind_eq_bind, Option.bind_some, List.append_assoc, List.cons_append, Date.readFront?_hyphenated,
    Text.skip?_cons, TimeOfDay.readClock?_longClock, Numeral.readFront?_padded (by decide) hticks,
    TimeOfDay.of?_fields, DatePattern.readOffset?_offsetChars h]
  rfl

variable (m : Moment) (offset : Option Int) (dates : DateSymbols) (out : String)

theorem add_of_letter {format : String} {standard : StandardDate} (letter : Char) (hformat : format.toList = [letter])
    (hletter : letter ≠ '%') (hstandard : StandardDate.ofLetter? dates letter = some standard) :
    m.add offset (some format) 'G' dates out = standard.add m offset dates out := by
  have hpercent : '%' ∉ [letter] := by simpa using hletter.symm
  unfold add
  dsimp only [Option.getD_some]
  rw [hformat]
  dsimp only
  rw [if_neg hpercent, if_pos List.isEmpty_nil, hstandard]

theorem add_of_neutral {format pattern : String} (letter : Char) (hformat : format.toList = [letter])
    (hletter : letter ≠ '%') (hstandard : StandardDate.ofLetter? dates letter = some ⟨pattern, true, false⟩) :
    m.add offset (some format) 'G' dates out = DatePattern.add pattern m offset {} out := by
  rw [m.add_of_letter offset dates out letter hformat hletter hstandard]
  cases offset <;> rfl

theorem items_sortable : DatePattern.items StandardDate.sortable.toList =
    [.field .year 4, .literal ['-'], .field .month 2, .literal ['-'], .field .day 2, .literal ['T'],
      .field .hour 2, .literal [':'], .field .minute 2, .literal [':'], .field .second 2] := by
  simp [StandardDate.sortable, DatePattern.items, DateField.ofLetter?]

/-- The round-trip format is the sortable format and a fraction and the offset behind it. -/
theorem items_roundTrip : DatePattern.items StandardDate.roundTrip.toList =
    DatePattern.items StandardDate.sortable.toList ++ [.literal ['.'], .field .fraction 7, .field .zone 1] := by
  rw [items_sortable]
  simp [StandardDate.roundTrip, DatePattern.items, DateField.ofLetter?]

theorem toList_add_sortable :
    (DatePattern.add StandardDate.sortable m offset {} out).toList = out.toList ++ m.stamp := by
  rw [DatePattern.add, items_sortable]
  simp [DatePattern.addItem, DatePattern.yearText, Numeral.paddedText, stamp, Date.hyphenated, Date.yearChars,
    TimeOfDay.longClock]

theorem toList_add_roundTrip (hleap : m.time.nano < 1000000000) :
    (DatePattern.add StandardDate.roundTrip m offset {} out).toList =
      out.toList ++ (m.stamp ++ '.' :: (Numeral.padded 7 (m.time.nano / 100) ++ DatePattern.offsetChars offset)) := by
  have hticks : (Numeral.padded 9 m.time.fraction).take 7 = Numeral.padded 7 (m.time.nano / 100) := by
    rw [TimeOfDay.fraction, Nat.mod_eq_of_lt hleap]
    exact Numeral.take_padded_nine hleap
  have hstamp := m.toList_add_sortable offset out
  rw [DatePattern.add] at hstamp ⊢
  rw [items_roundTrip, List.foldl_append]
  cases offset with
  | none => simp [DatePattern.addItem, hstamp, hticks, DatePattern.offsetChars]
  | some seconds => simp [DatePattern.addItem, hstamp, hticks, DatePattern.offsetChars]

end Moment

namespace Scalar

def clock? : Scalar → Option (Moment × Option Int)
  | moment m => some (m, none)
  | zoned z => some (z.wall, some z.offset)
  | _ => none

variable {x : Scalar} {m : Moment} {offset : Option Int}

theorem addBuiltin_of_clock (hx : x.clock? = some (m, offset)) (format : Option String) (numbers : NumberSymbols)
    (dates : DateSymbols) (out : String) :
    x.addBuiltin format numbers dates out = m.add offset format 'G' dates out := by
  cases x <;> cases hx <;> rfl

theorem offset_lt_of_clock (hx : x.clock? = some (m, offset)) :
    ∀ seconds ∈ offset, -86400 < seconds ∧ seconds < 86400 := by
  cases x with
  | moment value =>
    cases hx
    simp
  | zoned z =>
    cases hx
    simpa using z.offset_lt
  | _ => cases hx

/-- The round-trip format writes a moment so that the moment, its nanoseconds cut to ticks, and its offset are read
back, and the sortable format so that the moment is read back to the second. -/
theorem readRoundTrip?_addBuiltin (hx : x.clock? = some (m, offset)) (hleap : m.time.nano < 1000000000)
    (hoffset : ∀ seconds ∈ offset, seconds % 60 = 0) :
    ∃ full sortable : String,
      (∀ numbers dates out, x.addBuiltin (some "o") numbers dates out = out ++ full ∧
        x.addBuiltin (some "O") numbers dates out = out ++ full ∧
        x.addBuiltin (some "s") numbers dates out = out ++ sortable) ∧
      Moment.readRoundTrip? full.toList = some (m.truncated 100, offset) ∧
      Moment.readSortable? sortable.toList = some (m.truncated 1000000000) := by
  have hbounds : ∀ seconds ∈ offset, (-86400 < seconds ∧ seconds < 86400) ∧ seconds % 60 = 0 :=
    fun seconds h => ⟨offset_lt_of_clock hx seconds h, hoffset seconds h⟩
  let full := m.stamp ++ '.' :: (Numeral.padded 7 (m.time.nano / 100) ++ DatePattern.offsetChars offset)
  refine ⟨String.ofList full, String.ofList m.stamp, fun numbers dates out => ?_, ?_, ?_⟩
  · have hfull : DatePattern.add StandardDate.roundTrip m offset {} out = out ++ String.ofList full := by
      rw [← String.toList_inj, Moment.toList_add_roundTrip m offset out hleap, String.toList_append,
        String.toList_ofList]
    have hsortable : DatePattern.add StandardDate.sortable m offset {} out = out ++ String.ofList m.stamp := by
      rw [← String.toList_inj, Moment.toList_add_sortable, String.toList_append, String.toList_ofList]
    rw [addBuiltin_of_clock hx, addBuiltin_of_clock hx, addBuiltin_of_clock hx, ← hfull, ← hsortable]
    exact ⟨m.add_of_neutral offset dates out 'o' rfl (by decide) rfl,
      m.add_of_neutral offset dates out 'O' rfl (by decide) rfl,
      m.add_of_neutral offset dates out 's' rfl (by decide) rfl⟩
  · rw [String.toList_ofList]
    exact Moment.readRoundTrip?_stamp hleap hbounds
  · rw [String.toList_ofList]
    exact Moment.readSortable?_stamp hleap

end Scalar

namespace Timestamp

/-- The moment that is stored, in universal time where there is an offset. -/
def stored : Timestamp → Moment
  | plain m => m
  | zoned x => x.universal

def offset? : Timestamp → Option Int
  | plain _ => none
  | zoned x => some x.offset

/-- The moment that is to be shown, on the clock with the offset where there is one. -/
def wall? : Timestamp → Option Moment
  | plain m => some m
  | zoned x => x.wall?

/-- The moment that is to be shown lies in the calendar. -/
def IsShown : Timestamp → Prop
  | plain _ => True
  | zoned x => x.IsShown

instance : DecidablePred IsShown
  | plain _ => isTrue trivial
  | zoned x => inferInstanceAs (Decidable x.IsShown)

variable {t : Timestamp} {m : Moment}

theorem isShown_iff : t.IsShown ↔ ∃ m, t.wall? = some m := by
  cases t with
  | plain m => exact ⟨fun _ => ⟨m, rfl⟩, fun _ => trivial⟩
  | zoned x => exact Instant.isShown_iff

theorem exists_scalar? (h : t.wall? = some m) : ∃ s, t.scalar? = some s ∧ s.clock? = some (m, t.offset?) := by
  cases t with
  | plain value =>
    cases h
    exact ⟨_, rfl, rfl⟩
  | zoned x =>
    have hz : x.zoned? = some ⟨x, m, h⟩ := Instant.zoned?_eq_some_iff.mpr rfl
    exact ⟨_, congrArg (Option.map Scalar.zoned) hz, rfl⟩

theorem nano_of_wall? (h : t.wall? = some m) : m.time.nano = t.stored.time.nano := by
  cases t with
  | plain value =>
    cases h
    rfl
  | zoned x => exact (Instant.wall?_eq_some_iff.mp h).2

theorem addBuiltin?_eq_none (h : ¬t.IsShown) (format : Option String) (numbers : NumberSymbols) (dates : DateSymbols)
    (out : String) : t.addBuiltin? format numbers dates out = none := by
  cases t with
  | plain m => exact absurd trivial h
  | zoned x =>
    have hnone : x.zoned? = none := Instant.zoned?_eq_none_iff.mpr h
    rw [addBuiltin?, scalar?, hnone]
    rfl

/-- The round-trip text is read back as `m`, its nanoseconds cut to ticks, with the offset, and the sortable text as
`m` to the second. The symbols of the culture have no part in the two. -/
def Decodes (t : Timestamp) (m : Moment) : Prop :=
  ∃ full sortable : String,
    (∀ numbers dates out, t.addBuiltin? (some "o") numbers dates out = some (out ++ full) ∧
      t.addBuiltin? (some "O") numbers dates out = some (out ++ full) ∧
      t.addBuiltin? (some "s") numbers dates out = some (out ++ sortable)) ∧
    Moment.readRoundTrip? full.toList = some (m.truncated 100, t.offset?) ∧
    Moment.readSortable? sortable.toList = some (m.truncated 1000000000)

theorem decodes_of_wall? (h : t.wall? = some m) (hleap : t.stored.time.nano < 1000000000)
    (hoffset : ∀ seconds ∈ t.offset?, seconds % 60 = 0) : t.Decodes m := by
  obtain ⟨s, hs, hclock⟩ := exists_scalar? h
  rw [← nano_of_wall? h] at hleap
  obtain ⟨full, sortable, htexts, hread⟩ := Scalar.readRoundTrip?_addBuiltin hclock hleap hoffset
  refine ⟨full, sortable, fun numbers dates out => ?_, hread⟩
  obtain ⟨hsmall, hcapital, hsortable⟩ := htexts numbers dates out
  simp only [addBuiltin?, hs, Option.map_some, hsmall, hcapital, hsortable, and_self]

/-- A second and some nanoseconds after the first midnight of the calendar, on a clock behind universal time. -/
def dawn : Instant :=
  ⟨⟨⟨Calendar.firstDay, by decide⟩, ⟨19801, 123456789, by decide, by decide⟩⟩, -19800, by decide⟩

/-- The last nanosecond of the calendar, on a clock an hour ahead of universal time. -/
def dusk : Instant :=
  ⟨⟨⟨Calendar.lastDay, by decide⟩, ⟨86400 - 1, 1000000000 - 1, by decide, by decide⟩⟩, 60 * 60, by decide⟩

end Timestamp

end StructuredMessage
