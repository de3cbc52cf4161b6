import StructuredMessage.Proofs.Calendar.SpanSign

namespace StructuredMessage

theorem Text.skip?_eq_none {mark : Char} {cs : List Char} (h : mark ∉ cs) : skip? mark cs = none := by
  cases cs with
  | nil => rfl
  | cons c cs => exact if_neg fun hc => h (by rw [hc]; exact List.mem_cons_self)

namespace Numeral

theorem readFront?_two {n : Nat} (hn : n < 60) (rest : List Char) :
    readFront? 2 (padded 2 n ++ rest) = some (n, rest) :=
  readFront?_padded (by decide) (Nat.lt_trans hn (by decide)) rest

/-- The number that all digits in front write without zeros before it, and the text behind them. -/
def readPlain? (cs : List Char) : Option (Nat × List Char) := do
  let n ← read? (cs.takeWhile Char.isDigit)
  if digits n = cs.takeWhile Char.isDigit then some (n, cs.dropWhile Char.isDigit) else none

theorem readPlain?_digits (n : Nat) {rest : List Char} (hrest : ∀ c ∈ rest.head?, ¬c.isDigit) :
    readPlain? (digits n ++ rest) = some (n, rest) := by
  have hdigits : ∀ c ∈ digits n, c.isDigit := fun _ => isDigit_of_mem_digits
  unfold readPlain?
  rw [takeWhile_exact hdigits hrest, dropWhile_exact hdigits hrest, read?_digits]
  exact if_pos rfl

/-- Whatever number digits are read as, all of them are read. -/
theorem readPlain?_run {run rest : List Char} (hrun : ∀ c ∈ run, c.isDigit) (hrest : ∀ c ∈ rest.head?, ¬c.isDigit) :
    readPlain? (run ++ rest) = none ∨ ∃ n, readPlain? (run ++ rest) = some (n, rest) := by
  unfold readPlain?
  rw [takeWhile_exact hrun hrest, dropWhile_exact hrun hrest]
  cases read? run with
  | none => exact Or.inl rfl
  | some n =>
    by_cases hplain : digits n = run
    · exact Or.inr ⟨n, if_pos hplain⟩
    · exact Or.inl (if_neg hplain)

end Numeral

namespace Span

/-- What a text says of a span. The fraction counts ticks. -/
structure Reading where
  negative : Bool
  days : Option Nat
  hours : Nat
  minutes : Nat
  seconds : Nat
  fraction : Option Nat
  deriving DecidableEq

namespace Reading

def magnitude (r : Reading) : Nat :=
  (((r.days.getD 0 * 24 + r.hours) * 60 + r.minutes) * 60 + r.seconds) * 10000000 + r.fraction.getD 0

/-- The span that is read, in ticks. -/
def ticks (r : Reading) : Int :=
  if r.negative then -(r.magnitude : Int) else r.magnitude

end Reading

namespace Layout

/-- The letter of the format. -/
def letter : Layout → String
  | constant => "c"
  | short => "g"
  | long => "G"

theorem ofFormat_letter (layout : Layout) : ofFormat (some layout.letter) = layout := by
  cases layout <;> rfl

/-- Two digits of hours, and in the short layout a number. -/
def readHours? : Layout → List Char → Option (Nat × List Char)
  | constant => Numeral.readFront? 2
  | short => Numeral.readPlain?
  | long => Numeral.readFront? 2

/-- Hours, and two digits each of minutes and seconds. -/
def readClock? (layout : Layout) (cs : List Char) : Option ((Nat × Nat × Nat) × List Char) := do
  let (hours, cs) ← layout.readHours? cs
  let cs ← Text.skip? ':' cs
  let (minutes, cs) ← Numeral.readFront? 2 cs
  let cs ← Text.skip? ':' cs
  let (seconds, cs) ← Numeral.readFront? 2 cs
  some ((hours, minutes, seconds), cs)

/-- A number of days with its mark, and a clock. -/
def readLong? (layout : Layout) (cs : List Char) : Option ((Option Nat × Nat × Nat × Nat) × List Char) := do
  let (days, cs) ← Numeral.readPlain? cs
  let cs ← Text.skip? layout.dayMark cs
  let (clock, cs) ← layout.readClock? cs
  some ((some days, clock), cs)

/-- The days may be missing, but not in the long layout. -/
def readFront? (layout : Layout) (cs : List Char) : Option ((Option Nat × Nat × Nat × Nat) × List Char) :=
  match layout.readLong? cs with
  | some read => some read
  | none => if layout = long then none else (layout.readClock? cs).map fun read => ((none, read.1), read.2)

/-- Seven digits, and in the short layout as many as there are, with none to come and none that is a zero at the end. -/
def readTicks? (layout : Layout) (cs : List Char) : Option Nat :=
  if layout = short then
    if 0 < cs.length ∧ cs.length ≤ 7 ∧ cs.getLast? ≠ some '0' then
      Numeral.read? (cs ++ List.replicate (7 - cs.length) '0')
    else none
  else if cs.length = 7 then Numeral.read? cs
  else none

def fractionMark (separator : List Char) : Layout → List Char
  | constant => ['.']
  | short => separator
  | long => separator

/-- The fraction with its mark. It may be missing, but not in the long layout. -/
def readFraction? (layout : Layout) (separator cs : List Char) : Option (Option Nat) :=
  if cs.isEmpty ∧ layout ≠ long then some none
  else
    ((cs.dropPrefix? (layout.fractionMark separator)).bind layout.readTicks?).map some

/-- A sign or none, the parts down to the seconds, and the fraction, with nothing behind. -/
def read? (layout : Layout) (separator cs : List Char) : Option Reading := do
  let (negative, cs) := if cs.head? = some '-' then (true, cs.drop 1) else (false, cs)
  let ((days, hours, minutes, seconds), cs) ← layout.readFront? cs
  let fraction ← layout.readFraction? separator cs
  some ⟨negative, days, hours, minutes, seconds, fraction⟩

/-- A part that is left out where it is zero, but not in the long layout. -/
def shown (layout : Layout) (n : Nat) : Option Nat :=
  if 0 < n ∨ layout = long then some n else none

variable {hours minutes seconds : Nat}

theorem readClock?_chars (layout : Layout) (hhours : hours < 24) (hminutes : minutes < 60) (hseconds : seconds < 60)
    (rest : List Char) :
    layout.readClock? (layout.hourChars hours ++
      ':' :: (Numeral.padded 2 minutes ++ ':' :: (Numeral.padded 2 seconds ++ rest))) =
      some ((hours, minutes, seconds), rest) := by
  have hread (rest : List Char) :
      layout.readHours? (layout.hourChars hours ++ ':' :: rest) = some (hours, ':' :: rest) := by
    cases layout with
    | short => exact Numeral.readPlain?_digits hours (by simp)
    | constant => exact Numeral.readFront?_two (Nat.lt_trans hhours (by decide)) _
    | long => exact Numeral.readFront?_two (Nat.lt_trans hhours (by decide)) _
  unfold readClock?
  simp only [Option.bind_eq_bind, Option.bind_some, hread, Text.skip?_cons, Numeral.readFront?_two hminutes,
    Numeral.readFront?_two hseconds]

theorem readLong?_chars (layout : Layout) (days : Nat) (hhours : hours < 24) (hminutes : minutes < 60)
    (hseconds : seconds < 60) (rest : List Char) :
    layout.readLong? (Numeral.digits days ++ layout.dayMark :: (layout.hourChars hours ++
      ':' :: (Numeral.padded 2 minutes ++ ':' :: (Numeral.padded 2 seconds ++ rest)))) =
      some ((some days, hours, minutes, seconds), rest) := by
  have hmark : ∀ rest : List Char, ∀ c ∈ (layout.dayMark :: rest).head?, ¬c.isDigit := by
    cases layout <;> simp [dayMark]
  unfold readLong?
  simp only [Option.bind_eq_bind, Option.bind_some, Numeral.readPlain?_digits days (hmark _), Text.skip?_cons,
    layout.readClock?_chars hhours hminutes hseconds]

/-- A clock without days is not read as days and a clock: the hours would be the days, and a mark is missing. -/
theorem readLong?_clock {layout : Layout} (hlayout : layout ≠ long) (hours minutes : Nat) (hseconds : seconds < 60)
    {rest : List Char} (hrest : ':' ∉ rest) :
    layout.readLong? (layout.hourChars hours ++
      ':' :: (Numeral.padded 2 minutes ++ ':' :: (Numeral.padded 2 seconds ++ rest))) = none := by
  have hcolon (rest : List Char) : ∀ c ∈ (':' :: rest).head?, ¬c.isDigit := by simp
  have hpadded (n : Nat) : ∀ c ∈ Numeral.padded 2 n, c.isDigit := fun _ => Decimal.isDigit_of_mem_padded
  have htwo := Numeral.readFront?_two hseconds rest
  have hclock := Numeral.readPlain?_run (hpadded minutes) (hcolon (Numeral.padded 2 seconds ++ rest))
  generalize Numeral.padded 2 seconds ++ rest = behind at htwo hclock
  cases layout with
  | constant =>
    unfold readLong?
    have hhours := Numeral.readPlain?_run (hpadded hours) (hcolon (Numeral.padded 2 minutes ++ ':' :: behind))
    rcases hhours with hread | ⟨n, hread⟩
    · rw [hourChars, hread]
      rfl
    · rw [hourChars, hread]
      rfl
  | short =>
    have hnone : short.readClock? (Numeral.padded 2 minutes ++ ':' :: behind) = none := by
      unfold readClock? readHours?
      rcases hclock with hread | ⟨n, hread⟩
      · simp only [hread, Option.bind_eq_bind, Option.bind_none]
      · simp only [hread, Option.bind_eq_bind, Option.bind_some, Text.skip?_cons, htwo, Text.skip?_eq_none hrest,
          Option.bind_none]
    unfold readLong?
    simp only [Option.bind_eq_bind, Option.bind_some, hourChars, dayMark, Numeral.readPlain?_digits hours (hcolon _),
      Text.skip?_cons, hnone, Option.bind_none]
  | long => exact absurd rfl hlayout

theorem readFront?_chars (layout : Layout) (days : Nat) (hhours : hours < 24) (hminutes : minutes < 60)
    (hseconds : seconds < 60) {rest : List Char} (hrest : ':' ∉ rest) :
    layout.readFront? (layout.dayChars days ++ (layout.hourChars hours ++
      ':' :: (Numeral.padded 2 minutes ++ ':' :: (Numeral.padded 2 seconds ++ rest)))) =
      some ((layout.shown days, hours, minutes, seconds), rest) := by
  unfold readFront? dayChars shown
  by_cases hshown : 0 < days ∨ layout = long
  · rw [if_pos hshown, if_pos hshown, List.append_assoc, List.singleton_append,
      layout.readLong?_chars days hhours hminutes hseconds]
  · rw [if_neg hshown, if_neg hshown, List.nil_append]
    have hlayout : layout ≠ long := fun h => hshown (Or.inr h)
    rw [readLong?_clock hlayout hours minutes hseconds hrest]
    dsimp only
    rw [if_neg hlayout, layout.readClock?_chars hhours hminutes hseconds]
    rfl

theorem readTicks?_kept {ticks : Nat} (hpos : 0 < ticks) (hticks : ticks < 10000000) :
    short.readTicks? (Numeral.withoutTrailingZeros (Numeral.padded 7 ticks)) = some ticks := by
  have hread := Numeral.read?_padded 7 ticks
  have hlength : (Numeral.padded 7 ticks).length = 7 := Numeral.length_padded_of_lt (by decide) hticks
  have hlast := Numeral.getLast?_withoutTrailingZeros (Numeral.padded 7 ticks)
  have hne : Numeral.withoutTrailingZeros (Numeral.padded 7 ticks) ≠ [] := fun hnil =>
    Nat.ne_of_gt hpos (Numeral.withoutTrailingZeros_padded_eq_nil_iff.mp hnil)
  obtain ⟨zeros, hzeros⟩ := Numeral.withoutTrailingZeros_append (Numeral.padded 7 ticks)
  generalize Numeral.withoutTrailingZeros (Numeral.padded 7 ticks) = kept at hlast hne hzeros ⊢
  rw [hzeros, List.length_append, List.length_replicate] at hlength
  have hmissing : 7 - kept.length = zeros := by omega
  rw [readTicks?, if_pos rfl, if_pos ⟨List.length_pos_iff.mpr hne, by omega, hlast⟩, hmissing, ← hzeros, hread]

theorem readTicks?_padded {layout : Layout} (hlayout : layout ≠ short) {ticks : Nat} (hticks : ticks < 10000000) :
    layout.readTicks? (Numeral.padded 7 ticks) = some ticks := by
  have hlength : (Numeral.padded 7 ticks).length = 7 := Numeral.length_padded_of_lt (by decide) hticks
  rw [readTicks?, if_neg hlayout, if_pos hlength, Numeral.read?_padded]

/-- A fraction that is shown is its mark and digits that write it. -/
theorem exists_fractionChars_eq {layout : Layout} (separator : List Char) {ticks : Nat} (hticks : ticks < 10000000)
    (hshown : 0 < ticks ∨ layout = long) :
    ∃ digits, digits ≠ [] ∧ layout.fractionChars separator ticks = layout.fractionMark separator ++ digits ∧
      layout.readTicks? digits = some ticks := by
  have hpadded := Numeral.padded_ne_nil 7 ticks
  cases layout with
  | constant =>
    have hpos := hshown.resolve_right (by decide)
    refine ⟨Numeral.padded 7 ticks, hpadded, ?_, readTicks?_padded (by decide) hticks⟩
    simp [fractionChars, fractionMark, Text.tail, hpos, hpadded]
  | short =>
    have hpos := hshown.resolve_right (by decide)
    have hkept : Numeral.withoutTrailingZeros (Numeral.padded 7 ticks) ≠ [] := fun hnil =>
      Nat.ne_of_gt hpos (Numeral.withoutTrailingZeros_padded_eq_nil_iff.mp hnil)
    refine ⟨Numeral.withoutTrailingZeros (Numeral.padded 7 ticks), hkept, ?_, readTicks?_kept hpos hticks⟩
    simp [fractionChars, fractionMark, hkept]
  | long => exact ⟨Numeral.padded 7 ticks, hpadded, rfl, readTicks?_padded (by decide) hticks⟩

theorem fractionChars_zero {layout : Layout} (hlayout : layout ≠ long) (separator : List Char) :
    layout.fractionChars separator 0 = [] := by
  cases layout with
  | constant => rfl
  | short => rfl
  | long => exact absurd rfl hlayout

theorem readFraction?_chars (layout : Layout) (separator : List Char) {ticks : Nat} (hticks : ticks < 10000000) :
    layout.readFraction? separator (layout.fractionChars separator ticks) = some (layout.shown ticks) := by
  unfold readFraction? shown
  by_cases hshown : 0 < ticks ∨ layout = long
  · obtain ⟨digits, hne, hchars, hread⟩ := exists_fractionChars_eq separator hticks hshown
    have hsome : ¬((layout.fractionMark separator ++ digits).isEmpty ∧ layout ≠ long) := by simp [hne]
    have hdrop : (layout.fractionMark separator ++ digits).dropPrefix? (layout.fractionMark separator) = some digits :=
      List.dropPrefix?_eq_some_iff.mpr ⟨_, rfl, beq_self_eq_true _⟩
    rw [hchars, if_neg hsome, hdrop, Option.bind_some, hread, if_pos hshown]
    rfl
  · obtain ⟨hticks, hlayout⟩ := not_or.mp hshown
    rw [Nat.eq_zero_of_not_pos hticks, fractionChars_zero hlayout, if_pos ⟨List.isEmpty_nil, hlayout⟩, if_neg]
    exact not_or.mpr ⟨Nat.lt_irrefl 0, hlayout⟩

theorem colon_not_mem_fractionChars (layout : Layout) {separator : List Char} (hseparator : ':' ∉ separator)
    (ticks : Nat) : ':' ∉ layout.fractionChars separator ticks := by
  have hpadded : ':' ∉ Numeral.padded 7 ticks := Numeral.not_mem_padded (by decide)
  have hkept : ':' ∉ Numeral.withoutTrailingZeros (Numeral.padded 7 ticks) := by
    obtain ⟨zeros, hzeros⟩ := Numeral.withoutTrailingZeros_append (Numeral.padded 7 ticks)
    intro hmem
    exact hpadded (by rw [hzeros]; exact List.mem_append_left _ hmem)
  cases layout with
  | constant =>
    unfold fractionChars Text.tail
    split_ifs <;> simp [hpadded]
  | short =>
    unfold fractionChars
    dsimp only
    split <;> simp [hseparator, hkept]
  | long => simp [fractionChars, hseparator, hpadded]

/-- What is read of so many ticks. -/
def reading (layout : Layout) (negative : Bool) (ticks : Nat) : Reading :=
  let total := ticks / 10000000
  { negative
    days := layout.shown (total / 86400)
    hours := total % 86400 / 3600
    minutes := total % 3600 / 60
    seconds := total % 60
    fraction := layout.shown (ticks % 10000000) }

theorem read?_chars (layout : Layout) {separator : List Char} (hseparator : ':' ∉ separator) (negative : Bool)
    (ticks : Nat) : layout.read? separator ((if negative then ['-'] else []) ++ layout.chars separator ticks) =
      some (layout.reading negative ticks) := by
  have hhead := layout.head?_chars_ne separator ticks
  have hsign : (if ((if negative then ['-'] else []) ++ layout.chars separator ticks).head? = some '-'
      then (true, ((if negative then ['-'] else []) ++ layout.chars separator ticks).drop 1)
      else (false, (if negative then ['-'] else []) ++ layout.chars separator ticks)) =
      (negative, layout.chars separator ticks) := by
    cases negative with
    | true => rfl
    | false => exact if_neg hhead
  have hhours : ticks / 10000000 % 86400 / 3600 < 24 := by omega
  have hminutes : ticks / 10000000 % 3600 / 60 < 60 := by omega
  have hseconds : ticks / 10000000 % 60 < 60 := Nat.mod_lt _ (by decide)
  have hticks : ticks % 10000000 < 10000000 := Nat.mod_lt _ (by decide)
  have hfront := layout.readFront?_chars (ticks / 10000000 / 86400) hhours hminutes hseconds
    (layout.colon_not_mem_fractionChars hseparator (ticks % 10000000))
  unfold read?
  rw [hsign]
  unfold chars
  simp only [Option.bind_eq_bind, Option.bind_some, hfront, layout.readFraction?_chars separator hticks]
  rfl

theorem getD_shown (layout : Layout) (n : Nat) : (layout.shown n).getD 0 = n := by
  unfold shown
  split
  next => rfl
  next h => exact (Nat.eq_zero_of_not_pos (not_or.mp h).1).symm

theorem isSome_shown_iff (layout : Layout) (n : Nat) : (layout.shown n).isSome ↔ 0 < n ∨ layout = long := by
  unfold shown
  split <;> simp [*]

theorem magnitude_reading (layout : Layout) (negative : Bool) (ticks : Nat) :
    (layout.reading negative ticks).magnitude = ticks := by
  unfold Reading.magnitude reading
  dsimp only
  rw [getD_shown, getD_shown]
  omega

end Layout

/-- In each of the three formats a span, cut towards zero to ticks, is read back from its text: hours, minutes and
seconds stay below those of a day, an hour and a minute, the hyphen is there iff the span is below zero, and a part
that may be missing is there iff it is not zero. The separator of the culture must not be taken for a colon. -/
theorem read?_format (layout : Layout) (s : Span) (symbols : NumberSymbols)
    (hseparator : ':' ∉ symbols.decimalSeparator.toList) :
    ∃ r, layout.read? symbols.decimalSeparator.toList (s.format (some layout.letter) symbols).toList = some r ∧
      r.ticks = s.ticks ∧ (r.negative ↔ s.value < 0) ∧ r.hours < 24 ∧ r.minutes < 60 ∧ r.seconds < 60 ∧
      (r.days.isSome ↔ 864000000000 ≤ s.ticks.natAbs ∨ layout = .long) ∧
      (r.fraction.isSome ↔ s.ticks.natAbs % 10000000 ≠ 0 ∨ layout = .long) := by
  have hread : layout.read? symbols.decimalSeparator.toList (s.format (some layout.letter) symbols).toList =
      some (layout.reading (decide (s.value < 0)) s.ticks.natAbs) := by
    have hchars := layout.read?_chars hseparator (decide (s.value < 0)) s.ticks.natAbs
    simp only [decide_eq_true_eq] at hchars
    rw [toList_format, Layout.ofFormat_letter, ← natAbs_ticks, hchars]
  have hticks : (layout.reading (decide (s.value < 0)) s.ticks.natAbs).ticks = s.ticks := by
    have hsign := s.ticks_neg_iff
    rw [Reading.ticks, Layout.magnitude_reading]
    unfold Layout.reading
    simp only [decide_eq_true_eq]
    split <;> omega
  have hdays : (layout.shown (s.ticks.natAbs / 10000000 / 86400)).isSome ↔
      864000000000 ≤ s.ticks.natAbs ∨ layout = .long := by
    rw [Layout.isSome_shown_iff]
    exact or_congr (by omega) Iff.rfl
  have hfraction : (layout.shown (s.ticks.natAbs % 10000000)).isSome ↔
      s.ticks.natAbs % 10000000 ≠ 0 ∨ layout = .long := by
    rw [Layout.isSome_shown_iff, Nat.pos_iff_ne_zero]
  refine ⟨_, hread, hticks, decide_eq_true_iff, ?_, ?_, ?_, hdays, hfraction⟩
  · exact Nat.div_lt_of_lt_mul (Nat.mod_lt _ (by decide))
  · exact Nat.div_lt_of_lt_mul (Nat.mod_lt _ (by decide))
  · exact Nat.mod_lt _ (by decide)

/-- The span opposite to the longest one: its nanoseconds count upwards from a second that is not its own. -/
def lowest : Span :=
  ⟨-9223372036854776, 193000000, by decide⟩

theorem read?_format_lowest :
    ':' ∉ "‚".toList ∧ lowest.value = -longest.value ∧
      lowest.format (some "g") { decimalSeparator := "‚" } = "-106751991167:7:12:55‚807" ∧
      ∃ r, Layout.short.read? "‚".toList "-106751991167:7:12:55‚807".toList = some r ∧
        r.ticks = lowest.ticks ∧ r = ⟨true, some 106751991167, 7, 12, 55, some 8070000⟩ := by
  have hseparator : ':' ∉ "‚".toList := by decide
  have hformat : lowest.format (some "g") { decimalSeparator := "‚" } = "-106751991167:7:12:55‚807" := by decide +kernel
  obtain ⟨r, hread, hticks, -⟩ := read?_format .short lowest { decimalSeparator := "‚" } hseparator
  rw [Layout.letter, hformat] at hread
  have hvalue : Layout.short.read? "‚".toList "-106751991167:7:12:55‚807".toList =
      some ⟨true, some 106751991167, 7, 12, 55, some 8070000⟩ := by decide +kernel
  exact ⟨hseparator, by decide, hformat, r, hread, hticks, Option.some.inj (hread.symm.trans hvalue)⟩

end Span

end StructuredMessage
