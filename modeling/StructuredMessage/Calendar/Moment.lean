import StructuredMessage.Calendar.Date

namespace StructuredMessage

/-- A time of day. A leap second is the second before it with `10 ^ 9` nanoseconds or more. -/
structure TimeOfDay where
  second : Nat
  nano : Nat
  second_lt : second < 86400
  nano_lt : nano < 2000000000
  deriving DecidableEq

namespace TimeOfDay

def of? (hour minute second nano : Nat) : Option TimeOfDay :=
  let total := hour * 3600 + minute * 60 + second
  if h : total < 86400 ∧ nano < 2000000000 then
    if minute < 60 ∧ second < 60 then some ⟨total, nano, h.1, h.2⟩ else none
  else none

def midnight : TimeOfDay :=
  ⟨0, 0, by decide, by decide⟩

def hour (t : TimeOfDay) : Nat :=
  t.second / 3600

/-- The hour on a clock face, 12 at midnight and noon. -/
def hour12 (t : TimeOfDay) : Nat :=
  if t.hour % 12 = 0 then 12 else t.hour % 12

def minute (t : TimeOfDay) : Nat :=
  t.second / 60 % 60

def secondOfMinute (t : TimeOfDay) : Nat :=
  t.second % 60

/-- The nanoseconds within the second, also within a leap second. -/
def fraction (t : TimeOfDay) : Nat :=
  t.nano % 1000000000

/-- The second of the minute on a clock that shows a leap second as the sixtieth. -/
def shownSecond (t : TimeOfDay) : Nat :=
  t.secondOfMinute + t.nano / 1000000000

/-- A point and as many digits, in threes, as the nanoseconds need; nothing for a whole second. -/
def fractionText (nano : Nat) : String :=
  if nano = 0 then ""
  else if nano % 1000000 = 0 then "." ++ Numeral.paddedText 3 (nano / 1000000)
  else if nano % 1000 = 0 then "." ++ Numeral.paddedText 6 (nano / 1000)
  else "." ++ Numeral.paddedText 9 nano

/-- Hours, minutes and seconds with colons between them, and the fraction if there is one. -/
def isoText (t : TimeOfDay) : String :=
  Numeral.paddedText 2 t.hour ++ ":" ++ Numeral.paddedText 2 t.minute ++ ":" ++
    Numeral.paddedText 2 t.shownSecond ++ fractionText t.fraction

end TimeOfDay

/-- A date and a time of day. -/
structure Moment where
  date : Date
  time : TimeOfDay
  deriving DecidableEq

namespace Moment

/-- The seconds since the start of 1970, the fraction and a leap second left out. -/
def seconds (m : Moment) : Int :=
  m.date.day * 86400 + m.time.second

def isoText (m : Moment) (separator : String) : String :=
  m.date.isoText ++ separator ++ m.time.isoText

/-- The moment at the given number of seconds since the start of 1970. -/
def ofSeconds? (seconds : Int) (nano : Nat) (h : nano < 2000000000) : Option Moment :=
  (Date.ofDay? (seconds / 86400)).map fun date =>
    ⟨date, ⟨(seconds % 86400).toNat, nano, by omega, h⟩⟩

/-- The moment so many seconds earlier. A leap second counts as the second it follows when the result
lies later, and as the second that comes next when it lies earlier. -/
def earlier? (m : Moment) (seconds : Int) : Option Moment :=
  let nano := m.time.fraction
  have h : m.time.fraction < 2000000000 := by
    have := m.time.nano_lt
    unfold TimeOfDay.fraction
    omega
  if m.time.nano < 1000000000 then ofSeconds? (m.seconds - seconds) nano h
  else if seconds < 0 then ofSeconds? (m.seconds - seconds) nano h
  else if 0 < seconds then ofSeconds? (m.seconds + 1 - seconds) nano h
  else some m

end Moment

/-- An instant in universal time, and by how many seconds a clock that is to show it runs ahead. What that clock
shows is not kept. -/
structure Instant where
  universal : Moment
  offset : Int
  offset_lt : -86400 < offset ∧ offset < 86400
  deriving DecidableEq

namespace Instant

/-- What the clock shows. Within a day of either end of the calendar it may lie outside, and there is no such moment. -/
def wall? (x : Instant) : Option Moment :=
  Moment.ofSeconds? (x.universal.seconds + x.offset) x.universal.time.nano x.universal.time.nano_lt

/-- The instant at which a clock with that offset shows `wall`, if it lies in the calendar. -/
def ofWall? (wall : Moment) (offset : Int) : Option Instant :=
  if h : -86400 < offset ∧ offset < 86400 then
    (Moment.ofSeconds? (wall.seconds - offset) wall.time.nano wall.time.nano_lt).map fun universal =>
      ⟨universal, offset, h⟩
  else none

end Instant

/-- An instant whose clock shows a moment of the calendar. Any other instant can be held and compared as well, but no
format has a text for it. -/
structure Zoned extends Instant where
  wall : Moment
  wall?_eq : toInstant.wall? = some wall
  deriving DecidableEq

/-- The instant with what its clock shows. -/
def Instant.zoned? (x : Instant) : Option Zoned :=
  match h : x.wall? with
  | some wall => some ⟨x, wall, h⟩
  | none => none

namespace Zoned

/-- Equality of instants, whatever the clocks show. -/
def same (x y : Zoned) : Bool :=
  x.universal == y.universal

/-- Sign, hours and minutes, and the seconds where there are any. -/
def offsetText (offset : Int) : String :=
  let n := offset.natAbs
  let sign := if offset < 0 then "-" else "+"
  let base := sign ++ Numeral.paddedText 2 (n / 3600) ++ ":" ++ Numeral.paddedText 2 (n / 60 % 60)
  if n % 60 = 0 then base else base ++ ":" ++ Numeral.paddedText 2 (n % 60)

/-- Sign, hours and minutes of the offset rounded to whole minutes. -/
def roundedOffsetText (colon : String) (offset : Int) : String :=
  let minutes := (offset.natAbs + 30) / 60
  (if offset < 0 then "-" else "+") ++ Numeral.paddedText 2 (minutes / 60) ++ colon ++
    Numeral.paddedText 2 (minutes % 60)

/-- The wall clock and the offset, in the form that timestamps on the internet have. -/
def isoText (z : Zoned) : String :=
  z.wall.isoText "T" ++ roundedOffsetText ":" z.offset

end Zoned

end StructuredMessage
