import StructuredMessage.Text.Numeral

namespace StructuredMessage

namespace Calendar

/-!
The proleptic Gregorian calendar. A day is a number, counted from the first day of 1970; year, month and
day of the month are read off it.
-/

def isLeap (year : Int) : Bool :=
  year % 4 == 0 && (year % 100 != 0 || year % 400 == 0)

/-- The number of the first day of a year. -/
def yearStart (year : Int) : Int :=
  365 * (year - 1) + (year - 1) / 4 - (year - 1) / 100 + (year - 1) / 400 - 719162

/-- The year that a day lies in. The mean length of a year leads to it or to a neighbour of it. -/
def yearOf (day : Int) : Int :=
  let guess := (day + 719162) * 400 / 146097 + 1
  if day < yearStart guess then guess - 1
  else if yearStart (guess + 1) ≤ day then guess + 1
  else guess

/-- The number of days since the first of January. -/
def dayOfYear (day : Int) : Nat :=
  (day - yearStart (yearOf day)).toNat

def monthLengths (leap : Bool) : List Nat :=
  [31, if leap then 29 else 28, 31, 30, 31, 30, 31, 31, 30, 31, 30, 31]

/-- How many whole months of the given lengths lie before a day, and the days left over. -/
def splitMonths : List Nat → Nat → Nat × Nat
  | [], days => (0, days)
  | length :: rest, days =>
    if days < length then (0, days)
    else
      let (months, left) := splitMonths rest (days - length)
      (months + 1, left)

/-- The month of a day, from 1. -/
def monthOf (day : Int) : Nat :=
  (splitMonths (monthLengths (isLeap (yearOf day))) (dayOfYear day)).1 + 1

/-- The day of the month, from 1. -/
def dayOfMonth (day : Int) : Nat :=
  (splitMonths (monthLengths (isLeap (yearOf day))) (dayOfYear day)).2 + 1

/-- The days since the last Sunday. -/
def weekday (day : Int) : Nat :=
  ((day + 4) % 7).toNat

/-- The days since the last Monday. -/
def weekdayFromMonday (day : Int) : Nat :=
  ((day + 3) % 7).toNat

/-- The Thursday of the week from Monday to Sunday. Its year is the year that the week belongs to. -/
def thursdayOf (day : Int) : Int :=
  day - weekdayFromMonday day + 3

/-- The week number in the year that the week belongs to. -/
def weekOf (day : Int) : Nat :=
  dayOfYear (thursdayOf day) / 7 + 1

/-- The first day of the calendar that is kept. -/
def firstDay : Int :=
  yearStart (-262143)

def lastDay : Int :=
  yearStart 262143 - 1

end Calendar

/-- A day of the years -262143 to 262142. -/
structure Date where
  day : Int
  inRange : Calendar.firstDay ≤ day ∧ day ≤ Calendar.lastDay
  deriving DecidableEq

namespace Date

def ofDay? (day : Int) : Option Date :=
  if h : Calendar.firstDay ≤ day ∧ day ≤ Calendar.lastDay then some ⟨day, h⟩ else none

/-- The day with that year, month and day of the month, if there is one. -/
def of? (year : Int) (month day : Nat) : Option Date :=
  let lengths := Calendar.monthLengths (Calendar.isLeap year)
  if 1 ≤ month ∧ 1 ≤ day ∧ day ≤ lengths.getD (month - 1) 0 then
    let before : Nat := (lengths.take (month - 1)).foldl (· + ·) 0
    ofDay? (Calendar.yearStart year + before + (day - 1 : Nat))
  else none

def year (d : Date) : Int :=
  Calendar.yearOf d.day

def month (d : Date) : Nat :=
  Calendar.monthOf d.day

def dayOfMonth (d : Date) : Nat :=
  Calendar.dayOfMonth d.day

/-- The first day of the year 1, the date of a time that has none. -/
def epoch : Date :=
  ⟨Calendar.yearStart 1, by decide⟩

/-- A year of at least four digits, with a sign when it does not lie in 0 to 9999. -/
def yearText (year : Int) : String :=
  let sign := if year < 0 then "-" else if 9999 < year then "+" else ""
  sign ++ Numeral.paddedText 4 year.natAbs

/-- Year, month and day with hyphens between them. -/
def isoText (d : Date) : String :=
  yearText d.year ++ "-" ++ Numeral.paddedText 2 d.month ++ "-" ++ Numeral.paddedText 2 d.dayOfMonth

end Date

end StructuredMessage
