import StructuredMessage.Calendar.Moment

namespace StructuredMessage

/-- What stands in front of a number that is too short. -/
inductive Padding
  | none
  | zeros
  | spaces
  deriving DecidableEq, Repr

/-- The numbers that a percent directive can name. -/
inductive ClockNumber
  | year
  | century
  | yearOfCentury
  | weekYear
  | weekYearOfCentury
  | quarter
  | month
  | day
  | weekFromSunday
  | weekFromMonday
  | week
  | daysFromSunday
  | weekdayFromMonday
  | dayOfYear
  | hour
  | hour12
  | minute
  | second
  | nanosecond
  | timestamp
  deriving DecidableEq, Repr

/-- One element of a percent pattern. -/
inductive Directive
  | literal (text : List Char)
  | number (kind : ClockNumber) (padding : Padding)
  | monthName (short : Bool)
  | dayName (short : Bool)
  | designator (small : Bool)
  | fraction
  | fractionDigits (point : Bool) (count : Nat)
  | zoneName
  | offsetMinutes (colon : Bool)
  | offsetSeconds
  | offsetHours
  | timestampText
  deriving DecidableEq, Repr

namespace Directive

def zeros (kind : ClockNumber) : Directive :=
  number kind .zeros

def spaces (kind : ClockNumber) : Directive :=
  number kind .spaces

def bare (kind : ClockNumber) : Directive :=
  number kind .none

def dash : Directive := literal ['-']
def slash : Directive := literal ['/']
def colon : Directive := literal [':']
def blank : Directive := literal [' ']

/-- Hour, minute and second with colons between them. -/
def clock : List Directive :=
  [zeros .hour, colon, zeros .minute, colon, zeros .second]

/-- What a letter after the percent sign means. Some letters abbreviate a whole pattern. -/
def ofLetter? : Char → Option (List Directive)
  | 'A' => some [dayName false]
  | 'B' => some [monthName false]
  | 'C' => some [zeros .century]
  | 'D' | 'x' => some [zeros .month, slash, zeros .day, slash, zeros .yearOfCentury]
  | 'F' => some [zeros .year, dash, zeros .month, dash, zeros .day]
  | 'G' => some [zeros .weekYear]
  | 'H' => some [zeros .hour]
  | 'I' => some [zeros .hour12]
  | 'M' => some [zeros .minute]
  | 'P' => some [designator true]
  | 'R' => some [zeros .hour, colon, zeros .minute]
  | 'S' => some [zeros .second]
  | 'T' | 'X' => some clock
  | 'U' => some [zeros .weekFromSunday]
  | 'V' => some [zeros .week]
  | 'W' => some [zeros .weekFromMonday]
  | 'Y' => some [zeros .year]
  | 'Z' => some [zoneName]
  | 'a' => some [dayName true]
  | 'b' | 'h' => some [monthName true]
  | 'c' => some ([dayName true, blank, monthName true, blank, spaces .day, blank] ++ clock ++
      [blank, zeros .year])
  | 'd' => some [zeros .day]
  | 'e' => some [spaces .day]
  | 'f' => some [zeros .nanosecond]
  | 'g' => some [zeros .weekYearOfCentury]
  | 'j' => some [zeros .dayOfYear]
  | 'k' => some [spaces .hour]
  | 'l' => some [spaces .hour12]
  | 'm' => some [zeros .month]
  | 'n' => some [literal ['\n']]
  | 'p' => some [designator false]
  | 'q' => some [bare .quarter]
  | 'r' => some [zeros .hour12, colon, zeros .minute, colon, zeros .second, blank,
      designator false]
  | 's' => some [bare .timestamp]
  | 't' => some [literal ['\t']]
  | 'u' => some [bare .weekdayFromMonday]
  | 'v' => some [spaces .day, dash, monthName true, dash, zeros .year]
  | 'w' => some [bare .daysFromSunday]
  | 'y' => some [zeros .yearOfCentury]
  | 'z' => some [offsetMinutes false]
  | '+' => some [timestampText]
  | '%' => some [literal ['%']]
  | _ => none

def paddingOf? : Char → Option Padding
  | '-' => some .none
  | '0' => some .zeros
  | '_' => some .spaces
  | _ => none

/-- The directive after a percent sign and the text behind it. A padding mark may only stand before a
single number. -/
def readOne? : List Char → Option (List Directive × List Char)
  | ':' :: ':' :: ':' :: 'z' :: rest => some ([offsetHours], rest)
  | ':' :: ':' :: 'z' :: rest => some ([offsetSeconds], rest)
  | ':' :: 'z' :: rest => some ([offsetMinutes true], rest)
  | '.' :: 'f' :: rest => some ([fraction], rest)
  | '.' :: '3' :: 'f' :: rest => some ([fractionDigits true 3], rest)
  | '.' :: '6' :: 'f' :: rest => some ([fractionDigits true 6], rest)
  | '.' :: '9' :: 'f' :: rest => some ([fractionDigits true 9], rest)
  | '3' :: 'f' :: rest => some ([fractionDigits false 3], rest)
  | '6' :: 'f' :: rest => some ([fractionDigits false 6], rest)
  | '9' :: 'f' :: rest => some ([fractionDigits false 9], rest)
  | c :: rest =>
    match paddingOf? c, rest with
    | some padding, letter :: rest =>
      match ofLetter? letter with
      | some [number kind _] => some ([number kind padding], rest)
      | _ => none
    | some _, [] => none
    | none, rest => (ofLetter? c).map (·, rest)
  | [] => none

/-- The directives of a percent pattern, or nothing if one of them is not known. Every step consumes a
character, so as many steps as characters are enough. -/
def readFrom : Nat → List Char → Option (List Directive)
  | _, [] => some []
  | 0, _ :: _ => none
  | steps + 1, '%' :: rest =>
    match readOne? rest with
    | some (directives, rest) => (readFrom steps rest).map (directives ++ ·)
    | none => none
  | steps + 1, c :: rest => (readFrom steps rest).map (literal [c] :: ·)

def read? (pattern : String) : Option (List Directive) :=
  readFrom pattern.length pattern.toList

/-- A signed number of at least `width` digits; the sign is not counted where it is always written. -/
def signedText (width : Nat) (n : Int) (padding : Padding) (always : Bool) : String :=
  let sign := if n < 0 then "-" else if always then "+" else ""
  let room := if always then width else width - sign.length
  match padding with
  | .none => sign ++ Numeral.text n.natAbs
  | .zeros => sign ++ Numeral.paddedText room n.natAbs
  | .spaces =>
    let digits := Numeral.digits n.natAbs
    String.ofList (List.replicate (room - digits.length) ' ') ++ sign ++ String.ofList digits

/-- A number below 256 in two places. The first place is one character also for a hundred and more. -/
def twoPlaces (n : Nat) (padding : Padding) : String :=
  let ones := String.singleton (Char.ofNat (48 + n % 10))
  if n < 10 then
    match padding with
    | .none => ones
    | .zeros => "0" ++ ones
    | .spaces => " " ++ ones
  else String.singleton (Char.ofNat (48 + n / 10)) ++ ones

def yearText (year : Int) (padding : Padding) : String :=
  signedText 4 year padding (year < 0 || 9999 < year)

/-- The weeks of the year that have begun, when weeks begin `passed` days before the given day. -/
def weeksBegun (day : Int) (passed : Nat) : Nat :=
  (Calendar.dayOfYear day + 7 - passed) / 7

def numberText (m : Moment) (offset : Option Int) (padding : Padding) : ClockNumber → String
  | .year => yearText m.date.year padding
  | .century => twoPlaces (m.date.year / 100 % 256).toNat padding
  | .yearOfCentury => twoPlaces (m.date.year % 100).toNat padding
  | .weekYear => yearText (Calendar.yearOf (Calendar.thursdayOf m.date.day)) padding
  | .weekYearOfCentury =>
    twoPlaces (Calendar.yearOf (Calendar.thursdayOf m.date.day) % 100).toNat padding
  | .quarter => Numeral.text ((m.date.month - 1) / 3 + 1)
  | .month => twoPlaces m.date.month padding
  | .day => twoPlaces m.date.dayOfMonth padding
  | .weekFromSunday => twoPlaces (weeksBegun m.date.day (Calendar.weekday m.date.day)) padding
  | .weekFromMonday =>
    twoPlaces (weeksBegun m.date.day (Calendar.weekdayFromMonday m.date.day)) padding
  | .week => twoPlaces (Calendar.weekOf m.date.day) padding
  | .daysFromSunday => Numeral.text (Calendar.weekday m.date.day)
  | .weekdayFromMonday => Numeral.text (Calendar.weekdayFromMonday m.date.day + 1)
  | .dayOfYear => signedText 3 (Calendar.dayOfYear m.date.day + 1 : Nat) padding false
  | .hour => twoPlaces m.time.hour padding
  | .hour12 => twoPlaces m.time.hour12 padding
  | .minute => twoPlaces m.time.minute padding
  | .second => twoPlaces m.time.shownSecond padding
  | .nanosecond => signedText 9 m.time.fraction padding false
  | .timestamp => signedText 9 (m.seconds - offset.getD 0) padding false

def fullMonthNames : List String :=
  ["January", "February", "March", "April", "May", "June", "July", "August", "September",
   "October", "November", "December"]

def fullDayNames : List String :=
  ["Sunday", "Monday", "Tuesday", "Wednesday", "Thursday", "Friday", "Saturday"]

/-- The name at an index, or its first three letters. -/
def nameText (names : List String) (index : Nat) (short : Bool) : String :=
  let name := names.getD index ""
  if short then String.ofList (name.toList.take 3) else name

/-- The text of one directive. Directives about the offset need one. -/
def text? (m : Moment) (offset : Option Int) : Directive → Option String
  | literal text => some (String.ofList text)
  | number kind padding => some (numberText m offset padding kind)
  | monthName short => some (nameText fullMonthNames (m.date.month - 1) short)
  | dayName short => some (nameText fullDayNames (Calendar.weekday m.date.day) short)
  | designator small =>
    match decide (m.time.hour < 12), small with
    | true, true => some "am"
    | true, false => some "AM"
    | false, true => some "pm"
    | false, false => some "PM"
  | fraction => some (TimeOfDay.fractionText m.time.fraction)
  | fractionDigits point count =>
    some ((if point then "." else "") ++
      Numeral.paddedText count (m.time.fraction / tenPow (9 - count)))
  | zoneName => offset.map Zoned.offsetText
  | offsetMinutes colon => offset.map (Zoned.roundedOffsetText (if colon then ":" else ""))
  | offsetSeconds => offset.map fun seconds =>
      let n := seconds.natAbs
      (if seconds < 0 then "-" else "+") ++ Numeral.paddedText 2 (n / 3600) ++ ":" ++
        Numeral.paddedText 2 (n / 60 % 60) ++ ":" ++ Numeral.paddedText 2 (n % 60)
  | offsetHours => offset.map fun seconds =>
      (if seconds < 0 then "-" else "+") ++ Numeral.paddedText 2 (seconds.natAbs / 3600)
  | timestampText => offset.map fun seconds =>
      m.isoText "T" ++ Zoned.roundedOffsetText ":" seconds

/-- The moment in a percent pattern, or nothing if the pattern cannot be read or needs an offset that is
not there. -/
def format? (pattern : String) (m : Moment) (offset : Option Int) : Option String :=
  match read? pattern with
  | some directives => (directives.mapM (text? m offset)).map String.join
  | none => none

end Directive

end StructuredMessage
