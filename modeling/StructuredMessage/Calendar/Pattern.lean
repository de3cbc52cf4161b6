import StructuredMessage.Calendar.Moment
import StructuredMessage.Culture.Symbols

namespace StructuredMessage

/-- What a letter of a date pattern stands for. -/
inductive DateField
  | day
  | month
  | year
  | clockHour
  | hour
  | minute
  | second
  | fraction
  | shortFraction
  | designator
  | offset
  | zone
  | era
  deriving DecidableEq, Repr

namespace DateField

def ofLetter? : Char → Option DateField
  | 'd' => some day
  | 'M' => some month
  | 'y' => some year
  | 'h' => some clockHour
  | 'H' => some hour
  | 'm' => some minute
  | 's' => some second
  | 'f' => some fraction
  | 'F' => some shortFraction
  | 't' => some designator
  | 'z' => some offset
  | 'K' => some zone
  | 'g' => some era
  | _ => none

end DateField

/-- One element of a date pattern: a letter with the number of times it is repeated, a separator of the
culture, or text. -/
inductive DateItem
  | field (kind : DateField) (run : Nat)
  | timeSeparator
  | dateSeparator
  | literal (text : List Char)
  deriving DecidableEq, Repr

namespace DatePattern

/-- The items of a date pattern. A quote that is not closed runs to the end. -/
def items : List Char → List DateItem
  | [] => []
  | ':' :: rest => .timeSeparator :: items rest
  | '/' :: rest => .dateSeparator :: items rest
  | ['\\'] => []
  | '\\' :: c :: rest => .literal [c] :: items rest
  | c :: rest =>
    match DateField.ofLetter? c with
    | some kind =>
      .field kind ((rest.takeWhile (· = c)).length + 1) :: items (rest.dropWhile (· = c))
    | none =>
      if c = '\'' ∨ c = '"' then
        .literal (rest.takeWhile (· ≠ c)) :: items ((rest.dropWhile (· ≠ c)).drop 1)
      else .literal [c] :: items rest
  termination_by cs => cs.length
  decreasing_by all_goals grind [List.Sublist.length_le, List.dropWhile_sublist]

/-- Sign and hours of an offset; the hours with two digits for a run of two, and with the minutes for
longer runs. -/
def offsetText (offset : Int) (run : Nat) : String :=
  let n := offset.natAbs
  let sign := if offset < 0 then "-" else "+"
  match run with
  | 1 => sign ++ Numeral.text (n / 3600)
  | 2 => sign ++ Numeral.paddedText 2 (n / 3600)
  | _ => sign ++ Numeral.paddedText 2 (n / 3600) ++ ":" ++ Numeral.paddedText 2 (n % 3600 / 60)

/-- A year padded with zeros, a hyphen in front of the years before 0. -/
def yearText (year : Int) (run : Nat) : String :=
  (if year < 0 then "-" else "") ++ Numeral.paddedText run year.natAbs

/-- Puts text behind what is already there. Digits of a short fraction are left out when they are all
zero, and then a point that stands at the very end is taken back, wherever it came from. -/
def addShortFraction (out : String) (digits : List Char) : String :=
  let kept := Numeral.withoutTrailingZeros digits
  if kept.isEmpty then
    if out.toList.getLast? = some '.' then String.ofList out.toList.dropLast else out
  else out ++ String.ofList kept

/-- The name in the list at an index. -/
def nameAt (names : List String) (index : Nat) : String :=
  names.getD index ""

/-- Adds one item to `out`. -/
def addItem (m : Moment) (offset : Option Int) (dates : DateSymbols) (out : String) :
    DateItem → String
  | .timeSeparator => out ++ dates.timeSeparator
  | .dateSeparator => out ++ dates.dateSeparator
  | .literal text => out ++ String.ofList text
  | .field kind run =>
    let nanos := (Numeral.padded 9 m.time.fraction).take (min run 7)
    match kind with
    | .day =>
      let weekday := Calendar.weekday m.date.day
      if run ≤ 2 then out ++ Numeral.paddedText run m.date.dayOfMonth
      else if run = 3 then out ++ nameAt dates.shortDayNames weekday
      else out ++ nameAt dates.dayNames weekday
    | .month =>
      if run ≤ 2 then out ++ Numeral.paddedText run m.date.month
      else if run = 3 then out ++ nameAt dates.shortMonthNames (m.date.month - 1)
      else out ++ nameAt dates.monthNames (m.date.month - 1)
    | .year =>
      if run ≤ 2 then out ++ Numeral.paddedText run (m.date.year % 100).toNat
      else out ++ yearText m.date.year run
    | .clockHour => out ++ Numeral.paddedText (min run 2) m.time.hour12
    | .hour => out ++ Numeral.paddedText (min run 2) m.time.hour
    | .minute => out ++ Numeral.paddedText (min run 2) m.time.minute
    | .second => out ++ Numeral.paddedText (min run 2) m.time.secondOfMinute
    | .fraction => out ++ String.ofList nanos
    | .shortFraction => addShortFraction out nanos
    | .designator =>
      let designator := if m.time.hour < 12 then dates.morning else dates.afternoon
      if run = 1 then out ++ String.ofList (designator.toList.take 1) else out ++ designator
    | .offset => out ++ offsetText (offset.getD 0) run
    | .zone =>
      match offset with
      | some seconds => out ++ offsetText seconds 3
      | none => out
    | .era => out ++ if 0 < m.date.year then "A.D." else "B.C."

/-- Adds the moment in the given pattern to `out`. -/
def add (pattern : String) (m : Moment) (offset : Option Int) (dates : DateSymbols)
    (out : String) : String :=
  (items pattern.toList).foldl (addItem m offset dates) out

end DatePattern

end StructuredMessage
