import StructuredMessage.Calendar.Pattern
import StructuredMessage.Calendar.Directive

namespace StructuredMessage

/-- What a date format of one letter stands for. -/
structure StandardDate where
  pattern : String
  /-- Written with the culture-neutral symbols. -/
  neutral : Bool
  /-- Written in universal time. -/
  universal : Bool
  deriving DecidableEq, Repr

namespace StandardDate

def roundTrip : String := "yyyy'-'MM'-'dd'T'HH':'mm':'ss'.'fffffffK"
def rfc1123 : String := "ddd, dd MMM yyyy HH':'mm':'ss 'GMT'"
def sortable : String := "yyyy'-'MM'-'dd'T'HH':'mm':'ss"
def universalSortable : String := "yyyy'-'MM'-'dd HH':'mm':'ss'Z'"

def ofLetter? (dates : DateSymbols) (letter : Char) : Option StandardDate :=
  let cultural (pattern : String) : Option StandardDate := some ⟨pattern, false, false⟩
  match letter with
  | 'd' => cultural dates.shortDate
  | 'D' => cultural dates.longDate
  | 'f' => cultural (dates.longDate ++ " " ++ dates.shortTime)
  | 'F' => cultural (dates.longDate ++ " " ++ dates.longTime)
  | 'g' => cultural (dates.shortDate ++ " " ++ dates.shortTime)
  | 'G' => cultural (dates.shortDate ++ " " ++ dates.longTime)
  | 'm' | 'M' => cultural dates.monthDay
  | 'y' | 'Y' => cultural dates.yearMonth
  | 't' => cultural dates.shortTime
  | 'T' => cultural dates.longTime
  | 'o' | 'O' => some ⟨roundTrip, true, false⟩
  | 'r' | 'R' => some ⟨rfc1123, true, true⟩
  | 's' => some ⟨sortable, true, false⟩
  | 'u' => some ⟨universalSortable, true, true⟩
  | _ => none

/-- Adds the moment to `out`. Universal time takes the offset off; a moment so close to the end of the
calendar that this is not possible is written as it is. -/
def add (s : StandardDate) (m : Moment) (offset : Option Int) (dates : DateSymbols)
    (out : String) : String :=
  let dates := if s.neutral then {} else dates
  match offset with
  | some seconds =>
    if s.universal then DatePattern.add s.pattern ((m.earlier? seconds).getD m) none dates out
    else DatePattern.add s.pattern m offset dates out
  | none => DatePattern.add s.pattern m offset dates out

end StandardDate

namespace Moment

/-- Adds the moment in the format of the letter `usual`, and the offset if there is one. -/
def addUsual (m : Moment) (offset : Option Int) (usual : Char) (dates : DateSymbols)
    (out : String) : String :=
  let written :=
    match StandardDate.ofLetter? dates usual with
    | some standard => standard.add m offset dates out
    | none => out
  match offset with
  | some seconds => written ++ " " ++ DatePattern.offsetText seconds 3
  | none => written

/-- Adds the moment to `out` in a format: one letter for a standard format, a text with `%` for a percent
pattern, any other text for a date pattern. The usual form stands for no format at all and for one that
cannot be used. -/
def add (m : Moment) (offset : Option Int) (format : Option String) (usual : Char)
    (dates : DateSymbols) (out : String) : String :=
  let pattern := format.getD ""
  match pattern.toList with
  | [] => m.addUsual offset usual dates out
  | first :: rest =>
    if '%' ∈ first :: rest then
      match Directive.format? pattern m offset with
      | some text => out ++ text
      | none => m.addUsual offset usual dates out
    else if rest.isEmpty then
      match StandardDate.ofLetter? dates first with
      | some standard => standard.add m offset dates out
      | none => m.addUsual offset usual dates out
    else DatePattern.add pattern m offset dates out

end Moment

end StructuredMessage
