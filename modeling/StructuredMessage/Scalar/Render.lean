import StructuredMessage.Culture.Locale
import StructuredMessage.Calendar.Format
import StructuredMessage.Number.Pattern

namespace StructuredMessage

namespace Uuid

/-- Plain digits for `N`, braces for `B`, parentheses for `P`, hyphens alone for anything else. -/
def format (u : Uuid) (format : Option String) : String :=
  match format with
  | some "N" | some "n" => String.ofList u.digits
  | some "B" | some "b" => "\x7b" ++ u.hyphenated ++ "\x7d"
  | some "P" | some "p" => "(" ++ u.hyphenated ++ ")"
  | _ => u.hyphenated

end Uuid

namespace Scalar

/-- The text between double quotes, with a backslash before the quotes in it. -/
def quotedText (text : String) : String :=
  String.ofList ('"' :: text.toList.flatMap (fun c => if c = '"' then ['\\', '"'] else [c]) ++ ['"'])

/-- Adds the built-in form of a scalar to `out`. -/
def addBuiltin (s : Scalar) (format : Option String) (numbers : NumberSymbols)
    (dates : DateSymbols) (out : String) : String :=
  match s with
  | null => out ++ "null"
  | bool value => out ++ if value then "true" else "false"
  | char value => out.push value
  | integer n => out ++ (Number.ofInteger n).format format numbers
  | single x => out ++ (Number.single x).format format numbers
  | double x => out ++ (Number.double x).format format numbers
  | decimal x => out ++ (Number.decimal x).format format numbers
  | text value => out ++ if format = some "l" then value else quotedText value
  | moment m => m.add none format 'G' dates out
  | zoned z => z.wall.add (some z.offset) format 'G' dates out
  | date d => (Moment.mk d .midnight).add none format 'd' dates out
  | time t => (Moment.mk .epoch t).add none format 't' dates out
  | span value => out ++ value.format format numbers
  | uuid u => out ++ u.format format
  | uri value => out ++ value
  | bytes content => out ++ hexText content
  | member _ variant => out ++ variant
  | other _ shown => out ++ shown

/-- Whether a formatter of the locale is asked about the scalar. Null and text have one form only. -/
def isFormattable : Scalar → Bool
  | null => false
  | text _ => false
  | _ => true

/-- Adds the scalar to `out`: in the form of the locale's formatter if it has one for it, in the built-in
form otherwise. -/
def add (s : Scalar) (format : Option String) (locale : Locale) (out : String) : String :=
  let custom :=
    if s.isFormattable then locale.formatter.bind fun formatter => formatter format s else none
  match custom with
  | some shown => out ++ shown
  | none => s.addBuiltin format locale.numbers locale.dates out

/-- The scalar without a format, with the culture-neutral symbols. -/
def display (s : Scalar) : String :=
  s.add none .neutral ""

end Scalar

/-- Adds the built-in form of a date and a time to `out`, if it can be shown. -/
def Timestamp.addBuiltin? (t : Timestamp) (format : Option String) (numbers : NumberSymbols)
    (dates : DateSymbols) (out : String) : Option String :=
  t.scalar?.map fun s => s.addBuiltin format numbers dates out

end StructuredMessage
