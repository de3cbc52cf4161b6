import StructuredMessage.Json.Basic
import StructuredMessage.Scalar.Render

namespace StructuredMessage

namespace Scalar

/-- The scalar in a JSON document. Integers and floats are numbers; decimal numbers, dates, times and
everything else that JSON has no form for are strings. -/
def toJson : Scalar → Json
  | null => .null
  | bool value => .bool value
  | char value => .string (String.singleton value)
  | integer n => .integer n.value
  | single x => .single x
  | double x => .double x
  | decimal x => .string x.text
  | text value => .string value
  | moment m => .string (m.isoText "T")
  | zoned z => .string z.isoText
  | date d => .string d.isoText
  | time t => .string t.isoText
  | uuid u => .string u.hyphenated
  | uri value => .string value
  | member _ variant => .string variant
  | other _ shown => .string shown
  | span value => .string (span value).display
  | bytes content => .string (bytes content).display

end Scalar

end StructuredMessage
