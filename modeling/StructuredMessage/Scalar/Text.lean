import StructuredMessage.Scalar.Render

namespace StructuredMessage

namespace Binary

/-- The fewest digits that read back as the value, in positional notation whatever its size. -/
def text {w : Width} (x : Binary w) : String :=
  match x.magnitude with
  | .nan => "NaN"
  | .infinite => if x.isNegative then "-inf" else "inf"
  | .finite m e =>
    let d := Digits.ofDecimalPoint false (shortest w .awayFromZero m e)
    let shown := if d.fraction.isEmpty then d.whole else d.whole ++ '.' :: d.fraction
    String.ofList (if x.isNegative then '-' :: shown else shown)

end Binary

namespace Scalar

/-- The scalar as bare text, the way a value of its type describes itself. -/
def plainText : Scalar → String
  | char value => String.singleton value
  | integer n => Numeral.signedText n.value
  | single x => x.text
  | double x => x.text
  | decimal x => x.text
  | text value => value
  | moment m => m.isoText " "
  | zoned z => z.wall.isoText " " ++ " " ++ Zoned.offsetText z.offset
  | date d => d.isoText
  | time t => t.isoText
  | uri value => value
  | s => s.display

end Scalar

end StructuredMessage
