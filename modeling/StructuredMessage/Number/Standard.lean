import StructuredMessage.Number.Scientific

namespace StructuredMessage

namespace Digits

/-- The digits with a separator before every third one counted from the right. -/
def grouped (separator : List Char) : List Char → List Char
  | [] => []
  | [d] => [d]
  | d :: rest =>
    if rest.length % 3 = 0 then d :: separator ++ grouped separator rest
    else d :: grouped separator rest

/-- Sign, whole digits and, where there are any, the fraction behind the separator. -/
def text (d : Digits) (isGrouped : Bool) (symbols : NumberSymbols) : String :=
  let sign := if d.negative then symbols.negativeSign else ""
  let whole := if isGrouped then grouped symbols.groupSeparator.toList d.whole else d.whole
  let tail :=
    if d.fraction.isEmpty then "" else symbols.decimalSeparator ++ String.ofList d.fraction
  sign ++ String.ofList whole ++ tail

end Digits

namespace Number

/-- The fewest digits that read back as the value: positional where the first digit stands between
`10 ^ -4` and `10 ^ 14`, with an exponent of at least two digits elsewhere. -/
def generalBinary {w : Width} (x : Binary w) (symbols : NumberSymbols) : String :=
  match x.magnitude with
  | .finite m e =>
    let short := shortest w .awayFromZero m e
    let digits := Numeral.digits short.digits
    let leading := short.exponent + (digits.length - 1 : Nat)
    if x.isZero ∨ (-4 ≤ leading ∧ leading < 15) then
      (Digits.ofDecimalPoint x.isBelowZero short).text false symbols
    else
      let sign := if x.isBelowZero then symbols.negativeSign else ""
      sign ++ Numeral.mantissaText symbols digits ++ Numeral.exponentText 'E' 2 symbols leading
  | _ => ""

/-- The form used when no format asks for another. -/
def general (x : Number) (symbols : NumberSymbols) : String :=
  match x with
  | single y => generalBinary y symbols
  | double y => generalBinary y symbols
  | decimal y =>
    let (whole, fraction) := Decimal.splitDigits y.mantissa y.scale
    Digits.text ⟨y.isBelowZero, whole, fraction⟩ false symbols
  | integer _ _ _ => (x.fixed 0).text false symbols

/-- An integer as its two's complement word of `bits` bits. -/
def word (bits : Nat) (n : Int) : Nat :=
  (n % (twoPow bits : Int)).toNat

/-- A format of one letter, with the precision that may follow it. -/
structure Standard where
  letter : Char
  precision : Option Nat
  deriving DecidableEq, Repr

/-- A letter and at most two digits; any other text is a pattern. -/
def Standard.read? (format : List Char) : Option Standard :=
  match format with
  | [] => none
  | letter :: rest =>
    if !letter.isAlpha then none
    else if rest.isEmpty then some ⟨letter, none⟩
    else if rest.length ≤ 2 then (Numeral.read? rest).map fun n => ⟨letter, some n⟩
    else none

/-- The number in a standard format. A letter that does not apply gives the general form. -/
def standard (x : Number) (format : Standard) (symbols : NumberSymbols) : String :=
  let places := format.precision.getD 2
  match format.letter, x with
  | 'D', integer _ _ n | 'd', integer _ _ n =>
    let sign := if n < 0 then symbols.negativeSign else ""
    sign ++ Numeral.paddedText (format.precision.getD 0) n.natAbs
  | 'X', integer _ bits n =>
    String.ofList ((Numeral.hex true (word bits n)).leftpad (format.precision.getD 0) '0')
  | 'x', integer _ bits n =>
    String.ofList ((Numeral.hex false (word bits n)).leftpad (format.precision.getD 0) '0')
  | 'F', _ | 'f', _ => (x.fixed places).text false symbols
  | 'N', _ | 'n', _ => (x.fixed places).text true symbols
  | 'P', _ | 'p', _ => (x.timesHundred.fixed places).text true symbols ++ symbols.percentSuffix
  | 'E', _ | 'e', _ => x.scientific format.letter (format.precision.getD 6) symbols
  | _, _ => x.general symbols

end Number

end StructuredMessage
