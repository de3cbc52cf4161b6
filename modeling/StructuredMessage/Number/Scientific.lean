import StructuredMessage.Culture.Symbols
import StructuredMessage.Number.Digits

namespace StructuredMessage

namespace Numeral

/-- The mark of an exponent, its sign and at least `width` digits. -/
def exponentText (mark : Char) (width : Nat) (symbols : NumberSymbols) (exponent : Int) : String :=
  (String.singleton mark ++ if exponent < 0 then symbols.negativeSign else "+") ++
    paddedText width exponent.natAbs

/-- One digit, and the others behind a decimal separator. -/
def mantissaText (symbols : NumberSymbols) : List Char → String
  | [] => ""
  | [d] => String.singleton d
  | d :: rest => String.singleton d ++ symbols.decimalSeparator ++ String.ofList rest

end Numeral

namespace Binary

/-- The magnitude rounded to one digit and `places` more, a tie going to the even digit: the digits and
the exponent of the first of them. -/
def scientificDigits {w : Width} (x : Binary w) (places : Nat) : List Char × Int :=
  match x.magnitude with
  | .finite 0 _ => (List.replicate (places + 1) '0', 0)
  | .finite m e =>
    let (num, den) := ratio m e
    let leading := Shortest.leadingExponent num den
    let unit := leading - places
    let n := roundDiv .toEven (num * tenPow (-unit).toNat) (den * tenPow unit.toNat)
    if n < tenPow (places + 1) then (Numeral.digits n, leading)
    else (Numeral.digits (n / 10), leading + 1)
  | .infinite => ("inf".toList, 0)
  | .nan => ("NaN".toList, 0)

end Binary

namespace Number

/-- Scientific notation with `places` digits after the first and at least three in the exponent. -/
def scientific (x : Number) (mark : Char) (places : Nat) (symbols : NumberSymbols) : String :=
  let (digits, exponent) := x.toDouble.scientificDigits places
  let sign := if x.isNegative && digits.any (· != '0') then symbols.negativeSign else ""
  sign ++ Numeral.mantissaText symbols digits ++ Numeral.exponentText mark 3 symbols exponent

end Number

end StructuredMessage
