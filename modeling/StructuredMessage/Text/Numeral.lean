namespace StructuredMessage

/-- A power of two. -/
def twoPow (n : Nat) : Nat :=
  Nat.pow 2 n

/-- A power of ten. -/
def tenPow (n : Nat) : Nat :=
  Nat.pow 10 n

namespace Numeral

/-- The decimal digits of `n`, most significant first and without leading zeros. -/
def digits (n : Nat) : List Char :=
  Nat.toDigits 10 n

/-- The digits of `n` behind as many zeros as bring them to `width`. -/
def padded (width n : Nat) : List Char :=
  (digits n).leftpad width '0'

/-- The number in base sixteen, with small or capital letters. -/
def hex (capital : Bool) (n : Nat) : List Char :=
  let small := Nat.toDigits 16 n
  if capital then small.map Char.toUpper else small

/-- The text of `n`. -/
def text (n : Nat) : String :=
  String.ofList (digits n)

/-- The text of `n`, at least `width` digits long. -/
def paddedText (width n : Nat) : String :=
  String.ofList (padded width n)

/-- The text of an integer: its digits, with a hyphen in front below zero. -/
def signedText (n : Int) : String :=
  if n < 0 then "-" ++ text n.natAbs else text n.natAbs

/-- The number that a non-empty run of ASCII digits writes; leading zeros are allowed. -/
def read? (cs : List Char) : Option Nat :=
  if cs.isEmpty || !cs.all Char.isDigit then none else some (Nat.ofDigitChars 10 cs 0)

/-- The text without the zeros at its end. -/
def withoutTrailingZeros (cs : List Char) : List Char :=
  (cs.reverse.dropWhile (· == '0')).reverse

end Numeral

end StructuredMessage
