import StructuredMessage.Number.Integer
import StructuredMessage.Number.Decimal
import StructuredMessage.Number.Shortest

namespace StructuredMessage

/-- A number to be written. Integers of one signedness share a 128-bit range and remember their width. -/
inductive Number
  | integer (signed : Bool) (bits : Nat) (value : Int)
  | single (value : Binary .single)
  | double (value : Binary .double)
  | decimal (value : Decimal)

/-- The digits of a number on both sides of the point. -/
structure Digits where
  negative : Bool
  whole : List Char
  fraction : List Char
  deriving DecidableEq, Repr

namespace Digits

def isZero (d : Digits) : Bool :=
  (d.whole ++ d.fraction).all (· == '0')

/-- Digits that are all zero carry no sign. -/
def settled (d : Digits) : Digits :=
  if d.isZero then { d with negative := false } else d

/-- The digits of `n / 10 ^ places`. -/
def ofScaled (negative : Bool) (n places : Nat) : Digits :=
  let (whole, fraction) := Decimal.splitDigits n places
  ⟨negative, whole, fraction⟩

/-- The digits of a decimal number in positional notation, with no zeros beyond the last digit. -/
def ofDecimalPoint (negative : Bool) (x : DecimalPoint) : Digits :=
  if 0 ≤ x.exponent then ofScaled negative (x.digits * tenPow x.exponent.toNat) 0
  else ofScaled negative x.digits (-x.exponent).toNat

end Digits

namespace Binary

variable {w : Width}

/-- The magnitude rounded to a number of places, a tie going to the even digit. An infinity keeps its
name for digits. -/
def fixedDigits (x : Binary w) (places : Nat) : List Char × List Char :=
  match x.magnitude with
  | .finite m e =>
    let (num, den) := ratio m e
    Decimal.splitDigits (roundDiv .toEven (num * tenPow places) den) places
  | .infinite => ("inf".toList, [])
  | .nan => ("NaN".toList, [])

end Binary

namespace Number

def ofInteger (n : Integer) : Number :=
  .integer n.type.isSigned n.type.bits n.value

def isNegative : Number → Bool
  | integer _ _ n => n < 0
  | single x => x.isBelowZero
  | double x => x.isBelowZero
  | decimal x => x.isBelowZero

def isZero : Number → Bool
  | integer _ _ n => n == 0
  | single x => x.isZero
  | double x => x.isZero
  | decimal x => x.isZero

/-- The number as a double; a single exactly, the others rounded. -/
def toDouble : Number → Binary .double
  | integer _ _ n => Binary.ofInt .double n
  | single x => x.widened
  | double x => x
  | decimal x => x.toDouble

/-- Whether a value of the given signedness fits 128 bits. -/
def fitsWidest (signed : Bool) (n : Int) : Bool :=
  if signed then -(twoPow 127 : Int) ≤ n && n < twoPow 127 else 0 ≤ n && n < twoPow 128

/-- A hundred times the number, in the same kind where that has room and as a double otherwise. -/
def timesHundred (x : Number) : Number :=
  let rounded (y : Binary .double) := double (y.times (Binary.ofInt .double 100))
  match x with
  | integer signed bits n =>
    if fitsWidest signed (n * 100) then integer signed bits (n * 100)
    else rounded (Binary.ofInt .double n)
  | single y => rounded y.widened
  | double y => rounded y
  | decimal y =>
    match y.timesHundred with
    | some product => decimal product
    | none => rounded y.toDouble

/-- The magnitude of a decimal number rounded to at most 28 places, a tie going away from zero, and
filled up with zeros. -/
def decimalDigits (x : Decimal) (places : Nat) : List Char × List Char :=
  let kept := min places 28
  let (mantissa, scale) :=
    if x.scale ≤ kept then (x.mantissa, x.scale)
    else (roundDiv .awayFromZero x.mantissa (tenPow (x.scale - kept)), kept)
  let (whole, fraction) := Decimal.splitDigits mantissa scale
  (whole, fraction ++ List.replicate (places - fraction.length) '0')

/-- The number rounded to exactly `places` fraction digits. -/
def fixed (x : Number) (places : Nat) : Digits :=
  let (whole, fraction) :=
    match x with
    | integer _ _ n => (Numeral.digits n.natAbs, List.replicate places '0')
    | single y => y.fixedDigits places
    | double y => y.fixedDigits places
    | decimal y => decimalDigits y places
  Digits.settled ⟨x.isNegative, whole, fraction⟩

/-- The symbol of a value that has no digits. -/
def symbol? (x : Number) (nan positive negative : String) : Option String :=
  let ofBinary {w : Width} (y : Binary w) : Option String :=
    match y.magnitude with
    | .nan => some nan
    | .infinite => some (if y.isNegative then negative else positive)
    | .finite _ _ => none
  match x with
  | single y => ofBinary y
  | double y => ofBinary y
  | _ => none

end Number

end StructuredMessage
