import StructuredMessage.Number.Binary
import StructuredMessage.Text.Numeral

namespace StructuredMessage

/-- An exact decimal number `mantissa * 10 ^ -scale` with a 96-bit mantissa. A zero keeps its sign. -/
structure Decimal where
  negative : Bool
  mantissa : Nat
  scale : Nat
  mantissa_lt : mantissa < twoPow 96
  scale_le : scale ≤ 28
  deriving DecidableEq

namespace Decimal

def of? (negative : Bool) (mantissa scale : Nat) : Option Decimal :=
  if h : mantissa < twoPow 96 ∧ scale ≤ 28 then some ⟨negative, mantissa, scale, h.1, h.2⟩ else none

def isZero (x : Decimal) : Bool :=
  x.mantissa == 0

def isBelowZero (x : Decimal) : Bool :=
  x.negative && !x.isZero

/-- The mantissa with the sign of the number. -/
def signed (x : Decimal) : Int :=
  if x.negative then -x.mantissa else x.mantissa

/-- Equality of values: `1.0` and `1.00` are the same number. -/
def same (x y : Decimal) : Bool :=
  x.signed * tenPow y.scale == y.signed * tenPow x.scale

/-- The digits of `n / 10 ^ places`, split at the point. -/
def splitDigits (n places : Nat) : List Char × List Char :=
  let all := Numeral.padded (places + 1) n
  (all.take (all.length - places), all.drop (all.length - places))

/-- The number with all digits of its scale and a point. -/
def text (x : Decimal) : String :=
  let (whole, fraction) := splitDigits x.mantissa x.scale
  let shown := if fraction.isEmpty then whole else whole ++ '.' :: fraction
  String.ofList (if x.negative then '-' :: shown else shown)

/-- A hundred times the number. When the mantissa has no room, places are given up for it; there is no
result when the places do not suffice. -/
def timesHundred (x : Decimal) : Option Decimal :=
  if x.mantissa = 0 then of? false 0 0
  else if x.mantissa * 100 < twoPow 96 then of? x.negative (x.mantissa * 100) x.scale
  else if x.mantissa * 10 < twoPow 96 then
    if 1 ≤ x.scale then of? x.negative (x.mantissa * 10) (x.scale - 1) else none
  else if 2 ≤ x.scale then of? x.negative x.mantissa (x.scale - 2) else none

/-- Powers of ten by repeated squaring, every product rounded. -/
def roundedPower : Nat → Binary .double → Nat → Binary .double → Binary .double
  | 0, _, _, result => result
  | steps + 1, base, exponent, result =>
    let result := if exponent % 2 = 1 then result.times base else result
    if exponent / 2 = 0 then result else roundedPower steps (base.times base) (exponent / 2) result

/-- The quotient of two magnitudes, rounded. -/
def quotient (x y : Binary .double) : Binary .double :=
  match x.magnitude, y.magnitude with
  | .finite m p, .finite n q =>
    let (a, b) := Binary.ratio m p
    let (c, d) := Binary.ratio n q
    Binary.nearest .double false (a * d) (b * c)
  | _, _ => Binary.nan .double

/-- The sum of two magnitudes, rounded. -/
def sum (x y : Binary .double) : Binary .double :=
  match x.magnitude, y.magnitude with
  | .finite m p, .finite n q =>
    let (a, b) := Binary.ratio m p
    let (c, d) := Binary.ratio n q
    Binary.nearest .double false (a * d + c * b) (b * d)
  | _, _ => Binary.nan .double

/-- The integer nearest to a magnitude, halves going up. -/
def wholeNearest (x : Binary .double) : Binary .double :=
  match x.magnitude with
  | .finite m e =>
    let (a, b) := Binary.ratio m e
    Binary.nearest .double false (roundDiv .awayFromZero a b) 1
  | _ => x

/-- The number as a double, through the sum of its whole and fractional parts brought back to as many
places as the scale has. Every step rounds, so the result may miss the nearest double. -/
def toDouble (x : Decimal) : Binary .double :=
  let one := Binary.ofInt .double 1
  let ten := Binary.ofInt .double 10
  let unsigned :=
    if x.scale = 0 then Binary.ofInt .double x.mantissa
    else
      let unit := tenPow x.scale
      let whole := Binary.ofInt .double (x.mantissa / unit : Nat)
      let fraction :=
        quotient (Binary.ofInt .double (x.mantissa % unit : Nat)) (Binary.ofInt .double unit)
      if fraction.isZero then whole
      else
        let places := roundedPower 6 ten x.scale one
        quotient (wholeNearest ((sum whole fraction).times places)) places
  Binary.ofSign .double x.negative unsigned.bits.toNat

end Decimal

end StructuredMessage
