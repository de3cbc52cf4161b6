import StructuredMessage.Text.Numeral

namespace StructuredMessage

/-- Where a value goes that lies exactly between two candidates. -/
inductive Tie
  | toEven
  | awayFromZero
  deriving DecidableEq, Repr

/-- The integer nearest to `num / den`. -/
def roundDiv (tie : Tie) (num den : Nat) : Nat :=
  let quotient := num / den
  let remainder := num % den
  if 2 * remainder < den then quotient
  else if den < 2 * remainder then quotient + 1
  else match tie with
    | .toEven => quotient + quotient % 2
    | .awayFromZero => quotient + 1

/-- The two binary floating point formats. -/
inductive Width
  | single
  | double
  deriving DecidableEq, Repr

namespace Width

/-- The size of a word in bits. -/
def size : Width → Nat
  | single => 32
  | double => 64

/-- The bits of a significand, the leading one included. -/
def precision : Width → Nat
  | single => 24
  | double => 53

/-- The exponent of the unit in the last place of the smallest numbers. -/
def leastExponent : Width → Int
  | single => -149
  | double => -1074

/-- The exponent field of infinities and of values that are no number. -/
def specialField (w : Width) : Nat :=
  twoPow (w.size - w.precision) - 1

end Width

/-- A floating point word of the given width. -/
structure Binary (w : Width) where
  bits : BitVec w.size
  deriving DecidableEq

/-- What a word stands for, apart from its sign. A finite one is `significand * 2 ^ exponent`. -/
inductive Magnitude
  | nan
  | infinite
  | finite (significand : Nat) (exponent : Int)
  deriving DecidableEq, Repr

namespace Binary

variable {w : Width}

def isNegative (x : Binary w) : Bool :=
  x.bits.msb

def magnitude (x : Binary w) : Magnitude :=
  let unit := twoPow (w.precision - 1)
  let field := x.bits.toNat / unit % twoPow (w.size - w.precision)
  let fraction := x.bits.toNat % unit
  if field = w.specialField then
    if fraction = 0 then .infinite else .nan
  else if field = 0 then .finite fraction w.leastExponent
  else .finite (unit + fraction) (field - 1 + w.leastExponent)

def isNaN (x : Binary w) : Bool :=
  x.magnitude == .nan

/-- Whether the value is a zero of either sign. -/
def isZero (x : Binary w) : Bool :=
  match x.magnitude with
  | .finite 0 _ => true
  | _ => false

/-- Whether the value is below zero; a negative zero is not. -/
def isBelowZero (x : Binary w) : Bool :=
  x.isNegative && !x.isNaN && !x.isZero

/-- Equality of numbers: the two zeros are equal and a value that is no number equals nothing. -/
def same (x y : Binary w) : Bool :=
  !x.isNaN && !y.isNaN && (x.bits == y.bits || (x.isZero && y.isZero))

/-- The word with the given sign whose other bits are the number `rest`. -/
def ofSign (w : Width) (negative : Bool) (rest : Nat) : Binary w :=
  ⟨BitVec.ofNat w.size (rest + if negative then twoPow (w.size - 1) else 0)⟩

def nan (w : Width) : Binary w :=
  ofSign w false (w.specialField * twoPow (w.precision - 1) + twoPow (w.precision - 2))

def infinity (w : Width) (negative : Bool) : Binary w :=
  ofSign w negative (w.specialField * twoPow (w.precision - 1))

/-- The exponent of two that leads `num / den`: `2 ^ e ≤ num / den < 2 ^ (e + 1)`. -/
def leadingExponent (num den : Nat) : Int :=
  let guess : Int := (Nat.log2 num : Int) - Nat.log2 den
  if den * twoPow guess.toNat ≤ num * twoPow (-guess).toNat then guess else guess - 1

/-- The word nearest to `num / den`, a tie going to the even significand. Consecutive words stand for
consecutive magnitudes, so a significand that rounds up to the next power of two needs no care. -/
def nearest (w : Width) (negative : Bool) (num den : Nat) : Binary w :=
  if num = 0 then ofSign w negative 0
  else
    let exponent := max (leadingExponent num den - (w.precision - 1 : Nat)) w.leastExponent
    let significand :=
      roundDiv .toEven (num * twoPow (-exponent).toNat) (den * twoPow exponent.toNat)
    let rest := (exponent - w.leastExponent).toNat * twoPow (w.precision - 1) + significand
    ofSign w negative (min rest (w.specialField * twoPow (w.precision - 1)))

/-- The word nearest to an integer. -/
def ofInt (w : Width) (n : Int) : Binary w :=
  nearest w (n < 0) n.natAbs 1

/-- The word nearest to `digits * 10 ^ exponent`. Exponents beyond every format are cut short, so that
no power of ten is built that only leads to zero or infinity. -/
def ofDecimal (w : Width) (negative : Bool) (digits : Nat) (exponent : Int) : Binary w :=
  let leading := exponent + (Nat.toDigits 10 digits).length
  if digits = 0 ∨ leading < -400 then ofSign w negative 0
  else if 400 < leading then infinity w negative
  else nearest w negative (digits * tenPow exponent.toNat) (tenPow (-exponent).toNat)

/-- A finite magnitude as a quotient of natural numbers. -/
def ratio (significand : Nat) (exponent : Int) : Nat × Nat :=
  (significand * twoPow exponent.toNat, twoPow (-exponent).toNat)

/-- The product of two magnitudes, correctly rounded. -/
def times (x y : Binary w) : Binary w :=
  let negative := x.isNegative != y.isNegative
  match x.magnitude, y.magnitude with
  | .finite m p, .finite n q =>
    let (a, b) := ratio m p
    let (c, d) := ratio n q
    nearest w negative (a * c) (b * d)
  | .nan, _ | _, .nan => nan w
  | .infinite, .finite 0 _ | .finite 0 _, .infinite => nan w
  | .infinite, _ | _, .infinite => infinity w negative

/-- The same number in double width, which holds every single exactly. -/
def widened (x : Binary .single) : Binary .double :=
  match x.magnitude with
  | .nan => nan .double
  | .infinite => infinity .double x.isNegative
  | .finite m e => let (a, b) := ratio m e; nearest .double x.isNegative a b

end Binary

end StructuredMessage
