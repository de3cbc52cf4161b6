import StructuredMessage.Text.Numeral

namespace StructuredMessage

/-- The fixed-width integer types. -/
inductive IntegerType
  | i8 | i16 | i32 | i64 | i128
  | u8 | u16 | u32 | u64 | u128
  deriving DecidableEq, Repr

namespace IntegerType

def isSigned : IntegerType → Bool
  | i8 | i16 | i32 | i64 | i128 => true
  | u8 | u16 | u32 | u64 | u128 => false

/-- The width in bits. -/
def bits : IntegerType → Nat
  | i8 | u8 => 8
  | i16 | u16 => 16
  | i32 | u32 => 32
  | i64 | u64 => 64
  | i128 | u128 => 128

def name : IntegerType → String
  | i8 => "i8"
  | i16 => "i16"
  | i32 => "i32"
  | i64 => "i64"
  | i128 => "i128"
  | u8 => "u8"
  | u16 => "u16"
  | u32 => "u32"
  | u64 => "u64"
  | u128 => "u128"

def all : List IntegerType :=
  [i8, i16, i32, i64, i128, u8, u16, u32, u64, u128]

/-- The least value of a two's complement word, or zero. -/
def lowest (t : IntegerType) : Int :=
  if t.isSigned then -(twoPow (t.bits - 1) : Int) else 0

def highest (t : IntegerType) : Int :=
  if t.isSigned then (twoPow (t.bits - 1) : Int) - 1 else (twoPow t.bits : Int) - 1

end IntegerType

/-- An integer together with the type that holds it. -/
structure Integer where
  type : IntegerType
  value : Int
  fits : type.lowest ≤ value ∧ value ≤ type.highest
  deriving DecidableEq

namespace Integer

/-- The value as an integer of type `t`, if it is in range. -/
def of? (t : IntegerType) (n : Int) : Option Integer :=
  if h : t.lowest ≤ n ∧ n ≤ t.highest then some ⟨t, n, h⟩ else none

end Integer

end StructuredMessage
