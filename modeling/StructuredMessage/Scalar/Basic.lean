import StructuredMessage.Number.Digits
import StructuredMessage.Calendar.Moment
import StructuredMessage.Calendar.Span

namespace StructuredMessage

/-- A universally unique identifier. -/
structure Uuid where
  bits : BitVec 128
  deriving DecidableEq

namespace Uuid

/-- The 32 hexadecimal digits. -/
def digits (u : Uuid) : List Char :=
  (Numeral.hex false u.bits.toNat).leftpad 32 '0'

/-- The digits in groups of 8, 4, 4, 4 and 12. -/
def hyphenated (u : Uuid) : String :=
  let ds := u.digits
  "-".intercalate
    [String.ofList (ds.take 8), String.ofList ((ds.drop 8).take 4),
     String.ofList ((ds.drop 12).take 4), String.ofList ((ds.drop 16).take 4),
     String.ofList (ds.drop 20)]

end Uuid

/-- A value without parts. -/
inductive Scalar
  | null
  | bool (value : Bool)
  | char (value : Char)
  | integer (value : Integer)
  | single (value : Binary .single)
  | double (value : Binary .double)
  | decimal (value : Decimal)
  | text (value : String)
  | moment (value : Moment)
  | zoned (value : Zoned)
  | date (value : Date)
  | time (value : TimeOfDay)
  | span (value : Span)
  | uuid (value : Uuid)
  | uri (value : String)
  | bytes (value : List UInt8)
  /-- A member of an enumeration. -/
  | member (type variant : String)
  /-- A value of a type that was declared scalar, known by its text. -/
  | other (type text : String)

namespace Scalar

def isNull : Scalar → Bool
  | null => true
  | _ => false

/-- Equality of scalars of one kind: numbers by value, moments with an offset by instant. Scalars of
different kinds differ. -/
def same : Scalar → Scalar → Bool
  | null, null => true
  | bool x, bool y => x == y
  | char x, char y => x == y
  | integer x, integer y => x == y
  | single x, single y => x.same y
  | double x, double y => x.same y
  | decimal x, decimal y => x.same y
  | text x, text y => x == y
  | moment x, moment y => x == y
  | zoned x, zoned y => x.same y
  | date x, date y => x == y
  | time x, time y => x == y
  | span x, span y => x == y
  | uuid x, uuid y => x == y
  | uri x, uri y => x == y
  | bytes x, bytes y => x == y
  | member t x, member u y => t == u && x == y
  | other t x, other u y => t == u && x == y
  | _, _ => false

/-- The number that a numeric scalar holds. -/
def number? : Scalar → Option Number
  | integer n => some (.ofInteger n)
  | single x => some (.single x)
  | double x => some (.double x)
  | decimal x => some (.decimal x)
  | _ => none

/-- Two capital hexadecimal digits for every byte. -/
def hexText (content : List UInt8) : String :=
  String.ofList (content.flatMap fun b => (Numeral.hex true b.toNat).leftpad 2 '0')

end Scalar

/-- A date and a time as they are stored, without an offset or with one. -/
inductive Timestamp
  | plain (value : Moment)
  | zoned (value : Instant)

namespace Timestamp

/-- The scalar that shows it. There is none for an instant whose clock leaves the calendar. -/
def scalar? : Timestamp → Option Scalar
  | plain m => some (.moment m)
  | zoned x => x.zoned?.map .zoned

end Timestamp

end StructuredMessage
