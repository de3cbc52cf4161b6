import StructuredMessage.Number.Binary
import StructuredMessage.Text.Character
import StructuredMessage.Text.Numeral

namespace StructuredMessage

namespace Numeral

/-- The exponent part of a number, zero if there is none, and the text behind it. -/
def exponent? (cs : List Char) : Option (Int × List Char) :=
  let digits (sign : Int) (cs : List Char) : Option (Int × List Char) :=
    (read? (cs.takeWhile Char.isDigit)).map fun n => (sign * n, cs.dropWhile Char.isDigit)
  match cs with
  | 'e' :: '-' :: rest | 'E' :: '-' :: rest => digits (-1) rest
  | 'e' :: '+' :: rest | 'E' :: '+' :: rest => digits 1 rest
  | 'e' :: rest | 'E' :: rest => digits 1 rest
  | _ => some (0, cs)

end Numeral

namespace Binary

/-- The word nearest to the number with the given digits before and behind its point. -/
def ofParts (w : Width) (negative : Bool) (whole fraction : List Char) (exponent : Int) : Binary w :=
  ofDecimal w negative (Nat.ofDigitChars 10 (whole ++ fraction) 0) (exponent - fraction.length)

/-- A number without its sign, whose point may have digits on one side only. -/
def readUnsigned? (w : Width) (negative : Bool) (cs : List Char) : Option (Binary w) := do
  let whole := cs.takeWhile Char.isDigit
  let rest := cs.dropWhile Char.isDigit
  let (fraction, rest) :=
    match rest with
    | '.' :: rest => (rest.takeWhile Char.isDigit, rest.dropWhile Char.isDigit)
    | _ => ([], rest)
  let (exponent, rest) ← Numeral.exponent? rest
  if rest.isEmpty && !(whole ++ fraction).isEmpty then
    return ofParts w negative whole fraction exponent
  else none

/-- The word nearest to the number that a text writes. Infinity and what is no number have names. -/
def read? (w : Width) (text : String) : Option (Binary w) :=
  let read (negative : Bool) (cs : List Char) : Option (Binary w) :=
    match Text.lowered (String.ofList cs) with
    | "nan" => some (ofSign w negative (nan w).bits.toNat)
    | "inf" | "infinity" => some (infinity w negative)
    | _ => readUnsigned? w negative cs
  match text.toList with
  | '-' :: cs => read true cs
  | '+' :: cs => read false cs
  | cs => read false cs

end Binary

end StructuredMessage
