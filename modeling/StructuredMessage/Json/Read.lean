import StructuredMessage.Json.Basic
import StructuredMessage.Number.Reading

namespace StructuredMessage

/-! Lists of pairs in the order of their keys, no two of them with the same key. -/

namespace Ordered

variable {κ α : Type} [DecidableEq κ] [LT κ] [DecidableLT κ]

/-- The pairs with one more at the place of its key. The value under a key that is there already is
replaced. -/
def insert (key : κ) (value : α) : List (κ × α) → List (κ × α)
  | [] => [(key, value)]
  | (k, v) :: rest =>
    if key = k then (k, value) :: rest
    else if key < k then (key, value) :: (k, v) :: rest
    else (k, v) :: insert key value rest

/-- The pairs in the order of their keys, the last of those with the same key. -/
def ofList (pairs : List (κ × α)) : List (κ × α) :=
  pairs.foldl (fun sorted pair => insert pair.1 pair.2 sorted) []

end Ordered

namespace Json

def isBlank (c : Char) : Bool :=
  c == ' ' || c == '\n' || c == '\t' || c == '\r'

def skipBlanks (cs : List Char) : List Char :=
  cs.dropWhile isBlank

def hexDigit? (c : Char) : Option Nat :=
  if c.isDigit then some (c.toNat - 48)
  else if 'a' ≤ c ∧ c ≤ 'f' then some (c.toNat - 87)
  else if 'A' ≤ c ∧ c ≤ 'F' then some (c.toNat - 55)
  else none

/-- Four hexadecimal digits and the text behind them. -/
def hexUnit? : List Char → Option (Nat × List Char)
  | a :: b :: c :: d :: rest => do
    let a ← hexDigit? a
    let b ← hexDigit? b
    let c ← hexDigit? c
    let d ← hexDigit? d
    return (((a * 16 + b) * 16 + c) * 16 + d, rest)
  | _ => none

/-- The character that an escape after `\u` spells, in one unit or in two that belong together. -/
def unicode? (cs : List Char) : Option (Char × List Char) :=
  match hexUnit? cs with
  | none => none
  | some (unit, rest) =>
    if 0xDC00 ≤ unit ∧ unit ≤ 0xDFFF then none
    else if 0xD800 ≤ unit ∧ unit ≤ 0xDBFF then
      match rest with
      | '\\' :: 'u' :: rest =>
        match hexUnit? rest with
        | some (low, rest) =>
          if 0xDC00 ≤ low ∧ low ≤ 0xDFFF then
            some (Char.ofNat (0x10000 + (unit - 0xD800) * 0x400 + (low - 0xDC00)), rest)
          else none
        | none => none
      | _ => none
    else some (Char.ofNat unit, rest)

/-- The rest of a string whose opening quote has been read, and the text behind its closing quote. Every
step consumes a character. -/
def stringBody? : Nat → List Char → Option (List Char × List Char)
  | 0, _ | _, [] => none
  | _ + 1, '"' :: rest => some ([], rest)
  | steps + 1, '\\' :: mark :: rest =>
    let add (c : Char) (rest : List Char) :=
      (stringBody? steps rest).map fun (text, rest) => (c :: text, rest)
    match mark with
    | '"' => add '"' rest
    | '\\' => add '\\' rest
    | '/' => add '/' rest
    | 'b' => add '\x08' rest
    | 'f' => add '\x0c' rest
    | 'n' => add '\n' rest
    | 'r' => add '\r' rest
    | 't' => add '\t' rest
    | 'u' =>
      match unicode? rest with
      | some (c, rest) => add c rest
      | none => none
    | _ => none
  | steps + 1, c :: rest =>
    if c = '\\' ∨ c.toNat < 32 then none
    else (stringBody? steps rest).map fun (text, rest) => (c :: text, rest)

/-- The digits behind a point, none if there is no point. -/
def fraction? (cs : List Char) : Option (List Char × List Char) :=
  match cs with
  | '.' :: rest =>
    let digits := rest.takeWhile Char.isDigit
    if digits.isEmpty then none else some (digits, rest.dropWhile Char.isDigit)
  | _ => some ([], cs)

/-- A number without its sign. Whole numbers stay integers while they fit 64 bits, signed below zero and
unsigned above; a negative zero and everything else is a double. -/
def number? (negative : Bool) (cs : List Char) : Option (Json × List Char) := do
  let whole := cs.takeWhile Char.isDigit
  let rest := cs.dropWhile Char.isDigit
  if whole.isEmpty || (whole.head? == some '0' && whole.length > 1) then none
  let (fraction, afterFraction) ← fraction? rest
  let (exponent, afterExponent) ← Numeral.exponent? afterFraction
  let n := Nat.ofDigitChars 10 whole 0
  if rest.length = afterExponent.length ∧ (if negative then 0 < n ∧ n ≤ twoPow 63 else n < twoPow 64) then
    return (integer (if negative then -n else n), rest)
  let x := Binary.ofParts .double negative whole fraction exponent
  match x.magnitude with
  | .finite _ _ => return (double x, afterExponent)
  | _ => none

mutual

/-- A value and the text behind it, nested less than `depth` levels deep. Every step consumes a
character. -/
def value? : Nat → Nat → List Char → Option (Json × List Char)
  | 0, _, _ => none
  | steps + 1, depth, cs =>
    match skipBlanks cs with
    | 'n' :: 'u' :: 'l' :: 'l' :: rest => some (null, rest)
    | 't' :: 'r' :: 'u' :: 'e' :: rest => some (bool true, rest)
    | 'f' :: 'a' :: 'l' :: 's' :: 'e' :: rest => some (bool false, rest)
    | '"' :: rest =>
      (stringBody? (rest.length + 1) rest).map fun (text, rest) => (string (String.ofList text), rest)
    | '-' :: rest => number? true rest
    | '[' :: rest =>
      if depth ≤ 1 then none
      else
        match skipBlanks rest with
        | ']' :: rest => some (array [], rest)
        | rest => (items? steps (depth - 1) rest).map fun (items, rest) => (array items, rest)
    | '\x7b' :: rest =>
      if depth ≤ 1 then none
      else
        match skipBlanks rest with
        | '\x7d' :: rest => some (object [], rest)
        | rest => (members? steps (depth - 1) [] rest).map fun (members, rest) =>
            (object members, rest)
    | rest => number? false rest

/-- The items of an array up to its closing bracket. -/
def items? : Nat → Nat → List Char → Option (List Json × List Char)
  | 0, _, _ => none
  | steps + 1, depth, cs =>
    match value? steps depth cs with
    | none => none
    | some (item, rest) =>
      match skipBlanks rest with
      | ',' :: rest => (items? steps depth rest).map fun (items, rest) => (item :: items, rest)
      | ']' :: rest => some ([item], rest)
      | _ => none

/-- The members of an object up to its closing bracket, added to those already read. -/
def members? : Nat → Nat → List (String × Json) → List Char →
    Option (List (String × Json) × List Char)
  | 0, _, _, _ => none
  | steps + 1, depth, members, cs =>
    match skipBlanks cs with
    | '"' :: rest =>
      match stringBody? (rest.length + 1) rest with
      | none => none
      | some (name, rest) =>
        match skipBlanks rest with
        | ':' :: rest =>
          match value? steps depth rest with
          | none => none
          | some (value, rest) =>
            let members := Ordered.insert (String.ofList name) value members
            match skipBlanks rest with
            | ',' :: rest => members? steps depth members rest
            | '\x7d' :: rest => some (members, rest)
            | _ => none
        | _ => none
    | _ => none

end

/-- The document that a whole text holds. Arrays and objects may be nested 127 deep; members are sorted by
name and the last of equal names is kept. -/
def read? (text : String) : Option Json :=
  match value? (2 * text.length + 2) 128 text.toList with
  | some (value, rest) => if (skipBlanks rest).isEmpty then some value else none
  | none => none

end Json

end StructuredMessage
