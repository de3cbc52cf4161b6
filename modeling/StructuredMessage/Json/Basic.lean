import StructuredMessage.Number.Standard

namespace StructuredMessage

/-- A JSON document. Members keep their order and may repeat a name. -/
inductive Json
  | null
  | bool (value : Bool)
  | integer (value : Int)
  | single (value : Binary .single)
  | double (value : Binary .double)
  | string (text : String)
  | array (items : List Json)
  | object (members : List (String × Json))

namespace Json

/-- One character inside quotes. Control characters without a short form are spelled in four digits. -/
def escaped (c : Char) : List Char :=
  match c with
  | '"' => ['\\', '"']
  | '\\' => ['\\', '\\']
  | '\x08' => ['\\', 'b']
  | '\x0c' => ['\\', 'f']
  | '\n' => ['\\', 'n']
  | '\r' => ['\\', 'r']
  | '\t' => ['\\', 't']
  | c =>
    if c.toNat < 32 then ['\\', 'u'] ++ (Numeral.hex false c.toNat).leftpad 4 '0' else [c]

def quoted (text : String) : String :=
  String.ofList ('"' :: text.toList.flatMap escaped ++ ['"'])

/-- The exponents of the first digit that are written in positional notation. -/
def positional (w : Width) (leading : Int) : Bool :=
  match w with
  | .single => -6 ≤ leading && leading ≤ 12
  | .double => -5 ≤ leading && leading ≤ 15

/-- The fewest digits that read back as the value, with a point or an exponent so that it reads as a
fraction. Values without digits are null. -/
def floatText {w : Width} (x : Binary w) : String :=
  match x.magnitude with
  | .finite m e =>
    let short := shortest w .toEven m e
    let digits := Numeral.digits short.digits
    let leading := short.exponent + (digits.length - 1 : Nat)
    let sign := if x.isNegative then "-" else ""
    if m = 0 then sign ++ "0.0"
    else if positional w leading then
      let d := Digits.ofDecimalPoint false short
      let fraction := if d.fraction.isEmpty then ['0'] else d.fraction
      sign ++ String.ofList (d.whole ++ '.' :: fraction)
    else
      let mantissa :=
        match digits with
        | first :: second :: rest => first :: '.' :: second :: rest
        | short => short
      sign ++ String.ofList mantissa ++ "e" ++ (if leading < 0 then "-" else "+") ++
        Numeral.text leading.natAbs
  | _ => "null"

mutual

/-- The document on one line, without blanks. -/
def compact : Json → String
  | null => "null"
  | bool true => "true"
  | bool false => "false"
  | integer n => Numeral.signedText n
  | single x => floatText x
  | double x => floatText x
  | string text => quoted text
  | array items => "[" ++ ",".intercalate (compactItems items) ++ "]"
  | object members => "\x7b" ++ ",".intercalate (compactMembers members) ++ "\x7d"

def compactItems : List Json → List String
  | [] => []
  | item :: rest => compact item :: compactItems rest

def compactMembers : List (String × Json) → List String
  | [] => []
  | (name, value) :: rest => (quoted name ++ ":" ++ compact value) :: compactMembers rest

end

/-- The parts on lines of their own between two brackets, or the brackets alone if there are none. -/
def block (depth : Nat) (opening closing : String) (parts : List String) : String :=
  let margin (n : Nat) := String.ofList ('\n' :: List.replicate (2 * n) ' ')
  if parts.isEmpty then opening ++ closing
  else
    opening ++ margin (depth + 1) ++ ("," ++ margin (depth + 1)).intercalate parts ++
      margin depth ++ closing

mutual

/-- The document with every item on a line of its own, two blanks deeper than its bracket. -/
def prettyAt (depth : Nat) : Json → String
  | array items => block depth "[" "]" (prettyItems (depth + 1) items)
  | object members => block depth "\x7b" "\x7d" (prettyMembers (depth + 1) members)
  | leaf => compact leaf

def prettyItems (depth : Nat) : List Json → List String
  | [] => []
  | item :: rest => prettyAt depth item :: prettyItems depth rest

def prettyMembers (depth : Nat) : List (String × Json) → List String
  | [] => []
  | (name, value) :: rest =>
    (quoted name ++ ": " ++ prettyAt depth value) :: prettyMembers depth rest

end

def pretty (j : Json) : String :=
  prettyAt 0 j

end Json

end StructuredMessage
