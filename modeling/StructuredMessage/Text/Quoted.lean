import StructuredMessage.Text.Character
import StructuredMessage.Text.Numeral
import StructuredMessage.Text.Unprintable
import StructuredMessage.Text.Extending

namespace StructuredMessage.Text

/-- The half-width voiced and semi-voiced sound marks. Unicode counts them with the characters that extend
the one before, for the sake of the full-width marks they stand for, yet they are letters with a cell of
their own and read well wherever they are. -/
def isHalfWidthSoundMark (c : Char) : Bool :=
  c == '\uff9e' || c == '\uff9f'

/-- Whether `c` is drawn on the character before it, so that first between quotes it would sit on the
quote. -/
def isJoining (c : Char) : Bool :=
  inRanges extendingRanges c && !isHalfWidthSoundMark c

/-- Whether `c` has the Unicode property Default_Ignorable_Code_Point: it is drawn as nothing at all where a
font does not know better. Most such characters are format characters or extend the one before; the Hangul
fillers are letters. -/
def isIgnorable (c : Char) : Bool :=
  inRanges
    [(0xAD, 0xAD), (0x34F, 0x34F), (0x61C, 0x61C), (0x115F, 0x1160), (0x17B4, 0x17B5), (0x180B, 0x180F),
     (0x200B, 0x200F), (0x202A, 0x202E), (0x2060, 0x206F), (0x3164, 0x3164), (0xFE00, 0xFE0F),
     (0xFEFF, 0xFEFF), (0xFFA0, 0xFFA0), (0xFFF0, 0xFFF8), (0x1BCA0, 0x1BCA3), (0x1D173, 0x1D17A),
     (0xE0000, 0xE0FFF)] c

/-- Whether `c` would be lost or misread between quotes: it leaves no mark, or it joins the character
before it. The plain space is kept. -/
def isHidden (c : Char) : Bool :=
  c != ' ' && (isJoining c || isIgnorable c || inRanges unprintableRanges c)

/-- One character of a quoted text, so written that every line shows exactly what it holds. -/
def escaped (c : Char) : List Char :=
  match c with
  | '\x00' => ['\\', '0']
  | '\t' => ['\\', 't']
  | '\r' => ['\\', 'r']
  | '\n' => ['\\', 'n']
  | '\\' => ['\\', '\\']
  | '"' => ['\\', '"']
  | c =>
    if isHidden c then ['\\', 'u', '\x7b'] ++ Numeral.hex false c.toNat ++ ['\x7d'] else [c]

/-- `text` between double quotes, with its unprintable characters spelled out. -/
def quoted (text : String) : String :=
  String.ofList ('"' :: text.toList.flatMap escaped ++ ['"'])

end StructuredMessage.Text
