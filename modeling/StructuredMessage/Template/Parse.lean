import StructuredMessage.Template.Basic
import StructuredMessage.Text.Character

namespace StructuredMessage

/-!
Reading a template. Every text is a template: what does not have the form of a placeholder,
an opening brace, `@` or `$` or neither, a name, a comma and a width, a colon and a format, and a closing
brace, is kept as text.
-/

namespace Placeholder

/-- Unicode punctuation as opposed to symbols. -/
def isPunctuation (c : Char) : Bool :=
  if c.toNat < 128 then
    "!\"#%&'()*,-./:;?@[\\]_\x7b\x7d".toList.contains c
  else
    Text.inRanges
      [(0xA1, 0xA1), (0xA7, 0xA7), (0xAB, 0xAB), (0xB6, 0xB7), (0xBB, 0xBB), (0xBF, 0xBF),
       (0x2010, 0x2027), (0x2030, 0x205E), (0x3001, 0x3003)] c

def isNameChar (c : Char) : Bool :=
  Text.isAlphanumeric c || c == '_'

def isFormatChar (c : Char) : Bool :=
  c != '\x7d' && (Text.isAlphanumeric c || isPunctuation c || c == ' ')

/-- A character that may stand between the braces of a placeholder. -/
def isTagChar (c : Char) : Bool :=
  c == '@' || c == '$' || isNameChar c || isFormatChar c || c == ':'

/-- The text before the first `mark`, and the text behind it if there is one. -/
def cutAt (mark : Char) (cs : List Char) : List Char × Option (List Char) :=
  match cs.dropWhile (· ≠ mark) with
  | [] => (cs, none)
  | _ :: after => (cs.takeWhile (· ≠ mark), some after)

/-- A width from 1 on, with a hyphen in front for the left side. -/
def alignment? (cs : List Char) : Option Alignment :=
  let width? (digits : List Char) : Option Nat :=
    (Numeral.read? digits).filter fun n => 0 < n && n ≤ largestIndex
  match cs with
  | '-' :: digits => (width? digits).map (⟨.left, ·⟩)
  | digits => (width? digits).map (⟨.right, ·⟩)

/-- The mode and the name that `cs` begins with. -/
def hinted (cs : List Char) : Mode × List Char :=
  match cs with
  | [] => (.plain, [])
  | c :: rest =>
    match Mode.ofHint? c with
    | some mode => (mode, rest)
    | none => (.plain, cs)

/-- The placeholder with the given text between its braces, if it has the right form. The format begins
behind the first colon and the alignment behind the first comma before it; an empty format is none. -/
def ofContent? (start : Nat) (content : List Char) : Option Placeholder :=
  let (head, format) := cutAt ':' content
  let (hint, alignment) := cutAt ',' head
  let (mode, name) := hinted hint
  let format := format.filter (!·.isEmpty)
  if name.isEmpty || !name.all isNameChar || !(format.getD []).all isFormatChar then none
  else
    let make (alignment : Option Alignment) : Placeholder :=
      { name := String.ofList name
        source := String.ofList ('\x7b' :: content ++ ['\x7d'])
        format := format.map String.ofList
        alignment
        mode
        start }
    match alignment with
    | none => some (make none)
    | some digits => (alignment? digits).map fun a => make (some a)

end Placeholder

namespace Template

/-- A run of literal text up to a brace that stands alone, with doubled braces made single, and what comes
behind it. -/
def literalRun : List Char → List Char × List Char
  | [] => ([], [])
  | '\x7b' :: '\x7b' :: rest =>
    let (text, rest) := literalRun rest
    ('\x7b' :: text, rest)
  | '\x7b' :: rest => ([], '\x7b' :: rest)
  | '\x7d' :: '\x7d' :: rest =>
    let (text, rest) := literalRun rest
    ('\x7d' :: text, rest)
  | c :: rest =>
    let (text, rest) := literalRun rest
    (c :: text, rest)

/-- The token that begins with the opening brace before `cs`, and what comes behind it. Without the form
of a placeholder it is the text up to the first character that no placeholder can have. -/
def readTag (start : Nat) (cs : List Char) : Token × List Char :=
  let run := cs.takeWhile Placeholder.isTagChar
  match cs.dropWhile Placeholder.isTagChar with
  | '\x7d' :: rest =>
    match Placeholder.ofContent? start run with
    | some p => (.placeholder p, rest)
    | none => (.text (String.ofList ('\x7b' :: run ++ ['\x7d'])) start, rest)
  | rest => (.text (String.ofList ('\x7b' :: run)) start, rest)

/-- The literal token that a text begins with, and what comes behind it. -/
def readLiteral (start : Nat) (cs : List Char) : Token × List Char :=
  (.text (String.ofList (literalRun cs).1) start, (literalRun cs).2)

/-- The first token of a text, and what comes behind it. -/
def readToken (start : Nat) (cs : List Char) : Token × List Char :=
  match cs with
  | '\x7b' :: '\x7b' :: rest => readLiteral start ('\x7b' :: '\x7b' :: rest)
  | '\x7b' :: rest => readTag start rest
  | cs => readLiteral start cs

theorem literalRun_length_le (cs : List Char) : (literalRun cs).2.length ≤ cs.length := by
  fun_induction literalRun cs <;> simp_all <;> omega

theorem readTag_length_le (start : Nat) (cs : List Char) :
    (readTag start cs).2.length ≤ cs.length := by
  have h := (cs.dropWhile_sublist Placeholder.isTagChar).length_le
  unfold readTag
  simp only
  split
  · next rest hr =>
    rw [hr] at h
    split <;> simp at h ⊢ <;> omega
  · exact h

theorem readToken_length_lt (start : Nat) (c : Char) (cs : List Char) :
    (readToken start (c :: cs)).2.length < (c :: cs).length := by
  unfold readToken
  split
  · next rest hr =>
    have := literalRun_length_le rest
    rw [hr]
    simp [readLiteral, literalRun]
    omega
  · next rest _ hr =>
    have := readTag_length_le start rest
    rw [hr]
    simp
    omega
  · next h₁ h₂ =>
    unfold readLiteral literalRun
    split
    · simp_all
    · simp_all
    · simp_all
    · next rest hr =>
      have := literalRun_length_le rest
      rw [hr]
      simp
      omega
    · next d rest _ _ _ hr =>
      have := literalRun_length_le rest
      rw [hr]
      simp
      omega

/-- The tokens of a text that begins at the byte `start`. -/
def tokensFrom (start : Nat) (cs : List Char) : List Token :=
  match cs with
  | [] => []
  | c :: cs =>
    let next := readToken start (c :: cs)
    next.1 ::
      tokensFrom (start + (Text.byteLength (c :: cs) - Text.byteLength next.2)) next.2
  termination_by cs.length
  decreasing_by exact readToken_length_lt start c cs

/-- The template of a text. The empty text is one empty token. -/
def parse (text : String) : Template where
  text := text
  tokens := if text.isEmpty then [.text "" 0] else tokensFrom 0 text.toList

end Template

end StructuredMessage
