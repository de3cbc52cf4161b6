import Mathlib.Data.List.Chain
import StructuredMessage.Proofs.Template.Reading
import StructuredMessage.Proofs.Text.Numeral

namespace StructuredMessage

/-- The width as it is written, a hyphen in front for the left side. -/
def Alignment.written (a : Alignment) : List Char :=
  match a.side with
  | .left => '-' :: Numeral.digits a.width
  | .right => Numeral.digits a.width

theorem hyphen_ne_digits (n : Nat) (rest : List Char) : Numeral.digits n ≠ '-' :: rest := by
  intro h
  have hd : '-'.isDigit := Numeral.isDigit_of_mem_digits (show '-' ∈ Numeral.digits n by rw [h]; simp)
  exact absurd hd (by decide)

theorem alignment?_written {a : Alignment} (hpos : 0 < a.width) (hle : a.width ≤ largestIndex) :
    Placeholder.alignment? a.written = some a := by
  obtain ⟨side, width⟩ := a
  have hwidth : (Numeral.read? (Numeral.digits width)).filter
      (fun n => 0 < n && n ≤ largestIndex) = some width := by
    simp [Numeral.read?_digits, Option.filter_some, hpos, hle]
  cases side with
  | left => simp only [Alignment.written, Placeholder.alignment?, hwidth, Option.map_some]
  | right =>
    unfold Placeholder.alignment? Alignment.written
    split
    next digits he => exact absurd he (hyphen_ne_digits width digits)
    next => simp only [hwidth, Option.map_some]

namespace Template

/-- A placeholder to be written. -/
structure Hole where
  mode : Mode
  name : List Char
  alignment : Option Alignment
  format : Option (List Char)
  name_ne_nil : name ≠ []
  name_chars : ∀ c ∈ name, Text.isAlphanumeric c ∨ c = '_'
  width_pos : ∀ a ∈ alignment, 0 < a.width
  width_le : ∀ a ∈ alignment, a.width ≤ largestIndex
  format_ne_nil : ∀ f ∈ format, f ≠ []
  format_chars : ∀ f ∈ format, ∀ c ∈ f, Placeholder.isFormatChar c

namespace Hole

/-- The text between the braces. -/
def content (h : Hole) : List Char :=
  Placeholder.form h.mode h.name (h.alignment.map Alignment.written) h.format

def written (h : Hole) : List Char :=
  '\x7b' :: h.content ++ ['\x7d']

/-- The placeholder that is meant when the hole is written at the byte `start`. -/
def placeholder (h : Hole) (start : Nat) : Placeholder where
  name := String.ofList h.name
  source := String.ofList h.written
  format := h.format.map String.ofList
  alignment := h.alignment
  mode := h.mode
  start := start

theorem isNameChar_of_mem (h : Hole) : ∀ c ∈ h.name, Placeholder.isNameChar c := by
  intro c hc
  rcases h.name_chars c hc with ha | rfl
  · simp [Placeholder.isNameChar, ha]
  · decide +kernel

theorem alignment?_of_mem (h : Hole) {a : Alignment} (ha : a ∈ h.alignment) :
    Placeholder.alignment? a.written = some a :=
  alignment?_written (h.width_pos a ha) (h.width_le a ha)

theorem alignment_read (h : Hole) :
    (h.alignment.map Alignment.written).bind Placeholder.alignment? = h.alignment := by
  cases ha : h.alignment with
  | none => rfl
  | some a => exact h.alignment?_of_mem ha

theorem format_kept (h : Hole) : h.format.filter (!·.isEmpty) = h.format := by
  cases hf : h.format with
  | none => rfl
  | some f => simp [Option.filter_some, h.format_ne_nil f hf]

theorem content_head (h : Hole) (rest : List Char) : (h.content ++ rest).head? ≠ some '\x7b' :=
  Placeholder.form_head h.name_ne_nil h.isNameChar_of_mem rest

theorem readTag_content (h : Hole) (start : Nat) (rest : List Char) :
    readTag start (h.content ++ '\x7d' :: rest) = (.placeholder (h.placeholder start), rest) := by
  have halign : ∀ ds ∈ h.alignment.map Alignment.written, (Placeholder.alignment? ds).isSome := by
    intro ds hds
    obtain ⟨a, ha, rfl⟩ := Option.map_eq_some_iff.mp hds
    rw [h.alignment?_of_mem ha]
    rfl
  have hread := readTag_form start h.mode h.name_ne_nil h.isNameChar_of_mem halign
    h.format_chars rest
  rw [h.alignment_read, h.format_kept] at hread
  exact hread

end Hole

/-- Braces doubled, everything else as it is. -/
def escaped (text : List Char) : List Char :=
  text.flatMap fun c => if c = '\x7b' ∨ c = '\x7d' then [c, c] else [c]

/-- A part of a template to be written: literal text, which is not empty, or a placeholder. -/
inductive Part
  | literal (text : List Char) (ne_nil : text ≠ [])
  | hole (h : Hole)

namespace Part

def written : Part → List Char
  | literal text _ => escaped text
  | hole h => h.written

/-- The token that is meant when the part is written at the byte `start`. -/
def token (start : Nat) : Part → Token
  | literal text _ => .text (String.ofList text) start
  | hole h => .placeholder (h.placeholder start)

def isLiteral : Part → Bool
  | literal _ _ => true
  | hole _ => false

/-- The tokens of parts that are written one after the other, the first one at the byte `start`. -/
def tokens (start : Nat) : List Part → List Token
  | [] => []
  | part :: rest => part.token start :: tokens (start + Text.byteLength part.written) rest

end Part

/-- The end of the text, or a brace that is not doubled. -/
def LiteralEnds (rest : List Char) : Prop :=
  rest = [] ∨ ∃ tail, rest = '\x7b' :: tail ∧ tail.head? ≠ some '\x7b'

theorem literalRun_of_ends {rest : List Char} (h : LiteralEnds rest) : literalRun rest = ([], rest) := by
  rcases h with rfl | ⟨tail, rfl, hh⟩
  · rfl
  · cases tail with
    | nil => rfl
    | cons c tail =>
      rw [literalRun]
      intro tail' he
      exact hh (congrArg some (List.cons.inj he).1)

theorem literalRun_escaped (text : List Char) {rest : List Char} (h : LiteralEnds rest) :
    literalRun (escaped text ++ rest) = (text, rest) := by
  induction text with
  | nil => exact literalRun_of_ends h
  | cons c text ih =>
    have hsplit : escaped (c :: text) ++ rest =
        (if c = '\x7b' ∨ c = '\x7d' then [c, c] else [c]) ++ (escaped text ++ rest) := by
      simp [escaped]
    rw [hsplit]
    by_cases ho : c = '\x7b'
    · subst ho
      simp [literalRun, ih]
    · by_cases hc : c = '\x7d'
      · subst hc
        simp [literalRun, ih]
      · simp [literalRun, ho, hc, ih]

/-- Written text never begins with a brace that is not doubled. -/
theorem escaped_head {text : List Char} (hne : text ≠ []) (rest tail : List Char)
    (h : escaped text ++ rest = '\x7b' :: tail) : tail.head? = some '\x7b' := by
  obtain ⟨c, text, rfl⟩ := List.exists_cons_of_ne_nil hne
  by_cases ho : c = '\x7b'
  · subst ho
    simp only [escaped, List.flatMap_cons, true_or, if_true, List.cons_append, List.cons.injEq,
      true_and] at h
    rw [← h]
    rfl
  · by_cases hc : c = '\x7d' <;> simp [escaped, ho, hc] at h

theorem escaped_ne_nil {text : List Char} (hne : text ≠ []) : escaped text ≠ [] := by
  obtain ⟨c, text, rfl⟩ := List.exists_cons_of_ne_nil hne
  by_cases h : c = '\x7b' ∨ c = '\x7d' <;> simp [escaped, h]

namespace Part

theorem written_ne_nil (part : Part) : part.written ≠ [] := by
  cases part with
  | literal text hne => exact escaped_ne_nil hne
  | hole h => simp [written, Hole.written]

theorem literalEnds_hole (h : Hole) (rest : List Char) : LiteralEnds (h.written ++ rest) :=
  Or.inr ⟨h.content ++ '\x7d' :: rest, by simp [Hole.written], h.content_head _⟩

/-- A part reads as its token and leaves what is written behind it. Literal text must not be followed by
more of its kind. -/
theorem readToken_written (part : Part) (start : Nat) {rest : List Char}
    (hl : part.isLiteral → LiteralEnds rest) :
    readToken start (part.written ++ rest) = (part.token start, rest) := by
  cases part with
  | literal text hne =>
    rw [written, readToken_literal start (escaped_head hne rest), readLiteral,
      literalRun_escaped text (hl rfl)]
    rfl
  | hole h =>
    have hopen : (h.written ++ rest) = '\x7b' :: (h.content ++ '\x7d' :: rest) := by
      simp [Hole.written]
    rw [written, hopen, readToken_tag start (h.content_head _), h.readTag_content start rest]
    rfl

theorem tokensFrom_written (start : Nat) {parts : List Part}
    (h : parts.IsChain fun p q => ¬(p.isLiteral ∧ q.isLiteral)) :
    tokensFrom start (parts.flatMap written) = tokens start parts := by
  induction parts generalizing start with
  | nil => simp [tokensFrom, tokens]
  | cons part parts ih =>
    have hends : part.isLiteral → LiteralEnds (parts.flatMap written) := by
      intro hp
      cases parts with
      | nil => exact Or.inl rfl
      | cons next parts =>
        have hnext := (List.isChain_cons_cons.mp h).1
        cases next with
        | literal text hne => exact absurd ⟨hp, rfl⟩ hnext
        | hole hole => exact literalEnds_hole hole _
    rw [List.flatMap_cons, tokensFrom_of_readToken part.written_ne_nil
      (part.readToken_written start hends), ih _ h.tail, tokens]

end Part

/-- Reading a template undoes writing one: each part is read as its token, at the byte where the part
was written. -/
theorem parse_written {parts : List Part} (hne : parts ≠ [])
    (h : parts.IsChain fun p q => ¬(p.isLiteral ∧ q.isLiteral)) :
    (parse (String.ofList (parts.flatMap Part.written))).tokens = Part.tokens 0 parts := by
  obtain ⟨part, rest, rfl⟩ := List.exists_cons_of_ne_nil hne
  have htext : String.ofList ((part :: rest).flatMap Part.written) ≠ "" := by
    intro he
    have := congrArg String.toList he
    simp [part.written_ne_nil] at this
  simp only [parse, String.isEmpty_iff, if_neg htext, String.toList_ofList]
  exact Part.tokensFrom_written 0 h

/-- A hole with all its parts, its format full of marks. -/
def Hole.crowded : Hole where
  mode := .destructure
  name := "Größe_1".toList
  alignment := some ⟨.left, 12⟩
  format := some ",0:\x7b".toList
  name_ne_nil := by decide
  name_chars := by
    have hall : "Größe_1".toList.all fun c => Text.isAlphanumeric c ∨ c = '_' := by decide +kernel
    simpa only [List.all_eq_true, decide_eq_true_eq] using hall
  width_pos := by rintro a ⟨⟩; decide
  width_le := by rintro a ⟨⟩; decide
  format_ne_nil := by rintro f ⟨⟩; decide
  format_chars := by rintro f ⟨⟩; rw [← List.all_eq_true]; decide +kernel

theorem parse_written_crowded :
    let parts : List Part := [.literal "é\x7b".toList (by decide), .hole .crowded, .hole .crowded,
      .literal "\x7d".toList (by decide)]
    parts ≠ [] ∧ (parts.IsChain fun p q => ¬(p.isLiteral ∧ q.isLiteral)) ∧
      String.ofList (parts.flatMap Part.written) =
        "é\x7b\x7b\x7b@Größe_1,-12:,0:\x7b\x7d\x7b@Größe_1,-12:,0:\x7b\x7d\x7d\x7d" ∧
      (parse (String.ofList (parts.flatMap Part.written))).tokens =
        [.text "é\x7b" 0, .placeholder (Hole.crowded.placeholder 4),
          .placeholder (Hole.crowded.placeholder 25), .text "\x7d" 46] := by
  intro parts
  have hne : parts ≠ [] := List.cons_ne_nil _ _
  have hchain : parts.IsChain fun p q => ¬(p.isLiteral ∧ q.isLiteral) := by
    simp [parts, Part.isLiteral]
  exact ⟨hne, hchain, by decide +kernel, (parse_written hne hchain).trans (by decide +kernel)⟩

end Template

end StructuredMessage
