import StructuredMessage.Proofs.Template.Reading
import StructuredMessage.Proofs.Text.Numeral

namespace StructuredMessage

/-- A width as it may be written: a number from 1 on, with a hyphen in front for the left side. Zeros may lead. -/
structure Alignment.Spelling where
  side : Side
  digits : List Char
  isDigit_of_mem : ∀ c ∈ digits, c.isDigit
  pos : 0 < Nat.ofDigitChars 10 digits 0
  le_largest : Nat.ofDigitChars 10 digits 0 ≤ largestIndex

namespace Alignment.Spelling

def chars (w : Spelling) : List Char :=
  match w.side with
  | .left => '-' :: w.digits
  | .right => w.digits

def alignment (w : Spelling) : Alignment :=
  ⟨w.side, Nat.ofDigitChars 10 w.digits 0⟩

end Alignment.Spelling

namespace Placeholder

theorem width?_eq_some_iff {digits : List Char} {n : Nat} :
    ((Numeral.read? digits).filter fun n => 0 < n && n ≤ largestIndex) = some n ↔
      (∀ c ∈ digits, c.isDigit) ∧ Nat.ofDigitChars 10 digits 0 = n ∧ 0 < n ∧ n ≤ largestIndex := by
  rw [Option.filter_eq_some_iff, Numeral.read?_eq_some_iff]
  simp only [Bool.and_eq_true, decide_eq_true_eq]
  constructor
  · rintro ⟨⟨-, hdigits, hn⟩, hpos, hle⟩
    exact ⟨hdigits, hn, hpos, hle⟩
  · rintro ⟨hdigits, hn, hpos, hle⟩
    have hne : digits ≠ [] := by
      rintro rfl
      rw [← hn] at hpos
      exact absurd hpos (Nat.lt_irrefl 0)
    exact ⟨⟨hne, hdigits, hn⟩, hpos, hle⟩

/-- An alignment is read iff it is one that may be written. -/
theorem alignment?_eq_some_iff {cs : List Char} {a : Alignment} :
    alignment? cs = some a ↔ ∃ w : Alignment.Spelling, cs = w.chars ∧ a = w.alignment := by
  constructor
  · intro h
    unfold alignment? at h
    split at h
    next digits =>
      obtain ⟨n, hn, rfl⟩ := Option.map_eq_some_iff.mp h
      obtain ⟨hdigits, rfl, hpos, hle⟩ := width?_eq_some_iff.mp hn
      exact ⟨⟨.left, digits, hdigits, hpos, hle⟩, rfl, rfl⟩
    next =>
      obtain ⟨n, hn, rfl⟩ := Option.map_eq_some_iff.mp h
      obtain ⟨hdigits, rfl, hpos, hle⟩ := width?_eq_some_iff.mp hn
      exact ⟨⟨.right, cs, hdigits, hpos, hle⟩, rfl, rfl⟩
  · rintro ⟨⟨side, digits, hdigits, hpos, hle⟩, rfl, rfl⟩
    have hwidth := width?_eq_some_iff.mpr ⟨hdigits, rfl, hpos, hle⟩
    cases side with
    | left => simp only [Alignment.Spelling.chars, alignment?, hwidth, Option.map_some, Alignment.Spelling.alignment]
    | right =>
      unfold alignment? Alignment.Spelling.chars
      split
      next rest he =>
        have hmem : '-' ∈ digits := by
          rw [show digits = '-' :: rest from he]
          exact List.mem_cons_self
        exact absurd (hdigits '-' hmem) (by decide)
      next => simp only [hwidth, Option.map_some, Alignment.Spelling.alignment]

theorem isNameChar_iff {c : Char} : isNameChar c ↔ Text.isAlphanumeric c ∨ c = '_' := by
  simp [isNameChar]

/-- Cutting a text loses nothing but the mark. -/
theorem cutAt_eq (mark : Char) (cs : List Char) : cs = (cutAt mark cs).1 ++ marked mark (cutAt mark cs).2 := by
  have hsplit := List.takeWhile_append_dropWhile (p := fun c => decide (c ≠ mark)) (l := cs)
  unfold cutAt
  split
  next hnone => simp [marked]
  next c after hsome =>
    have hc : c = mark := by
      have hhead := List.head?_dropWhile_not (fun c => decide (c ≠ mark)) cs
      rw [hsome] at hhead
      simpa using hhead
    rw [hsome, hc] at hsplit
    exact hsplit.symm

theorem hint_of_ofHint? {c : Char} {mode : Mode} (h : Mode.ofHint? c = some mode) : mode.hint = [c] := by
  unfold Mode.ofHint? at h
  split at h
  next => cases Option.some.inj h; rfl
  next => cases Option.some.inj h; rfl
  next => simp at h

theorem hinted_eq (cs : List Char) : cs = (hinted cs).1.hint ++ (hinted cs).2 := by
  cases cs with
  | nil => rfl
  | cons c rest =>
    cases hc : Mode.ofHint? c with
    | some mode => simp [hinted, hc, hint_of_ofHint? hc]
    | none => simp [hinted, hc, Mode.hint]

/-- A placeholder as it may be written between braces. Its format may be empty. -/
structure Spelling where
  mode : Mode
  name : List Char
  width : Option Alignment.Spelling
  format : Option (List Char)
  name_ne_nil : name ≠ []
  name_chars : ∀ c ∈ name, Text.isAlphanumeric c ∨ c = '_'
  format_chars : ∀ f ∈ format, ∀ c ∈ f, isFormatChar c

namespace Spelling

def content (w : Spelling) : List Char :=
  form w.mode w.name (w.width.map Alignment.Spelling.chars) w.format

/-- An opening brace, `@` or `$` or neither, the name, a comma with a width, a colon with a format, and a closing
brace; width and format may be missing. -/
def chars (w : Spelling) : List Char :=
  '\x7b' :: w.content ++ ['\x7d']

/-- The placeholder that is meant when it is written at the byte `start`. -/
def placeholder (w : Spelling) (start : Nat) : Placeholder where
  name := String.ofList w.name
  source := String.ofList w.chars
  format := (w.format.filter (!·.isEmpty)).map String.ofList
  alignment := w.width.map Alignment.Spelling.alignment
  mode := w.mode
  start := start

theorem isNameChar_of_mem (w : Spelling) : ∀ c ∈ w.name, isNameChar c := fun c hc =>
  isNameChar_iff.mpr (w.name_chars c hc)

theorem alignment?_chars (w : Alignment.Spelling) : alignment? w.chars = some w.alignment :=
  alignment?_eq_some_iff.mpr ⟨w, rfl, rfl⟩

theorem readTag_content (w : Spelling) (start : Nat) (rest : List Char) :
    Template.readTag start (w.content ++ '\x7d' :: rest) = (.placeholder (w.placeholder start), rest) := by
  have halign : ∀ ds ∈ w.width.map Alignment.Spelling.chars, (alignment? ds).isSome := by
    intro ds hds
    obtain ⟨width, -, rfl⟩ := Option.map_eq_some_iff.mp hds
    rw [alignment?_chars]
    rfl
  have hwidth : (w.width.map Alignment.Spelling.chars).bind alignment? = w.width.map Alignment.Spelling.alignment := by
    cases w.width with
    | none => rfl
    | some width => exact alignment?_chars width
  have hread := Template.readTag_form start w.mode w.name_ne_nil w.isNameChar_of_mem halign w.format_chars rest
  rw [hwidth] at hread
  exact hread

end Spelling

/-- Content that is read as a placeholder is that of one that may be written. -/
theorem exists_spelling {start : Nat} {content : List Char} {p : Placeholder} (h : ofContent? start content = some p) :
    ∃ w : Spelling, content = w.content ∧ p = w.placeholder start := by
  obtain ⟨head, format, hcolon⟩ : ∃ head format, cutAt ':' content = (head, format) := ⟨_, _, rfl⟩
  obtain ⟨hint, digits, hcomma⟩ : ∃ hint digits, cutAt ',' head = (hint, digits) := ⟨_, _, rfl⟩
  obtain ⟨mode, name, hhint⟩ : ∃ mode name, hinted hint = (mode, name) := ⟨_, _, rfl⟩
  have hcontent : content = form mode name digits format := by
    have hwhole := cutAt_eq ':' content
    have hhead := cutAt_eq ',' head
    have hname := hinted_eq hint
    rw [hcolon] at hwhole
    rw [hcomma] at hhead
    rw [hhint] at hname
    rw [form, ← hname, ← hhead, ← hwhole]
  simp only [ofContent?, hcolon, hcomma, hhint] at h
  split at h
  next => simp at h
  next hchecks =>
    simp only [Bool.or_eq_true, not_or, Bool.not_eq_true', Bool.not_eq_false, List.all_eq_true,
      List.isEmpty_iff] at hchecks
    obtain ⟨⟨hne, hnameChars⟩, hkept⟩ := hchecks
    have hname : ∀ c ∈ name, Text.isAlphanumeric c ∨ c = '_' := fun c hc => isNameChar_iff.mp (hnameChars c hc)
    have hformat : ∀ f ∈ format, ∀ c ∈ f, isFormatChar c := by
      intro f hf c hc
      rw [Option.mem_def.mp hf, Option.filter_some, if_pos] at hkept
      · exact hkept c hc
      · simpa using List.ne_nil_of_mem hc
    cases digits with
    | none =>
      refine ⟨⟨mode, name, none, format, hne, hname, hformat⟩, hcontent, ?_⟩
      rw [← Option.some.inj h, hcontent]
      rfl
    | some ds =>
      obtain ⟨a, ha, rfl⟩ := Option.map_eq_some_iff.mp h
      obtain ⟨width, rfl, rfl⟩ := alignment?_eq_some_iff.mp ha
      refine ⟨⟨mode, name, some width, format, hne, hname, hformat⟩, hcontent, ?_⟩
      rw [hcontent]
      rfl

theorem position_eq_some_iff {p : Placeholder} {n : Nat} :
    p.position = some n ↔
      p.name ≠ "" ∧ (∀ c ∈ p.name.toList, c.isDigit) ∧ Nat.ofDigitChars 10 p.name.toList 0 = n ∧ n ≤ largestIndex := by
  rw [position, Option.filter_eq_some_iff, Numeral.read?_eq_some_iff]
  simp only [ne_eq, String.toList_eq_nil_iff, decide_eq_true_eq, and_assoc]

end Placeholder

namespace Template

/-- What is read behind an opening brace is decided by the longest run of characters that may stand between braces
and by what comes behind it. -/
theorem readTag_cases (start : Nat) (cs : List Char) :
    ∃ run behind, cs = run ++ behind ∧ (∀ c ∈ run, Placeholder.isTagChar c) ∧
      (∀ c ∈ behind.head?, ¬Placeholder.isTagChar c) ∧
      ((∃ p rest, behind = '\x7d' :: rest ∧ Placeholder.ofContent? start run = some p ∧
          readTag start cs = (.placeholder p, rest)) ∨
        (∃ rest, behind = '\x7d' :: rest ∧ Placeholder.ofContent? start run = none ∧
          readTag start cs = (.text (String.ofList ('\x7b' :: run ++ ['\x7d'])) start, rest)) ∨
        (behind.head? ≠ some '\x7d' ∧ readTag start cs = (.text (String.ofList ('\x7b' :: run)) start, behind))) := by
  refine ⟨cs.takeWhile Placeholder.isTagChar, cs.dropWhile Placeholder.isTagChar,
    List.takeWhile_append_dropWhile.symm, fun c hc => List.mem_takeWhile_imp hc, fun c hc => ?_, ?_⟩
  · have hhead := List.head?_dropWhile_not Placeholder.isTagChar cs
    rw [Option.mem_def.mp hc] at hhead
    simpa using hhead
  · unfold readTag
    dsimp only
    split
    next rest hrest =>
      cases hp : Placeholder.ofContent? start (cs.takeWhile Placeholder.isTagChar) with
      | some p => exact Or.inl ⟨p, rest, hrest, rfl, rfl⟩
      | none => exact Or.inr (Or.inl ⟨rest, hrest, rfl, rfl⟩)
    next hother =>
      refine Or.inr (Or.inr ⟨fun hclose => ?_, rfl⟩)
      obtain ⟨rest, hrest⟩ := List.head?_eq_some_iff.mp hclose
      exact hother rest hrest

/-- A placeholder is read iff a spelling of it is there, and then all of the spelling is read. -/
theorem readTag_eq_placeholder_iff {start : Nat} {cs rest : List Char} {p : Placeholder} :
    readTag start cs = (.placeholder p, rest) ↔
      ∃ w : Placeholder.Spelling, '\x7b' :: cs = w.chars ++ rest ∧ p = w.placeholder start := by
  constructor
  · intro h
    obtain ⟨run, behind, rfl, -, -, ⟨q, tail, rfl, hq, hread⟩ | ⟨tail, -, -, hread⟩ | ⟨-, hread⟩⟩ := readTag_cases start cs
    · obtain ⟨w, rfl, rfl⟩ := Placeholder.exists_spelling hq
      rw [hread, Prod.mk.injEq, Token.placeholder.injEq] at h
      obtain ⟨rfl, rfl⟩ := h
      exact ⟨w, by simp [Placeholder.Spelling.chars], rfl⟩
    · rw [hread] at h
      simp at h
    · rw [hread] at h
      simp at h
  · rintro ⟨w, hcs, rfl⟩
    have hcontent : cs = w.content ++ '\x7d' :: rest := by simpa [Placeholder.Spelling.chars] using hcs
    rw [hcontent]
    exact w.readTag_content start rest

/-- A text that begins with a placeholder in one of its spellings is read as that placeholder, which takes as much
of the text as the spelling. Its name is an index iff it is made of digits that write a number which is not too
large. Every other text is kept from its opening brace to the first character that may not stand between braces,
a closing brace included if it comes next. -/
theorem readTag_spelling (start : Nat) (cs : List Char) :
    (cs.head? ≠ some '\x7b' → readToken start ('\x7b' :: cs) = readTag start cs) ∧
    (∀ p rest, readTag start cs = (.placeholder p, rest) ↔
      ∃ w : Placeholder.Spelling, '\x7b' :: cs = w.chars ++ rest ∧ p = w.placeholder start) ∧
    (∀ (w : Placeholder.Spelling) (n : Nat), (w.placeholder start).position = some n ↔
      (∀ c ∈ w.name, c.isDigit) ∧ Nat.ofDigitChars 10 w.name 0 = n ∧ n ≤ largestIndex) ∧
    ((¬∃ (w : Placeholder.Spelling) (rest : List Char), '\x7b' :: cs = w.chars ++ rest) →
      ∃ run behind, cs = run ++ behind ∧ (∀ c ∈ run, Placeholder.isTagChar c) ∧
        (∀ c ∈ behind.head?, ¬Placeholder.isTagChar c) ∧
        ((∃ rest, behind = '\x7d' :: rest ∧
            readTag start cs = (.text (String.ofList ('\x7b' :: run ++ ['\x7d'])) start, rest)) ∨
          (behind.head? ≠ some '\x7d' ∧
            readTag start cs = (.text (String.ofList ('\x7b' :: run)) start, behind)))) := by
  refine ⟨readToken_tag start, fun p rest => readTag_eq_placeholder_iff, fun w n => ?_, fun hnone => ?_⟩
  · have hname : w.name ≠ [] := w.name_ne_nil
    simp [Placeholder.position_eq_some_iff, Placeholder.Spelling.placeholder, hname]
  · obtain ⟨run, behind, hcs, hrun, hbehind, ⟨p, rest, -, -, hread⟩ | ⟨rest, hrest, -, hread⟩ | hopen⟩ := readTag_cases start cs
    · obtain ⟨w, hw, -⟩ := readTag_eq_placeholder_iff.mp hread
      exact absurd ⟨w, rest, hw⟩ hnone
    · exact ⟨run, behind, hcs, hrun, hbehind, Or.inl ⟨rest, hrest, hread⟩⟩
    · exact ⟨run, behind, hcs, hrun, hbehind, Or.inr hopen⟩

/-- Zeros lead in the index and in the width, and the colon has no format behind it. -/
theorem readTag_spelling_zeros :
    ∃ p, readTag 3 "@007,-012:\x7d!".toList = (.placeholder p, ['!']) ∧ p.position = some 7 ∧
      p.alignment = some ⟨.left, 12⟩ ∧ p.format = none ∧ p.mode = .destructure := by
  have hwidth : ∀ c ∈ "012".toList, c.isDigit := List.all_eq_true.mp rfl
  have hindex : ∀ c ∈ "007".toList, c.isDigit := List.all_eq_true.mp rfl
  have hname : ∀ c ∈ "007".toList, Text.isAlphanumeric c ∨ c = '_' := fun c hc =>
    Placeholder.isNameChar_iff.mp (Placeholder.isNameChar_of_isDigit (hindex c hc))
  let w : Placeholder.Spelling :=
    ⟨.destructure, "007".toList, some ⟨.left, "012".toList, hwidth, by decide, by decide⟩, some [],
      by decide, hname, by simp⟩
  obtain ⟨-, hread, hposition, -⟩ := readTag_spelling 3 "@007,-012:\x7d!".toList
  refine ⟨w.placeholder 3, (hread _ _).mpr ⟨w, rfl, rfl⟩, ?_, rfl, rfl, rfl⟩
  exact (hposition w 7).mpr ⟨hindex, rfl, by decide⟩

end Template

end StructuredMessage
