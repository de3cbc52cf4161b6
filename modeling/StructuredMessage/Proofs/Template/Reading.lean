import Mathlib.Data.List.TakeWhile
import StructuredMessage.Proofs.Text.Spans

namespace StructuredMessage

namespace Placeholder

/-! The classes of characters are looked up in tables, so the few facts about single characters are
computed. -/

theorem not_isTagChar_close : ¬isTagChar '\x7d' := by decide +kernel

theorem isTagChar_of_isNameChar {c : Char} (h : isNameChar c) : isTagChar c := by
  simp [isTagChar, h]

theorem isTagChar_of_isFormatChar {c : Char} (h : isFormatChar c) : isTagChar c := by
  simp [isTagChar, h]

theorem isNameChar_of_isDigit {c : Char} (h : c.isDigit) : isNameChar c := by
  have hrange : (0x30, 0x39) ∈ Text.numericRanges := by decide
  have hc : 0x30 ≤ c.toNat ∧ c.toNat ≤ 0x39 := by
    simp only [Char.isDigit, Bool.and_eq_true, decide_eq_true_eq] at h
    exact ⟨UInt32.le_iff_toNat_le.mp h.1, UInt32.le_iff_toNat_le.mp h.2⟩
  have hin : Text.inRanges Text.numericRanges c :=
    List.any_eq_true.mpr ⟨_, hrange, by simpa using hc⟩
  simp [isNameChar, Text.isAlphanumeric, hin]

/-- A mark with the text behind it, or nothing at all. -/
def marked (mark : Char) : Option (List Char) → List Char
  | none => []
  | some cs => mark :: cs

theorem cutAt_marked {mark : Char} {before : List Char} (h : mark ∉ before)
    (after : Option (List Char)) : cutAt mark (before ++ marked mark after) = (before, after) := by
  have hb : ∀ c ∈ before, decide (c ≠ mark) = true := by
    intro c hc
    exact decide_eq_true fun he => h (he ▸ hc)
  unfold cutAt
  cases after with
  | none => rw [marked, List.append_nil, List.dropWhile_eq_nil_iff.mpr hb]
  | some cs =>
    have hr : ∀ c ∈ (mark :: cs).head?, ¬decide (c ≠ mark) = true := by simp
    rw [marked, dropWhile_exact hb hr, takeWhile_exact hb hr]

end Placeholder

/-- The character in front of a name that asks for the mode. -/
def Mode.hint : Mode → List Char
  | plain => []
  | destructure => ['@']
  | stringify => ['$']

namespace Placeholder

theorem hinted_hint (mode : Mode) {name : List Char} (hne : name ≠ [])
    (hname : ∀ c ∈ name, isNameChar c) : hinted (mode.hint ++ name) = (mode, name) := by
  cases mode with
  | destructure => rfl
  | stringify => rfl
  | plain =>
    obtain ⟨c, rest, rfl⟩ := List.exists_cons_of_ne_nil hne
    have hc := hname c (by simp)
    have hnone : Mode.ofHint? c = none := by
      unfold Mode.ofHint?
      split
      next => exact absurd hc (by decide +kernel)
      next => exact absurd hc (by decide +kernel)
      next => rfl
    simp [hinted, Mode.hint, hnone]

theorem alignment?_chars {digits : List Char} {a : Alignment} (h : alignment? digits = some a) :
    ∀ c ∈ digits, c = '-' ∨ c.isDigit := by
  have read : ∀ ds : List Char, ∀ n, Numeral.read? ds = some n → ∀ c ∈ ds, c.isDigit := by
    intro ds n hn
    simp only [Numeral.read?] at hn
    split at hn
    next => simp at hn
    next hd =>
      simp only [Bool.or_eq_true, not_or, Bool.not_eq_true', Bool.not_eq_false] at hd
      simpa using hd.2
  unfold alignment? at h
  split at h
  next ds =>
    obtain ⟨n, hn, -⟩ := Option.map_eq_some_iff.mp h
    intro c hc
    rcases List.mem_cons.mp hc with rfl | hc
    · exact Or.inl rfl
    · exact Or.inr (read ds n (Option.filter_eq_some_iff.mp hn).1 c hc)
  next =>
    obtain ⟨n, hn, -⟩ := Option.map_eq_some_iff.mp h
    intro c hc
    exact Or.inr (read digits n (Option.filter_eq_some_iff.mp hn).1 c hc)

/-- What stands between the braces of a placeholder. -/
def form (mode : Mode) (name : List Char) (digits format : Option (List Char)) : List Char :=
  mode.hint ++ name ++ marked ',' digits ++ marked ':' format

variable {mode : Mode} {name : List Char} {digits format : Option (List Char)}

theorem not_mem_hint_name {mark : Char} (hname : ∀ c ∈ name, isNameChar c) (hm : ¬isNameChar mark)
    (hat : mark ≠ '@') (hdollar : mark ≠ '$') : mark ∉ mode.hint ++ name := by
  intro h
  rcases List.mem_append.mp h with h | h
  · cases mode with
    | plain => simp [Mode.hint] at h
    | destructure => exact hat (by simpa [Mode.hint] using h)
    | stringify => exact hdollar (by simpa [Mode.hint] using h)
  · exact hm (hname mark h)

theorem colon_not_mem_digits (halign : ∀ ds ∈ digits, (alignment? ds).isSome) :
    ':' ∉ marked ',' digits := by
  cases digits with
  | none => simp [marked]
  | some ds =>
    obtain ⟨a, ha⟩ := Option.isSome_iff_exists.mp (halign ds rfl)
    intro h
    rcases List.mem_cons.mp h with h | h
    · exact absurd h (by decide)
    · rcases alignment?_chars ha ':' h with h | h
      · exact absurd h (by decide)
      · exact absurd h (by decide)

theorem form_head (hne : name ≠ []) (hname : ∀ c ∈ name, isNameChar c) (rest : List Char) :
    (form mode name digits format ++ rest).head? ≠ some '\x7b' := by
  obtain ⟨c, name, rfl⟩ := List.exists_cons_of_ne_nil hne
  unfold form
  cases mode with
  | destructure => simp [Mode.hint]
  | stringify => simp [Mode.hint]
  | plain =>
    have hc := hname c (by simp)
    have hbrace : c ≠ '\x7b' := by
      rintro rfl
      exact absurd hc (by decide +kernel)
    simpa [Mode.hint] using hbrace

/-- Content of the right form is a placeholder with the parts that the form is made of. -/
theorem ofContent?_form (start : Nat) (hne : name ≠ []) (hname : ∀ c ∈ name, isNameChar c)
    (halign : ∀ ds ∈ digits, (alignment? ds).isSome)
    (hformat : ∀ f ∈ format, ∀ c ∈ f, isFormatChar c) :
    ofContent? start (form mode name digits format) =
      some {
        name := String.ofList name
        source := String.ofList ('\x7b' :: form mode name digits format ++ ['\x7d'])
        format := (format.filter (!·.isEmpty)).map String.ofList
        alignment := digits.bind alignment?
        mode
        start } := by
  have hcolon : ':' ∉ mode.hint ++ name ++ marked ',' digits := by
    intro h
    rcases List.mem_append.mp h with h | h
    · exact not_mem_hint_name hname (by decide +kernel) (by decide) (by decide) h
    · exact colon_not_mem_digits halign h
  have hcomma : ',' ∉ mode.hint ++ name :=
    not_mem_hint_name hname (by decide +kernel) (by decide) (by decide)
  have hall : name.all isNameChar = true := List.all_eq_true.mpr hname
  have hkept : ((format.filter (!·.isEmpty)).getD []).all isFormatChar = true := by
    rw [List.all_eq_true]
    cases format with
    | none => simp
    | some f =>
      intro c hc
      rw [Option.filter_some] at hc
      split at hc
      next => exact hformat f rfl c hc
      next => simp at hc
  have hhead : cutAt ':' (form mode name digits format) =
      (mode.hint ++ name ++ marked ',' digits, format) := cutAt_marked hcolon format
  have htext : ¬(name.isEmpty || !name.all isNameChar ||
      !((format.filter (!·.isEmpty)).getD []).all isFormatChar) = true := by
    simp [hall, hkept, hne]
  simp only [ofContent?, hhead, cutAt_marked hcomma digits, hinted_hint mode hne hname, if_neg htext]
  cases digits with
  | none => rfl
  | some ds =>
    obtain ⟨a, ha⟩ := Option.isSome_iff_exists.mp (halign ds rfl)
    simp [ha]

theorem isTagChar_of_mem_form (hname : ∀ c ∈ name, isNameChar c)
    (halign : ∀ ds ∈ digits, (alignment? ds).isSome)
    (hformat : ∀ f ∈ format, ∀ c ∈ f, isFormatChar c) :
    ∀ c ∈ form mode name digits format, isTagChar c := by
  intro c hc
  simp only [form, List.mem_append] at hc
  rcases hc with ((hc | hc) | hc) | hc
  · cases mode with
    | plain => simp [Mode.hint] at hc
    | destructure =>
      obtain rfl : c = '@' := by simpa [Mode.hint] using hc
      decide
    | stringify =>
      obtain rfl : c = '$' := by simpa [Mode.hint] using hc
      decide
  · exact isTagChar_of_isNameChar (hname c hc)
  · cases digits with
    | none => simp [marked] at hc
    | some ds =>
      obtain ⟨a, ha⟩ := Option.isSome_iff_exists.mp (halign ds rfl)
      rcases List.mem_cons.mp hc with rfl | hc
      · decide +kernel
      · rcases alignment?_chars ha c hc with rfl | hd
        · decide +kernel
        · exact isTagChar_of_isNameChar (isNameChar_of_isDigit hd)
  · cases format with
    | none => simp [marked] at hc
    | some f =>
      rcases List.mem_cons.mp hc with rfl | hc
      · decide +kernel
      · exact isTagChar_of_isFormatChar (hformat f rfl c hc)

end Placeholder

namespace Template

/-- A brace that is not doubled begins a tag. -/
theorem readToken_tag (start : Nat) {rest : List Char} (h : rest.head? ≠ some '\x7b') :
    readToken start ('\x7b' :: rest) = readTag start rest := by
  unfold readToken
  split
  next tail he =>
    obtain rfl := (List.cons.inj he).2
    simp at h
  next tail _ he =>
    obtain rfl := (List.cons.inj he).2
    rfl
  next _ ho => exact absurd rfl (ho rest)

/-- Everything else begins a literal. -/
theorem readToken_literal (start : Nat) {cs : List Char}
    (h : ∀ rest, cs = '\x7b' :: rest → rest.head? = some '\x7b') :
    readToken start cs = readLiteral start cs := by
  unfold readToken
  split
  next => rfl
  next rest hn =>
    obtain ⟨tail, ht⟩ := List.head?_eq_some_iff.mp (h rest rfl)
    exact absurd ht (hn tail)
  next => rfl

theorem readTag_form (start : Nat) (mode : Mode) {name : List Char} {digits format : Option (List Char)}
    (hne : name ≠ []) (hname : ∀ c ∈ name, Placeholder.isNameChar c)
    (halign : ∀ ds ∈ digits, (Placeholder.alignment? ds).isSome)
    (hformat : ∀ f ∈ format, ∀ c ∈ f, Placeholder.isFormatChar c) (rest : List Char) :
    readTag start (Placeholder.form mode name digits format ++ '\x7d' :: rest) =
      (.placeholder {
        name := String.ofList name
        source := String.ofList ('\x7b' :: Placeholder.form mode name digits format ++ ['\x7d'])
        format := (format.filter (!·.isEmpty)).map String.ofList
        alignment := digits.bind Placeholder.alignment?
        mode
        start }, rest) := by
  have hin : ∀ c ∈ Placeholder.form mode name digits format, Placeholder.isTagChar c :=
    Placeholder.isTagChar_of_mem_form hname halign hformat
  have hout : ∀ c ∈ ('\x7d' :: rest).head?, ¬Placeholder.isTagChar c := by
    intro c hc
    obtain rfl : '\x7d' = c := by simpa using hc
    exact Placeholder.not_isTagChar_close
  simp only [readTag, takeWhile_exact hin hout, dropWhile_exact hin hout,
    Placeholder.ofContent?_form start hne hname halign hformat]

/-- A first token that ends where `rest` begins is followed by the tokens of `rest`. -/
theorem tokensFrom_of_readToken {start : Nat} {slice rest : List Char} {token : Token}
    (hne : slice ≠ []) (h : readToken start (slice ++ rest) = (token, rest)) :
    tokensFrom start (slice ++ rest) = token :: tokensFrom (start + Text.byteLength slice) rest := by
  obtain ⟨c, cs, rfl⟩ := List.exists_cons_of_ne_nil hne
  rw [List.cons_append] at h ⊢
  rw [tokensFrom, h]
  have hlen : Text.byteLength (c :: (cs ++ rest)) - Text.byteLength rest =
      Text.byteLength (c :: cs) := by
    rw [← List.cons_append, Text.byteLength_append]
    exact Nat.add_sub_cancel ..
  simp only [hlen]

end Template

end StructuredMessage
