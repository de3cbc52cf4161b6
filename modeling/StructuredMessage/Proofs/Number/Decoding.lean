import StructuredMessage.Culture.Table
import StructuredMessage.Proofs.Number.Places

namespace StructuredMessage

namespace Numeral

/-- The integer that digits write, with a hyphen in front or without. -/
def readSigned? : List Char → Option Int
  | '-' :: digits => (read? digits).map fun n : Nat => -(n : Int)
  | digits => (read? digits).map fun n : Nat => (n : Int)

/-- The value of a hexadecimal digit, all letters being capital or all of them small. -/
def hexDigit? (capital : Bool) (c : Char) : Option Nat :=
  let first := if capital then 'A' else 'a'
  if c.isDigit then some (c.toNat - '0'.toNat)
  else if first.toNat ≤ c.toNat ∧ c.toNat < first.toNat + 6 then some (10 + (c.toNat - first.toNat))
  else none

/-- The number that hexadecimal digits write behind the digits of `n`. -/
def extendHex? (capital : Bool) : Nat → List Char → Option Nat
  | n, [] => some n
  | n, c :: cs => (hexDigit? capital c).bind fun d => extendHex? capital (16 * n + d) cs

/-- The number that a non-empty run of hexadecimal digits writes. -/
def readHex? (capital : Bool) (digits : List Char) : Option Nat :=
  if digits.isEmpty then none else extendHex? capital 0 digits

theorem read?_padded (width n : Nat) : read? (padded width n) = some n := by
  refine read?_eq_some_iff.mpr ⟨?_, fun _ => Decimal.isDigit_of_mem_padded, ?_⟩
  · exact List.append_ne_nil_of_right_ne_nil _ (digits_ne_nil n)
  · rw [padded, ofDigitChars_leftpad]
    exact Nat.ofDigitChars_ten_toDigits

theorem readSigned?_of_isDigit {digits : List Char} (h : ∀ c ∈ digits, c.isDigit) :
    readSigned? digits = (read? digits).map fun n : Nat => (n : Int) := by
  unfold readSigned?
  split
  next => exact absurd (h _ List.mem_cons_self) (by decide)
  next => rfl

/-- An integer is read back from its sign and the digits of its magnitude, whatever number of zeros is between them. -/
theorem readSigned?_padded (width : Nat) (n : Int) :
    readSigned? ((if n < 0 then "-" else "").toList ++ padded width n.natAbs) = some n := by
  split
  next hneg =>
    have hvalue : -(n.natAbs : Int) = n := by omega
    have hsign : "-".toList = ['-'] := by decide
    rw [hsign, List.singleton_append, readSigned?, read?_padded, Option.map_some, hvalue]
  next hneg =>
    have hvalue : (n.natAbs : Int) = n := by omega
    rw [String.toList_empty, List.nil_append, readSigned?_of_isDigit fun _ => Decimal.isDigit_of_mem_padded, read?_padded,
      Option.map_some, hvalue]

theorem le_length_padded (width n : Nat) : width ≤ (padded width n).length := by
  rw [padded, List.length_leftpad]
  exact Nat.le_max_left _ _

/-- The letter that stands for a digit in the given case. -/
def hexChar (capital : Bool) (d : Nat) : Char :=
  if capital then d.digitChar.toUpper else d.digitChar

theorem hexDigit?_hexChar (capital : Bool) {d : Nat} (h : d < 16) : hexDigit? capital (hexChar capital d) = some d := by
  have hall : ∀ capital, ∀ d < 16, hexDigit? capital (hexChar capital d) = some d := by decide
  exact hall capital d h

theorem hex_eq_if (capital : Bool) (n : Nat) :
    hex capital n = if n < 16 then [hexChar capital n] else hex capital (n / 16) ++ [hexChar capital (n % 16)] := by
  unfold hex hexChar
  dsimp only
  rw [Nat.toDigits_eq_if (by decide)]
  cases capital with
  | false => rfl
  | true =>
    by_cases hlt : n < 16
    · rw [if_pos hlt, if_pos hlt]
      rfl
    · rw [if_neg hlt, if_neg hlt]
      simp

theorem hex_ne_nil (capital : Bool) (n : Nat) : hex capital n ≠ [] := by
  rw [hex_eq_if]
  split
  next => exact List.cons_ne_nil _ _
  next => exact List.append_ne_nil_of_right_ne_nil _ (List.cons_ne_nil _ _)

theorem extendHex?_append (capital : Bool) (n : Nat) (front digits : List Char) :
    extendHex? capital n (front ++ digits) = (extendHex? capital n front).bind (extendHex? capital · digits) := by
  induction front generalizing n with
  | nil => rfl
  | cons c front ih =>
    rw [List.cons_append, extendHex?, extendHex?, Option.bind_assoc]
    simp only [ih]

theorem extendHex?_hex (capital : Bool) (n : Nat) : extendHex? capital 0 (hex capital n) = some n := by
  induction n using Nat.strongRecOn with
  | ind n ih =>
    rw [hex_eq_if]
    split
    next hlt =>
      rw [extendHex?, hexDigit?_hexChar capital hlt, Option.bind_some, extendHex?, Nat.mul_zero, Nat.zero_add]
    next hge =>
      rw [extendHex?_append, ih (n / 16) (by omega), Option.bind_some, extendHex?,
        hexDigit?_hexChar capital (Nat.mod_lt _ (by decide)), Option.bind_some, extendHex?, Nat.div_add_mod]

theorem extendHex?_zeros (capital : Bool) (k : Nat) : extendHex? capital 0 (List.replicate k '0') = some 0 := by
  have hzero : hexDigit? capital '0' = some 0 := by cases capital <;> decide
  induction k with
  | zero => rfl
  | succ k ih => rw [List.replicate_succ, extendHex?, hzero, Option.bind_some, ih]

/-- Zeros in front do not change what hexadecimal digits write. -/
theorem readHex?_leftpad (capital : Bool) (width n : Nat) :
    readHex? capital ((hex capital n).leftpad width '0') = some n := by
  have hne : (hex capital n).leftpad width '0' ≠ [] := List.append_ne_nil_of_right_ne_nil _ (hex_ne_nil capital n)
  rw [readHex?, if_neg fun h => hne (List.isEmpty_iff.mp h), List.leftpad, extendHex?_append, extendHex?_zeros,
    Option.bind_some, extendHex?_hex]

end Numeral

namespace Integer

theorem ext_value {m n : Integer} (htype : m.type = n.type) (hvalue : m.value = n.value) : m = n := by
  cases m
  cases n
  cases htype
  cases hvalue
  rfl

/-- On the values of one type the two's complement word is injective. -/
theorem value_eq_of_word {m n : Integer} (htype : m.type = n.type)
    (h : m.value % 2 ^ m.type.bits = n.value % 2 ^ n.type.bits) : m.value = n.value := by
  have hm := m.fits
  have hn := n.fits
  rw [htype] at hm h
  cases htype : n.type <;> rw [htype] at hm hn h <;>
    simp only [IntegerType.lowest, IntegerType.highest, IntegerType.isSigned, IntegerType.bits, twoPow, Nat.pow_eq, if_true,
      Bool.false_eq_true, if_false] at hm hn h <;> omega

/-- A text from which the value reads back says which of the integers of its type it is. -/
theorem eq_of_readSigned? {m n : Integer} (htype : m.type = n.type) {text : Integer → List Char}
    (hread : ∀ n, Numeral.readSigned? (text n) = some n.value) (h : text m = text n) : m = n := by
  have hm := hread m
  rw [h, hread n, Option.some.injEq] at hm
  exact ext_value htype hm.symm

/-- So does a text from which the word reads back. -/
theorem eq_of_readHex? {m n : Integer} (htype : m.type = n.type) {capital : Bool} {text : Integer → List Char}
    (hread : ∀ n : Integer, Numeral.readHex? capital (text n) = some (n.value % 2 ^ n.type.bits).toNat)
    (h : text m = text n) : m = n := by
  have hm := hread m
  rw [h, hread n, Option.some.injEq] at hm
  have hpower (t : IntegerType) : (2 : Int) ^ t.bits ≠ 0 := by positivity
  have hleft := Int.emod_nonneg m.value (hpower m.type)
  have hright := Int.emod_nonneg n.value (hpower n.type)
  exact ext_value htype (value_eq_of_word htype (by omega))

end Integer

namespace Number

/-- The letters that stand for forms of their own. -/
def Standard.letters : List Char :=
  ['D', 'd', 'X', 'x', 'F', 'f', 'N', 'n', 'P', 'p', 'E', 'e']

/-- A format that asks for the general form: there is none, or it is one of any other letter. -/
def AsksGeneral (format : Option String) : Prop :=
  match Standard.read? (format.getD "").toList with
  | some standardFormat => standardFormat.letter ∉ Standard.letters
  | none => format.getD "" = ""

instance (format : Option String) : Decidable (AsksGeneral format) :=
  match hread : Standard.read? (format.getD "").toList with
  | some standardFormat => decidable_of_iff (standardFormat.letter ∉ Standard.letters) (by rw [AsksGeneral, hread])
  | none => decidable_of_iff (format.getD "" = "") (by rw [AsksGeneral, hread])

theorem asksGeneral_none : AsksGeneral none :=
  rfl

theorem standard_of_not_mem {x : Number} {format : Standard} (h : format.letter ∉ Standard.letters)
    (symbols : NumberSymbols) : x.standard format symbols = x.general symbols := by
  obtain ⟨letter, precision⟩ := format
  unfold standard
  dsimp only at h ⊢
  split <;> simp_all [Standard.letters]

theorem format_of_asksGeneral {x : Number} (hx : x.IsFinite) {format : Option String} (h : AsksGeneral format)
    (symbols : NumberSymbols) : x.format format symbols = x.general symbols := by
  unfold AsksGeneral at h
  rw [Number.format, symbol?_eq_none_iff.mpr hx]
  dsimp only
  split
  next => rfl
  next hne =>
    split
    next standardFormat hread =>
      rw [hread] at h
      exact standard_of_not_mem h symbols
    next hread =>
      rw [hread] at h
      exact absurd (by rw [h]; rfl) hne

section Decoding

variable (n : Integer)

theorem isFinite_ofInteger : (ofInteger n).IsFinite :=
  trivial

/-- In the general form an integer is its sign and its digits. -/
theorem format_integer_general {format : Option String} (h : AsksGeneral format) (symbols : NumberSymbols) :
    ((ofInteger n).format format symbols).toList =
      (if n.value < 0 then symbols.negativeSign else "").toList ++ Numeral.padded 0 n.value.natAbs := by
  have hgeneral : (ofInteger n).general symbols = ((ofInteger n).fixed 0).text false symbols := rfl
  rw [format_of_asksGeneral (isFinite_ofInteger n) h, hgeneral, ofInteger, fixed_integer, Digits.text]
  simp [Numeral.padded, List.leftpad]

theorem readSigned?_format_general {format : Option String} (h : AsksGeneral format) :
    Numeral.readSigned? ((ofInteger n).format format Culture.invariant.numbers).toList = some n.value := by
  rw [format_integer_general n h]
  exact Numeral.readSigned?_padded 0 n.value

variable {k : Nat} (hk : k ≤ 99)
include hk

theorem format_integer_padded (symbols : NumberSymbols) :
    ((ofInteger n).format (some ("D" ++ Numeral.text k)) symbols).toList =
      (if n.value < 0 then symbols.negativeSign else "").toList ++ Numeral.padded k n.value.natAbs := by
  rw [format_letter (isFinite_ofInteger n) 'D' (by decide) hk rfl, ← String.toList_ofList (l := Numeral.padded k _),
    ← String.toList_append]
  rfl

theorem readSigned?_format_padded :
    Numeral.readSigned? ((ofInteger n).format (some ("D" ++ Numeral.text k)) Culture.invariant.numbers).toList =
      some n.value := by
  rw [format_integer_padded n hk]
  exact Numeral.readSigned?_padded k n.value

theorem le_countP_format_padded (symbols : NumberSymbols) :
    k ≤ ((ofInteger n).format (some ("D" ++ Numeral.text k)) symbols).toList.countP (·.isDigit) := by
  have hall : (Numeral.padded k n.value.natAbs).countP (·.isDigit) = (Numeral.padded k n.value.natAbs).length :=
    List.countP_eq_length.mpr fun _ => Decimal.isDigit_of_mem_padded
  have hlength := Numeral.le_length_padded k n.value.natAbs
  rw [format_integer_padded n hk, List.countP_append, hall]
  omega

section Word

variable (capital : Bool)

theorem format_integer_word (symbols : NumberSymbols) :
    ((ofInteger n).format (some ((if capital then "X" else "x") ++ Numeral.text k)) symbols).toList =
      (Numeral.hex capital (word n.type.bits n.value)).leftpad k '0' := by
  cases capital with
  | true =>
    rw [if_pos rfl, format_letter (isFinite_ofInteger n) 'X' (by decide) hk rfl]
    exact String.toList_ofList
  | false =>
    rw [if_neg Bool.false_ne_true, format_letter (isFinite_ofInteger n) 'x' (by decide) hk rfl]
    exact String.toList_ofList

theorem readHex?_format_word (symbols : NumberSymbols) :
    Numeral.readHex? capital
        ((ofInteger n).format (some ((if capital then "X" else "x") ++ Numeral.text k)) symbols).toList =
      some (n.value % 2 ^ n.type.bits).toNat := by
  have hpower : ((twoPow n.type.bits : Nat) : Int) = 2 ^ n.type.bits := Int.natCast_pow 2 _
  rw [format_integer_word n hk, Numeral.readHex?_leftpad, word, hpower]

theorem le_length_format_word (symbols : NumberSymbols) :
    k ≤ ((ofInteger n).format (some ((if capital then "X" else "x") ++ Numeral.text k)) symbols).toList.length := by
  rw [format_integer_word n hk, List.length_leftpad]
  exact Nat.le_max_left _ _

end Word

end Decoding

end Number

namespace Scalar

/-- What the formats write for integers reads back: the integer itself from its decimal digits, and its word from its
hexadecimal ones. -/
theorem addBuiltin_decodes (n : Integer) {k : Nat} (hk : k ≤ 99) (dates : DateSymbols) :
    let shown (m : Integer) (format : Option String) :=
      ((integer m).addBuiltin format Culture.invariant.numbers dates "").toList
    let padded := some ("D" ++ Numeral.text k)
    let capital := some ("X" ++ Numeral.text k)
    let small := some ("x" ++ Numeral.text k)
    let word := (n.value % 2 ^ n.type.bits).toNat
    (∀ format, Number.AsksGeneral format → Numeral.readSigned? (shown n format) = some n.value) ∧
      (Numeral.readSigned? (shown n padded) = some n.value ∧ k ≤ (shown n padded).countP (·.isDigit)) ∧
      (Numeral.readHex? true (shown n capital) = some word ∧ k ≤ (shown n capital).length) ∧
      (Numeral.readHex? false (shown n small) = some word ∧ k ≤ (shown n small).length) ∧
      ∀ m : Integer, m.type = n.type → ∀ format, Number.AsksGeneral format ∨ format ∈ [padded, capital, small] →
        shown m format = shown n format → m = n := by
  intro shown padded capital small word
  have hshown (m : Integer) (format : Option String) :
      shown m format = ((Number.ofInteger m).format format Culture.invariant.numbers).toList := by
    have htext := addBuiltin_of_number (s := integer m) rfl format Culture.invariant.numbers dates ""
    rw [String.empty_append] at htext
    exact congrArg String.toList htext
  simp only [hshown]
  refine ⟨fun format => Number.readSigned?_format_general n,
    ⟨Number.readSigned?_format_padded n hk, Number.le_countP_format_padded n hk _⟩,
    ⟨Number.readHex?_format_word n hk true _, Number.le_length_format_word n hk true _⟩,
    ⟨Number.readHex?_format_word n hk false _, Number.le_length_format_word n hk false _⟩,
    fun m htype format hformat hsame => ?_⟩
  simp only [List.mem_cons, List.not_mem_nil, or_false] at hformat
  rcases hformat with hgeneral | rfl | rfl | rfl
  · exact Integer.eq_of_readSigned? htype (Number.readSigned?_format_general · hgeneral) hsame
  · exact Integer.eq_of_readSigned? htype (Number.readSigned?_format_padded · hk) hsame
  · exact Integer.eq_of_readHex? htype (Number.readHex?_format_word · hk true _) hsame
  · exact Integer.eq_of_readHex? htype (Number.readHex?_format_word · hk false _) hsame

/-- The lowest value of a type, whose magnitude the type does not hold. -/
theorem addBuiltin_decodes_lowest :
    let n : Integer := ⟨.i16, -32768, by decide⟩
    let shown (format : Option String) := ((integer n).addBuiltin format Culture.invariant.numbers {} "").toList
    12 ≤ 99 ∧
      (Number.AsksGeneral none ∧ Number.AsksGeneral (some "") ∧ Number.AsksGeneral (some "G3") ∧
        Number.AsksGeneral (some "R")) ∧
      Numeral.readSigned? (shown (some "G3")) = some (-32768) ∧
      Numeral.readSigned? (shown (some "D12")) = some (-32768) ∧
      Numeral.readHex? true (shown (some "X12")) = some 32768 ∧ shown (some "G3") = "-32768".toList ∧
      shown (some "D12") = "-000000032768".toList ∧ shown (some "X12") = "000000008000".toList := by
  intro n shown
  have hnames : "D" ++ Numeral.text 12 = "D12" ∧ "X" ++ Numeral.text 12 = "X12" := by decide +kernel
  have hasks : Number.AsksGeneral none ∧ Number.AsksGeneral (some "") ∧ Number.AsksGeneral (some "G3") ∧
      Number.AsksGeneral (some "R") := by decide +kernel
  obtain ⟨hgeneral, ⟨hpadded, -⟩, ⟨hword, -⟩, -⟩ := addBuiltin_decodes n (by decide : 12 ≤ 99) {}
  have hvalue : (n.value % 2 ^ n.type.bits).toNat = 32768 := by decide +kernel
  rw [hnames.1] at hpadded
  rw [hnames.2, hvalue] at hword
  exact ⟨by decide, hasks, hgeneral _ hasks.2.2.1, hpadded, hword, by decide +kernel, by decide +kernel, by decide +kernel⟩

end Scalar

end StructuredMessage
