import StructuredMessage.Proofs.Number.Decoding
import StructuredMessage.Proofs.Number.Interval
import StructuredMessage.Proofs.Text.Marks

namespace StructuredMessage

namespace Numeral

theorem not_mem_of_isDigit {cs : List Char} {c : Char} (h : ∀ d ∈ cs, d.isDigit) (hc : c.isDigit = false) : c ∉ cs := by
  intro hmem
  simp [h c hmem] at hc

/-- Numbers are told from their digits, however many zeros stand in front. -/
theorem eq_of_padded {width m n : Nat} (h : padded width m = padded width n) : m = n := by
  have hm := read?_padded width m
  rw [h, read?_padded] at hm
  exact (Option.some.inj hm).symm

theorem eq_of_digits {m n : Nat} (h : digits m = digits n) : m = n := by
  have hm := read?_digits m
  rw [h, read?_digits] at hm
  exact (Option.some.inj hm).symm

theorem toList_mantissaText (d : Char) (rest : List Char) :
    (mantissaText {} (d :: rest)).toList = d :: Text.tail '.' rest := by
  cases rest with
  | nil => simp [mantissaText, Text.tail]
  | cons c rest => simp [mantissaText, Text.tail]

theorem toList_exponentText (width : Nat) (exponent : Int) :
    (exponentText 'E' width {} exponent).toList =
      'E' :: (if exponent < 0 then '-' else '+') :: padded width exponent.natAbs := by
  unfold exponentText paddedText
  split <;> simp

theorem eq_of_exponent {width : Nat} {e f : Int}
    (h : (if e < 0 then '-' else '+') :: padded width e.natAbs = (if f < 0 then '-' else '+') :: padded width f.natAbs) :
    e = f := by
  obtain ⟨hsign, hdigits⟩ := List.cons.inj h
  have hneg := Text.iff_of_sign hsign
  have habs := eq_of_padded hdigits
  omega

end Numeral

namespace Digits

/-- Both parts with the point between them. -/
def body (d : Digits) : List Char :=
  d.whole ++ Text.tail '.' d.fraction

variable {d : Digits}

theorem toList_text (d : Digits) : (d.text false {}).toList = (if d.negative then ['-'] else []) ++ d.body := by
  rw [text, body, Text.tail]
  cases d.negative <;> cases hfraction : d.fraction <;> simp

theorem isDigit_or_point_of_mem_body (hd : d.IsDecimal) {c : Char} (hc : c ∈ d.body) : c.isDigit ∨ c = '.' := by
  rw [body, List.mem_append] at hc
  rcases hc with hwhole | htail
  · exact .inl (hd.2 c (List.mem_append_left _ hwhole))
  · unfold Text.tail at htail
    split at htail
    next => exact absurd htail List.not_mem_nil
    next =>
      rcases List.mem_cons.mp htail with rfl | hfraction
      · exact .inr rfl
      · exact .inl (hd.2 c (List.mem_append_right _ hfraction))

theorem exists_body_eq_cons (hd : d.IsDecimal) : ∃ c rest, d.body = c :: rest ∧ c.isDigit := by
  obtain ⟨c, rest, hwhole⟩ := List.exists_cons_of_ne_nil hd.1
  exact ⟨c, rest ++ Text.tail '.' d.fraction, by simp [body, hwhole], hd.2 c (by simp [hwhole])⟩

theorem eq_of_body {d' : Digits} (hd : d.IsDecimal) (hd' : d'.IsDecimal) (h : d.body = d'.body) :
    d.whole = d'.whole ∧ d.fraction = d'.fraction := by
  have hpoint (x : Digits) (hx : x.IsDecimal) : '.' ∉ x.whole :=
    Numeral.not_mem_of_isDigit (fun c hc => hx.2 c (List.mem_append_left _ hc)) (by decide)
  exact Text.eq_of_append_tail (hpoint d hd) (hpoint d' hd') h

end Digits

namespace Rendition

/-- The general form: digits in neither groups nor a percentage, or a mantissa and an exponent of two digits at
least. -/
def IsGeneral : Rendition → Prop
  | positional d isGrouped isPercent => d.IsDecimal ∧ isGrouped = false ∧ isPercent = false
  | scientific _ mantissa mark width _ => mantissa ≠ [] ∧ (∀ c ∈ mantissa, c.isDigit) ∧ mark = 'E' ∧ width = 2
  | _ => False

/-- The digits in front of the exponent, or all of them. -/
def front : Rendition → Digits
  | positional d _ _ => d
  | scientific negative mantissa _ _ _ => ⟨negative, mantissa.take 1, mantissa.drop 1⟩
  | _ => ⟨false, [], []⟩

def exponentTail : Rendition → List Char
  | scientific _ _ _ width exponent => (if exponent < 0 then '-' else '+') :: Numeral.padded width exponent.natAbs
  | _ => []

variable {r r' : Rendition}

theorem IsGeneral.isDecimal_front (h : r.IsGeneral) : r.front.IsDecimal := by
  cases r with
  | positional d isGrouped isPercent => exact h.1
  | scientific negative mantissa mark width exponent =>
    obtain ⟨hne, hdigits, -, -⟩ := h
    obtain ⟨c, rest, rfl⟩ := List.exists_cons_of_ne_nil hne
    exact ⟨List.cons_ne_nil _ _, by simpa [front] using hdigits⟩
  | placed items d signShown => exact h.elim
  | word digits => exact h.elim

theorem IsGeneral.toList_text (h : r.IsGeneral) :
    (r.text {}).toList = (if r.front.negative then ['-'] else []) ++ (r.front.body ++ Text.tail 'E' r.exponentTail) := by
  cases r with
  | positional d isGrouped isPercent =>
    obtain ⟨-, rfl, rfl⟩ := h
    rw [text, if_neg Bool.false_ne_true, String.append_empty, Digits.toList_text]
    exact congrArg _ (List.append_nil _).symm
  | scientific negative mantissa mark width exponent =>
    obtain ⟨hne, -, rfl, -⟩ := h
    obtain ⟨c, rest, rfl⟩ := List.exists_cons_of_ne_nil hne
    rw [text, String.toList_append, String.toList_append, Numeral.toList_mantissaText, Numeral.toList_exponentText]
    cases negative <;> simp [front, Digits.body, exponentTail, Text.tail]
  | placed items d signShown => exact h.elim
  | word digits => exact h.elim

/-- In the general form the text tells the sign, the digits and the exponent. -/
theorem eq_of_text (h : r.IsGeneral) (h' : r'.IsGeneral) (htext : r.text {} = r'.text {}) : r = r' := by
  have hlist := congrArg String.toList htext
  rw [h.toList_text, h'.toList_text] at hlist
  have hhead (x : Rendition) (hx : x.IsGeneral) : (x.front.body ++ Text.tail 'E' x.exponentTail).head? ≠ some '-' := by
    obtain ⟨c, rest, hbody, hc⟩ := Digits.exists_body_eq_cons hx.isDecimal_front
    rw [hbody]
    rintro ⟨⟩
    exact absurd hc (by decide)
  have hmark (x : Rendition) (hx : x.IsGeneral) : 'E' ∉ x.front.body := fun hmem =>
    absurd (Digits.isDigit_or_point_of_mem_body hx.isDecimal_front hmem) (by decide)
  obtain ⟨hsign, hrest⟩ := Text.eq_of_sign (hhead r h) (hhead r' h') hlist
  have hsign := Bool.eq_iff_iff.mpr hsign
  obtain ⟨hbody, hexponent⟩ := Text.eq_of_append_tail (hmark r h) (hmark r' h') hrest
  obtain ⟨hwhole, hfraction⟩ := Digits.eq_of_body h.isDecimal_front h'.isDecimal_front hbody
  cases r with
  | positional d isGrouped isPercent =>
    obtain ⟨-, rfl, rfl⟩ := h
    cases r' with
    | positional d' isGrouped' isPercent' =>
      obtain ⟨-, rfl, rfl⟩ := h'
      obtain ⟨negative, whole, fraction⟩ := d
      obtain ⟨negative', whole', fraction'⟩ := d'
      simp only [front] at hsign hwhole hfraction
      rw [hsign, hwhole, hfraction]
    | scientific => exact absurd hexponent.symm (List.cons_ne_nil _ _)
    | placed => exact h'.elim
    | word => exact h'.elim
  | scientific negative mantissa mark width exponent =>
    obtain ⟨-, -, rfl, rfl⟩ := h
    cases r' with
    | positional => exact absurd hexponent (List.cons_ne_nil _ _)
    | scientific negative' mantissa' mark' width' exponent' =>
      obtain ⟨-, -, rfl, rfl⟩ := h'
      have hmantissa : mantissa = mantissa' := by
        rw [← List.take_append_drop 1 mantissa, ← List.take_append_drop 1 mantissa']
        exact congrArg₂ (· ++ ·) hwhole hfraction
      rw [Numeral.eq_of_exponent hexponent, hmantissa, show negative = negative' from hsign]
    | placed => exact h'.elim
    | word => exact h'.elim
  | placed => exact h.elim
  | word => exact h.elim

/-- The number that the digits write, without its sign. -/
def magnitude : Rendition → ℚ
  | positional d _ _ => Numeral.positional d.whole d.fraction
  | scientific _ mantissa _ _ exponent => Nat.ofDigitChars 10 mantissa 0 * 10 ^ (exponent - (mantissa.length - 1 : Nat))
  | _ => 0

end Rendition

theorem Digits.positional_ofDecimalPoint (negative : Bool) (x : DecimalPoint) :
    Numeral.positional (ofDecimalPoint negative x).whole (ofDecimalPoint negative x).fraction = x.value := by
  unfold ofDecimalPoint
  split
  next h =>
    rw [ofScaled, Decimal.positional_splitDigits, DecimalPoint.value, Nat.cast_mul, cast_tenPow, pow_zero, div_one,
      ← zpow_natCast, Int.toNat_of_nonneg h]
  next h =>
    rw [ofScaled, Decimal.positional_splitDigits, DecimalPoint.value, ← zpow_natCast, Int.toNat_of_nonneg (by omega),
      zpow_neg, div_inv_eq_mul]

namespace Binary

variable {w : Width} {x y : Binary w}

theorem isGeneral_generalRendition {m : Nat} {e : Int} (hx : x.magnitude = .finite m e) :
    x.generalRendition.IsGeneral := by
  unfold generalRendition
  rw [hx]
  dsimp only
  split
  next => exact ⟨Digits.isDecimal_ofDecimalPoint _ _, rfl, rfl⟩
  next => exact ⟨Numeral.digits_ne_nil _, fun _ => Numeral.isDigit_of_mem_digits, rfl, rfl⟩

theorem magnitude_generalRendition {m : Nat} {e : Int} (hx : x.magnitude = .finite m e) :
    x.generalRendition.magnitude = (shortest w .awayFromZero m e).value := by
  unfold generalRendition
  rw [hx]
  dsimp only
  split
  next => exact Digits.positional_ofDecimalPoint _ _
  next =>
    have hdigits (n : Nat) : Nat.ofDigitChars 10 (Numeral.digits n) 0 = n := Nat.ofDigitChars_ten_toDigits
    rw [Rendition.magnitude, hdigits, add_sub_cancel_right, DecimalPoint.value]

/-- The text without a format. -/
def usualText (x : Binary w) : String :=
  match x.magnitude with
  | .nan => "NaN"
  | .infinite => if x.isNegative then "-Infinity" else "Infinity"
  | .finite _ _ => x.generalRendition.text {}

theorem toList_usualText_of_infinite (hx : x.magnitude = .infinite) :
    x.usualText.toList = (if x.isNegative then ['-'] else []) ++ "Infinity".toList := by
  rw [usualText, hx]
  cases x.isNegative <;> simp

theorem usualText_ne_of_infinite {m : Nat} {e : Int} (hx : x.magnitude = .finite m e) (hy : y.magnitude = .infinite) :
    x.usualText ≠ y.usualText := by
  have hgeneral := isGeneral_generalRendition hx
  obtain ⟨c, rest, hbody, hc⟩ := Digits.exists_body_eq_cons hgeneral.isDecimal_front
  intro h
  have hlist := congrArg String.toList h
  rw [toList_usualText_of_infinite hy, usualText, hx] at hlist
  dsimp only at hlist
  rw [hgeneral.toList_text, hbody] at hlist
  have hhead : (c :: rest ++ Text.tail 'E' x.generalRendition.exponentTail).head? ≠ some '-' := by
    rintro ⟨⟩
    exact absurd hc (by decide)
  obtain ⟨-, hrest⟩ := Text.eq_of_sign hhead (by decide) hlist
  obtain ⟨rfl, -⟩ := List.cons.inj hrest
  exact absurd hc (by decide)

/-- Words that are numbers have one text only if they are the same number. -/
theorem same_of_usualText (hx : x.isNaN = false) (hy : y.isNaN = false) (h : x.usualText = y.usualText) : x.same y := by
  cases hxm : x.magnitude with
  | nan => simp [isNaN, hxm] at hx
  | infinite =>
    cases hym : y.magnitude with
    | nan => simp [isNaN, hym] at hy
    | infinite =>
      have hlist := congrArg String.toList h
      rw [toList_usualText_of_infinite hxm, toList_usualText_of_infinite hym] at hlist
      obtain ⟨hsign, -⟩ := Text.eq_of_sign (by decide) (by decide) hlist
      exact same_iff.mpr ⟨hx, hy, .inl (eq_of_magnitude_eq (Bool.eq_iff_iff.mpr hsign) (by simp [hxm]) (hxm.trans hym.symm))⟩
    | finite n f => exact absurd h.symm (usualText_ne_of_infinite hym hxm)
  | finite m e =>
    cases hym : y.magnitude with
    | nan => simp [isNaN, hym] at hy
    | infinite => exact absurd h (usualText_ne_of_infinite hxm hym)
    | finite n f =>
      rw [usualText, usualText, hxm, hym] at h
      have hrendition := Rendition.eq_of_text (isGeneral_generalRendition hxm) (isGeneral_generalRendition hym) h
      have hvalue := congrArg Rendition.magnitude hrendition
      have hsign := congrArg Rendition.isNegative hrendition
      rw [magnitude_generalRendition hxm, magnitude_generalRendition hym] at hvalue
      rw [isNegative_generalRendition hxm, isNegative_generalRendition hym] at hsign
      exact same_of_value_shortest hxm hym hsign hvalue

end Binary

namespace Decimal

variable {x y : Decimal}

theorem same_iff_value : x.same y ↔ x.value = y.value := by
  have hx : (10 : ℚ) ^ x.scale ≠ 0 := by positivity
  have hy : (10 : ℚ) ^ y.scale ≠ 0 := by positivity
  rw [value, value, div_eq_div_iff hx hy, same, beq_iff_eq, ← cast_tenPow, ← cast_tenPow]
  norm_cast

/-- Decimal numbers have one text only if they are the same number. -/
theorem same_of_general (h : (Number.decimal x).general {} = (Number.decimal y).general {}) : x.same y := by
  rw [← Number.text_generalRendition, ← Number.text_generalRendition] at h
  have hgeneral (z : Decimal) : (Number.decimal z).generalRendition.IsGeneral :=
    ⟨Digits.isDecimal_ofScaled _ _ _, rfl, rfl⟩
  have hrendition := Rendition.eq_of_text (hgeneral x) (hgeneral y) h
  have hsign : x.isBelowZero = y.isBelowZero := congrArg Rendition.isNegative hrendition
  have habs : |x.value| = |y.value| := by
    rw [abs_value, abs_value, ← positional_splitDigits, ← positional_splitDigits]
    exact congrArg Rendition.magnitude hrendition
  rw [Bool.eq_iff_iff, isBelowZero_iff, isBelowZero_iff] at hsign
  rw [same_iff_value]
  rcases abs_eq_abs.mp habs with heq | heq
  · exact heq
  · rcases lt_trichotomy x.value 0 with hneg | hzero | hpos
    · have := hsign.mp hneg
      linarith
    · rw [hzero] at heq
      linarith
    · have := hsign.mpr (by linarith)
      linarith

end Decimal

namespace Number

theorem format_single (x : Binary .single) : (single x).format none {} = x.usualText := by
  cases hx : x.magnitude with
  | nan => simp [Number.format, symbol?, Binary.usualText, hx]
  | infinite => simp [Number.format, symbol?, Binary.usualText, hx]
  | finite m e =>
    rw [format_eq_text (x := single x) ⟨m, e, hx⟩, Binary.usualText, hx]
    rfl

theorem format_double (x : Binary .double) : (double x).format none {} = x.usualText := by
  cases hx : x.magnitude with
  | nan => simp [Number.format, symbol?, Binary.usualText, hx]
  | infinite => simp [Number.format, symbol?, Binary.usualText, hx]
  | finite m e =>
    rw [format_eq_text (x := double x) ⟨m, e, hx⟩, Binary.usualText, hx]
    rfl

end Number

end StructuredMessage
