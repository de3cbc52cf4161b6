import StructuredMessage.Scalar.Render
import StructuredMessage.Proofs.Number.Section

namespace StructuredMessage

namespace Pattern

theorem semicolon_not_mem_fractionPlaces (k : Nat) : ';' ∉ fractionPlaces k := by
  unfold fractionPlaces
  split
  next => simp
  next =>
    intro hmem
    rcases List.mem_cons.mp hmem with h | h
    · exact absurd h (by decide)
    · exact absurd (List.eq_of_mem_replicate h) (by decide)

theorem hasGrouping_of_not_mem {before : List PatternItem} (h : .group ∉ before) : hasGrouping before = false := by
  rw [hasGrouping, List.contains_eq_mem, decide_eq_false_iff_not]
  intro hmem
  have hinner := (List.dropWhile_sublist _).mem hmem
  exact h ((List.dropWhile_sublist _).mem (List.mem_reverse.mp hinner))

/-- The pattern that is `front` with `k` zeros behind a point. -/
def withPlaces (front : String) (k : Nat) : String :=
  front ++ String.ofList (fractionPlaces k)

end Pattern

namespace Number

variable {x : Number}

theorem format_of_not_isFinite (hx : ¬x.IsFinite) (symbols : NumberSymbols) (f g : Option String) :
    x.format f symbols = x.format g symbols := by
  obtain ⟨shown, hshown⟩ := Option.ne_none_iff_exists'.mp fun hnone => hx (symbol?_eq_none_iff.mp hnone)
  rw [format, format, hshown]

theorem standard_fixed (x : Number) (k : Nat) (symbols : NumberSymbols) :
    x.standard ⟨'F', some k⟩ symbols = (x.fixed k).text false symbols := by
  cases x <;> simp [standard]

theorem standard_grouped (x : Number) (k : Nat) (symbols : NumberSymbols) :
    x.standard ⟨'N', some k⟩ symbols = (x.fixed k).text true symbols := by
  cases x <;> simp [standard]

theorem format_standard (hx : x.IsFinite) {letter : Char} (hl : letter.isAlpha) {k : Nat} (hk : k ≤ 99)
    {text : String} (htext : text.toList = letter :: Numeral.digits k) (symbols : NumberSymbols) :
    x.format (some text) symbols = x.standard ⟨letter, some k⟩ symbols := by
  have hread : Standard.read? (letter :: Numeral.digits k) = some ⟨letter, some k⟩ := by
    have hlength : (Numeral.digits k).length ≤ 2 := (Numeral.length_digits_le (by decide)).mpr (Nat.lt_of_le_of_lt hk (by decide))
    simp [Standard.read?, hl, hlength, Numeral.digits_ne_nil, Numeral.read?_digits]
  rw [format, symbol?_eq_none_iff.mpr hx]
  simp only [Option.getD_some, htext, List.isEmpty_cons, Bool.false_eq_true, if_false, hread]

theorem format_pattern (hx : x.IsFinite) {c : Char} (hc : ¬c.isAlpha) {text : String} {rest : List Char}
    (htext : text.toList = c :: rest) (symbols : NumberSymbols) :
    x.format (some text) symbols = x.patterned text.toList symbols := by
  have hread : Standard.read? (c :: rest) = none := by simp [Standard.read?, hc]
  rw [format, symbol?_eq_none_iff.mpr hx]
  simp only [Option.getD_some, htext, List.isEmpty_cons, Bool.false_eq_true, if_false, hread]

theorem leftpad_whole (hx : x.IsFinite) (k : Nat) : (x.fixed k).whole.leftpad 1 '0' = (x.fixed k).whole := by
  have hpos := List.length_pos_iff.mpr (fixed_shape hx k).1
  rw [List.leftpad, Nat.sub_eq_zero_of_le hpos, List.replicate_zero, List.nil_append]

/-- A pattern that asks for one whole digit at least and for `k` digits behind the point shows a number as it is
when it is rounded to `k` places. -/
theorem patterned_withPlaces (hx : x.IsFinite) (front : String) {before : List PatternItem}
    (hfront : ';' ∉ front.toList)
    (hitems : ∀ cs, Pattern.itemsFrom false (front.toList ++ cs) = before ++ Pattern.itemsFrom false cs)
    (hbefore : ∀ i ∈ before, i.isDigit ∨ i = .group)
    (hone : ((before.filter (·.isDigit)).dropWhile (· ≠ .zero)).length = 1) (k : Nat) (symbols : NumberSymbols) :
    x.patterned (Pattern.withPlaces front k).toList symbols = (x.fixed k).text (Pattern.hasGrouping before) symbols := by
  have hlist : (Pattern.withPlaces front k).toList = front.toList ++ Pattern.fractionPlaces k := by
    rw [Pattern.withPlaces, String.toList_append, String.toList_ofList]
  have hread : Pattern.items (Pattern.withPlaces front k).toList = before ++ Pattern.fractionItems k := by
    rw [hlist, Pattern.items, hitems, Pattern.itemsFrom_fractionPlaces]
  have hsection : ';' ∉ (Pattern.withPlaces front k).toList := by
    rw [hlist, List.mem_append]
    exact not_or.mpr ⟨hfront, Pattern.semicolon_not_mem_fractionPlaces k⟩
  rw [patterned_plain hx hsection hread hbefore hone Nat.one_pos, leftpad_whole hx]

theorem patterned_fixed (hx : x.IsFinite) (k : Nat) (symbols : NumberSymbols) :
    x.patterned (Pattern.withPlaces "0" k).toList symbols = (x.fixed k).text false symbols := by
  have hitems (cs : List Char) : Pattern.itemsFrom false ("0".toList ++ cs) = [.zero] ++ Pattern.itemsFrom false cs := by
    simp [Pattern.itemsFrom]
  exact patterned_withPlaces hx "0" (by decide) hitems (by decide) rfl k symbols

theorem patterned_grouped (hx : x.IsFinite) (k : Nat) (symbols : NumberSymbols) :
    x.patterned (Pattern.withPlaces "#,##0" k).toList symbols = (x.fixed k).text true symbols := by
  have hitems (cs : List Char) : Pattern.itemsFrom false ("#,##0".toList ++ cs) =
      [.hash, .group, .hash, .hash, .zero] ++ Pattern.itemsFrom false cs := by
    simp [Pattern.itemsFrom]
  exact patterned_withPlaces hx "#,##0" (by decide) hitems (by decide) rfl k symbols

theorem patterned_padded (signed : Bool) (bits : Nat) (n : Int) {k : Nat} (hk : 0 < k) (symbols : NumberSymbols) :
    (integer signed bits n).patterned (List.replicate k '0') symbols =
      (integer signed bits n).standard ⟨'D', some k⟩ symbols := by
  have hitems : Pattern.items (List.replicate k '0') = List.replicate k .zero ++ Pattern.fractionItems 0 := by
    rw [Pattern.items, Pattern.itemsFrom_zeros, Pattern.fractionItems, if_pos rfl, List.append_nil]
  have hsection : ';' ∉ List.replicate k '0' := fun hmem => absurd (List.eq_of_mem_replicate hmem) (by decide)
  have hm : (((List.replicate k PatternItem.zero).filter (·.isDigit)).dropWhile (· ≠ .zero)).length = k := by
    rw [Pattern.filter_zeros, Pattern.dropWhile_zeros, List.length_replicate]
  have hgrouping : Pattern.hasGrouping (List.replicate k .zero) = false :=
    Pattern.hasGrouping_of_not_mem fun hmem => absurd (List.eq_of_mem_replicate hmem) (by decide)
  have hx : (integer signed bits n).IsFinite := trivial
  rw [patterned_plain hx hsection hitems Pattern.isDigit_or_group_of_mem_zeros hm hk, fixed_integer, hgrouping]
  by_cases hn : n < 0 <;> simp [standard, Digits.text, Numeral.paddedText, Numeral.padded, hn]

/-- A letter with its number of digits and a pattern are one format if finite numbers are shown alike in both: the
others are shown by their symbol in either. -/
theorem format_eq_format (x : Number) {letter : Char} (hl : letter.isAlpha) {k : Nat} (hk : k ≤ 99) {text pattern : String}
    (htext : text.toList = letter :: Numeral.digits k) {c : Char} {rest : List Char} (hc : ¬c.isAlpha)
    (hpattern : pattern.toList = c :: rest) {symbols : NumberSymbols}
    (h : x.IsFinite → x.standard ⟨letter, some k⟩ symbols = x.patterned pattern.toList symbols) :
    x.format (some text) symbols = x.format (some pattern) symbols := by
  by_cases hx : x.IsFinite
  · rw [format_standard hx hl hk htext, h hx, format_pattern hx hc hpattern]
  · exact format_of_not_isFinite hx symbols _ _

theorem format_fixed (x : Number) {k : Nat} (hk : k ≤ 99) (symbols : NumberSymbols) :
    x.format (some ("F" ++ Numeral.text k)) symbols = x.format (some (Pattern.withPlaces "0" k)) symbols := by
  have htext : ("F" ++ Numeral.text k).toList = 'F' :: Numeral.digits k := by simp [Numeral.text]
  have hpattern : (Pattern.withPlaces "0" k).toList = '0' :: Pattern.fractionPlaces k := by
    simp [Pattern.withPlaces]
  refine format_eq_format x (by decide) hk htext (by decide) hpattern fun hx => ?_
  rw [standard_fixed, patterned_fixed hx]

theorem format_grouped (x : Number) {k : Nat} (hk : k ≤ 99) (symbols : NumberSymbols) :
    x.format (some ("N" ++ Numeral.text k)) symbols = x.format (some (Pattern.withPlaces "#,##0" k)) symbols := by
  have htext : ("N" ++ Numeral.text k).toList = 'N' :: Numeral.digits k := by simp [Numeral.text]
  have hpattern : (Pattern.withPlaces "#,##0" k).toList = '#' :: (",##0".toList ++ Pattern.fractionPlaces k) := by
    simp [Pattern.withPlaces]
  refine format_eq_format x (by decide) hk htext (by decide) hpattern fun hx => ?_
  rw [standard_grouped, patterned_grouped hx]

theorem format_padded (n : Integer) {k : Nat} (hpos : 0 < k) (hk : k ≤ 99) (symbols : NumberSymbols) :
    (ofInteger n).format (some ("D" ++ Numeral.text k)) symbols =
      (ofInteger n).format (some (String.ofList (List.replicate k '0'))) symbols := by
  have htext : ("D" ++ Numeral.text k).toList = 'D' :: Numeral.digits k := by simp [Numeral.text]
  have hpattern : (String.ofList (List.replicate k '0')).toList = '0' :: List.replicate (k - 1) '0' := by
    rw [String.toList_ofList, ← List.replicate_succ, Nat.sub_add_cancel hpos]
  refine format_eq_format _ (by decide) hk htext (by decide) hpattern fun _ => ?_
  rw [String.toList_ofList]
  exact (patterned_padded _ _ _ hpos symbols).symm

end Number

namespace Scalar

theorem addBuiltin_of_number {s : Scalar} {x : Number} (h : s.number? = some x) (format : Option String)
    (numbers : NumberSymbols) (dates : DateSymbols) (out : String) :
    s.addBuiltin format numbers dates out = out ++ x.format format numbers := by
  cases s with
  | integer n => cases h; rfl
  | single y => cases h; rfl
  | double y => cases h; rfl
  | decimal y => cases h; rfl
  | _ => cases h

/-- The standard formats `F` and `N` abbreviate patterns on every numeric scalar, and `D` does on every integer. -/
theorem addBuiltin_abbreviated {s : Scalar} (hs : s.number?.isSome) {k : Nat} (hk : k ≤ 99)
    (numbers : NumberSymbols) (dates : DateSymbols) (out : String) :
    s.addBuiltin (some ("F" ++ Numeral.text k)) numbers dates out =
        s.addBuiltin (some (Pattern.withPlaces "0" k)) numbers dates out ∧
      s.addBuiltin (some ("N" ++ Numeral.text k)) numbers dates out =
        s.addBuiltin (some (Pattern.withPlaces "#,##0" k)) numbers dates out ∧
      ∀ n, s = .integer n → 0 < k →
        s.addBuiltin (some ("D" ++ Numeral.text k)) numbers dates out =
          s.addBuiltin (some (String.ofList (List.replicate k '0'))) numbers dates out := by
  obtain ⟨x, hx⟩ := Option.isSome_iff_exists.mp hs
  refine ⟨?_, ?_, fun n hn hpos => ?_⟩
  · rw [addBuiltin_of_number hx, addBuiltin_of_number hx, Number.format_fixed x hk]
  · rw [addBuiltin_of_number hx, addBuiltin_of_number hx, Number.format_grouped x hk]
  · subst hn
    rw [addBuiltin, addBuiltin, Number.format_padded n hpos hk]

theorem addBuiltin_abbreviated_german :
    let s : Scalar := .integer ⟨.i32, -1234, by decide⟩
    let shown (format : String) := s.addBuiltin (some format) Culture.german.numbers Culture.german.dates "= "
    (shown "F6" = shown "0.000000" ∧ shown "N6" = shown "#,##0.000000" ∧ shown "D6" = shown "000000") ∧
      shown "F6" = "= -1234,000000" ∧ shown "N6" = "= -1.234,000000" ∧ shown "D6" = "= -001234" := by
  intro s shown
  have hnames : "F" ++ Numeral.text 6 = "F6" ∧ "N" ++ Numeral.text 6 = "N6" ∧ "D" ++ Numeral.text 6 = "D6" := by
    decide +kernel
  have hpatterns : Pattern.withPlaces "0" 6 = "0.000000" ∧ Pattern.withPlaces "#,##0" 6 = "#,##0.000000" ∧
      String.ofList (List.replicate 6 '0') = "000000" := by decide +kernel
  have habbreviated := addBuiltin_abbreviated (s := s) rfl (k := 6) (by decide) Culture.german.numbers
    Culture.german.dates "= "
  rw [hnames.1, hnames.2.1, hnames.2.2, hpatterns.1, hpatterns.2.1, hpatterns.2.2] at habbreviated
  obtain ⟨hfixed, hgrouped, hpadded⟩ := habbreviated
  exact ⟨⟨hfixed, hgrouped, hpadded _ rfl (by decide)⟩, by decide +kernel, by decide +kernel, by decide +kernel⟩

end Scalar

end StructuredMessage
