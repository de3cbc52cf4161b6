import Mathlib.Data.List.TakeWhile
import StructuredMessage.Proofs.Number.Abbreviation
import StructuredMessage.Proofs.Number.Percent

namespace StructuredMessage

namespace Numeral

theorem withoutTrailingZeros_append (cs : List Char) :
    ∃ n, cs = withoutTrailingZeros cs ++ List.replicate n '0' := by
  have hzeros : cs.reverse.takeWhile (· == '0') = List.replicate (cs.reverse.takeWhile (· == '0')).length '0' :=
    List.eq_replicate_iff.mpr ⟨rfl, fun c hc => by simpa using List.mem_takeWhile_imp hc⟩
  refine ⟨(cs.reverse.takeWhile (· == '0')).length, ?_⟩
  rw [withoutTrailingZeros, ← List.reverse_replicate, ← hzeros, ← List.reverse_append, List.takeWhile_append_dropWhile,
    List.reverse_reverse]

theorem getLast?_withoutTrailingZeros (cs : List Char) : (withoutTrailingZeros cs).getLast? ≠ some '0' := by
  intro hlast
  rw [withoutTrailingZeros, List.getLast?_reverse] at hlast
  have hhead := List.head?_dropWhile_not (· == '0') cs.reverse
  rw [hlast] at hhead
  simp at hhead

end Numeral

namespace Digits

/-- `text` is the digits in groups of three behind a first group of one to three, with a separator before every
group but the first. -/
def InGroups (separator digits text : List Char) : Prop :=
  ∃ (first : List Char) (groups : List (List Char)),
    digits = first ++ groups.flatten ∧ text = first ++ groups.flatMap (separator ++ ·) ∧
      (digits ≠ [] → first ≠ []) ∧ first.length ≤ 3 ∧ ∀ g ∈ groups, g.length = 3

theorem length_flatten_groups {groups : List (List Char)} (h : ∀ g ∈ groups, g.length = 3) :
    groups.flatten.length = 3 * groups.length := by
  induction groups with
  | nil => rfl
  | cons g groups ih =>
    rw [List.flatten_cons, List.length_append, h g List.mem_cons_self,
      ih fun g' hg' => h g' (List.mem_cons_of_mem g hg'), List.length_cons]
    omega

theorem inGroups_grouped (separator digits : List Char) : InGroups separator digits (grouped separator digits) := by
  fun_induction grouped separator digits with
  | case1 => exact ⟨[], [], by simp⟩
  | case2 d => exact ⟨[d], [], by simp⟩
  | case3 d rest hrest hthird ih =>
    obtain ⟨first, groups, hdigits, htext, hfirst, hle, hgroups⟩ := ih
    have hpos := List.length_pos_iff.mpr (hfirst hrest)
    have hlength := congrArg List.length hdigits
    rw [List.length_append, length_flatten_groups hgroups] at hlength
    have hthree : first.length = 3 := by omega
    refine ⟨[d], first :: groups, ?_, ?_, by simp, by simp, ?_⟩
    · rw [hdigits, List.flatten_cons, List.singleton_append]
    · rw [htext, List.flatMap_cons, List.cons_append, List.singleton_append, List.append_assoc]
    · intro g hg
      rcases List.mem_cons.mp hg with rfl | hg
      · exact hthree
      · exact hgroups g hg
  | case4 d rest hrest hthird ih =>
    obtain ⟨first, groups, hdigits, htext, -, hle, hgroups⟩ := ih
    have hlength := congrArg List.length hdigits
    rw [List.length_append, length_flatten_groups hgroups] at hlength
    refine ⟨d :: first, groups, ?_, ?_, by simp, ?_, hgroups⟩
    · rw [hdigits, List.cons_append]
    · rw [htext, List.cons_append]
    · rw [List.length_cons]
      omega

end Digits

namespace Pattern

/-- `shown` is the fraction without those zeros at its end that the first `minimum` places do not ask for. -/
def Trimmed (minimum : Nat) (fraction shown : List Char) : Prop :=
  (∃ n, fraction = shown ++ List.replicate n '0') ∧ minimum ≤ shown.length ∧
    (minimum < shown.length → shown.getLast? ≠ some '0')

theorem trimmed_trimmedFraction {minimum : Nat} {fraction : List Char} (h : minimum ≤ fraction.length) :
    Trimmed minimum fraction (trimmedFraction minimum fraction) := by
  obtain ⟨n, hn⟩ := Numeral.withoutTrailingZeros_append (fraction.drop minimum)
  have hlast := Numeral.getLast?_withoutTrailingZeros (fraction.drop minimum)
  have htake : (fraction.take minimum).length = minimum := List.length_take_of_le h
  refine ⟨⟨n, ?_⟩, ?_, fun hlonger => ?_⟩
  · rw [trimmedFraction, List.append_assoc, ← hn, List.take_append_drop]
  · rw [trimmedFraction, List.length_append, htake]
    omega
  · rw [trimmedFraction, List.length_append, htake] at hlonger
    have hne : Numeral.withoutTrailingZeros (fraction.drop minimum) ≠ [] := List.length_pos_iff.mp (by omega)
    rw [trimmedFraction, List.getLast?_append, List.getLast?_eq_some_getLast hne, Option.some_or]
    rwa [List.getLast?_eq_some_getLast hne] at hlast

/-- A group mark with a digit place on both sides. -/
def GroupMarked (whole : List PatternItem) : Prop :=
  ∃ before after, whole = before ++ .group :: after ∧ (∃ i ∈ before, i.isDigit) ∧ ∃ i ∈ after, i.isDigit

theorem exists_digit_of_dropWhile {whole before after : List PatternItem}
    (h : whole.dropWhile (!·.isDigit) = before ++ .group :: after) : ∃ i ∈ before, i.isDigit := by
  have hhead := List.head?_dropWhile_not (!PatternItem.isDigit ·) whole
  rw [h] at hhead
  cases before with
  | nil => simp [PatternItem.isDigit] at hhead
  | cons i before => exact ⟨i, List.mem_cons_self, by simpa using hhead⟩

theorem dropWhile_append_of_digit {before : List PatternItem} (h : ∃ i ∈ before, i.isDigit) (after : List PatternItem) :
    (before ++ after).dropWhile (!·.isDigit) = before.dropWhile (!·.isDigit) ++ after := by
  obtain ⟨i, hi, hdigit⟩ := h
  have hne : before.dropWhile (!·.isDigit) ≠ [] := by
    intro hnil
    have hnot := List.dropWhile_eq_nil_iff.mp hnil i hi
    simp [hdigit] at hnot
  rw [List.dropWhile_append, if_neg (by simpa using hne)]

theorem hasGrouping_iff (whole : List PatternItem) : hasGrouping whole = true ↔ GroupMarked whole := by
  rw [hasGrouping, List.contains_eq_mem, decide_eq_true_iff]
  constructor
  · intro hmem
    obtain ⟨after, before, hsplit⟩ := List.append_of_mem hmem
    have hafter := exists_digit_of_dropWhile hsplit
    have hinner := List.takeWhile_append_dropWhile (p := (!PatternItem.isDigit ·)) (l := (whole.dropWhile (!·.isDigit)).reverse)
    rw [hsplit] at hinner
    obtain ⟨tail, hdrop⟩ : ∃ tail, whole.dropWhile (!·.isDigit) = before.reverse ++ .group :: (after.reverse ++ tail) := by
      have hreverse := congrArg List.reverse hinner
      exact ⟨_, by simpa using hreverse.symm⟩
    have hbefore := exists_digit_of_dropWhile hdrop
    refine ⟨whole.takeWhile (!·.isDigit) ++ before.reverse, after.reverse ++ tail, ?_, ?_, ?_⟩
    · rw [List.append_assoc, ← hdrop, List.takeWhile_append_dropWhile]
    · obtain ⟨i, hi, hdigit⟩ := hbefore
      exact ⟨i, List.mem_append_right _ hi, hdigit⟩
    · obtain ⟨i, hi, hdigit⟩ := hafter
      exact ⟨i, List.mem_append_left _ (List.mem_reverse.mpr hi), hdigit⟩
  · rintro ⟨before, after, rfl, hbefore, i, hi, hdigit⟩
    rw [dropWhile_append_of_digit hbefore, List.reverse_append, List.reverse_cons, List.append_assoc,
      dropWhile_append_of_digit ⟨i, List.mem_reverse.mpr hi, hdigit⟩]
    simp

theorem count_point_itemsFrom (seen : Bool) (cs : List Char) :
    (itemsFrom seen cs).count .point ≤ if seen then 0 else 1 := by
  fun_induction itemsFrom seen cs with
  | case1 => split <;> simp
  | case2 seen rest ih => simpa using ih
  | case3 seen rest ih => simpa using ih
  | case4 rest ih => simpa using ih
  | case5 => simp_all
  | case6 seen rest ih => simpa using ih
  | case7 seen rest ih => simpa using ih
  | case8 => simp
  | case9 seen c rest ih => simpa using ih
  | case10 seen c rest _ _ _ _ _ _ _ _ ih => simpa using ih
  | case11 seen c rest _ _ _ _ _ _ _ _ ih => simpa using ih

theorem point_not_mem_of_items {cs : List Char} {before after : List PatternItem}
    (h : items cs = before ++ .point :: after) : .point ∉ after := by
  have hcount := count_point_itemsFrom false cs
  rw [← items, h, List.count_append, List.count_cons_self] at hcount
  intro hmem
  have hpos := List.count_pos_iff.mpr hmem
  simp only [Bool.false_eq_true, if_false] at hcount
  omega

/-- Taking the literals and the percent symbols of the items out of `text` leaves `rest`. -/
inductive Leaves (percentSymbol : List Char) : List PatternItem → List Char → List Char → Prop
  | nil : Leaves percentSymbol [] [] []
  | literal (shown : List Char) {items : List PatternItem} {text rest : List Char} :
      Leaves percentSymbol items text rest → Leaves percentSymbol (.literal shown :: items) (shown ++ text) rest
  | percent {items : List PatternItem} {text rest : List Char} :
      Leaves percentSymbol items text rest → Leaves percentSymbol (.percent :: items) (percentSymbol ++ text) rest
  | group {items : List PatternItem} {text rest : List Char} :
      Leaves percentSymbol items text rest → Leaves percentSymbol (.group :: items) text rest
  | place {i : PatternItem} (hi : i.isDigit ∨ i = .point) (piece : List Char) {items : List PatternItem}
      {text rest : List Char} :
      Leaves percentSymbol items text rest → Leaves percentSymbol (i :: items) (piece ++ text) (piece ++ rest)

def isPlace (i : PatternItem) : Bool :=
  i.isDigit || i == .point

/-- What is left of a filled section is the section filled without its literals and percent marks. -/
theorem leaves_fill (symbols : NumberSymbols) (point : List Char) (items : List PatternItem) (slots : List (List Char)) :
    Leaves symbols.percentSymbol.toList items (fill symbols point items slots)
      (fill symbols point (items.filter isPlace) slots) := by
  induction items generalizing slots with
  | nil => exact .nil
  | cons i items ih =>
    cases i with
    | zero =>
      rw [List.filter_cons_of_pos rfl, fill, fill]
      exact .place (Or.inl rfl) _ (ih slots.tail)
    | hash =>
      rw [List.filter_cons_of_pos rfl, fill, fill]
      exact .place (Or.inl rfl) _ (ih slots.tail)
    | point =>
      rw [List.filter_cons_of_pos rfl, fill, fill]
      exact .place (Or.inr rfl) _ (ih slots)
    | group =>
      rw [List.filter_cons_of_neg (by decide), fill]
      exact .group (ih slots)
    | percent =>
      rw [List.filter_cons_of_neg (by decide), fill]
      exact .percent (ih slots)
    | literal text =>
      rw [List.filter_cons_of_neg (by simp [isPlace, PatternItem.isDigit]), fill]
      exact .literal text (ih slots)

theorem filter_isPlace_of_no_point {items : List PatternItem} (h : .point ∉ items) :
    items.filter isPlace = items.filter (·.isDigit) := by
  refine List.filter_congr fun i hi => ?_
  have hne : i ≠ .point := fun he => h (he ▸ hi)
  simp [isPlace, hne]

/-- The whole digits that a section shows: none for a lone zero, and zeros in front up to the least number. -/
def wholeDigits (items : List PatternItem) (whole : List Char) : List Char :=
  (if whole = ['0'] then [] else whole).leftpad (layout items).minWhole '0'

/-- `text` shows all digits in order: taking out literals and percent symbols leaves the whole digits, in groups if a
group mark asks for them, and the fraction, if there is one, behind a separator. -/
def Shows (symbols : NumberSymbols) (items : List PatternItem) (whole fraction text : List Char) : Prop :=
  ∃ shown,
    Leaves symbols.percentSymbol.toList items text
        (shown ++ if fraction = [] then [] else symbols.decimalSeparator.toList ++ fraction) ∧
      (GroupMarked (halves items).1 → Digits.InGroups symbols.groupSeparator.toList whole shown) ∧
      (¬GroupMarked (halves items).1 → shown = whole)

/-- A section has room for whole digits at a place before the point or, without one, at the point. -/
def HasWhole (items : List PatternItem) : Prop :=
  (∃ i ∈ (halves items).1, i.isDigit) ∨ .point ∈ items

theorem length_filter_digits_pos {items : List PatternItem} (h : ∃ i ∈ items, i.isDigit) :
    0 < (items.filter (·.isDigit)).length := by
  obtain ⟨i, hi, hdigit⟩ := h
  exact List.length_pos_of_mem (List.mem_filter.mpr ⟨hi, hdigit⟩)

theorem isDigit_or_group_of_mem_filter (items : List PatternItem) :
    ∀ i ∈ items.filter (·.isDigit), i.isDigit ∨ i = .group :=
  fun _ hi => Or.inl (List.mem_filter.mp hi).2

theorem filter_filter_digits (items : List PatternItem) :
    (items.filter (·.isDigit)).filter (·.isDigit) = items.filter (·.isDigit) := by
  rw [List.filter_filter]
  simp

theorem fill_digits (symbols : NumberSymbols) (point : List Char) (items others : List PatternItem)
    (slots : List (List Char)) :
    fill symbols point (items.filter (·.isDigit) ++ others) slots =
      (slots.take (items.filter (·.isDigit)).length).flatten ++
        fill symbols point others (slots.drop (items.filter (·.isDigit)).length) := by
  rw [fill_plain (isDigit_or_group_of_mem_filter items), filter_filter_digits]

theorem minFraction_le_maxFraction (items : List PatternItem) : (layout items).minFraction ≤ (layout items).maxFraction := by
  have hsub := (List.dropWhile_sublist (· ≠ PatternItem.zero)
    (l := ((halves items).2.filter (·.isDigit)).reverse)).length_le
  rwa [List.length_reverse] at hsub

theorem length_trimmed_le {minimum : Nat} {fraction shown : List Char} (h : Trimmed minimum fraction shown) :
    shown.length ≤ fraction.length := by
  obtain ⟨⟨n, rfl⟩, -⟩ := h
  rw [List.length_append]
  omega

theorem items_split (items : List PatternItem) :
    (items = (halves items).1 ∧ (halves items).2 = []) ∨
      ∃ after, items = (halves items).1 ++ .point :: after ∧ (halves items).2 = .point :: after := by
  have hsplit : (halves items).1 ++ (halves items).2 = items := List.takeWhile_append_dropWhile
  have hhead := List.head?_dropWhile_not (fun i => decide (i ≠ PatternItem.point)) items
  rw [show items.dropWhile (fun i => decide (i ≠ .point)) = (halves items).2 from rfl] at hhead
  cases hafter : (halves items).2 with
  | nil =>
    rw [hafter, List.append_nil] at hsplit
    exact Or.inl ⟨hsplit.symm, rfl⟩
  | cons i after =>
    rw [hafter] at hsplit hhead
    obtain rfl : i = .point := by simpa using hhead
    exact Or.inr ⟨after, hsplit.symm, rfl⟩

theorem point_not_mem_before (items : List PatternItem) : .point ∉ (halves items).1 := by
  intro hmem
  simpa using List.mem_takeWhile_imp hmem

/-- Where there is no point, all places take whole digits. -/
theorem fill_places_without_point {items : List PatternItem} (hno : .point ∉ items) (hwhole : HasWhole items)
    (symbols : NumberSymbols) (point whole : List Char) :
    fill symbols point (items.filter isPlace) (wholeSlots (layout items) whole) = whole := by
  rcases items_split items with ⟨hitems, -⟩ | ⟨after, hitems, -⟩
  · have hpos : 0 < (layout items).places := length_filter_digits_pos (hwhole.resolve_right hno)
    have hall : (items.filter (·.isDigit)).length = (layout items).places := by
      rw [show (layout items).places = ((halves items).1.filter (·.isDigit)).length from rfl, ← hitems]
    have hfill := fill_digits symbols point items [] (wholeSlots (layout items) whole)
    rw [List.append_nil, fill, List.append_nil, hall, List.take_of_length_le (length_wholeSlots _ _).le,
      flatten_wholeSlots hpos] at hfill
    rw [filter_isPlace_of_no_point hno, hfill]
  · rw [hitems] at hno
    exact absurd (by simp) hno

/-- Where there is a point, the whole digits are before it or, if there are no places, at it. -/
theorem fill_places_with_point {before after : List PatternItem} (hbefore : .point ∉ before) (hafter : .point ∉ after)
    (symbols : NumberSymbols) {l : Layout} (hplaces : l.places = (before.filter (·.isDigit)).length)
    (whole separator fraction : List Char) (hlength : fraction.length ≤ (after.filter (·.isDigit)).length) :
    fill symbols ((if l.places = 0 then whole else []) ++ separator) ((before ++ .point :: after).filter isPlace)
        (wholeSlots l whole ++ fraction.map ([·])) = whole ++ (separator ++ fraction) := by
  have hslots := length_wholeSlots l whole
  have hfilter : (before ++ .point :: after).filter isPlace =
      before.filter (·.isDigit) ++ .point :: (after.filter (·.isDigit) ++ []) := by
    rw [List.append_nil, List.filter_append, List.filter_cons_of_pos rfl, filter_isPlace_of_no_point hbefore,
      filter_isPlace_of_no_point hafter]
  have hchars : ((fraction.map ([·])).take (after.filter (·.isDigit)).length).flatten = fraction := by
    rw [List.take_of_length_le (by rwa [List.length_map]), flatten_singletons]
  rw [hfilter, fill_digits, ← hplaces, List.take_left' hslots, List.drop_left' hslots, fill, fill_digits, hchars, fill,
    List.append_nil]
  by_cases hnone : l.places = 0
  · rw [if_pos hnone, wholeSlots, if_pos hnone]
    simp
  · rw [if_neg hnone, flatten_wholeSlots (Nat.pos_of_ne_zero hnone)]
    simp

/-- The places of a section take the whole digits, then the separator, then the fraction. -/
theorem fill_places {items : List PatternItem} (hone : ∀ before after, items = before ++ .point :: after → .point ∉ after)
    (hwhole : HasWhole items) (symbols : NumberSymbols) (whole separator fraction : List Char)
    (hlength : fraction.length ≤ (layout items).maxFraction) (hseparator : fraction = [] → separator = []) :
    fill symbols ((if (layout items).places = 0 then whole else []) ++ separator) (items.filter isPlace)
        (wholeSlots (layout items) whole ++ fraction.map ([·])) =
      whole ++ (separator ++ fraction) := by
  have hmax : (layout items).maxFraction = ((halves items).2.filter (·.isDigit)).length := rfl
  rcases items_split items with ⟨hitems, hafter⟩ | ⟨after, hitems, hafter⟩
  · have hno : .point ∉ items := fun hmem => point_not_mem_before items (hitems ▸ hmem)
    have hfraction : fraction = [] := by
      rw [hmax, hafter] at hlength
      exact List.length_eq_zero_iff.mp (Nat.le_zero.mp hlength)
    rw [hseparator hfraction, hfraction]
    simpa using fill_places_without_point hno hwhole symbols _ whole
  · rw [hmax, hafter, List.filter_cons_of_neg (by decide)] at hlength
    have hfill := fill_places_with_point (point_not_mem_before items) (hone _ _ hitems) symbols
      (l := layout items) rfl whole separator fraction hlength
    rwa [← hitems] at hfill

theorem leaves_places {items : List PatternItem} (hone : ∀ before after, items = before ++ .point :: after → .point ∉ after)
    (hwhole : HasWhole items) (symbols : NumberSymbols) (whole separator fraction : List Char)
    (hlength : fraction.length ≤ (layout items).maxFraction) (hseparator : fraction = [] → separator = []) :
    Leaves symbols.percentSymbol.toList items
      (fill symbols ((if (layout items).places = 0 then whole else []) ++ separator) items
        (wholeSlots (layout items) whole ++ fraction.map ([·])))
      (whole ++ (separator ++ fraction)) := by
  rw [← fill_places hone hwhole symbols whole separator fraction hlength hseparator]
  exact leaves_fill symbols _ items _

theorem digitsText_shows {items : List PatternItem} (hone : ∀ before after, items = before ++ .point :: after → .point ∉ after)
    (hwhole : HasWhole items) (symbols : NumberSymbols) {d : Digits} (hlength : d.fraction.length = (layout items).maxFraction) :
    Shows symbols items (wholeDigits items d.whole) (trimmedFraction (layout items).minFraction d.fraction)
      (digitsText items symbols d) := by
  have htrimmed := trimmed_trimmedFraction (hlength ▸ minFraction_le_maxFraction items)
  have hgrouping := hasGrouping_iff (halves items).1
  have hplaces := leaves_places hone hwhole symbols (wholeText (layout items) symbols.groupSeparator d.whole)
  refine ⟨wholeText (layout items) symbols.groupSeparator d.whole, ?_, fun hmarked => ?_, fun hmarked => ?_⟩
  · have hfraction := hlength ▸ length_trimmed_le htrimmed
    rw [digitsText]
    by_cases hnil : trimmedFraction (layout items).minFraction d.fraction = []
    · simpa [hnil] using hplaces [] [] (Nat.zero_le _) fun _ => rfl
    · simpa [hnil] using hplaces symbols.decimalSeparator.toList _ hfraction fun h => absurd h hnil
  · have hgrouped : (layout items).grouped = true := hgrouping.mpr hmarked
    rw [wholeText, if_pos hgrouped]
    exact Digits.inGroups_grouped _ _
  · have hgrouped : ¬(layout items).grouped = true := fun h => hmarked (hgrouping.mp h)
    rw [wholeText, if_neg hgrouped]
    rfl

/-- The items of the section that is chosen for a number. -/
def chosenItems (pattern : List Char) (x : Number) : List PatternItem :=
  items (choose (sections pattern) x).1

/-- The number whose digits a section shows: a hundred times the number under a percent mark. -/
def scaled (items : List PatternItem) (x : Number) : Number :=
  if items.contains .percent then x.timesHundred else x

/-- The digits of a number in the places of the section chosen for it. -/
def chosenDigits (pattern : List Char) (x : Number) : Digits :=
  (scaled (chosenItems pattern x) x).fixed (layout (chosenItems pattern x)).maxFraction

/-- The sign in front of a section, which no section that is there for a sign has. -/
def chosenSign (pattern : List Char) (x : Number) (symbols : NumberSymbols) : String :=
  if (chosenDigits pattern x).negative && !(choose (sections pattern) x).2 then symbols.negativeSign else ""

theorem patterned_eq (x : Number) (pattern : List Char) (symbols : NumberSymbols) :
    x.patterned pattern symbols = chosenSign pattern x symbols ++
      String.ofList (digitsText (chosenItems pattern x) symbols (chosenDigits pattern x)) :=
  rfl

theorem isFinite_scaled {x : Number} (hfinite : x.IsFinite) (hrange : x.InRange) {items : List PatternItem}
    (h : x.IsExact ∨ .percent ∉ items) : (scaled items x).IsFinite := by
  rw [scaled, List.contains_eq_mem]
  split
  next hpercent => exact Number.isFinite_timesHundred (h.resolve_right (not_not_intro (of_decide_eq_true hpercent))) hrange
  next => exact hfinite

theorem patterned_shows {x : Number} (hfinite : x.IsFinite) (hrange : x.InRange) {pattern : List Char}
    (hfloat : x.IsExact ∨ .percent ∉ chosenItems pattern x) (hwhole : HasWhole (chosenItems pattern x))
    (symbols : NumberSymbols) :
    ∃ fraction body,
      x.patterned pattern symbols = chosenSign pattern x symbols ++ String.ofList body ∧
        Shows symbols (chosenItems pattern x) (wholeDigits (chosenItems pattern x) (chosenDigits pattern x).whole)
          fraction body ∧
        Trimmed (layout (chosenItems pattern x)).minFraction (chosenDigits pattern x).fraction fraction := by
  have hlength : (chosenDigits pattern x).fraction.length = (layout (chosenItems pattern x)).maxFraction :=
    (Number.fixed_shape (isFinite_scaled hfinite hrange hfloat) _).2
  refine ⟨trimmedFraction (layout (chosenItems pattern x)).minFraction (chosenDigits pattern x).fraction, _,
    patterned_eq x pattern symbols, ?_, ?_⟩
  · exact digitsText_shows (fun _ _ => point_not_mem_of_items) hwhole symbols hlength
  · exact trimmed_trimmedFraction (hlength ▸ minFraction_le_maxFraction _)

end Pattern

theorem Number.format_letter {x : Number} (hx : x.IsFinite) (letter : Char) (hl : letter.isAlpha) {k : Nat} (hk : k ≤ 99)
    {front : String} (hfront : front.toList = [letter]) (symbols : NumberSymbols) :
    x.format (some (front ++ Numeral.text k)) symbols = x.standard ⟨letter, some k⟩ symbols := by
  have htext : (front ++ Numeral.text k).toList = letter :: Numeral.digits k := by
    rw [String.toList_append, hfront, Numeral.text, String.toList_ofList, List.singleton_append]
  exact format_standard hx hl hk htext symbols

theorem Number.format_patterned {x : Number} (hx : x.IsFinite) {pattern : String} (hne : pattern ≠ "")
    (hpattern : Standard.read? pattern.toList = none) (symbols : NumberSymbols) :
    x.format (some pattern) symbols = x.patterned pattern.toList symbols := by
  have hchars : pattern.toList.isEmpty = false := by
    rw [List.isEmpty_eq_false_iff]
    exact fun hnil => hne (String.toList_eq_nil_iff.mp hnil)
  rw [Number.format, Number.symbol?_eq_none_iff.mpr hx]
  simp only [Option.getD_some, hchars, Bool.false_eq_true, if_false, hpattern]

namespace Scalar

/-- In every pattern whose chosen section has room for whole digits, behind the sign and without the literals and the
percent symbols, there are the whole digits of the number, padded and grouped as the section asks, and its trimmed
fraction. -/
theorem addBuiltin_shows_digits {s : Scalar} {x : Number} (hx : s.number? = some x) (hfinite : x.IsFinite)
    {pattern : String} (hne : pattern ≠ "") (hpattern : Number.Standard.read? pattern.toList = none)
    (hfloat : x.IsExact ∨ .percent ∉ Pattern.chosenItems pattern.toList x)
    (hwhole : Pattern.HasWhole (Pattern.chosenItems pattern.toList x)) (numbers : NumberSymbols) (dates : DateSymbols)
    (out : String) :
    let items := Pattern.chosenItems pattern.toList x
    let d := (Pattern.scaled items x).fixed (Pattern.layout items).maxFraction
    ∃ fraction body,
      s.addBuiltin (some pattern) numbers dates out =
          out ++ (Pattern.chosenSign pattern.toList x numbers ++ String.ofList body) ∧
        Pattern.Shows numbers items (Pattern.wholeDigits items d.whole) fraction body ∧
        Pattern.Trimmed (Pattern.layout items).minFraction d.fraction fraction := by
  intro items d
  obtain ⟨fraction, body, htext, hshows, htrimmed⟩ :=
    Pattern.patterned_shows hfinite (inRange_of_number? hx) hfloat hwhole numbers
  refine ⟨fraction, body, ?_, hshows, htrimmed⟩
  rw [addBuiltin_of_number hx, Number.format_patterned hfinite hne hpattern, htext]

theorem addBuiltin_shows_digits_in_second_section :
    let s : Scalar := .decimal ⟨true, 123456789, 4, by decide, by decide⟩
    let x : Number := .decimal ⟨true, 123456789, 4, by decide, by decide⟩
    let pattern := "#,##0.0;(0 000.0##%)"
    let items := Pattern.chosenItems pattern.toList x
    let d := (Pattern.scaled items x).fixed (Pattern.layout items).maxFraction
    (∃ fraction body,
      s.addBuiltin (some pattern) Culture.german.numbers Culture.german.dates "= " =
          "= " ++ (Pattern.chosenSign pattern.toList x Culture.german.numbers ++ String.ofList body) ∧
        Pattern.Shows Culture.german.numbers items (Pattern.wholeDigits items d.whole) fraction body ∧
        Pattern.Trimmed (Pattern.layout items).minFraction d.fraction fraction) ∧
      s.addBuiltin (some pattern) Culture.german.numbers Culture.german.dates "= " = "= (1234 567,89%)" := by
  intro s x pattern items d
  have hitems : Pattern.chosenItems pattern.toList x =
      [.literal ['('], .zero, .literal [' '], .zero, .zero, .zero, .point, .zero, .hash, .hash, .percent,
        .literal [')']] := by decide +kernel
  have hwhole : Pattern.HasWhole (Pattern.chosenItems pattern.toList x) := by
    rw [hitems]
    exact Or.inr (by decide)
  exact ⟨addBuiltin_shows_digits (s := s) (x := x) rfl trivial (by decide) (by decide) (Or.inl trivial) hwhole _ _ _,
    by decide +kernel⟩

end Scalar

end StructuredMessage
