import StructuredMessage.Number.Pattern
import StructuredMessage.Proofs.Number.Fixed
import StructuredMessage.Proofs.Text.Spans

namespace StructuredMessage

namespace Pattern

/-- A pattern without semicolons is one section. -/
theorem sectionsFrom_of_not_mem (q : Quoting) {cs : List Char} (h : ';' ∉ cs) : sectionsFrom q cs = [cs] := by
  induction cs generalizing q with
  | nil => rfl
  | cons c cs ih =>
    have hc : c ≠ ';' := fun he => h (he ▸ List.mem_cons_self)
    have hcs : ';' ∉ cs := fun hmem => h (List.mem_cons_of_mem c hmem)
    rw [sectionsFrom, if_neg fun hq => hc hq.2, ih _ hcs]

theorem choose_single (section_ : List Char) (x : Number) : choose [section_] x = (section_, false) := by
  simp [choose]

theorem itemsFrom_zeros (seen : Bool) (k : Nat) :
    itemsFrom seen (List.replicate k '0') = List.replicate k .zero := by
  induction k with
  | zero => rw [List.replicate_zero, itemsFrom, List.replicate_zero]
  | succ k ih => rw [List.replicate_succ, itemsFrom, ih, List.replicate_succ]

/-- The places behind the point; where there are none there is no point. -/
def fractionPlaces (k : Nat) : List Char :=
  if k = 0 then [] else '.' :: List.replicate k '0'

def fractionItems (k : Nat) : List PatternItem :=
  if k = 0 then [] else .point :: List.replicate k .zero

theorem itemsFrom_fractionPlaces (k : Nat) : itemsFrom false (fractionPlaces k) = fractionItems k := by
  unfold fractionPlaces fractionItems
  split
  next => rw [itemsFrom]
  next => rw [itemsFrom, if_neg Bool.false_ne_true, itemsFrom_zeros]

theorem isDigit_or_group_of_mem_zeros {k : Nat} : ∀ i ∈ List.replicate k PatternItem.zero, i.isDigit ∨ i = .group := by
  intro i hi
  rw [List.eq_of_mem_replicate hi]
  exact Or.inl rfl

theorem filter_zeros (k : Nat) : (List.replicate k PatternItem.zero).filter (·.isDigit) = List.replicate k .zero :=
  List.filter_replicate_of_pos rfl

theorem fractionItems_digits (k : Nat) : (fractionItems k).filter (·.isDigit) = List.replicate k .zero := by
  unfold fractionItems
  split
  next h => rw [h, List.filter_nil, List.replicate_zero]
  next => rw [List.filter_cons_of_neg (by decide), filter_zeros]

theorem dropWhile_zeros (k : Nat) :
    (List.replicate k PatternItem.zero).dropWhile (· ≠ .zero) = List.replicate k .zero := by
  cases k with
  | zero => rfl
  | succ k => rw [List.replicate_succ, List.dropWhile_cons_of_neg (by decide)]

section Plain

variable {before : List PatternItem} (hbefore : ∀ i ∈ before, i.isDigit ∨ i = .group)
include hbefore

/-- A section of digit places and group marks, and zeros behind its point, asks for as many digits as it has
places. -/
theorem layout_plain (k : Nat) :
    layout (before ++ fractionItems k) =
      { places := (before.filter (·.isDigit)).length
        minWhole := ((before.filter (·.isDigit)).dropWhile (· ≠ .zero)).length
        grouped := hasGrouping before
        maxFraction := k
        minFraction := k } := by
  have hno : ∀ i ∈ before, decide (i ≠ .point) = true := by
    intro i hi
    rcases hbefore i hi with hd | rfl
    · refine decide_eq_true fun he => ?_
      rw [he] at hd
      exact absurd hd (by decide)
    · rfl
  have hpoint : ∀ i ∈ (fractionItems k).head?, ¬decide (i ≠ .point) = true := by
    intro i hi
    unfold fractionItems at hi
    split at hi
    next => simp at hi
    next =>
      obtain rfl : PatternItem.point = i := by simpa using hi
      decide
  simp only [layout, halves, takeWhile_exact hno hpoint, dropWhile_exact hno hpoint, fractionItems_digits,
    List.reverse_replicate, dropWhile_zeros, List.length_replicate]

theorem contains_percent_plain (k : Nat) : (before ++ fractionItems k).contains .percent = false := by
  rw [List.contains_eq_mem, decide_eq_false_iff_not, List.mem_append]
  rintro (hmem | hmem)
  · rcases hbefore _ hmem with hd | hg
    · exact absurd hd (by decide)
    · exact absurd hg (by decide)
  · unfold fractionItems at hmem
    split at hmem
    next => simp at hmem
    next => simp at hmem

/-- The places of a section take one slot each. -/
theorem fill_plain (symbols : NumberSymbols) (point : List Char) (items : List PatternItem)
    (slots : List (List Char)) :
    fill symbols point (before ++ items) slots =
      (slots.take (before.filter (·.isDigit)).length).flatten ++
        fill symbols point items (slots.drop (before.filter (·.isDigit)).length) := by
  induction before generalizing slots with
  | nil => simp
  | cons i before ih =>
    have hrest := ih fun j hj => hbefore j (List.mem_cons_of_mem i hj)
    have hi := hbefore i List.mem_cons_self
    cases i with
    | group => simpa [fill, PatternItem.isDigit] using hrest slots
    | zero => cases slots <;> simp [fill, PatternItem.isDigit, hrest]
    | hash => cases slots <;> simp [fill, PatternItem.isDigit, hrest]
    | point => simp [PatternItem.isDigit] at hi
    | percent => simp [PatternItem.isDigit] at hi
    | literal text => simp [PatternItem.isDigit] at hi

end Plain

theorem length_wholeSlots (l : Layout) (whole : List Char) : (wholeSlots l whole).length = l.places := by
  unfold wholeSlots
  split
  next h => simp [h]
  next h =>
    split
    next =>
      simp only [List.length_cons, List.length_replicate]
      omega
    next =>
      split
      next hle =>
        simp only [List.length_append, List.length_replicate, List.length_map]
        omega
      next hlt =>
        simp only [List.length_cons, List.length_map, List.length_drop]
        omega

theorem flatten_singletons (cs : List Char) : (cs.map ([·])).flatten = cs := by
  rw [← List.flatMap_def, List.flatMap_singleton']

/-- Dealing the whole digits out to the places keeps all of them in order. -/
theorem flatten_wholeSlots {l : Layout} (h : 0 < l.places) (whole : List Char) :
    (wholeSlots l whole).flatten = whole := by
  unfold wholeSlots
  rw [if_neg (Nat.ne_of_gt h)]
  split
  next => rw [List.flatten_cons, List.flatten_replicate_nil, List.append_nil]
  next =>
    split
    next => rw [List.flatten_append, List.flatten_replicate_nil, List.nil_append, flatten_singletons]
    next => rw [List.flatten_cons, flatten_singletons, List.take_append_drop]

theorem trimmedFraction_of_length {k : Nat} {fraction : List Char} (h : fraction.length = k) :
    trimmedFraction k fraction = fraction := by
  rw [trimmedFraction, List.take_of_length_le (Nat.le_of_eq h), List.drop_of_length_le (Nat.le_of_eq h)]
  exact List.append_nil fraction

theorem fill_fractionItems (symbols : NumberSymbols) (point fraction : List Char) :
    fill symbols point (fractionItems fraction.length) (fraction.map ([·])) =
      if fraction.isEmpty then [] else point ++ fraction := by
  cases fraction with
  | nil => rfl
  | cons c fraction =>
    have hfill := fill_plain (isDigit_or_group_of_mem_zeros (k := (c :: fraction).length)) symbols point []
      ((c :: fraction).map ([·]))
    rw [List.append_nil, filter_zeros, List.length_replicate, List.take_of_length_le (by simp), flatten_singletons] at hfill
    simp only [fractionItems, List.length_cons, Nat.add_one_ne_zero, if_false, fill, List.isEmpty_cons,
      Bool.false_eq_true]
    rw [← List.length_cons, hfill, fill, List.append_nil]

/-- A lone zero is written again where at least one digit has to be. -/
theorem wholeText_of_pos {l : Layout} (h : 0 < l.minWhole) (separator : String) (whole : List Char) :
    wholeText l separator whole =
      if l.grouped then Digits.grouped separator.toList (whole.leftpad l.minWhole '0')
      else whole.leftpad l.minWhole '0' := by
  have hpad : (if whole = ['0'] then [] else whole).leftpad l.minWhole '0' = whole.leftpad l.minWhole '0' := by
    split
    next hlone =>
      obtain ⟨m, hm⟩ : ∃ m, l.minWhole = m + 1 := ⟨l.minWhole - 1, by omega⟩
      rw [hlone, hm, List.leftpad, List.leftpad, List.append_nil, List.length_nil, Nat.sub_zero,
        List.replicate_succ']
      rfl
    next => rfl
  rw [wholeText]
  simp only [hpad]

/-- A section of digit places and group marks, and zeros behind its point, shows all digits of a number that has as
many of them behind the point. -/
theorem digitsText_plain {before : List PatternItem} (hbefore : ∀ i ∈ before, i.isDigit ∨ i = .group)
    (hplace : 0 < (before.filter (·.isDigit)).length) (symbols : NumberSymbols) (d : Digits) :
    digitsText (before ++ fractionItems d.fraction.length) symbols d =
      wholeText (layout (before ++ fractionItems d.fraction.length)) symbols.groupSeparator d.whole ++
        if d.fraction.isEmpty then [] else symbols.decimalSeparator.toList ++ d.fraction := by
  have hlayout := layout_plain hbefore d.fraction.length
  have hplaces : (layout (before ++ fractionItems d.fraction.length)).places = (before.filter (·.isDigit)).length := by
    rw [hlayout]
  have hminimum : (layout (before ++ fractionItems d.fraction.length)).minFraction = d.fraction.length := by
    rw [hlayout]
  rw [digitsText]
  generalize layout (before ++ fractionItems d.fraction.length) = l at hplaces hminimum ⊢
  have hpos : l.places ≠ 0 := by omega
  simp only [hminimum, trimmedFraction_of_length rfl, if_neg hpos, List.nil_append]
  rw [fill_plain hbefore, ← hplaces, List.take_left' (length_wholeSlots l _), List.drop_left' (length_wholeSlots l _),
    flatten_wholeSlots (Nat.pos_of_ne_zero hpos), fill_fractionItems]
  split <;> rfl

end Pattern

namespace Number

/-- A number in a pattern that is one section of digit places and group marks, and zeros behind its point. -/
theorem patterned_plain {x : Number} (hx : x.IsFinite) {pattern : List Char} {before : List PatternItem} {k m : Nat}
    (hsection : ';' ∉ pattern) (hitems : Pattern.items pattern = before ++ Pattern.fractionItems k)
    (hbefore : ∀ i ∈ before, i.isDigit ∨ i = .group)
    (hm : ((before.filter (·.isDigit)).dropWhile (· ≠ .zero)).length = m) (hpos : 0 < m) (symbols : NumberSymbols) :
    x.patterned pattern symbols =
      Digits.text ⟨(x.fixed k).negative, (x.fixed k).whole.leftpad m '0', (x.fixed k).fraction⟩
        (Pattern.hasGrouping before) symbols := by
  have hlayout := Pattern.layout_plain hbefore k
  have hmax : (Pattern.layout (before ++ Pattern.fractionItems k)).maxFraction = k := by rw [hlayout]
  have hminimum : (Pattern.layout (before ++ Pattern.fractionItems k)).minWhole = m := by rw [hlayout, ← hm]
  have hgrouped : (Pattern.layout (before ++ Pattern.fractionItems k)).grouped = Pattern.hasGrouping before := by
    rw [hlayout]
  have hplace : 0 < (before.filter (·.isDigit)).length :=
    Nat.lt_of_lt_of_le (hm ▸ hpos) (List.dropWhile_sublist _).length_le
  obtain ⟨-, hfraction⟩ := fixed_shape hx k
  have hdigits := Pattern.digitsText_plain hbefore hplace symbols (x.fixed k)
  rw [hfraction, Pattern.wholeText_of_pos (hminimum ▸ hpos), hminimum, hgrouped] at hdigits
  have hsections : Pattern.sections pattern = [pattern] := Pattern.sectionsFrom_of_not_mem .bare hsection
  simp only [patterned, hsections, Pattern.choose_single, hitems, Pattern.contains_percent_plain hbefore,
    Bool.false_eq_true, if_false, hmax, hdigits, Bool.not_false, Bool.and_true, Digits.text]
  rw [String.ofList_append, ← String.append_assoc]
  congr 1
  split
  next => rfl
  next => rw [String.ofList_append, String.ofList_toList]

end Number

end StructuredMessage
