import StructuredMessage.Proofs.Number.Rendition
import StructuredMessage.Proofs.Number.Rounded
import StructuredMessage.Proofs.Number.Ties

namespace StructuredMessage

namespace Numeral

theorem getLast?_padded (width n : Nat) : (padded width n).getLast? = some (n % 10).digitChar := by
  rw [padded, List.leftpad, List.getLast?_append_of_ne_nil _ (digits_ne_nil n), digits_eq_if]
  split
  next hlt => rw [Nat.mod_eq_of_lt hlt, List.getLast?_singleton]
  next => rw [List.getLast?_concat]

theorem length_digits_mono {m n : Nat} (h : m ≤ n) : (digits m).length ≤ (digits n).length := by
  have hpos := List.length_pos_iff.mpr (digits_ne_nil n)
  exact (length_digits_le hpos).mpr (Nat.lt_of_le_of_lt h ((length_digits_le hpos).mp le_rfl))

theorem digits_eq_zero_iff (n : Nat) : digits n = ['0'] ↔ n = 0 := by
  refine ⟨fun h => (digits_all_zero_iff n).mp ?_, fun h => by rw [h, digits_zero]⟩
  rw [h]
  rfl

theorem digitChar_inj {m n : Nat} (hm : m < 10) (hn : n < 10) (h : m.digitChar = n.digitChar) : m = n := by
  have hsmall : ∀ m < 10, ∀ n < 10, m.digitChar = n.digitChar → m = n := by decide
  exact hsmall m hm n hn h

/-- An even number and the next one end in different digits. -/
theorem digitChar_even_ne (n : Nat) : (2 * n % 10).digitChar ≠ ((2 * n + 1) % 10).digitChar := by
  intro h
  have hlast := digitChar_inj (Nat.mod_lt _ (by decide)) (Nat.mod_lt _ (by decide)) h
  omega

theorem digitChar_odd_ne_zero (n : Nat) : ((2 * n + 1) % 10).digitChar ≠ '0' := by
  rw [Ne, Nat.digitChar_eq_zero]
  omega

end Numeral

namespace Decimal

theorem splitDigits_append (n places : Nat) :
    (splitDigits n places).1 ++ (splitDigits n places).2 = Numeral.padded (places + 1) n :=
  List.take_append_drop _ _

theorem splitDigits_whole (n places : Nat) : (splitDigits n places).1 = Numeral.digits (n / tenPow places) := by
  induction places generalizing n with
  | zero =>
    have hone : tenPow 0 = 1 := rfl
    rw [splitDigits_zero, hone, Nat.div_one]
  | succ places ih =>
    have hpow : tenPow (places + 1) = 10 * tenPow places := Nat.pow_succ'
    rw [splitDigits_succ, ih, hpow, Nat.div_div_eq_div_mul]

theorem getLast?_splitDigits_fraction (n : Nat) {places : Nat} (h : 0 < places) :
    (splitDigits n places).2.getLast? = some (n % 10).digitChar := by
  obtain ⟨j, rfl⟩ : ∃ j, places = j + 1 := ⟨places - 1, by omega⟩
  rw [splitDigits_succ, List.getLast?_concat]

end Decimal

namespace Digits

@[simp] theorem ofScaled_negative (negative : Bool) (n places : Nat) : (ofScaled negative n places).negative = negative :=
  rfl

@[simp] theorem ofScaled_whole (negative : Bool) (n places : Nat) :
    (ofScaled negative n places).whole = Numeral.digits (n / tenPow places) :=
  Decimal.splitDigits_whole n places

@[simp] theorem ofScaled_fraction (negative : Bool) (n places : Nat) :
    (ofScaled negative n places).fraction = (Decimal.splitDigits n places).2 :=
  rfl

theorem settled_ofScaled (negative : Bool) (n places : Nat) :
    (ofScaled negative n places).settled = ofScaled (negative && n != 0) n places := by
  have hzero : (ofScaled negative n places).isZero = true ↔ n = 0 := by
    have happend := Decimal.splitDigits_append n places
    simp only [isZero, ofScaled, happend]
    rw [Numeral.padded, List.leftpad, List.all_append, Bool.and_eq_true, Numeral.digits_all_zero_iff]
    simp
  unfold settled
  split
  next h => simp [hzero.mp h, ofScaled]
  next h =>
    have hn : (n != 0) = true := bne_iff_ne.mpr fun hn => h (hzero.mpr hn)
    rw [hn, Bool.and_true]

theorem grouped_ne_nil (separator : List Char) {digits : List Char} (h : digits ≠ []) : grouped separator digits ≠ [] := by
  fun_cases grouped separator digits with
  | case1 => exact absurd rfl h
  | case2 => exact List.cons_ne_nil _ _
  | case3 => exact List.cons_ne_nil _ _
  | case4 => exact List.cons_ne_nil _ _

theorem getLast?_grouped (separator digits : List Char) : (grouped separator digits).getLast? = digits.getLast? := by
  fun_induction grouped separator digits with
  | case1 => rfl
  | case2 => rfl
  | case3 d rest hrest hthird ih =>
    rw [List.getLast?_append_of_ne_nil _ (grouped_ne_nil separator hrest), ih, List.getLast?_cons_of_ne_nil hrest]
  | case4 d rest hrest hthird ih =>
    rw [List.getLast?_cons_of_ne_nil (grouped_ne_nil separator hrest), ih, List.getLast?_cons_of_ne_nil hrest]

theorem length_grouped (separator digits : List Char) :
    (grouped separator digits).length = digits.length + (digits.length - 1) / 3 * separator.length := by
  fun_induction grouped separator digits with
  | case1 => simp
  | case2 => simp
  | case3 d rest hrest hthird ih =>
    have hpos := List.length_pos_iff.mpr hrest
    have hgroups : rest.length / 3 = (rest.length - 1) / 3 + 1 := by omega
    simp only [List.length_append, List.length_cons, ih, Nat.add_sub_cancel, hgroups, Nat.add_mul]
    omega
  | case4 d rest hrest hthird ih =>
    have hgroups : rest.length / 3 = (rest.length - 1) / 3 := by omega
    simp only [List.length_cons, ih, Nat.add_sub_cancel, hgroups]
    omega

theorem length_grouped_mono (separator : List Char) {digits others : List Char} (h : digits.length ≤ others.length) :
    (grouped separator digits).length ≤ (grouped separator others).length := by
  rw [length_grouped, length_grouped]
  gcongr

/-- A text ends in the last digit. -/
theorem getLast?_text {d : Digits} (hwhole : d.whole ≠ []) (isGrouped : Bool) (symbols : NumberSymbols) :
    (d.text isGrouped symbols).toList.getLast? = (d.whole ++ d.fraction).getLast? := by
  have hshown : (if isGrouped then grouped symbols.groupSeparator.toList d.whole else d.whole) ≠ [] ∧
      (if isGrouped then grouped symbols.groupSeparator.toList d.whole else d.whole).getLast? = d.whole.getLast? := by
    split
    next => exact ⟨grouped_ne_nil _ hwhole, getLast?_grouped _ _⟩
    next => exact ⟨hwhole, rfl⟩
  rw [text_eq, tail, String.toList_append, String.toList_append, String.toList_ofList]
  cases hfraction : d.fraction with
  | nil =>
    rw [List.isEmpty_nil, if_pos rfl, String.toList_empty, List.append_nil, List.append_nil,
      List.getLast?_append_of_ne_nil _ hshown.1, hshown.2]
  | cons c fraction =>
    rw [List.isEmpty_cons, if_neg Bool.false_ne_true, String.toList_append, String.toList_ofList,
      ← List.append_assoc, List.getLast?_append_of_ne_nil _ (List.cons_ne_nil c fraction),
      List.getLast?_append_of_ne_nil _ (List.cons_ne_nil c fraction)]

/-- Digits that are rounded to an even number and digits that are rounded to the next one are different texts. -/
theorem text_even_ne (negative isGrouped : Bool) (n k : Nat) (symbols : NumberSymbols) :
    (ofScaled negative (2 * n) k).settled.text isGrouped symbols ≠
      (ofScaled negative (2 * n + 1) k).settled.text isGrouped symbols := by
  have hlast (m : Nat) : ((ofScaled negative m k).settled.text isGrouped symbols).toList.getLast? =
      some (m % 10).digitChar := by
    have hwhole : (ofScaled negative m k).settled.whole ≠ [] := by
      rw [settled_whole]
      exact Decimal.splitDigits_whole_ne_nil m k
    rw [getLast?_text hwhole, settled_whole, settled_fraction, ofScaled, Decimal.splitDigits_append,
      Numeral.getLast?_padded]
  intro h
  have htext := congrArg (·.toList.getLast?) h
  rw [hlast, hlast] at htext
  exact Numeral.digitChar_even_ne n (Option.some.inj htext)

end Digits

namespace Pattern

/-- What stands around the places of a section takes the same room whatever is in them. -/
theorem length_fill (symbols : NumberSymbols) (point : List Char) (items : List PatternItem) (slots : List (List Char)) :
    (fill symbols point items slots).length =
      (fill symbols [] items []).length + (fill symbols point (items.filter isPlace) slots).length := by
  induction items generalizing slots with
  | nil => rfl
  | cons i items ih =>
    have htail := ih slots.tail
    have hsame := ih slots
    cases i with
    | zero =>
      rw [List.filter_cons_of_pos rfl]
      simp only [fill, List.headD_nil, List.tail_nil, List.length_append, List.length_nil]
      omega
    | hash =>
      rw [List.filter_cons_of_pos rfl]
      simp only [fill, List.headD_nil, List.tail_nil, List.length_append, List.length_nil]
      omega
    | point =>
      rw [List.filter_cons_of_pos rfl]
      simp only [fill, List.length_append, List.length_nil]
      omega
    | group =>
      rw [List.filter_cons_of_neg (by decide)]
      exact hsame
    | percent =>
      rw [List.filter_cons_of_neg (by decide)]
      simp only [fill, List.length_append]
      omega
    | literal text =>
      rw [List.filter_cons_of_neg (by simp [isPlace, PatternItem.isDigit])]
      simp only [fill, List.length_append]
      omega

/-- Slots of the same lengths that give the same text have the same in the places. -/
theorem fill_inj {symbols : NumberSymbols} {point other : List Char} (hpoint : point.length = other.length)
    {items : List PatternItem} {slots others : List (List Char)} (hslots : slots.map List.length = others.map List.length)
    (h : fill symbols point items slots = fill symbols other items others) :
    fill symbols point (items.filter isPlace) slots = fill symbols other (items.filter isPlace) others := by
  induction items generalizing slots others with
  | nil => rfl
  | cons i items ih =>
    have hhead : (slots.headD []).length = (others.headD []).length := by
      cases slots <;> cases others <;> simp_all
    have htail : slots.tail.map List.length = others.tail.map List.length := by
      rw [List.map_tail, List.map_tail, hslots]
    cases i with
    | zero =>
      obtain ⟨hfirst, hrest⟩ := List.append_inj h hhead
      rw [List.filter_cons_of_pos rfl, fill, fill, hfirst, ih htail hrest]
    | hash =>
      obtain ⟨hfirst, hrest⟩ := List.append_inj h hhead
      rw [List.filter_cons_of_pos rfl, fill, fill, hfirst, ih htail hrest]
    | point =>
      obtain ⟨hfirst, hrest⟩ := List.append_inj h hpoint
      rw [List.filter_cons_of_pos rfl, fill, fill, ih hslots hrest, hfirst]
    | group =>
      rw [List.filter_cons_of_neg (by decide)]
      exact ih hslots h
    | percent =>
      rw [List.filter_cons_of_neg (by decide)]
      exact ih hslots (List.append_cancel_left h)
    | literal text =>
      rw [List.filter_cons_of_neg (by simp [isPlace, PatternItem.isDigit])]
      exact ih hslots (List.append_cancel_left h)

theorem map_length_wholeSlots (l : Layout) {whole other : List Char} (h : whole.length = other.length) :
    (wholeSlots l whole).map List.length = (wholeSlots l other).map List.length := by
  have hsingle (cs : List Char) : (cs.map ([·])).map List.length = List.replicate cs.length 1 := by
    rw [List.map_map]
    exact List.eq_replicate_iff.mpr ⟨List.length_map _, by simp⟩
  unfold wholeSlots
  rw [h]
  split
  next => rfl
  next =>
    split
    next => simp [h]
    next =>
      split
      next => rw [List.map_append, List.map_append, hsingle, hsingle, h]
      next => rw [List.map_cons, List.map_cons, hsingle, hsingle, List.length_take, List.length_take, List.length_drop,
          List.length_drop, h]

theorem length_trimmedFraction_le {items : List PatternItem} {fraction : List Char}
    (h : fraction.length = (layout items).maxFraction) :
    (trimmedFraction (layout items).minFraction fraction).length ≤ (layout items).maxFraction :=
  h ▸ length_trimmed_le (trimmed_trimmedFraction (h ▸ minFraction_le_maxFraction items))

section Section

variable {items : List PatternItem} (hone : ∀ before after, items = before ++ .point :: after → .point ∉ after)
  (hwhole : HasWhole items) (symbols : NumberSymbols)
include hone hwhole

theorem fill_shown {d : Digits} (hlength : d.fraction.length = (layout items).maxFraction) :
    let whole := wholeText (layout items) symbols.groupSeparator d.whole
    let fraction := trimmedFraction (layout items).minFraction d.fraction
    let separator := if fraction.isEmpty then [] else symbols.decimalSeparator.toList
    fill symbols ((if (layout items).places = 0 then whole else []) ++ separator) (items.filter isPlace)
        (wholeSlots (layout items) whole ++ fraction.map ([·])) = whole ++ (separator ++ fraction) := by
  intro whole fraction separator
  exact fill_places hone hwhole symbols whole separator fraction (length_trimmedFraction_le hlength) fun hnil =>
    if_pos (List.isEmpty_iff.mpr hnil)

theorem length_digitsText {d : Digits} (hlength : d.fraction.length = (layout items).maxFraction) :
    (digitsText items symbols d).length = (fill symbols [] items []).length +
      ((wholeText (layout items) symbols.groupSeparator d.whole).length +
        ((if (trimmedFraction (layout items).minFraction d.fraction).isEmpty then []
            else symbols.decimalSeparator.toList).length +
          (trimmedFraction (layout items).minFraction d.fraction).length)) := by
  rw [digitsText, length_fill, fill_shown hone hwhole symbols hlength]
  simp only [List.length_append]

theorem digitsText_inj {d e : Digits} (hd : d.fraction.length = (layout items).maxFraction)
    (he : e.fraction.length = (layout items).maxFraction)
    (hlength : (wholeText (layout items) symbols.groupSeparator d.whole).length =
      (wholeText (layout items) symbols.groupSeparator e.whole).length)
    (hfraction : (trimmedFraction (layout items).minFraction d.fraction).length =
      (trimmedFraction (layout items).minFraction e.fraction).length)
    (h : digitsText items symbols d = digitsText items symbols e) :
    wholeText (layout items) symbols.groupSeparator d.whole = wholeText (layout items) symbols.groupSeparator e.whole ∧
      trimmedFraction (layout items).minFraction d.fraction = trimmedFraction (layout items).minFraction e.fraction := by
  have hempty : (trimmedFraction (layout items).minFraction d.fraction).isEmpty =
      (trimmedFraction (layout items).minFraction e.fraction).isEmpty := by
    rw [Bool.eq_iff_iff, List.isEmpty_iff_length_eq_zero, List.isEmpty_iff_length_eq_zero, hfraction]
  rw [digitsText, digitsText] at h
  have hbody := fill_inj ?_ ?_ h
  · rw [fill_shown hone hwhole symbols hd, fill_shown hone hwhole symbols he, hempty] at hbody
    obtain ⟨hwholes, hrest⟩ := List.append_inj hbody hlength
    exact ⟨hwholes, List.append_cancel_left hrest⟩
  · rw [hempty]
    split <;> simp [hlength]
  · rw [List.map_append, List.map_append, map_length_wholeSlots _ hlength, List.map_map, List.map_map]
    congr 1
    simp [Function.comp_def, hfraction]

end Section

theorem length_wholeText_mono (l : Layout) (separator : String) {m n : Nat} (h : m ≤ n) :
    (wholeText l separator (Numeral.digits m)).length ≤ (wholeText l separator (Numeral.digits n)).length := by
  have hlength := Numeral.length_digits_mono h
  have hlone : (if Numeral.digits m = ['0'] then [] else Numeral.digits m).length ≤
      (if Numeral.digits n = ['0'] then [] else Numeral.digits n).length := by
    simp only [Numeral.digits_eq_zero_iff]
    split
    next => exact Nat.zero_le _
    next hm => rwa [if_neg (by omega)]
  have hpadded : ((if Numeral.digits m = ['0'] then [] else Numeral.digits m).leftpad l.minWhole '0').length ≤
      ((if Numeral.digits n = ['0'] then [] else Numeral.digits n).leftpad l.minWhole '0').length := by
    rw [List.length_leftpad, List.length_leftpad]
    omega
  unfold wholeText
  dsimp only
  split
  next => exact Digits.length_grouped_mono _ hpadded
  next => exact hpadded

theorem getLast?_wholeText (l : Layout) (separator : String) {n : Nat} (hne : wholeText l separator (Numeral.digits n) ≠ []) :
    (wholeText l separator (Numeral.digits n)).getLast? = some (n % 10).digitChar := by
  have hpadded (hne : (if Numeral.digits n = ['0'] then [] else Numeral.digits n).leftpad l.minWhole '0' ≠ []) :
      ((if Numeral.digits n = ['0'] then [] else Numeral.digits n).leftpad l.minWhole '0').getLast? =
        some (n % 10).digitChar := by
    by_cases hzero : Numeral.digits n = ['0']
    · rw [if_pos hzero, List.leftpad, List.append_nil, List.length_nil, Nat.sub_zero] at hne ⊢
      rw [(Numeral.digits_eq_zero_iff n).mp hzero, List.getLast?_replicate, if_neg fun h => hne (by rw [h, List.replicate_zero])]
      rfl
    · rw [if_neg hzero]
      exact Numeral.getLast?_padded _ _
  unfold wholeText at hne ⊢
  dsimp only at hne ⊢
  split at hne
  next hgrouped =>
    rw [if_pos hgrouped, Digits.getLast?_grouped]
    exact hpadded fun hnil => hne (by rw [hnil, Digits.grouped])
  next hgrouped =>
    rw [if_neg hgrouped]
    exact hpadded hne

theorem wholeText_ne_nil (l : Layout) (separator : String) {n : Nat} (hn : n ≠ 0) :
    wholeText l separator (Numeral.digits n) ≠ [] := by
  have hpadded : (Numeral.digits n).leftpad l.minWhole '0' ≠ [] :=
    List.append_ne_nil_of_right_ne_nil _ (Numeral.digits_ne_nil n)
  unfold wholeText
  dsimp only
  rw [if_neg fun h => hn ((Numeral.digits_eq_zero_iff n).mp h)]
  split
  next => exact Digits.grouped_ne_nil _ hpadded
  next => exact hpadded

theorem trimmedFraction_of_getLast? {minimum : Nat} {fraction : List Char} (h : minimum ≤ fraction.length)
    (hlast : fraction.getLast? ≠ some '0') : trimmedFraction minimum fraction = fraction := by
  obtain ⟨⟨n, hzeros⟩, -⟩ := trimmed_trimmedFraction h
  cases n with
  | zero =>
    rw [List.replicate_zero, List.append_nil] at hzeros
    exact hzeros.symm
  | succ n =>
    rw [hzeros, List.replicate_succ', ← List.append_assoc, List.getLast?_concat] at hlast
    exact absurd rfl hlast

/-- With no places behind the point the last whole digits differ. -/
theorem wholeText_even_ne (l : Layout) (separator : String) (n : Nat) :
    wholeText l separator (Numeral.digits (2 * n)) ≠ wholeText l separator (Numeral.digits (2 * n + 1)) := by
  intro h
  have hne := wholeText_ne_nil l separator (Nat.succ_ne_zero (2 * n))
  have hends := congrArg List.getLast? h
  rw [getLast?_wholeText _ _ hne, getLast?_wholeText _ _ (h ▸ hne)] at hends
  exact Numeral.digitChar_even_ne n (Option.some.inj hends)

/-- An odd last digit is no zero, so that nothing is trimmed. -/
theorem trimmedFraction_odd (items : List PatternItem) (n : Nat) :
    trimmedFraction (layout items).minFraction (Decimal.splitDigits (2 * n + 1) (layout items).maxFraction).2 =
      (Decimal.splitDigits (2 * n + 1) (layout items).maxFraction).2 := by
  have hlength := Decimal.length_splitDigits_fraction (2 * n + 1) (layout items).maxFraction
  refine trimmedFraction_of_getLast? ((minFraction_le_maxFraction items).trans_eq hlength.symm) ?_
  rcases Nat.eq_zero_or_pos (layout items).maxFraction with hnone | hplaces
  · rw [hnone, Decimal.splitDigits_zero]
    simp
  · rw [Decimal.getLast?_splitDigits_fraction _ hplaces, Ne, Option.some.injEq]
    exact Numeral.digitChar_odd_ne_zero n

theorem trimmedFraction_even_ne {items : List PatternItem} (hplaces : 0 < (layout items).maxFraction) (n : Nat) :
    trimmedFraction (layout items).minFraction (Decimal.splitDigits (2 * n) (layout items).maxFraction).2 ≠
      trimmedFraction (layout items).minFraction (Decimal.splitDigits (2 * n + 1) (layout items).maxFraction).2 := by
  have hlength (m : Nat) := Decimal.length_splitDigits_fraction m (layout items).maxFraction
  obtain ⟨⟨zeros, hzeros⟩, -⟩ :=
    trimmed_trimmedFraction ((minFraction_le_maxFraction items).trans_eq (hlength (2 * n)).symm)
  intro h
  rw [h, trimmedFraction_odd] at hzeros
  have hall := congrArg List.length hzeros
  rw [List.length_append, hlength, hlength, List.length_replicate] at hall
  have hnone : zeros = 0 := by omega
  rw [hnone, List.replicate_zero, List.append_nil] at hzeros
  have hends := congrArg List.getLast? hzeros
  rw [Decimal.getLast?_splitDigits_fraction _ hplaces, Decimal.getLast?_splitDigits_fraction _ hplaces] at hends
  exact Numeral.digitChar_even_ne n (Option.some.inj hends)

end Pattern

namespace Rendition

section Placed

open Pattern

variable {items : List PatternItem} (hone : ∀ before after, items = before ++ .point :: after → .point ∉ after)
  (hwhole : HasWhole items) {signShown : Bool} {symbols : NumberSymbols}
include hone hwhole

/-- Where no part of one text is longer than the same part of another, equal texts show the same digits. -/
theorem placed_inj {d e : Digits} (hd : d.fraction.length = (layout items).maxFraction)
    (he : e.fraction.length = (layout items).maxFraction) (hnegative : d.negative = true → e.negative = true)
    (hwholes : (wholeText (layout items) symbols.groupSeparator d.whole).length ≤
      (wholeText (layout items) symbols.groupSeparator e.whole).length)
    (hfractions : (trimmedFraction (layout items).minFraction d.fraction).length ≤
      (trimmedFraction (layout items).minFraction e.fraction).length)
    (h : (placed items d signShown).text symbols = (placed items e signShown).text symbols) :
    wholeText (layout items) symbols.groupSeparator d.whole = wholeText (layout items) symbols.groupSeparator e.whole ∧
      trimmedFraction (layout items).minFraction d.fraction = trimmedFraction (layout items).minFraction e.fraction := by
  have hsign : (if d.negative && !signShown then symbols.negativeSign else "").toList.length ≤
      (if e.negative && !signShown then symbols.negativeSign else "").toList.length := by
    split
    next hshown =>
      rw [Bool.and_eq_true] at hshown
      rw [hnegative hshown.1, hshown.2, Bool.and_true, if_pos rfl]
    next => exact Nat.zero_le _
  have hseparator : (if (trimmedFraction (layout items).minFraction d.fraction).isEmpty then []
        else symbols.decimalSeparator.toList).length ≤
      (if (trimmedFraction (layout items).minFraction e.fraction).isEmpty then []
        else symbols.decimalSeparator.toList).length := by
    simp only [List.isEmpty_iff_length_eq_zero]
    split
    next => exact Nat.zero_le _
    next hsome => rw [if_neg (by omega)]
  have hdlength := length_digitsText hone hwhole symbols hd
  have helength := length_digitsText hone hwhole symbols he
  have htexts := congrArg String.toList h
  simp only [text, String.toList_append, String.toList_ofList] at htexts
  have hlengths := congrArg List.length htexts
  rw [List.length_append, List.length_append] at hlengths
  obtain ⟨-, hdigits⟩ := List.append_inj' htexts (by omega)
  exact digitsText_inj hone hwhole symbols hd he (by omega) (by omega) hdigits

/-- In a section too, since the greater number never takes less room. -/
theorem placed_even_ne (negative : Bool) (n : Nat) :
    (placed items (Digits.ofScaled negative (2 * n) (layout items).maxFraction).settled signShown).text symbols ≠
      (placed items (Digits.ofScaled negative (2 * n + 1) (layout items).maxFraction).settled signShown).text symbols := by
  have hlength (m : Nat) := Decimal.length_splitDigits_fraction m (layout items).maxFraction
  have hnegative (hd : (negative && 2 * n != 0) = true) : (negative && 2 * n + 1 != 0) = true := by
    simpa using (Bool.and_eq_true_iff.mp hd).1
  have hgrowth := length_wholeText_mono (layout items) symbols.groupSeparator
    (Nat.div_le_div_right (Nat.le_succ (2 * n)) (c := tenPow (layout items).maxFraction))
  have hfractions := (length_trimmedFraction_le (hlength (2 * n))).trans_eq (hlength (2 * n + 1)).symm
  rw [← trimmedFraction_odd] at hfractions
  rw [Digits.settled_ofScaled, Digits.settled_ofScaled]
  intro h
  obtain ⟨hwholes, hsame⟩ := placed_inj hone hwhole (hlength _) (hlength _) hnegative (by simpa using hgrowth) hfractions h
  rw [Digits.ofScaled_whole, Digits.ofScaled_whole] at hwholes
  rw [Digits.ofScaled_fraction, Digits.ofScaled_fraction] at hsame
  rcases Nat.eq_zero_or_pos (layout items).maxFraction with hnone | hplaces
  · have hunit : tenPow 0 = 1 := rfl
    rw [hnone, hunit, Nat.div_one, Nat.div_one] at hwholes
    exact wholeText_even_ne _ _ n hwholes
  · exact trimmedFraction_even_ne hplaces n hsame

end Placed

end Rendition

end StructuredMessage
