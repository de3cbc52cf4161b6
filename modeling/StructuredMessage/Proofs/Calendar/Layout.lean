import Mathlib.Tactic.SplitIfs
import StructuredMessage.Calendar.Format
import StructuredMessage.Proofs.Text.Edit

namespace StructuredMessage

namespace DatePattern

variable (m : Moment) (offset : Option Int) (dates : DateSymbols)

/-- Whether the item is a short fraction that shows no digit. -/
def isBlankFraction (item : DateItem) : Bool :=
  match item with
  | .field .shortFraction run =>
    (Numeral.withoutTrailingZeros ((Numeral.padded 9 m.time.fraction).take (min run 7))).isEmpty
  | _ => false

/-- A short fraction without digits takes back one point, and every other item only adds. -/
def itemEdit (item : DateItem) : Edit :=
  if isBlankFraction m item then ⟨1, ""⟩ else .write (addItem m offset dates "" item)

theorem addShortFraction_blank {digits : List Char} (h : (Numeral.withoutTrailingZeros digits).isEmpty)
    (out : String) : addShortFraction out digits = Text.takePoint out := by
  simp [addShortFraction, h, Text.takePoint, Text.endsInPoint]

theorem addItem_of_not_blank {item : DateItem} (h : isBlankFraction m item = false) (out : String) :
    addItem m offset dates out item = out ++ addItem m offset dates "" item := by
  cases item with
  | timeSeparator => simp [addItem]
  | dateSeparator => simp [addItem]
  | literal text => simp [addItem]
  | field kind run =>
    cases kind with
    | shortFraction =>
      simp only [isBlankFraction] at h
      simp [addItem, addShortFraction, h]
    | day => simp only [addItem]; split_ifs <;> simp
    | month => simp only [addItem]; split_ifs <;> simp
    | year => simp only [addItem]; split_ifs <;> simp
    | designator => simp only [addItem]; split_ifs <;> simp
    | zone => cases offset <;> simp [addItem]
    | clockHour | hour | minute | second | fraction | offset | era => simp [addItem]

theorem addItem_eq_apply (item : DateItem) (out : String) :
    addItem m offset dates out item = (itemEdit m offset dates item).apply out := by
  unfold itemEdit
  split
  next h =>
    cases item with
    | field kind run =>
      cases kind with
      | shortFraction =>
        simp only [isBlankFraction] at h
        rw [addItem, addShortFraction_blank h]
        simp [Edit.apply, Text.takePoints]
      | _ => simp [isBlankFraction] at h
    | _ => simp [isBlankFraction] at h
  next h => exact addItem_of_not_blank m offset dates (by simpa using h) out

/-- What a whole pattern does. -/
def edit (pattern : String) : Edit :=
  .all ((items pattern.toList).map (itemEdit m offset dates))

theorem foldl_addItem (items : List DateItem) (out : String) :
    items.foldl (addItem m offset dates) out =
      (Edit.all (items.map (itemEdit m offset dates))).apply out := by
  rw [Edit.apply_all, List.foldl_map]
  congr 1
  funext out item
  exact addItem_eq_apply m offset dates item out

theorem add_eq_apply (pattern : String) (out : String) :
    add pattern m offset dates out = (edit m offset dates pattern).apply out :=
  foldl_addItem m offset dates (items pattern.toList) out

/-- A pattern takes a point from what stands before it iff it comes to a short fraction without digits while it
has nothing written of its own. -/
theorem back_edit_eq_zero_iff (pattern : String) :
    (edit m offset dates pattern).back = 0 ↔
      ∀ before item after, items pattern.toList = before ++ item :: after →
        isBlankFraction m item → before.foldl (addItem m offset dates) "" ≠ "" := by
  rw [edit, Edit.back_all_eq_zero_iff]
  constructor
  · intro h before item after hitems hblank
    have hedit := h (before.map (itemEdit m offset dates)) (itemEdit m offset dates item)
      (after.map (itemEdit m offset dates)) (by rw [hitems, List.map_append, List.map_cons])
    rw [itemEdit, if_pos hblank, Text.excess_one_eq_zero_iff] at hedit
    rwa [foldl_addItem, Edit.apply_empty]
  · intro h before e after hedits
    obtain ⟨front, back, hitems, rfl, hback⟩ := List.map_eq_append_iff.mp hedits
    obtain ⟨item, tail, rfl, rfl, -⟩ := List.map_eq_cons_iff.mp hback
    unfold itemEdit
    split
    next hblank =>
      rw [Text.excess_one_eq_zero_iff, ← Edit.apply_empty]
      have hwritten := h front item tail hitems hblank
      rwa [foldl_addItem] at hwritten
    next => exact Text.excess_zero _

end DatePattern

/-- A date pattern together with what it is filled from. -/
structure DateLayout where
  pattern : String
  moment : Moment
  offset : Option Int
  dates : DateSymbols

namespace DateLayout

def add (l : DateLayout) (out : String) : String :=
  DatePattern.add l.pattern l.moment l.offset l.dates out

/-- The number of points that the layout can take from what stands before it. -/
def back (l : DateLayout) : Nat :=
  (DatePattern.edit l.moment l.offset l.dates l.pattern).back

theorem takesBack_add (l : DateLayout) : Edit.TakesBack l.back l.add := by
  have hadd : l.add = (DatePattern.edit l.moment l.offset l.dates l.pattern).apply := by
    funext out
    exact DatePattern.add_eq_apply l.moment l.offset l.dates l.pattern out
  rw [hadd]
  exact Edit.takesBack_apply _

end DateLayout

/-- What a standard format writes: universal time takes the offset off, and a format for all cultures has
symbols of its own. -/
def StandardDate.layout (s : StandardDate) (m : Moment) (offset : Option Int) (dates : DateSymbols) :
    DateLayout :=
  let dates := if s.neutral then {} else dates
  match offset with
  | some seconds =>
    if s.universal then ⟨s.pattern, (m.earlier? seconds).getD m, none, dates⟩
    else ⟨s.pattern, m, offset, dates⟩
  | none => ⟨s.pattern, m, offset, dates⟩

theorem StandardDate.add_eq_layout (s : StandardDate) (m : Moment) (offset : Option Int)
    (dates : DateSymbols) : s.add m offset dates = (s.layout m offset dates).add := by
  funext out
  unfold StandardDate.add StandardDate.layout
  cases offset with
  | none => rfl
  | some seconds =>
    by_cases h : s.universal
    · simp only [h, if_true, DateLayout.add]
    · simp only [h, DateLayout.add]
      rfl

namespace Moment

variable (m : Moment) (offset : Option Int) (usual : Char) (dates : DateSymbols)

def usualLayout? : Option DateLayout :=
  (StandardDate.ofLetter? dates usual).map fun s => s.layout m offset dates

/-- The date pattern that a format comes down to. A percent pattern that can be read comes down to none. -/
def layout? (format : Option String) : Option DateLayout :=
  let pattern := format.getD ""
  match pattern.toList with
  | [] => m.usualLayout? offset usual dates
  | first :: rest =>
    if '%' ∈ first :: rest then
      if (Directive.format? pattern m offset).isSome then none else m.usualLayout? offset usual dates
    else if rest.isEmpty then
      match StandardDate.ofLetter? dates first with
      | some standard => some (standard.layout m offset dates)
      | none => m.usualLayout? offset usual dates
    else some ⟨pattern, m, offset, dates⟩

/-- The number of points that a format can take from what stands before the moment. -/
def back (format : Option String) : Nat :=
  ((m.layout? offset usual dates format).map DateLayout.back).getD 0

theorem takesBack_addUsual :
    Edit.TakesBack (((m.usualLayout? offset usual dates).map DateLayout.back).getD 0)
      (m.addUsual offset usual dates) := by
  unfold usualLayout? addUsual
  cases StandardDate.ofLetter? dates usual with
  | none =>
    cases offset with
    | none => exact fun out => (String.append_empty ..).symm
    | some seconds =>
      have hblank : Edit.TakesBack 0 fun out : String => out ++ " " := .of_append " "
      exact hblank.append _
  | some standard =>
    have hstandard := (standard.layout m offset dates).takesBack_add
    rw [← StandardDate.add_eq_layout] at hstandard
    cases offset with
    | none => exact hstandard
    | some seconds => exact (hstandard.append " ").append _

theorem takesBack_add (format : Option String) :
    Edit.TakesBack (m.back offset usual dates format) (m.add offset format usual dates) := by
  have husual := m.takesBack_addUsual offset usual dates
  unfold back layout? Moment.add
  dsimp only
  cases (format.getD "").toList with
  | nil => exact husual
  | cons first rest =>
    by_cases hpercent : '%' ∈ first :: rest
    · simp only [if_pos hpercent]
      cases Directive.format? (format.getD "") m offset with
      | none => exact husual
      | some text => exact .of_append text
    · simp only [if_neg hpercent]
      by_cases hone : rest.isEmpty
      · simp only [if_pos hone]
        cases StandardDate.ofLetter? dates first with
        | none => exact husual
        | some standard =>
          have hstandard := (standard.layout m offset dates).takesBack_add
          rwa [← StandardDate.add_eq_layout] at hstandard
      · simp only [if_neg hone]
        exact (DateLayout.mk (format.getD "") m offset dates).takesBack_add

end Moment

end StructuredMessage
