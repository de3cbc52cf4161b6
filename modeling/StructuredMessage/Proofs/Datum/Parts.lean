import StructuredMessage.Datum.Basic

namespace StructuredMessage

namespace Scalar

def text? : Scalar → Option String
  | text value => some value
  | _ => none

theorem text?_eq_some_iff {value : Scalar} {t : String} : value.text? = some t ↔ value = text t := by
  cases value <;> simp [text?]

end Scalar

namespace Datum

/-- The items, the values of the entries or the values of the properties. -/
def children : Datum → List Datum
  | scalar _ => []
  | sequence items => items
  | dictionary entries => entries.map Prod.snd
  | record _ properties => properties.map Prod.snd

mutual

/-- How deep a captured value is nested: a scalar not at all, everything else one level more than what it
contains. -/
def nesting : Datum → Nat
  | scalar _ => 0
  | sequence items => 1 + itemsNesting items
  | dictionary entries => 1 + entriesNesting entries
  | record _ properties => 1 + propertiesNesting properties

def itemsNesting : List Datum → Nat
  | [] => 0
  | item :: rest => max item.nesting (itemsNesting rest)

def entriesNesting : List (Scalar × Datum) → Nat
  | [] => 0
  | (_, value) :: rest => max value.nesting (entriesNesting rest)

def propertiesNesting : List (String × Datum) → Nat
  | [] => 0
  | (_, value) :: rest => max value.nesting (propertiesNesting rest)

end

mutual

/-- All texts in a captured value, the keys of dictionaries included. -/
def texts : Datum → List String
  | scalar value => value.text?.toList
  | sequence items => itemsTexts items
  | dictionary entries => entriesTexts entries
  | record _ properties => propertiesTexts properties

def itemsTexts : List Datum → List String
  | [] => []
  | item :: rest => item.texts ++ itemsTexts rest

def entriesTexts : List (Scalar × Datum) → List String
  | [] => []
  | (key, value) :: rest => key.text?.toList ++ value.texts ++ entriesTexts rest

def propertiesTexts : List (String × Datum) → List String
  | [] => []
  | (_, value) :: rest => value.texts ++ propertiesTexts rest

end

theorem entriesNesting_eq (entries : List (Scalar × Datum)) :
    entriesNesting entries = itemsNesting (entries.map Prod.snd) := by
  induction entries with
  | nil => rfl
  | cons e rest ih => rw [List.map_cons, itemsNesting, entriesNesting, ih]

theorem propertiesNesting_eq (properties : List (String × Datum)) :
    propertiesNesting properties = itemsNesting (properties.map Prod.snd) := by
  induction properties with
  | nil => rfl
  | cons p rest ih => rw [List.map_cons, itemsNesting, propertiesNesting, ih]

theorem itemsNesting_le_iff {items : List Datum} {n : Nat} :
    itemsNesting items ≤ n ↔ ∀ d ∈ items, d.nesting ≤ n := by
  induction items with
  | nil => simp [itemsNesting]
  | cons item rest ih => rw [itemsNesting, Nat.max_le, ih, List.forall_mem_cons]

@[simp] theorem nesting_scalar (value : Scalar) : (scalar value).nesting = 0 := rfl

theorem nesting_le_succ_iff {d : Datum} {n : Nat} :
    d.nesting ≤ n + 1 ↔ ∀ c ∈ d.children, c.nesting ≤ n := by
  cases d with
  | scalar value => simp [children]
  | sequence items => rw [nesting, children, ← itemsNesting_le_iff]; omega
  | dictionary entries => rw [nesting, children, entriesNesting_eq, ← itemsNesting_le_iff]; omega
  | record tag properties => rw [nesting, children, propertiesNesting_eq, ← itemsNesting_le_iff]; omega

theorem nesting_lt_of_mem_children {d c : Datum} (h : c ∈ d.children) : c.nesting < d.nesting := by
  have hpos : 0 < d.nesting := by
    cases d with
    | scalar value => simp [children] at h
    | sequence items => rw [nesting]; omega
    | dictionary entries => rw [nesting]; omega
    | record tag properties => rw [nesting]; omega
  have hc := nesting_le_succ_iff.mp (show d.nesting ≤ d.nesting - 1 + 1 by omega) c h
  omega

theorem mem_itemsTexts_iff {items : List Datum} {t : String} :
    t ∈ itemsTexts items ↔ ∃ d ∈ items, t ∈ d.texts := by
  induction items with
  | nil => simp [itemsTexts]
  | cons item rest ih => simp [itemsTexts, ih]

theorem mem_entriesTexts_iff {entries : List (Scalar × Datum)} {t : String} :
    t ∈ entriesTexts entries ↔
      .text t ∈ entries.map Prod.fst ∨ ∃ d ∈ entries.map Prod.snd, t ∈ d.texts := by
  induction entries with
  | nil => simp [entriesTexts]
  | cons e rest ih =>
    simp only [entriesTexts, List.mem_append, Option.mem_toList, Scalar.text?_eq_some_iff, ih,
      List.map_cons, List.mem_cons]
    grind

theorem mem_propertiesTexts_iff {properties : List (String × Datum)} {t : String} :
    t ∈ propertiesTexts properties ↔ ∃ p ∈ properties, t ∈ p.2.texts := by
  induction properties with
  | nil => simp [propertiesTexts]
  | cons p rest ih => simp [propertiesTexts, ih]

end Datum

end StructuredMessage
