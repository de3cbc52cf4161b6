import StructuredMessage.Proofs.Datum.Parts

namespace StructuredMessage.Datum

mutual

/-- The captured value with only the first items of every sequence and the first entries of every dictionary,
on all levels. Properties of records stay. -/
def truncate (n : Nat) : Datum → Datum
  | scalar value => scalar value
  | sequence items => sequence ((truncateItems n items).take n)
  | dictionary entries => dictionary ((truncateEntries n entries).take n)
  | record tag properties => record tag (truncateProperties n properties)

def truncateItems (n : Nat) : List Datum → List Datum
  | [] => []
  | item :: rest => item.truncate n :: truncateItems n rest

def truncateEntries (n : Nat) : List (Scalar × Datum) → List (Scalar × Datum)
  | [] => []
  | (key, value) :: rest => (key, value.truncate n) :: truncateEntries n rest

def truncateProperties (n : Nat) : List (String × Datum) → List (String × Datum)
  | [] => []
  | (name, value) :: rest => (name, value.truncate n) :: truncateProperties n rest

end

variable {n : Nat}

theorem truncate_sequence (items : List Datum) :
    (sequence items).truncate n = sequence ((items.take n).map (truncate n)) := by
  have hmap : truncateItems n items = items.map (truncate n) := by
    induction items with
    | nil => rfl
    | cons item rest ih => rw [truncateItems, List.map_cons, ih]
  rw [truncate, hmap, List.map_take]

theorem truncate_dictionary (entries : List (Scalar × Datum)) :
    (dictionary entries).truncate n = dictionary ((entries.take n).map fun e => (e.1, e.2.truncate n)) := by
  have hmap : truncateEntries n entries = entries.map fun e => (e.1, e.2.truncate n) := by
    induction entries with
    | nil => rfl
    | cons e rest ih => rw [truncateEntries, List.map_cons, ih]
  rw [truncate, hmap, List.map_take]

theorem truncate_record (tag : Option String) (properties : List Property) :
    (record tag properties).truncate n = record tag (properties.map fun p => (p.1, p.2.truncate n)) := by
  have hmap : truncateProperties n properties = properties.map fun p => (p.1, p.2.truncate n) := by
    induction properties with
    | nil => rfl
    | cons p rest ih => rw [truncateProperties, List.map_cons, ih]
  rw [truncate, hmap]

theorem truncate_tagged (tag : Option String) (properties : List Property) :
    (tagged tag properties).truncate n = tagged tag (properties.map fun p => (p.1, p.2.truncate n)) :=
  truncate_record _ properties

/-- The number of items of a sequence or of entries of a dictionary. -/
def count : Datum → Nat
  | sequence items => items.length
  | dictionary entries => entries.length
  | _ => 0

/-- The parts of a captured value on all levels, itself included. -/
inductive Occurs (d : Datum) : Datum → Prop
  | self : Occurs d d
  | child {c e : Datum} : c ∈ e.children → Occurs d c → Occurs d e

theorem Occurs.eq_of_scalar {d : Datum} {value : Scalar} (h : Occurs d (scalar value)) : d = scalar value := by
  cases h with
  | self => rfl
  | child hc => simp [children] at hc

end StructuredMessage.Datum
