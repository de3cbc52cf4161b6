import StructuredMessage.Datum.Basic
import StructuredMessage.Scalar.Json

namespace StructuredMessage

/-- The member name that a dictionary key becomes: text as it is, other scalars as they are displayed. -/
def Scalar.keyText : Scalar → String
  | text value => value
  | s => s.display

namespace Datum

mutual

/-- The captured value as a JSON document. A tag becomes a first member `$type`. -/
def toJson : Datum → Json
  | scalar value => value.toJson
  | sequence items => .array (itemsToJson items)
  | dictionary entries => .object (entriesToJson entries)
  | record none properties => .object (propertiesToJson properties)
  | record (some tag) properties =>
    .object (("$type", .string tag) :: propertiesToJson properties)

def itemsToJson : List Datum → List Json
  | [] => []
  | item :: rest => item.toJson :: itemsToJson rest

def entriesToJson : List (Scalar × Datum) → List (String × Json)
  | [] => []
  | (key, value) :: rest => (key.keyText, value.toJson) :: entriesToJson rest

def propertiesToJson : List (String × Datum) → List (String × Json)
  | [] => []
  | (name, value) :: rest => (name, value.toJson) :: propertiesToJson rest

end

theorem itemsToJson_eq_map (items : List Datum) : itemsToJson items = items.map toJson := by
  induction items with
  | nil => rfl
  | cons item rest ih => rw [itemsToJson, List.map_cons, ih]

theorem entriesToJson_eq_map (entries : List (Scalar × Datum)) :
    entriesToJson entries = entries.map fun e => (e.1.keyText, e.2.toJson) := by
  induction entries with
  | nil => rfl
  | cons e rest ih => rw [entriesToJson, List.map_cons, ih]

theorem propertiesToJson_eq_map (properties : List (String × Datum)) :
    propertiesToJson properties = properties.map fun p => (p.1, p.2.toJson) := by
  induction properties with
  | nil => rfl
  | cons p rest ih => rw [propertiesToJson, List.map_cons, ih]

end Datum

namespace Properties

/-- Properties as one JSON object; names that repeat stay. -/
def toJson (properties : List Property) : Json :=
  .object (Datum.propertiesToJson properties)

/-- One property as an object with its name and its value. -/
def oneToJson (p : Property) : Json :=
  .object [("name", .string p.1), ("value", p.2.toJson)]

end Properties

end StructuredMessage
