import StructuredMessage.Scalar.Basic
import StructuredMessage.Text.Character

namespace StructuredMessage

/-- A captured value. A dictionary holds its entries in the order in which their keys came first. -/
inductive Datum
  | scalar (value : Scalar)
  | sequence (items : List Datum)
  | dictionary (entries : List (Scalar × Datum))
  | record (tag : Option String) (properties : List (String × Datum))

/-- A captured value under the name of its placeholder. -/
abbrev Property := String × Datum

namespace Datum

def null : Datum :=
  scalar .null

def text (value : String) : Datum :=
  scalar (.text value)

def isNull : Datum → Bool
  | scalar value => value.isNull
  | _ => false

def scalar? : Datum → Option Scalar
  | scalar value => some value
  | _ => none

/-- A record. Only a tag that begins with a letter is kept. -/
def tagged (tag : Option String) (properties : List Property) : Datum :=
  record (tag.filter fun t => t.toList.head?.any Text.isAlphabetic) properties

end Datum

/-! Entries of a dictionary: no two of them have the same key. -/

namespace Entries

variable {α : Type}

/-- The value under a key. -/
def get? (key : Scalar) : List (Scalar × α) → Option α
  | [] => none
  | (k, v) :: rest => if k.same key then some v else get? key rest

/-- The entries with a value under a key. A key that is there already keeps its place and its form. -/
def insert (key : Scalar) (value : α) : List (Scalar × α) → List (Scalar × α)
  | [] => [(key, value)]
  | (k, v) :: rest => if k.same key then (k, value) :: rest else (k, v) :: insert key value rest

/-- The entries that result from inserting one after the other. -/
def ofList (pairs : List (Scalar × α)) : List (Scalar × α) :=
  pairs.foldl (fun entries pair => insert pair.1 pair.2 entries) []

end Entries

namespace Properties

/-- The value of the first property with that name. -/
def get? (name : String) (properties : List Property) : Option Datum :=
  (properties.find? fun p => p.1 == name).map Prod.snd

/-- The properties to look names up in: a name that is there already keeps its first property. -/
def index (properties : List Property) : List Property :=
  properties.foldl (fun firsts p => if firsts.any fun q => q.1 == p.1 then firsts else firsts ++ [p]) []

/-- The names without repetition, in the order in which they come first. -/
def names (properties : List Property) : List String :=
  (properties.map Prod.fst).eraseDups

end Properties

end StructuredMessage
