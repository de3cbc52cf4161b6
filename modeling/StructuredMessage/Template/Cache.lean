import StructuredMessage.Template.Parse

namespace StructuredMessage

/-- A parsed template that several callers may share. Two are the same one iff their serial numbers are
equal. -/
@[ext]
structure SharedTemplate where
  serial : Nat
  template : Template
  deriving DecidableEq, Repr

/-- Parsed templates by their text. -/
structure Cache where
  capacity : Nat
  entries : List (String × SharedTemplate)
  nextSerial : Nat
  deriving DecidableEq, Repr

namespace Cache

/-- A template of more characters than this is parsed every time. -/
def longestKept : Nat :=
  1024

def usualCapacity : Nat :=
  1000

def empty (capacity : Nat) : Cache :=
  ⟨capacity, [], 0⟩

def size (c : Cache) : Nat :=
  c.entries.length

def get? (c : Cache) (text : String) : Option SharedTemplate :=
  (c.entries.find? fun entry => entry.1 == text).map Prod.snd

/-- The template of a text, parsed anew unless it is kept already. A full cache is cleared before it takes
another template. -/
def parse (c : Cache) (text : String) : SharedTemplate × Cache :=
  let fresh : SharedTemplate := ⟨c.nextSerial, Template.parse text⟩
  let used := { c with nextSerial := c.nextSerial + 1 }
  if longestKept < text.length then (fresh, used)
  else
    match c.get? text with
    | some shared => (shared, c)
    | none =>
      let room := if c.capacity ≤ c.size then [] else c.entries
      (fresh, { used with entries := (text, fresh) :: room })

end Cache

end StructuredMessage
