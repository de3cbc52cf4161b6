import StructuredMessage.Scalar.Basic
import StructuredMessage.Capture.SubjectType

namespace StructuredMessage

/-- How a value presents itself: the short name of its type, its text and its type. -/
structure Face where
  typeName : String
  text : String
  type : SubjectType
  deriving DecidableEq, Repr

/-- What a collection lists: finitely many items, or one for every number. -/
inductive Items (α : Type)
  | finite (items : List α)
  | endless (item : Nat → α)

namespace Items

variable {α : Type}

/-- The first items up to the limit. Without a limit there is no list of endlessly many items, and none
is given. -/
def upTo (limit : Option Nat) : Items α → List α
  | finite items =>
    match limit with
    | some n => items.take n
    | none => items
  | endless item =>
    match limit with
    | some n => (List.range n).map item
    | none => []

/-- The number of items, if they come to an end. -/
def count? : Items α → Option Nat
  | finite items => some items.length
  | endless _ => none

end Items

/-- A named part of an object. Reading it may fail with a message. -/
structure Member (σ : Type) where
  name : String
  value : Except String σ

/-- What a value is made of. Parts are values of `σ`, to be viewed in their turn, so a value may contain
itself. -/
inductive Shape (σ : Type)
  | null
  | absent
  | scalar (value : Scalar)
  | variant (name : String)
  | bytes (content : List UInt8)
  | callable
  | mapping (keys : SubjectType) (entries : Items (σ × σ))
  | sequence (items : Items σ)
  | object (members : List (Member σ))
  | formless

namespace Shape

variable {σ : Type}

def isNothing : Shape σ → Bool
  | null | absent => true
  | _ => false

end Shape

/-- A value as capturing sees it. `wrappers` are the optional values around it that are present, the
outermost first. -/
structure View (σ : Type) where
  wrappers : List Face
  face : Face
  shape : Shape σ

namespace View

variable {σ : Type}

/-- The face of the whole value, wrappers included. -/
def front (v : View σ) : Face :=
  v.wrappers.headD v.face

/-- The value without the optionals around it. -/
def inside (v : View σ) : View σ :=
  { v with wrappers := [] }

/-- The value with one more optional around it. -/
def wrapped (face : Face) (v : View σ) : View σ :=
  { v with wrappers := face :: v.wrappers }

/-- Whether there is nothing at all, not even in an optional. -/
def isNothing (v : View σ) : Bool :=
  v.wrappers.isEmpty && v.shape.isNothing

end View

end StructuredMessage
