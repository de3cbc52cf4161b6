import StructuredMessage.Capture.Subject
import StructuredMessage.Scalar.Text

namespace StructuredMessage

namespace Scalar

/-- The name of the built-in type that holds such a scalar. Members of enumerations and values of declared
types name their own type. -/
def typeName : Scalar → String
  | null => "()"
  | bool _ => "bool"
  | char _ => "char"
  | integer n => n.type.name
  | single _ => "f32"
  | double _ => "f64"
  | decimal _ => "Decimal"
  | text _ => "String"
  | moment _ => "NaiveDateTime"
  | zoned _ => "DateTime"
  | date _ => "NaiveDate"
  | time _ => "NaiveTime"
  | span _ => "TimeDelta"
  | uuid _ => "Uuid"
  | uri _ => "Url"
  | bytes _ => "Vec"
  | member type _ => type
  | other type _ => type

/-- The code points of a text. -/
def codes (text : String) : List Int :=
  text.toList.map fun c => (c.toNat : Int)

/-- Numbers that put scalars of one kind in order. Values that are not ordered have none. -/
def rank : Scalar → List Int
  | bool value => [if value then 1 else 0]
  | char value => [(value.toNat : Int)]
  | integer n => [n.value]
  | decimal x => [x.signed * tenPow (28 - x.scale)]
  | text value => codes value
  | moment m => [m.seconds, m.time.nano]
  | zoned z => [z.universal.seconds, z.universal.time.nano]
  | date d => [d.day]
  | time t => [t.second, t.nano]
  | span s => [s.seconds, s.nanos]
  | uuid u => [(u.bits.toNat : Int)]
  | uri value => codes value
  | bytes content => content.map fun b => (b.toNat : Int)
  | _ => []

end Scalar

namespace Subject

variable {κ : Type}

/-- A value of a type with the given name whose values are scalars. -/
def ofScalarNamed (typeName : String) (value : Scalar) : Subject κ :=
  .scalar ⟨typeName, value.plainText, .named typeName true⟩ value

/-- A value of the built-in type of a scalar. -/
def ofScalar (value : Scalar) : Subject κ :=
  ofScalarNamed value.typeName value

/-- An integer of the given type, if it is in range. -/
def ofInteger? (type : IntegerType) (n : Int) : Option (Subject κ) :=
  (Integer.of? type n).map fun i => ofScalar (.integer i)

/-- Text behind a pointer. -/
def ofBareText (text : String) : Subject κ :=
  .pointer (.scalar ⟨"str", text, .bareText⟩ (.text text))

/-- The text of seconds and the digits that the fraction needs. -/
def secondsText (seconds nanos : Nat) : String :=
  let fraction := Numeral.withoutTrailingZeros (Numeral.padded 9 nanos)
  Numeral.text seconds ++ (if fraction.isEmpty then "" else "." ++ String.ofList fraction) ++ "s"

/-- A length of time without a sign. One that is longer than the longest span is captured as text. -/
def ofDuration (seconds nanos : Nat) : Subject κ :=
  let fits := seconds < Span.longest.seconds.toNat ∨
    (seconds = Span.longest.seconds.toNat ∧ nanos ≤ Span.longest.nanos)
  ofScalarNamed "Duration" <|
    match if fits then Span.of? seconds nanos else none with
    | some span => .span span
    | none => .text (secondsText seconds nanos)

/-- A member of an enumeration. -/
def ofVariant (typeName variant : String) : Subject κ :=
  .variant ⟨typeName, variant, .named typeName true⟩ variant

/-- An object that describes itself by the name of its type. -/
def ofMembers (typeName : String) (members : List (String × Subject κ)) : Subject κ :=
  .object ⟨typeName, typeName, .named typeName false⟩
    (members.map fun (name, value) => (name, .ok value))

/-- A function of the type with the given full name. -/
def ofFunction (type : String) : Subject κ :=
  .callable ⟨Text.shortTypeName type, type, .named type false⟩

/-- A collection of items of one type. It describes itself by its items. -/
def ofItems (typeName : String) (item : SubjectType) (items : List (Subject κ)) : Subject κ :=
  .sequence typeName (.collection typeName item) items

/-- A collection of bytes. -/
def ofBytes (typeName : String) (content : List UInt8) : Subject κ :=
  .bytes typeName (.collection typeName (.named "u8" true)) content

/-- A mapping from keys of one type to any values. It describes itself by the name of its type. -/
def ofEntries (typeName : String) (keys : SubjectType) (entries : List (Subject κ × Subject κ)) :
    Subject κ :=
  .mapping ⟨typeName, typeName, .collection typeName keys⟩ keys entries

mutual

/-- Numbers that put values of one type in order. Members of an enumeration stand in the order in which
`variants` lists them, and everything that has parts in the order of its parts. -/
def rank (variants : List String) : Subject κ → List Int
  | scalar _ value => value.rank
  | pointer target => rank variants target
  | present _ inner => rank variants inner
  | sequence _ _ items => ranks variants items
  | tuple _ _ parts => ranks variants parts
  | bytes _ _ content => content.map fun b => (b.toNat : Int)
  | variant _ name => [(variants.idxOf name : Int)]
  | object _ members => memberRanks variants members
  | _ => []

def ranks (variants : List String) : List (Subject κ) → List Int
  | [] => []
  | item :: rest => rank variants item ++ ranks variants rest

def memberRanks (variants : List String) : List (String × Except String (Subject κ)) → List Int
  | [] => []
  | (_, .ok value) :: rest => rank variants value ++ memberRanks variants rest
  | (_, .error _) :: rest => memberRanks variants rest

end

end Subject

end StructuredMessage
