import StructuredMessage.Capture.View
import StructuredMessage.Json.Basic

namespace StructuredMessage

/-- A runtime value. The values of `κ` are foreign: all that is known of them is how they are viewed, so
they may contain themselves or compute ever new parts. -/
inductive Subject (κ : Type)
  | foreign (value : κ)
  | unit
  | scalar (face : Face) (value : Scalar)
  | absent (type : SubjectType)
  | present (type : SubjectType) (inner : Subject κ)
  /-- A pointer forwards everything to its target. -/
  | pointer (target : Subject κ)
  | sequence (typeName : String) (type : SubjectType) (items : List (Subject κ))
  | bytes (typeName : String) (type : SubjectType) (content : List UInt8)
  | tuple (typeName : String) (type : SubjectType) (parts : List (Subject κ))
  | mapping (face : Face) (keys : SubjectType) (entries : List (Subject κ × Subject κ))
  | json (document : Json)
  | variant (face : Face) (name : String)
  | object (face : Face) (members : List (String × Except String (Subject κ)))
  | callable (face : Face)
  | formless (face : Face)

namespace Subject

variable {κ : Type}

/-- The texts in brackets with commas between them. -/
def listText (opening closing : String) (texts : List String) : String :=
  opening ++ ", ".intercalate texts ++ closing

/-- Text stands for itself, any other document for its compact form. -/
def jsonText : Json → String
  | .string text => text
  | document => document.compact

def jsonType : SubjectType :=
  .named "Json" false

mutual

/-- How a value presents itself. -/
def front (foreignView : κ → View (Subject κ)) : Subject κ → Face
  | foreign value => (foreignView value).front
  | unit => ⟨"()", "", .unit⟩
  | scalar face _ => face
  | absent type => ⟨"Option", "", type⟩
  | present type inner => { front foreignView inner with type }
  | pointer target => front foreignView target
  | sequence typeName type items => ⟨typeName, listText "[" "]" (texts foreignView items), type⟩
  | bytes typeName type content =>
    ⟨typeName, listText "[" "]" (content.map fun b => Numeral.text b.toNat), type⟩
  | tuple typeName type parts => ⟨typeName, listText "(" ")" (texts foreignView parts), type⟩
  | mapping face _ _ => face
  | json document => ⟨"", jsonText document, jsonType⟩
  | variant face _ => face
  | object face _ => face
  | callable face => face
  | formless face => face

def texts (foreignView : κ → View (Subject κ)) : List (Subject κ) → List String
  | [] => []
  | item :: rest => (front foreignView item).text :: texts foreignView rest

end

/-- The scalar that a JSON number is: signed if it fits 64 bits, unsigned if only that fits. -/
def ofJsonInteger (n : Int) : Shape (Subject κ) :=
  match Integer.of? .i64 n with
  | some i => .scalar (.integer i)
  | none =>
    match Integer.of? .u64 n with
    | some i => .scalar (.integer i)
    | none => .scalar (.double (Binary.ofInt .double n))

/-- JSON objects are objects without a type name. -/
def jsonShape : Json → Shape (Subject κ)
  | .null => .null
  | .bool value => .scalar (.bool value)
  | .integer n => ofJsonInteger n
  | .single x => .scalar (.single x)
  | .double x => .scalar (.double x)
  | .string text => .scalar (.text text)
  | .array items => .sequence (.finite (items.map json))
  | .object members => .object (members.map fun (name, value) => ⟨name, .ok (json value)⟩)

/-- The parts of a tuple under their indices. -/
def tupleMembers (parts : List (Subject κ)) : List (Member (Subject κ)) :=
  (List.range parts.length).zip parts |>.map fun (index, part) =>
    ⟨Numeral.text index, .ok part⟩

/-- How capturing sees a value. -/
def view (foreignView : κ → View (Subject κ)) : Subject κ → View (Subject κ)
  | foreign value => foreignView value
  | present type inner =>
    let inside := view foreignView inner
    inside.wrapped { inside.front with type }
  | pointer target => view foreignView target
  | unit => ⟨[], front foreignView unit, .null⟩
  | scalar face value => ⟨[], face, .scalar value⟩
  | absent type => ⟨[], front foreignView (absent type), .absent⟩
  | sequence typeName type items =>
    ⟨[], front foreignView (sequence typeName type items), .sequence (.finite items)⟩
  | bytes typeName type content =>
    ⟨[], front foreignView (bytes typeName type content), .bytes content⟩
  | tuple typeName type parts =>
    ⟨[], front foreignView (tuple typeName type parts), .object (tupleMembers parts)⟩
  | mapping face keys entries => ⟨[], face, .mapping keys (.finite entries)⟩
  | json document => ⟨[], front foreignView (json document), jsonShape document⟩
  | variant face name => ⟨[], face, .variant name⟩
  | object face members => ⟨[], face, .object (members.map fun (name, value) => ⟨name, value⟩)⟩
  | callable face => ⟨[], face, .callable⟩
  | formless face => ⟨[], face, .formless⟩

end Subject

end StructuredMessage
