import StructuredMessage.Capture.Settings

namespace StructuredMessage

namespace View

variable {σ : Type}

/-- Byte buffers up to this size are captured whole. -/
def longestBuffer : Nat :=
  1024

/-- The first bytes of a long buffer and its size. -/
def bufferSummary (content : List UInt8) : String :=
  Scalar.hexText (content.take 16) ++ "... (" ++ Numeral.text content.length ++ " bytes)"

/-- The scalar that a value is captured as, if it is captured as one: primitive values, values of declared
types, members of enumerations and byte buffers. -/
def scalar? (v : View σ) (scalarTypes : List SubjectType) : Option Scalar :=
  match v.shape with
  | .scalar value => some value
  | shape =>
    if v.face.type ∈ scalarTypes then some (.other v.face.typeName v.face.text)
    else
      match shape with
      | .variant name => some (.member v.face.typeName name)
      | .bytes content =>
        if content.length ≤ longestBuffer then some (.bytes content)
        else some (.text (bufferSummary content))
      | _ => none

/-- The first answer that one of the policies gives. What the others report before they decline is kept. -/
def firstAnswer (v : View σ) (factory : Factory σ) : List (Policy σ) → Logged (Option Datum)
  | [] => pure none
  | policy :: rest =>
    (policy v factory).bind fun answer =>
      match answer with
      | some captured => pure (some captured)
      | none => v.firstAnswer factory rest

end View

namespace Settings

variable {σ : Type} (s : Settings σ) (view : σ → View σ)

/-- The text of a value, cut to the limit. -/
def cutText (text : String) : Datum :=
  .text (s.limits.cut text)

/-- A key is captured like any other part, and falls back to its text if that gives no scalar. -/
def key (inner : Inner σ) (mode : Mode) (k : σ) : Logged Scalar :=
  (inner k mode).bind fun captured =>
    match captured with
    | .scalar value => pure value
    | _ => .reporting (.keyNotScalar (view k).front.typeName) (.text (view k).front.text)

/-- One entry of a mapping whose keys become scalars. -/
def entry (inner : Inner σ) (mode : Mode) (e : σ × σ) : Logged (Scalar × Datum) :=
  (key view inner mode e.1).bind fun k => (inner e.2 mode).map fun value => (k, value)

/-- One entry of any other mapping: a record when values are taken apart, a text otherwise. -/
def pair (inner : Inner σ) (mode : Mode) (e : σ × σ) : Logged Datum :=
  if mode = .destructure then
    (inner e.1 mode).bind fun k =>
      (inner e.2 mode).map fun value => .tagged none [("key", k), ("value", value)]
  else pure (s.cutText ("[" ++ (view e.1).front.text ++ ", " ++ (view e.2).front.text ++ "]"))

/-- A mapping becomes a dictionary if the type of its keys promises scalars, and a sequence of its
entries otherwise. -/
def mapping (inner : Inner σ) (mode : Mode) (keys : SubjectType) (entries : Items (σ × σ)) :
    Logged Datum :=
  let kept := entries.upTo s.limits.maxItems
  if keys.isScalarKey ∨ keys ∈ s.scalarTypes then
    (Logged.all (kept.map (entry view inner mode))).map fun es => .dictionary (Entries.ofList es)
  else (Logged.all (kept.map (s.pair view inner mode))).map .sequence

/-- One member of an object. A member that cannot be read says so in its place. -/
def member (inner : Inner σ) (m : Member σ) : Logged Property :=
  match m.value with
  | .ok value => (inner value .destructure).map fun d => (m.name, d)
  | .error e =>
    .reporting (.accessorFailed m.name e) (m.name, .text ("The property accessor failed: " ++ e))

/-- A value that is no scalar, by its shape. -/
def composite (inner : Inner σ) (mode : Mode) (v : View σ) : Logged Datum :=
  match v.shape with
  | .mapping keys entries => s.mapping view inner mode keys entries
  | .sequence items =>
    (Logged.all ((items.upTo s.limits.maxItems).map fun item => inner item mode)).map .sequence
  | .callable => pure (s.cutText v.face.text)
  | .object members =>
    if mode = .destructure then
      (Logged.all (members.map (member inner))).map (.tagged (some v.face.typeName))
    else pure (s.cutText v.face.text)
  | _ =>
    if mode = .destructure then pure (.tagged (some v.face.typeName) [])
    else pure (s.cutText v.face.text)

/-- One level of capturing: what becomes of a value when its parts are captured by `factory`. An optional
that is present adds no level. Policies are asked when values are taken apart. -/
def level (factory : Factory σ) (mode : Mode) (v : View σ) : Logged Datum :=
  if v.isNothing then pure .null
  else if mode = .stringify then pure (s.cutText v.front.text)
  else if v.shape.isNothing then pure .null
  else
    match v.scalar? s.scalarTypes with
    | some value => pure (.scalar (s.limits.cutScalar value))
    | none =>
      let claimed := if mode = .destructure then v.inside.firstAnswer factory s.policies else pure none
      claimed.bind fun answer =>
        match answer with
        | some captured => pure captured
        | none => s.composite view (fun part => factory (view part)) mode v.inside

/-- Captures what is viewed with the given number of levels left. -/
def captureView : Nat → Factory σ
  | 0, v, _ => .reporting (.depthReached s.limits.maxDepth v.front.typeName) .null
  | levels + 1, v, mode => s.level view (captureView levels) mode v

/-- Captures a value with the given number of levels left. -/
def captureWithin (levels : Nat) : Inner σ :=
  fun value => s.captureView view levels (view value)

/-- Captures a value. -/
def capture (value : σ) (mode : Mode) : Logged Datum :=
  s.captureWithin view s.limits.maxDepth value mode

end Settings

end StructuredMessage
