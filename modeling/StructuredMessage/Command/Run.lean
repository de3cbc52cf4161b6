import StructuredMessage.Capture.Bind
import StructuredMessage.Capture.Subject
import StructuredMessage.Command.Arguments
import StructuredMessage.Culture.Table
import StructuredMessage.Datum.Json
import StructuredMessage.Json.Read
import StructuredMessage.Text.Quoted

namespace StructuredMessage

namespace Binding

def label : Binding → String
  | none => "None"
  | positional => "Positional"
  | named => "Named"

end Binding

namespace Mode

def label : Mode → String
  | plain => "default"
  | destructure => "destructure"
  | stringify => "stringify"

end Mode

namespace Alignment

/-- The width, with a hyphen in front for the left side. -/
def label (a : Alignment) : String :=
  match a.side with
  | .left => "-" ++ Numeral.text a.width
  | .right => Numeral.text a.width

end Alignment

namespace Token

/-- The token as a row of a table. -/
def row : Token → String
  | text content start => Numeral.text start ++ "\ttext\t-\t-\t-\t-\t" ++ Text.quoted content
  | placeholder p =>
    "\t".intercalate
      [Numeral.text p.start, "property", p.name, p.format.getD "-",
       (p.alignment.map Alignment.label).getD "-", p.mode.label, Text.quoted p.source]

/-- The token as a JSON object, its members in alphabetical order. -/
def toJson : Token → Json
  | text content start =>
    .object [("kind", .string "text"), ("start", .integer start), ("text", .string content)]
  | placeholder p =>
    let optional (text : Option String) : Json := (text.map Json.string).getD .null
    .object
      [("alignment", optional (p.alignment.map Alignment.label)),
       ("destructuring", .string p.mode.label),
       ("format", optional p.format),
       ("kind", .string "property"),
       ("name", .string p.name),
       ("position", (p.position.map fun n => Json.integer n).getD .null),
       ("raw", .string p.source),
       ("start", .integer p.start)]

end Token

namespace Template

/-- The tokens as a table under a heading. -/
def table (t : Template) : String :=
  let heading :=
    ["binding: " ++ t.binding.label, "tokens: " ++ Numeral.text t.tokens.length,
     "start\tkind\tname\tformat\talign\tmode\ttext"]
  "\n".intercalate (heading ++ t.tokens.map Token.row)

/-- Text, binding and tokens as a JSON object. -/
def toJson (t : Template) : Json :=
  .object
    [("binding", .string (Text.lowered t.binding.label)), ("text", .string t.text),
     ("tokens", .array (t.tokens.map Token.toJson))]

end Template

namespace Command

/-- The value that a word of the command line is: a JSON document, or else the word itself. -/
def valueOf (word : String) : Subject Empty :=
  .json ((Json.read? word).getD (.string word))

/-- The properties of a template for words of the command line. -/
def properties (template : String) (words : List String) (maxDepth : Nat) :
    Except Error (List Property) :=
  (Settings.checked { limits := { maxDepth } }).map fun settings =>
    (settings.bind (Subject.view Empty.elim) (Template.parse template) (words.map valueOf)).value

/-- What a command prints, without the end of the last line. -/
def output : Command → Except Error String
  | format template words culture maxDepth => do
    let locale ←
      match culture with
      | some name => (Culture.named name).map Locale.ofCulture
      | none => .ok .neutral
    let bound ← properties template words maxDepth
    return (Template.parse template).render bound locale
  | tokens template json =>
    let parsed := Template.parse template
    .ok (if json then parsed.toJson.pretty else parsed.table)
  | capture template words maxDepth => do
    let bound ← properties template words maxDepth
    return (Properties.toJson bound).pretty

/-- How a run ends. -/
inductive Outcome
  | printed (text : String)
  | failed (message : String)
  | misused
  deriving DecidableEq, Repr

/-- Runs a command line. -/
def run (arguments : List String) : Outcome :=
  match ofArguments? arguments with
  | none => .misused
  | some command =>
    match command.output with
    | .ok text => .printed (text ++ "\n")
    | .error e => .failed ("error: " ++ e.message)

end Command

end StructuredMessage
