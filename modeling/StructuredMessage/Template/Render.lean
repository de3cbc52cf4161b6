import StructuredMessage.Template.Basic
import StructuredMessage.Datum.Render

namespace StructuredMessage

namespace Alignment

/-- The text with blanks on one side up to the width; a longer text is kept whole. -/
def pad (a : Alignment) (text : String) : String :=
  let blanks := String.ofList (List.replicate (a.width - text.length) ' ')
  match a.side with
  | .left => text ++ blanks
  | .right => blanks ++ text

end Alignment

namespace Token

/-- Adds a token to `out`. A placeholder without a property of its name shows its source text. -/
def add (properties : List Property) (locale : Locale) (out : String) : Token → String
  | text content _ => out ++ content
  | placeholder p =>
    match Properties.get? p.name properties with
    | none => out ++ p.source
    | some value =>
      match p.alignment with
      | none => value.add p.format locale out
      | some alignment => out ++ alignment.pad (value.render p.format locale)

end Token

namespace Template

/-- Adds the template with the given properties to `out`. -/
def renderOnto (t : Template) (properties : List Property) (locale : Locale) (out : String) :
    String :=
  t.tokens.foldl (Token.add properties locale) out

def render (t : Template) (properties : List Property) (locale : Locale) : String :=
  t.renderOnto properties locale ""

end Template

end StructuredMessage
