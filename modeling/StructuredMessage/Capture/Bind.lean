import StructuredMessage.Capture.Convert
import StructuredMessage.Template.Parse
import StructuredMessage.Template.Render

namespace StructuredMessage

namespace Template

/-- What is to be said about the template itself. -/
def diagnostics (t : Template) : List Diagnostic :=
  if t.isMixed then [.mixedNames t.text] else []

end Template

namespace Settings

variable {σ : Type} (s : Settings σ) (view : σ → View σ)

/-- The property that a placeholder makes of a value. -/
def property (p : Placeholder) (value : σ) : Logged Property :=
  (s.capture view value p.mode).map fun d => (p.name, d)

/-- Puts the property of one placeholder into the slot of its position; a slot that is filled already is
filled anew. -/
def fillSlot (t : Template) (values : List σ) (slots : List (Option Property)) (p : Placeholder) :
    Logged (List (Option Property)) :=
  match p.position with
  | none => pure slots
  | some position =>
    match values[position]? with
    | some value => (s.property view p value).map fun property => slots.set position (some property)
    | none => .reporting (.unassignedPosition t.text position) slots

/-- One property for every value that a placeholder points at, in the order of the values. -/
def bindPositional (t : Template) (values : List σ) : Logged (List Property) :=
  let empty : List (Option Property) := values.map fun _ => none
  (t.placeholders.foldlM (s.fillSlot view t values) empty : Logged _).map fun slots =>
    slots.filterMap id

/-- One property for every placeholder that there is a value for. -/
def bindNamed (t : Template) (values : List σ) : Logged (List Property) :=
  Logged.all ((t.placeholders.zip values).map fun (p, value) => s.property view p value)

/-- The properties of a template for the given values. Too many values are dropped, and placeholders
without a value stay unbound; both is reported. -/
def bind (t : Template) (values : List σ) : Logged (List Property) :=
  let wanted := t.placeholders.length
  let supplied := values.length
  let noting (d : Diagnostic) (result : Logged (List Property)) : Logged (List Property) :=
    if wanted = supplied then result else ⟨result.value, d :: result.log⟩
  match t.binding with
  | .none => noting (.valuesWithoutPlaceholders t.text supplied) (pure [])
  | .positional => noting (.positionalCount t.text wanted supplied) (s.bindPositional view t values)
  | .named => noting (.namedCount t.text wanted supplied) (s.bindNamed view t values)

end Settings

end StructuredMessage
