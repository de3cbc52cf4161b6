import StructuredMessage.Datum.Basic
import StructuredMessage.Scalar.Render

namespace StructuredMessage.Datum

mutual

/-- Adds a captured value to `out`. A format reaches the items of sequences, but not what is inside a
dictionary or a record. -/
def add (format : Option String) (locale : Locale) (out : String) : Datum → String
  | scalar value => value.add format locale out
  | sequence items => addItems format locale (out ++ "[") "" items ++ "]"
  | dictionary entries => addEntries locale (out ++ "[") "" entries ++ "]"
  | record tag properties =>
    let tagged := match tag with
      | some t => out ++ t ++ " "
      | none => out
    if properties.isEmpty then tagged ++ "\x7b \x7d"
    else addProperties locale (tagged ++ "\x7b ") "" properties ++ " \x7d"

/-- Adds items with commas between them. -/
def addItems (format : Option String) (locale : Locale) (out separator : String) :
    List Datum → String
  | [] => out
  | item :: rest => addItems format locale (add format locale (out ++ separator) item) ", " rest

/-- Adds entries in parentheses, a colon between key and value. -/
def addEntries (locale : Locale) (out separator : String) : List (Scalar × Datum) → String
  | [] => out
  | (key, value) :: rest =>
    let keyed := key.add none locale (out ++ separator ++ "(") ++ ": "
    addEntries locale (add none locale keyed value ++ ")") ", " rest

/-- Adds properties with their names. -/
def addProperties (locale : Locale) (out separator : String) : List (String × Datum) → String
  | [] => out
  | (name, value) :: rest =>
    addProperties locale (add none locale (out ++ separator ++ name ++ ": ") value) ", " rest

end

/-- The captured value in a format. -/
def render (d : Datum) (format : Option String) (locale : Locale) : String :=
  d.add format locale ""

/-- The captured value without a format, with the culture-neutral symbols. -/
def display (d : Datum) : String :=
  d.render none .neutral

end StructuredMessage.Datum
