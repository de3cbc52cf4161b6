import StructuredMessage.Text.Numeral

namespace StructuredMessage

/-- Why a template part, a capture or a culture could not be made. Neither capturing nor rendering gives one. -/
inductive Error
  | emptyName
  | emptySource
  | zeroDepth
  | unknownCulture (name : String)
  deriving DecidableEq, Repr

namespace Error

def message : Error → String
  | emptyName => "invalid argument name: property name must not be empty"
  | emptySource => "invalid argument raw_text: raw text must not be empty"
  | zeroDepth => "invalid maximum destructuring depth 0 (expected >= 1)"
  | unknownCulture name => "unknown culture: " ++ name

end Error

inductive Severity
  | warning
  | debug
  deriving DecidableEq, Repr

/-- Something that parsing, binding or capturing has to report without failing. -/
inductive Diagnostic
  | mixedNames (template : String)
  | valuesWithoutPlaceholders (template : String) (supplied : Nat)
  | positionalCount (template : String) (placeholders supplied : Nat)
  | unassignedPosition (template : String) (position : Nat)
  | namedCount (template : String) (placeholders supplied : Nat)
  | depthReached (maxDepth : Nat) (valueType : String)
  | accessorFailed (property error : String)
  | keyNotScalar (keyType : String)
  deriving DecidableEq, Repr

namespace Diagnostic

def severity : Diagnostic → Severity
  | mixedNames _ => .warning
  | _ => .debug

def message : Diagnostic → String
  | mixedNames _ => "message template mixes positional and named properties"
  | valuesWithoutPlaceholders _ _ => "values supplied to a template without properties"
  | positionalCount _ _ _ => "positional property count does not match value count"
  | unassignedPosition _ _ => "unassigned positional value"
  | namedCount _ _ _ => "named property count does not match value count"
  | depthReached _ _ => "maximum capture depth reached"
  | accessorFailed _ _ => "property accessor failed during capture"
  | keyNotScalar _ => "dictionary key did not convert to a scalar"

/-- What the report is about, by name. -/
def fields : Diagnostic → List (String × String)
  | mixedNames template => [("template", template)]
  | valuesWithoutPlaceholders template supplied =>
    [("template", template), ("supplied", Numeral.text supplied)]
  | positionalCount template placeholders supplied | namedCount template placeholders supplied =>
    [("template", template), ("properties", Numeral.text placeholders),
     ("supplied", Numeral.text supplied)]
  | unassignedPosition template position =>
    [("template", template), ("position", Numeral.text position)]
  | depthReached maxDepth valueType =>
    [("max_depth", Numeral.text maxDepth), ("value_type", valueType)]
  | accessorFailed property error => [("property", property), ("error", error)]
  | keyNotScalar keyType => [("key_type", keyType)]

end Diagnostic

/-- A result together with what was reported on the way to it. -/
structure Logged (α : Type) where
  value : α
  log : List Diagnostic := []

namespace Logged

variable {α β : Type}

def map (f : α → β) (x : Logged α) : Logged β :=
  ⟨f x.value, x.log⟩

/-- One after the other, the reports in that order. -/
def bind (x : Logged α) (f : α → Logged β) : Logged β :=
  let y := f x.value
  ⟨y.value, x.log ++ y.log⟩

instance : Monad Logged where
  pure value := ⟨value, []⟩
  bind := Logged.bind
  map := Logged.map

/-- All results of a list, the reports in the order of the list. -/
def all (xs : List (Logged α)) : Logged (List α) :=
  ⟨xs.map Logged.value, xs.flatMap Logged.log⟩

/-- A result that reports one thing. -/
def reporting (d : Diagnostic) (value : α) : Logged α :=
  ⟨value, [d]⟩

@[simp] theorem value_pure (value : α) : (pure value : Logged α).value = value := rfl

@[simp] theorem value_map (f : α → β) (x : Logged α) : (x.map f).value = f x.value := rfl

@[simp] theorem value_bind (x : Logged α) (f : α → Logged β) : (x.bind f).value = (f x.value).value := rfl

@[simp] theorem value_all (xs : List (Logged α)) : (all xs).value = xs.map Logged.value := rfl

@[simp] theorem value_reporting (d : Diagnostic) (value : α) : (reporting d value).value = value := rfl

theorem all_cons (x : Logged α) (xs : List (Logged α)) :
    all (x :: xs) = x.bind fun a => (all xs).map fun as => a :: as := rfl

theorem map_eq_bind (f : α → β) (x : Logged α) : x.map f = x.bind fun a => pure (f a) := by
  simp [map, bind, pure]

theorem map_bind {γ : Type} (g : β → γ) (x : Logged α) (f : α → Logged β) :
    (x.bind f).map g = x.bind fun a => (f a).map g := rfl

theorem bind_pure (x : Logged α) : x.bind pure = x := by
  simp [bind, pure]

theorem bind_assoc {γ : Type} (x : Logged α) (f : α → Logged β) (g : β → Logged γ) :
    (x.bind f).bind g = x.bind fun a => (f a).bind g := by
  simp [bind]

end Logged

end StructuredMessage
