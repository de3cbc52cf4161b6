import StructuredMessage.Capture.View
import StructuredMessage.Datum.Basic
import StructuredMessage.Template.Basic

namespace StructuredMessage

/-- How much of a value is captured. -/
structure Limits where
  /-- The deepest level; what lies deeper is captured as null. -/
  maxDepth : Nat := 10
  /-- The number of items kept of a collection. -/
  maxItems : Option Nat := none
  /-- The number of characters kept of a text. -/
  maxLength : Option Nat := none
  deriving DecidableEq, Repr

namespace Limits

/-- Tight limits for values that are not to be trusted. -/
def diagnostics : Limits where
  maxDepth := 4
  maxItems := some 64
  maxLength := some 1024

/-- A text that is too long loses its end to an ellipsis. -/
def cut (limits : Limits) (text : String) : String :=
  match limits.maxLength with
  | none => text
  | some n =>
    if text.length ≤ n then text else (String.ofList (text.toList.take (n - 1))).push '…'

/-- Only text is cut; other scalars are kept whole. -/
def cutScalar (limits : Limits) : Scalar → Scalar
  | .text value => .text (limits.cut value)
  | s => s

end Limits

/-- Captures a part of a value in some mode. -/
abbrev Inner (σ : Type) := σ → Mode → Logged Datum

/-- Captures any value in some mode, on behalf of a policy. -/
abbrev Factory (σ : Type) := View σ → Mode → Logged Datum

/-- A rule of the caller for taking values apart. It may decline; values are captured by what it is given. -/
abbrev Policy (σ : Type) := View σ → Factory σ → Logged (Option Datum)

/-- How values are captured. -/
structure Settings (σ : Type) where
  limits : Limits := {}
  /-- Values of these types are captured as scalars through their text. -/
  scalarTypes : List SubjectType := []
  policies : List (Policy σ) := []

namespace Settings

variable {σ : Type}

/-- At least one level must be captured. -/
def checked (s : Settings σ) : Except Error (Settings σ) :=
  if s.limits.maxDepth = 0 then .error .zeroDepth else .ok s

end Settings

end StructuredMessage
