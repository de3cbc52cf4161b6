import StructuredMessage.Diagnostic

namespace StructuredMessage

/-- How a value is captured. -/
inductive Mode
  /-- Scalars stay scalars and collections become sequences; anything else becomes text. -/
  | plain
  /-- Objects are taken apart into records. -/
  | destructure
  /-- The value becomes its text. -/
  | stringify
  deriving DecidableEq, Repr

namespace Mode

/-- The mode that a character in front of a name asks for. -/
def ofHint? : Char → Option Mode
  | '@' => some destructure
  | '$' => some stringify
  | _ => none

end Mode

/-- The side on which a padded text stands. -/
inductive Side
  | left
  | right
  deriving DecidableEq, Repr

/-- The least number of characters that a value takes, and the side it stands on. -/
structure Alignment where
  side : Side
  width : Nat
  deriving DecidableEq, Repr

namespace Alignment

/-- A width below zero aligns to the left. -/
def ofSigned (width : Int) : Alignment :=
  ⟨if width < 0 then .left else .right, width.natAbs⟩

end Alignment

/-- The largest number that a position or a width may be. -/
def largestIndex : Nat :=
  twoPow 31 - 1

/-- A named hole in a template. -/
structure Placeholder where
  name : String
  /-- The text of the placeholder, braces included. -/
  source : String
  format : Option String
  alignment : Option Alignment
  mode : Mode
  /-- The byte at which the placeholder begins. -/
  start : Nat
  deriving DecidableEq, Repr

namespace Placeholder

/-- A placeholder must have a name and a source text. -/
def make (name source : String) (format : Option String) (alignment : Option Alignment)
    (mode : Mode) (start : Nat) : Except Error Placeholder :=
  if name.isEmpty then .error .emptyName
  else if source.isEmpty then .error .emptySource
  else .ok ⟨name, source, format, alignment, mode, start⟩

/-- The index that a name of digits is, if it is not too large. -/
def position (p : Placeholder) : Option Nat :=
  (Numeral.read? p.name.toList).filter (· ≤ largestIndex)

end Placeholder

/-- A piece of a template. -/
inductive Token
  | text (content : String) (start : Nat)
  | placeholder (p : Placeholder)
  deriving DecidableEq, Repr

namespace Token

def start : Token → Nat
  | text _ start => start
  | placeholder p => p.start

/-- The text that a token displays when nothing is bound. -/
def display : Token → String
  | text content _ => content
  | placeholder p => p.source

def placeholder? : Token → Option Placeholder
  | text _ _ => none
  | placeholder p => some p

end Token

/-- How the placeholders of a template get their values. -/
inductive Binding
  /-- There are no placeholders. -/
  | none
  /-- Every placeholder names the index of its value. -/
  | positional
  /-- Placeholders take values in the order in which they stand. -/
  | named
  deriving DecidableEq, Repr

/-- A template: its text and its tokens in order. -/
structure Template where
  text : String
  tokens : List Token
  deriving DecidableEq, Repr

namespace Template

def placeholders (t : Template) : List Placeholder :=
  t.tokens.filterMap Token.placeholder?

def isPositional (p : Placeholder) : Bool :=
  p.position.isSome

/-- One name that is no index makes the whole template bind by name. -/
def binding (t : Template) : Binding :=
  if t.placeholders.isEmpty then .none
  else if t.placeholders.all isPositional then .positional
  else .named

/-- Whether indices and names stand side by side. -/
def isMixed (t : Template) : Bool :=
  t.placeholders.any isPositional && !t.placeholders.all isPositional

end Template

end StructuredMessage
