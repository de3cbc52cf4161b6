import StructuredMessage.Text.Character

namespace StructuredMessage

/-- The type of a value that can be captured. -/
inductive SubjectType
  /-- A type with a name of its own. All values of a scalar type are captured as scalars. -/
  | named (name : String) (scalar : Bool)
  | pointer (target : SubjectType)
  /-- A type with an argument, such as a list of integers. -/
  | apply (constructor argument : SubjectType)
  deriving DecidableEq, Repr

namespace SubjectType

/-- Text that can only be pointed at. -/
def bareText : SubjectType :=
  named "str" false

/-- Any value behind a pointer. -/
def dynamic : SubjectType :=
  named "any" false

def unit : SubjectType :=
  named "()" false

/-- Collections of the given kind, such as lists, with items of one type. -/
def collection (kind : String) (item : SubjectType) : SubjectType :=
  apply (named kind false) item

def option (t : SubjectType) : SubjectType :=
  collection "Option" t

def pair (first second : SubjectType) : SubjectType :=
  apply (collection "Pair" first) second

/-- Whether all keys of this type are captured as scalars. Pointers count only if they point at text. -/
def isScalarKey : SubjectType → Bool
  | named _ scalar => scalar
  | pointer target => target == bareText
  | apply _ _ => false

end SubjectType

namespace Text

/-- What comes behind the last double colon. -/
def behindLastPath : List Char → Option (List Char)
  | ':' :: ':' :: rest => behindLastPath (':' :: rest) <|> some rest
  | _ :: rest => behindLastPath rest
  | [] => none

/-- The last part of the path that a type name is, without its arguments. Tuples, lists, references and
pointers have no path and stay as they are. -/
def shortTypeName (full : String) : String :=
  match full.toList with
  | '(' :: _ | '[' :: _ | '&' :: _ | '*' :: _ => full
  | cs =>
    let base := cs.takeWhile (· ≠ '<')
    String.ofList ((behindLastPath base).getD base)

end Text

end StructuredMessage
