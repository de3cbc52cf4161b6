import StructuredMessage.Text.Numeral

namespace StructuredMessage

/-- What the command line asks for. -/
inductive Command
  /-- Render a template with values. -/
  | format (template : String) (values : List String) (culture : Option String) (maxDepth : Nat)
  /-- Show the tokens of a template. -/
  | tokens (template : String) (json : Bool)
  /-- Show the properties captured for a template. -/
  | capture (template : String) (values : List String) (maxDepth : Nat)
  deriving DecidableEq, Repr

namespace Command

/-- The words that a command understands. -/
structure Grammar where
  flags : List String
  options : List String
  /-- Words like `-5` and `-1.5e3` are values. -/
  negativeNumbers : Bool
  deriving DecidableEq, Repr

/-- The words of a command line, sorted. -/
structure Words where
  positionals : List String := []
  flags : List String := []
  options : List (String × String) := []
  deriving DecidableEq, Repr

namespace Words

def addPositional (w : Words) (word : String) : Words :=
  { w with positionals := w.positionals ++ [word] }

/-- A flag may be given once. -/
def addFlag? (w : Words) (name : String) : Option Words :=
  if name ∈ w.flags then none else some { w with flags := name :: w.flags }

/-- An option may be given once. -/
def addOption? (w : Words) (name value : String) : Option Words :=
  if w.options.any (·.1 == name) then none
  else some { w with options := (name, value) :: w.options }

def option? (w : Words) (name : String) : Option String :=
  w.options.lookup name

end Words

/-- Whether the text behind a hyphen makes a number: digits, one point that is not first, and an exponent
mark that is neither first nor last nor before the point. -/
def isNumber (pointSeen markSeen : Bool) : List Char → Bool
  | [] => true
  | [c] => c.isDigit || (c == '.' && !pointSeen && !markSeen)
  | c :: rest =>
    if c.isDigit then isNumber pointSeen markSeen rest
    else if c == '.' && !pointSeen && !markSeen then isNumber true markSeen rest
    else if c == 'e' && !markSeen then isNumber pointSeen true rest
    else false

/-- Whether a word is a hyphen and a number. -/
def isNegativeNumber (word : String) : Bool :=
  match word.toList with
  | '-' :: c :: rest => c.isDigit && isNumber false false (c :: rest)
  | _ => false

/-- Whether a word stands for itself: it does not begin with a hyphen, is one alone, or is a negative number
where those are values. -/
def isPlain (g : Grammar) (word : String) : Bool :=
  match word.toList with
  | '-' :: _ :: _ => g.negativeNumbers && isNegativeNumber word
  | _ => true

/-- The name behind two hyphens and what follows an equals sign. -/
def splitLong (cs : List Char) : String × Option String :=
  match cs.dropWhile (· ≠ '=') with
  | [] => (String.ofList cs, none)
  | _ :: value => (String.ofList (cs.takeWhile (· ≠ '=')), some (String.ofList value))

/-- Sorts the words of a command. Behind `--` all words stand for themselves. -/
def sortWords (g : Grammar) (w : Words) : List String → Option Words
  | [] => some w
  | word :: rest =>
    match word.toList with
    | ['-', '-'] => some (rest.foldl Words.addPositional w)
    | '-' :: '-' :: long =>
      let (name, value) := splitLong long
      if name ∈ g.flags ∧ value.isNone then (w.addFlag? name).bind (sortWords g · rest)
      else if name ∈ g.options then
        match value, rest with
        | some value, rest => (w.addOption? name value).bind (sortWords g · rest)
        | none, value :: rest =>
          if isPlain g value then (w.addOption? name value).bind (sortWords g · rest) else none
        | none, [] => none
      else none
    | _ => if isPlain g word then sortWords g (w.addPositional word) rest else none

/-- A number that fits 32 bits, possibly with a sign in front. -/
def depth? (word : String) : Option Nat :=
  let bounded (n : Nat) : Option Nat := if n < twoPow 32 then some n else none
  match word.toList with
  | '-' :: digits => (Numeral.read? digits).bind fun n => if n = 0 then some 0 else none
  | '+' :: digits => (Numeral.read? digits).bind bounded
  | digits => (Numeral.read? digits).bind bounded

/-- The largest depth that the words ask for. -/
def maxDepth? (w : Words) : Option Nat :=
  match w.option? "max-depth" with
  | some word => depth? word
  | none => some 10

/-- The command of the given name with the given words. -/
def ofWords? (name : String) (words : List String) : Option Command :=
  match name with
  | "format" => do
    let w ← sortWords ⟨["verbose"], ["culture", "max-depth"], true⟩ {} words
    let depth ← maxDepth? w
    match w.positionals with
    | template :: values => some (.format template values (w.option? "culture") depth)
    | [] => none
  | "tokens" => do
    let w ← sortWords ⟨["verbose", "json"], [], false⟩ {} words
    match w.positionals with
    | [template] => some (.tokens template ("json" ∈ w.flags))
    | _ => none
  | "capture" => do
    let w ← sortWords ⟨["verbose"], ["max-depth"], true⟩ {} words
    let depth ← maxDepth? w
    match w.positionals with
    | template :: values => some (.capture template values depth)
    | [] => none
  | _ => none

/-- The command that a whole command line asks for, if it is one. -/
def ofArguments? : List String → Option Command
  | "--verbose" :: name :: words => ofWords? name words
  | name :: words => ofWords? name words
  | [] => none

end Command

end StructuredMessage
