import StructuredMessage.Number.Standard

namespace StructuredMessage

/-- One element of a number pattern. -/
inductive PatternItem
  | zero
  | hash
  | point
  | group
  | percent
  | literal (text : List Char)
  deriving DecidableEq, Repr

namespace PatternItem

def isDigit : PatternItem → Bool
  | zero | hash => true
  | _ => false

end PatternItem

namespace Pattern

/-- Where a reader stands with respect to quotes and backslashes. -/
inductive Quoting
  | bare
  | escaped
  | quoted (mark : Char)
  deriving DecidableEq, Repr

/-- The state after one more character. -/
def Quoting.after (q : Quoting) (c : Char) : Quoting :=
  match q with
  | .escaped => .bare
  | .quoted mark => if c = mark then .bare else q
  | .bare =>
    if c = '\\' then .escaped
    else if c = '\'' ∨ c = '"' then .quoted c
    else .bare

/-- The parts of a pattern between its bare semicolons. -/
def sectionsFrom (q : Quoting) : List Char → List (List Char)
  | [] => [[]]
  | c :: rest =>
    if q = .bare ∧ c = ';' then [] :: sectionsFrom .bare rest
    else
      match sectionsFrom (q.after c) rest with
      | [] => [[c]]
      | first :: others => (c :: first) :: others

def sections (pattern : List Char) : List (List Char) :=
  sectionsFrom .bare pattern

/-- The items of a pattern. Only the first point counts; a quote that is not closed runs to the end. -/
def itemsFrom (pointSeen : Bool) : List Char → List PatternItem
  | [] => []
  | '0' :: rest => .zero :: itemsFrom pointSeen rest
  | '#' :: rest => .hash :: itemsFrom pointSeen rest
  | '.' :: rest => if pointSeen then itemsFrom true rest else .point :: itemsFrom true rest
  | ',' :: rest => .group :: itemsFrom pointSeen rest
  | '%' :: rest => .percent :: itemsFrom pointSeen rest
  | ['\\'] => []
  | '\\' :: c :: rest => .literal [c] :: itemsFrom pointSeen rest
  | c :: rest =>
    if c = '\'' ∨ c = '"' then
      .literal (rest.takeWhile (· ≠ c)) :: itemsFrom pointSeen ((rest.dropWhile (· ≠ c)).drop 1)
    else .literal [c] :: itemsFrom pointSeen rest
  termination_by cs => cs.length
  decreasing_by all_goals grind [List.Sublist.length_le, List.dropWhile_sublist]

def items (pattern : List Char) : List PatternItem :=
  itemsFrom false pattern

/-- What a section asks of the digits, read off its items. -/
structure Layout where
  /-- The number of digit places before the point. -/
  places : Nat
  /-- The least number of whole digits written. -/
  minWhole : Nat
  grouped : Bool
  maxFraction : Nat
  minFraction : Nat
  deriving DecidableEq, Repr

/-- The items before the point, and the others. -/
def halves (items : List PatternItem) : List PatternItem × List PatternItem :=
  (items.takeWhile (· ≠ .point), items.dropWhile (· ≠ .point))

/-- Whether a group mark stands somewhere between two digit places. -/
def hasGrouping (whole : List PatternItem) : Bool :=
  let inner := whole.dropWhile (!·.isDigit)
  (inner.reverse.dropWhile (!·.isDigit)).contains .group

def layout (items : List PatternItem) : Layout :=
  let (before, after) := halves items
  let whole := before.filter (·.isDigit)
  let fraction := after.filter (·.isDigit)
  { places := whole.length
    minWhole := (whole.dropWhile (· ≠ .zero)).length
    grouped := hasGrouping before
    maxFraction := fraction.length
    minFraction := (fraction.reverse.dropWhile (· ≠ .zero)).length }

/-- The fraction without the zeros at its end that the pattern does not insist on. -/
def trimmedFraction (minimum : Nat) (fraction : List Char) : List Char :=
  fraction.take minimum ++ Numeral.withoutTrailingZeros (fraction.drop minimum)

/-- The whole digits as written: a lone zero counts as none, zeros fill up to the minimum, separators
group them. -/
def wholeText (l : Layout) (separator : String) (whole : List Char) : List Char :=
  let digits := (if whole = ['0'] then [] else whole).leftpad l.minWhole '0'
  if l.grouped then Digits.grouped separator.toList digits else digits

/-- The whole digits dealt out to the digit places. The first place takes those that are too many, and
grouped digits stay together at the first place. -/
def wholeSlots (l : Layout) (whole : List Char) : List (List Char) :=
  if l.places = 0 then []
  else if l.grouped then whole :: List.replicate (l.places - 1) []
  else if whole.length ≤ l.places then
    List.replicate (l.places - whole.length) [] ++ whole.map ([·])
  else
    let surplus := whole.length - l.places + 1
    whole.take surplus :: (whole.drop surplus).map ([·])

/-- The items written out, each digit place taking the next slot. -/
def fill (symbols : NumberSymbols) (point : List Char) :
    List PatternItem → List (List Char) → List Char
  | [], _ => []
  | .zero :: items, slots | .hash :: items, slots =>
    slots.headD [] ++ fill symbols point items slots.tail
  | .point :: items, slots => point ++ fill symbols point items slots
  | .group :: items, slots => fill symbols point items slots
  | .percent :: items, slots => symbols.percentSymbol.toList ++ fill symbols point items slots
  | .literal text :: items, slots => text ++ fill symbols point items slots

/-- The digits in the places of a section, without the sign. -/
def digitsText (items : List PatternItem) (symbols : NumberSymbols) (d : Digits) : List Char :=
  let l := layout items
  let fraction := trimmedFraction l.minFraction d.fraction
  let whole := wholeText l symbols.groupSeparator d.whole
  let point :=
    (if l.places = 0 then whole else []) ++
      (if fraction.isEmpty then [] else symbols.decimalSeparator.toList)
  fill symbols point items (wholeSlots l whole ++ fraction.map ([·]))

/-- The section for a number, and whether it is the one that speaks for the sign: a third section takes
zeros and a second one numbers below zero, unless it is empty. -/
def choose (sections : List (List Char)) (x : Number) : List Char × Bool :=
  let third := sections.getD 2 []
  let second := sections.getD 1 []
  if x.isZero && !third.isEmpty then (third, true)
  else if x.isNegative && !second.isEmpty then (second, true)
  else (sections.headD [], false)

end Pattern

namespace Number

/-- The number in a pattern of zeros, hash signs and literal text. -/
def patterned (x : Number) (pattern : List Char) (symbols : NumberSymbols) : String :=
  let (chosen, signShown) := Pattern.choose (Pattern.sections pattern) x
  let items := Pattern.items chosen
  let scaled := if items.contains .percent then x.timesHundred else x
  let digits := scaled.fixed (Pattern.layout items).maxFraction
  let sign := if digits.negative && !signShown then symbols.negativeSign else ""
  sign ++ String.ofList (Pattern.digitsText items symbols digits)

/-- The number in the given format: none or empty for the general form, a standard letter, or a
pattern. Values that have no digits are written as symbols in every format. -/
def format (x : Number) (format : Option String) (symbols : NumberSymbols) : String :=
  match x.symbol? symbols.nanSymbol symbols.positiveInfinity symbols.negativeInfinity with
  | some text => text
  | none =>
    let pattern := (format.getD "").toList
    if pattern.isEmpty then x.general symbols
    else
      match Standard.read? pattern with
      | some standardFormat => x.standard standardFormat symbols
      | none => x.patterned pattern symbols

end Number

end StructuredMessage
