import StructuredMessage.Scalar.Basic
import StructuredMessage.Culture.Table

namespace StructuredMessage

/-- What rendering takes from its surroundings: symbols, and a formatter that is asked first and may
decline. The formatter gets the format and the scalar. -/
structure Locale where
  numbers : NumberSymbols := {}
  dates : DateSymbols := {}
  formatter : Option (Option String → Scalar → Option String) := none

namespace Locale

def ofCulture (c : Culture) : Locale where
  numbers := c.numbers
  dates := c.dates

/-- The culture-neutral locale. -/
def neutral : Locale :=
  ofCulture .invariant

end Locale

end StructuredMessage
