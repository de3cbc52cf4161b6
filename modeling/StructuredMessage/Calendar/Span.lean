import StructuredMessage.Culture.Symbols
import StructuredMessage.Text.Numeral

namespace StructuredMessage

/-- A signed length of time. The nanoseconds count upwards from the seconds, below zero too. -/
structure Span where
  seconds : Int
  nanos : Nat
  nanos_lt : nanos < 1000000000
  deriving DecidableEq

namespace Span

def of? (seconds : Int) (nanos : Nat) : Option Span :=
  if h : nanos < 1000000000 then some ⟨seconds, nanos, h⟩ else none

/-- The largest span whose milliseconds fit a signed 64-bit word. -/
def longest : Span :=
  ⟨9223372036854775, 807000000, by decide⟩

/-- The whole seconds towards zero. -/
def wholeSeconds (s : Span) : Int :=
  if s.seconds < 0 ∧ 0 < s.nanos then s.seconds + 1 else s.seconds

/-- The nanoseconds that the whole seconds leave, with the sign of the span. -/
def restNanos (s : Span) : Int :=
  if s.seconds < 0 ∧ 0 < s.nanos then (s.nanos : Int) - 1000000000 else s.nanos

/-- The span in one of its three layouts. `c` and all other formats have a fixed shape with a point;
`g` and `G` write the culture's decimal separator, `g` without unneeded digits and `G` in full. -/
def format (s : Span) (format : Option String) (symbols : NumberSymbols) : String :=
  let sign := if s.wholeSeconds < 0 ∨ s.restNanos < 0 then "-" else ""
  let total := s.wholeSeconds.natAbs
  let ticks := s.restNanos.natAbs / 100
  let days := total / 86400
  let hours := total % 86400 / 3600
  let minutes := Numeral.paddedText 2 (total % 3600 / 60)
  let seconds := Numeral.paddedText 2 (total % 60)
  let fraction := Numeral.padded 7 ticks
  match format with
  | some "g" =>
    let short := Numeral.withoutTrailingZeros fraction
    sign ++ (if 0 < days then Numeral.text days ++ ":" else "") ++ Numeral.text hours ++ ":" ++
      minutes ++ ":" ++ seconds ++
      (if short.isEmpty then "" else symbols.decimalSeparator ++ String.ofList short)
  | some "G" =>
    sign ++ Numeral.text days ++ ":" ++ Numeral.paddedText 2 hours ++ ":" ++ minutes ++ ":" ++
      seconds ++ symbols.decimalSeparator ++ String.ofList fraction
  | _ =>
    sign ++ (if 0 < days then Numeral.text days ++ "." else "") ++ Numeral.paddedText 2 hours ++
      ":" ++ minutes ++ ":" ++ seconds ++
      (if 0 < ticks then "." ++ String.ofList fraction else "")

end Span

end StructuredMessage
