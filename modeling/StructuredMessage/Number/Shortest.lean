import StructuredMessage.Number.Binary

namespace StructuredMessage

/-- A decimal number `digits * 10 ^ exponent`. -/
structure DecimalPoint where
  digits : Nat
  exponent : Int
  deriving DecidableEq, Repr

namespace Shortest

/-- The exponent of ten that leads `num / den` for positive numbers:
`10 ^ e ≤ num / den < 10 ^ (e + 1)`. -/
def leadingExponent (num den : Nat) : Int :=
  if den ≤ num then ((Nat.toDigits 10 (num / den)).length - 1 : Nat)
  else -((Nat.toDigits 10 ((den - 1) / num)).length : Int)

/-- The numbers that round to `significand * 2 ^ exponent`, in quarters of the unit in the last place.
Below a power of two the next word is only half as far. The ends round here iff the significand is even. -/
structure Interval where
  low : Nat
  middle : Nat
  high : Nat
  closed : Bool
  exponent : Int

def Interval.of (w : Width) (significand : Nat) (exponent : Int) : Interval where
  low := 4 * significand -
    if significand = twoPow (w.precision - 1) ∧ w.leastExponent < exponent then 1 else 2
  middle := 4 * significand
  high := 4 * significand + 2
  closed := significand % 2 == 0
  exponent := exponent - 2

/-- The factors that bring multiples of `10 ^ grid` and quarter units to one scale. -/
def Interval.scales (i : Interval) (grid : Int) : Nat × Nat :=
  (tenPow grid.toNat * twoPow (-i.exponent).toNat, twoPow i.exponent.toNat * tenPow (-grid).toNat)

/-- Whether `n * 10 ^ grid` lies in the interval. -/
def Interval.holds (i : Interval) (grid : Int) (n : Nat) : Bool :=
  let (step, quarter) := i.scales grid
  let below := i.low * quarter
  let above := i.high * quarter
  (below < n * step && n * step < above) ||
    (i.closed && (below == n * step || n * step == above))

/-- The multiples of `10 ^ grid` on both sides of the middle, the nearer one first. -/
def Interval.neighbours (i : Interval) (tie : Tie) (grid : Int) : Nat × Nat :=
  let (step, quarter) := i.scales grid
  let below := i.middle * quarter / step
  let near := roundDiv tie (i.middle * quarter) step
  (near, if near = below then below + 1 else below)

/-- The first grid, from coarse to fine, that has a point in the interval gives the digits. -/
def Interval.search (i : Interval) (tie : Tie) : Nat → Int → DecimalPoint
  | 0, grid => ⟨(i.neighbours tie grid).1, grid⟩
  | tries + 1, grid =>
    let (near, far) := i.neighbours tie grid
    if i.holds grid near then ⟨near, grid⟩
    else if i.holds grid far then ⟨far, grid⟩
    else i.search tie tries (grid - 1)

/-- The same number without zeros at the end of its digits. -/
def stripped : Nat → DecimalPoint → DecimalPoint
  | 0, x => x
  | steps + 1, x =>
    if x.digits % 10 = 0 ∧ x.digits ≠ 0 then stripped steps ⟨x.digits / 10, x.exponent + 1⟩ else x

end Shortest

/-- The decimal number with the fewest digits that reads back as `significand * 2 ^ exponent`, and of
those the nearest; a tie between two goes as `tie` says. Seventeen digits are always enough. -/
def shortest (w : Width) (tie : Tie) (significand : Nat) (exponent : Int) : DecimalPoint :=
  if significand = 0 then ⟨0, 0⟩
  else
    let (num, den) := Binary.ratio significand exponent
    Shortest.stripped 18
      ((Shortest.Interval.of w significand exponent).search tie 17
        (Shortest.leadingExponent num den))

end StructuredMessage
