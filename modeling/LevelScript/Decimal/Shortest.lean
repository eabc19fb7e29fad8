import LevelScript.Decimal.Binary64

namespace LevelScript.Decimal

/-!
# The shortest digits of a number

Among the decimals that read back as a given number, the shortest ones have the coarsest
last place; of those the nearest is taken, and an exact tie goes to the larger one.
All quantities are whole multiples of `10 ^ (-1076)`: half of the distance between two
neighbouring values is one, so no comparison is rounded. Every value is itself on the
finest grid, so the search always ends with a decimal that reads back.
-/

/-- The number of decimal places of the finest grid. -/
def finestPlace : Nat :=
  1076

/-- The whole number `digits` counts steps of `10 ^ (place - finestPlace)`. -/
structure Digits where
  digits : Nat
  place : Nat
deriving Repr, DecidableEq

/-- The decimals that read back as one number, in steps of the finest grid. -/
structure Interval where
  low : Nat
  value : Nat
  high : Nat
  closed : Bool
deriving Repr, DecidableEq

namespace Interval

/--
The decimals that read back as a positive finite magnitude.

They reach half of the way to both neighbours. The lower neighbour is closer by half
where the exponent changes. A tie is read as the even significand, so the ends belong
to the interval of an even one.
-/
def ofMagnitude
    (magnitude : Nat) :
    Interval :=
  let significand := Binary64.significand magnitude
  let step := Nat.pow 2 (Binary64.scale magnitude) * Nat.pow 5 finestPlace
  let below :=
    if significand = Binary64.exponentPlace ∧ 0 < Binary64.scale magnitude then 1 else 2
  {
    low := (4 * significand - below) * step
    value := 4 * significand * step
    high := (4 * significand + 2) * step
    closed := significand % 2 = 0
  }

/-- A decimal of the finest grid reads back as the number. -/
def contains
    (interval : Interval)
    (decimal : Nat) :
    Bool :=
  if interval.closed then
    interval.low ≤ decimal ∧ decimal ≤ interval.high
  else
    interval.low < decimal ∧ decimal < interval.high

/-- The decimal nearest to the value among those of one grid that read back. -/
def onGrid?
    (interval : Interval)
    (place : Nat) :
    Option Digits :=
  let step := Nat.pow 10 place
  let below := interval.value / step
  let remainder := interval.value % step
  match interval.contains (below * step), interval.contains ((below + 1) * step) with
  | true, true => some ⟨if 2 * remainder < step then below else below + 1, place⟩
  | true, false => some ⟨below, place⟩
  | false, true => some ⟨below + 1, place⟩
  | false, false => none

/-- The first decimal that reads back, on grids from the given place downwards. -/
def shortestFrom
    (interval : Interval) :
    Nat →
    Digits
  | 0 => ⟨interval.value, 0⟩
  | place + 1 =>
      (interval.onGrid? (place + 1)).getD (interval.shortestFrom place)

/-- A place whose step is beyond the whole interval. -/
def coarsestPlace
    (interval : Interval) :
    Nat :=
  (interval.high.log2 + 1) * 30103 / 100000 + 1

end Interval

/-- The shortest digits that read back as the positive finite magnitude. -/
def shortest
    (magnitude : Nat) :
    Digits :=
  let interval := Interval.ofMagnitude magnitude
  interval.shortestFrom interval.coarsestPlace

end LevelScript.Decimal
