import SelectBuilder.Number.Binary
import SelectBuilder.Number.Decimal

namespace SelectBuilder

/-!
# The shortest decimal that reads back

A binary number is written with as few decimal digits as still identify it:
every decimal inside its rounding interval reads back as the number itself.
Among the decimals with the fewest digits the nearest one is taken.

The search goes through the decimal grids from coarse to fine.  A grid that
has a point in the interval has one among the two neighbours of the number,
so only these are tried.
-/

/-- The reals that round to a number, as fractions over a common `scale`.
The ends belong to the interval when ties between neighbours go its way. -/
structure RoundingInterval where
  low : Nat
  middle : Nat
  high : Nat
  scale : Nat
  closed : Bool

namespace RoundingInterval

/-- Half a step on either side, or a quarter of one below when the number
below is nearer.  Ties go to the even significand. -/
def ofMagnitude (magnitude : Magnitude) : RoundingInterval :=
  let factor := Nat.pow 2 (magnitude.exponent - 2).toNat
  let quarters := 4 * magnitude.significand
  { low := (if magnitude.nearerBelow then quarters - 1 else quarters - 2) * factor
    middle := quarters * factor
    high := (quarters + 2) * factor
    scale := Nat.pow 2 (2 - magnitude.exponent).toNat
    closed := magnitude.significand % 2 = 0 }

/-- Whether `digits * 10 ^ exponent` lies in the interval. -/
def contains (interval : RoundingInterval) (decimal : Decimal) : Bool :=
  let point := decimal.digits * Nat.pow 10 decimal.exponent.toNat * interval.scale
  let low := interval.low * Nat.pow 10 (-decimal.exponent).toNat
  let high := interval.high * Nat.pow 10 (-decimal.exponent).toNat
  if interval.closed then low ≤ point && point ≤ high else low < point && point < high

/-- The greatest grid point that is not above the middle. -/
def floorDigits (interval : RoundingInterval) (exponent : Int) : Nat :=
  interval.middle * Nat.pow 10 (-exponent).toNat / (interval.scale * Nat.pow 10 exponent.toNat)

/-- Whether the grid point below the middle goes before the one above: it is
nearer, or as near and favoured by the tie. -/
def prefersFloor (interval : RoundingInterval) (tie : Decimal.Tie) (exponent : Int) : Bool :=
  let floor := interval.floorDigits exponent
  let twice := 2 * (interval.middle * Nat.pow 10 (-exponent).toNat)
  let halfway := (2 * floor + 1) * (interval.scale * Nat.pow 10 exponent.toNat)
  twice < halfway || twice = halfway && tie = .even && floor % 2 = 0

/-- The nearer neighbour of the middle on a grid, when it is in the interval;
otherwise the other neighbour, when that is. -/
def onGrid? (interval : RoundingInterval) (tie : Decimal.Tie) (exponent : Int) :
    Option Decimal :=
  let below : Decimal := ⟨interval.floorDigits exponent, exponent⟩
  let above : Decimal := ⟨interval.floorDigits exponent + 1, exponent⟩
  let candidates :=
    if interval.prefersFloor tie exponent then [below, above] else [above, below]
  candidates.find? interval.contains

/-- The exponent of the middle's leading digit. -/
def leadingExponent (interval : RoundingInterval) : Int :=
  if interval.scale ≤ interval.middle then
    (digitCount (interval.middle / interval.scale) : Int) - 1
  else -(digitCount ((interval.scale - 1) / interval.middle) : Int)

/-- The first grid with a point in the interval, among so many. -/
def search (interval : RoundingInterval) (tie : Decimal.Tie) : Nat -> Int -> Decimal
  | 0, exponent => ⟨interval.floorDigits exponent, exponent⟩
  | grids + 1, exponent =>
      match interval.onGrid? tie exponent with
      | some decimal => decimal
      | none => search interval tie grids (exponent - 1)

end RoundingInterval

/-- Seventeen digits identify every number of the formats used here. -/
def Magnitude.shortest (tie : Decimal.Tie) (magnitude : Magnitude) : Decimal :=
  if magnitude.significand = 0 then ⟨0, 0⟩
  else
    let interval := RoundingInterval.ofMagnitude magnitude
    (interval.search tie 17 interval.leadingExponent).reduce

/-- The text of a finite number: its sign, which zero has too, and the
shortest decimal. -/
def Decimal.Layout.writeSigned (layout : Decimal.Layout) (negative : Bool)
    (magnitude : Magnitude) : String :=
  (if negative then "-" else "") ++ layout.write (magnitude.shortest layout.tie)

end SelectBuilder
