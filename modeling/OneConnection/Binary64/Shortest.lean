import OneConnection.Binary64.Basic

/-!
# Shortest decimals

The decimal with the fewest digits that still rounds to a given double. Every double owns the
interval of numbers that round to it; among the decimal grids, from coarse to fine, the first one
with a point in the interval decides, and of two points the nearer one.
-/

namespace OneConnection.Binary64

inductive Tie
  | upward
  | even
  deriving DecidableEq, Repr

/-- The digits of a decimal as a number, and the power of ten that they are multiplied by. -/
structure Decimal where
  digits : Nat
  exponent : Int
  deriving DecidableEq, Repr

/-- A double between the ends of its interval, all three over one denominator. -/
structure Interval where
  low : Nat
  value : Nat
  high : Nat
  den : Nat
  /-- Whether the ends themselves round to the double. -/
  closed : Bool

namespace Interval

/-- The interval of `significand * 2 ^ exponent`. Below a power of two the doubles are twice as
dense, so the interval reaches only half as far. -/
def of (significand : Nat) (exponent : Int) : Interval :=
  let narrow := significand = fractionLimit ∧ leastExponent < exponent
  let (low, den) := shifted (4 * significand - if narrow then 1 else 2) 1 (exponent - 2)
  let (value, _) := shifted (4 * significand) 1 (exponent - 2)
  let (high, _) := shifted (4 * significand + 2) 1 (exponent - 2)
  { low, value, high, den, closed := significand % 2 = 0 }

def contains (i : Interval) (point : Nat) : Bool :=
  if i.closed then i.low ≤ point && point ≤ i.high else i.low < point && point < i.high

/-- The interval over the grid of step `10 ^ exponent`, together with that step. -/
def onGrid (i : Interval) (exponent : Int) : Interval × Nat :=
  if 0 ≤ exponent then (i, i.den * Nat.pow 10 exponent.toNat)
  else
    let factor := Nat.pow 10 (-exponent).toNat
    ({ i with low := i.low * factor, value := i.value * factor, high := i.high * factor }, i.den)

/-- The grid point that stands for the double, if the interval holds one of the double's two
neighbours on the grid. -/
def point? (i : Interval) (tie : Tie) (exponent : Int) : Option Nat :=
  let (j, step) := i.onGrid exponent
  let below := j.value / step
  let above := below + 1
  match j.contains (below * step), j.contains (above * step) with
  | false, false => none
  | true, false => some below
  | false, true => some above
  | true, true =>
    let down := j.value - below * step
    let up := above * step - j.value
    if down < up then some below
    else if up < down then some above
    else match tie with
      | .upward => some above
      | .even => some (below + below % 2)

/-- The exponent of the first decimal digit of the double. -/
def leadingExponent (i : Interval) : Int :=
  if i.den ≤ i.value then ((Nat.toDigits 10 (i.value / i.den)).length : Int) - 1
  else -((Nat.toDigits 10 (i.den / i.value)).length : Int)

/-- The first grid, from `exponent` downward, that has a point for the double. -/
def search (i : Interval) (tie : Tie) : Nat → Int → Decimal
  | 0, exponent => ⟨(i.onGrid exponent).1.value / (i.onGrid exponent).2, exponent⟩
  | grids + 1, exponent =>
    match i.point? tie exponent with
    | some digits => ⟨digits, exponent⟩
    | none => i.search tie grids (exponent - 1)

end Interval

/-- The decimal with the fewest digits that rounds to `significand * 2 ^ exponent`. Seventeen digits
always suffice. -/
def shortest (tie : Tie) (significand : Nat) (exponent : Int) : Decimal :=
  if significand = 0 then ⟨0, 0⟩
  else
    let interval := Interval.of significand exponent
    interval.search tie 17 interval.leadingExponent

end OneConnection.Binary64
