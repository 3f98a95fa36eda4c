import Isochrone.Number.Binary64

/-!
# The shortest decimal that reads back

Every real nearer to a binary64 number than to its neighbours reads back as that number,
and so do the two midpoints when the significand is even. The shortest decimal is the point
of the coarsest decimal grid that lies in this interval; of two such points the nearer is
taken, and a tie goes as the format asks.
-/

namespace Isochrone

/-- Which way an exact tie between two neighbouring digits goes. -/
inductive Tie where
  | toEven
  | up
  deriving DecidableEq, Repr

/-- The decimal `coefficient · 10 ^ exponent`. -/
structure Decimal where
  coefficient : Nat
  exponent : Int
  deriving DecidableEq, Repr

namespace Binary64.Finite

/-- The interval of reals that read back as a number, over a common denominator. -/
structure Interval where
  low : Nat
  value : Nat
  high : Nat
  /-- The denominator of the three bounds. -/
  scale : Nat
  /-- Whether the ends belong to the interval. -/
  closed : Bool

/-- The interval of `x`: half way to each neighbour. The lower neighbour of a power of two
is half as far away as the upper one, unless it is among the smallest numbers. -/
def interval (x : Finite) : Interval :=
  let unit := 1 <<< x.exponent
  let below := if x.significand = 0x10000000000000 ∧ 0 < x.exponent then unit else 2 * unit
  { low := 4 * x.units - below
    value := 4 * x.units
    high := 4 * x.units + 2 * unit
    scale := 4 * one
    closed := x.significand % 2 = 0 }

/-- Whether the real `numerator / scale` reads back. -/
def Interval.contains (i : Interval) (numerator : Nat) : Bool :=
  if i.closed then i.low ≤ numerator && numerator ≤ i.high
  else i.low < numerator && numerator < i.high

/-- The interval times `factor`. -/
def Interval.times (i : Interval) (factor : Nat) : Interval :=
  { i with low := i.low * factor, value := i.value * factor, high := i.high * factor }

/-- The better of the two multiples of `step` around the value, if one reads back. -/
def Interval.multiple? (i : Interval) (tie : Tie) (step : Nat) : Option Nat :=
  let floor := i.value / step
  let rest := i.value % step
  match i.contains (floor * step), i.contains ((floor + 1) * step) with
  | false, false => none
  | true, false => some floor
  | false, true => some (floor + 1)
  | true, true =>
    if 2 * rest < step then some floor
    else if step < 2 * rest then some (floor + 1)
    else match tie with
      | .toEven => some (floor + floor % 2)
      | .up => some (floor + 1)

/-- The better point of the grid of `10 ^ e` around the value, if one reads back. -/
def Interval.onGrid? (i : Interval) (tie : Tie) (e : Int) : Option Decimal :=
  let point := match e with
    | .ofNat n => i.multiple? tie (i.scale * Nat.pow 10 n)
    | .negSucc n => (i.times (Nat.pow 10 (n + 1))).multiple? tie i.scale
  point.map fun coefficient => ⟨coefficient, e⟩

/-- The number of decimal digits of `n`. -/
def digitCount (n : Nat) : Nat := (Nat.toDigits 10 n).length

/-- An exponent whose power of ten is above `x`, by at most two places. -/
def coarse (x : Finite) : Int :=
  if one ≤ x.units then digitCount (x.units / one) else 2 - digitCount (one / x.units)

/-- The shortest decimal that reads back as `x`. Twenty grids always suffice, since
seventeen digits tell all numbers apart. -/
def shortest (tie : Tie) (x : Finite) : Decimal :=
  if x.isZero then ⟨0, 0⟩
  else
    let grids := (List.range 20).map fun n : Nat => x.coarse - n
    (grids.findSome? fun e => x.interval.onGrid? tie e).getD ⟨0, 0⟩

end Binary64.Finite

end Isochrone
