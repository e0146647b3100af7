import RobotScript.Decimal.Parts

/-!
# The fewest digits that read back

The numbers that round to `m * 2 ^ q` form an interval around it, whose ends belong to it when `m`
is even. `shortest` looks through the grids of the multiples of a power of ten, from coarse to fine,
for one with a point in that interval. Only the two neighbours of the value on a grid have to be
tried; if both lie in the interval the nearer one is taken, and the upper one if they are equally
near.
-/

namespace RobotScript.Decimal

/-- A decimal: `digits * 10 ^ exponent`. -/
structure Scaled where
  digits : Nat
  exponent : Int
deriving DecidableEq, Repr

/-- The numbers that round to `middle / unit`: from `low / unit` to `high / unit`, with or without
the ends. -/
structure Interval where
  low : Nat
  middle : Nat
  high : Nat
  unit : Nat
  closed : Bool
deriving DecidableEq, Repr

namespace Interval

/-- The interval of `m * 2 ^ q`, in quarters of the last place. Below a power of two the neighbours
are twice as close, except among the smallest numbers. -/
def around (m : Nat) (q : Int) : Interval :=
  let scale := Nat.pow 2 q.toNat
  let below := if m = leadingBit ∧ leastExponent < q then 1 else 2
  { low := (4 * m - below) * scale
    middle := 4 * m * scale
    high := (4 * m + 2) * scale
    unit := 4 * Nat.pow 2 (-q).toNat
    closed := m % 2 == 0 }

/-- The same interval seen on the grid of the multiples of `10 ^ k`: its bounds are divided by `10 ^
k`. -/
def onGrid (i : Interval) (k : Int) : Interval :=
  let finer := Nat.pow 10 (-k).toNat
  { i with low := i.low * finer, middle := i.middle * finer, high := i.high * finer,
           unit := i.unit * Nat.pow 10 k.toNat }

/-- The whole number `n` lies in the interval. -/
def contains (i : Interval) (n : Nat) : Bool :=
  if i.closed then i.low ≤ n * i.unit && n * i.unit ≤ i.high
  else i.low < n * i.unit && n * i.unit < i.high

/-- The whole number below the middle. -/
def floor (i : Interval) : Nat :=
  i.middle / i.unit

/-- A whole number in the interval: of the two neighbours of the middle the nearer one, the upper
one if they are equally near. -/
def neighbour? (i : Interval) : Option Nat :=
  let n := i.floor
  match i.contains n, i.contains (n + 1) with
  | true, true => some (if 2 * i.middle < (2 * n + 1) * i.unit then n else n + 1)
  | true, false => some n
  | false, true => some (n + 1)
  | false, false => none

/-- The first grid with a point in the interval, from `10 ^ k` on, and at most `grids` of them. -/
def search (i : Interval) : (grids : Nat) → (k : Int) → Scaled
  | 0, k => ⟨(i.onGrid k).floor, k⟩
  | grids + 1, k =>
    match (i.onGrid k).neighbour? with
    | some n => ⟨n, k⟩
    | none => i.search grids (k - 1)

end Interval

/-- An exponent `k` with `m * 2 ^ q` below `10 ^ k`, and not far below it. -/
def decimalBound (m : Nat) (q : Int) : Int :=
  (m.log2 + 1 + q) * 30103 / 100000 + 1

/-- The decimal with the fewest digits that reads back as `m * 2 ^ q`. Seventeen digits always
do. -/
def shortest (m : Nat) (q : Int) : Scaled :=
  (Interval.around m q).search 20 (decimalBound m q)

end RobotScript.Decimal
