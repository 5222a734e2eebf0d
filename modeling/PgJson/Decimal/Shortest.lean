import PgJson.Decimal.Binary

/-!
# The shortest decimal number that reads back

Every real number close enough to a binary number `b` is rounded to `b` when it is read: these
numbers form an interval around `b`, with its ends included exactly when the significand is even.
Among the decimal numbers in the interval `Binary.shortest` takes one with the fewest digits and,
among those, the one nearest to `b`.

The search goes through the grids of multiples of `10 ^ p`, from coarse to fine. On each grid only
the two neighbours of `b` matter: if any point of the grid lies in the interval, one of them does.
All comparisons are between natural numbers.

## Main definitions

* `PgJson.Decimal.Number` — a decimal number, `digits * 10 ^ exponent`
* `PgJson.Decimal.Grid` — the interval of a binary number, measured in steps of one grid
* `PgJson.Decimal.Binary.shortest` — the shortest decimal number in the interval
-/

namespace PgJson.Decimal

/-- The decimal number `digits * 10 ^ exponent`. -/
structure Number where
  digits : Nat
  exponent : Int
deriving DecidableEq, Repr

/-- The interval around a binary number and the step of a decimal grid, in a common unit. -/
structure Grid where
  step : Nat
  low : Nat
  centre : Nat
  high : Nat
  /-- The ends of the interval belong to it. -/
  closed : Bool

/-- The interval of `b` beside the grid of multiples of `10 ^ p`. The ends of the interval are
half-way to the neighbours of `b`, which are whole numbers in units of `2 ^ (b.exponent - 2)`. -/
def Binary.grid (b : Binary) (p : Int) : Grid :=
  let unit := b.exponent - 2
  let scale := Nat.pow 2 unit.toNat * Nat.pow 10 (-p).toNat
  { step := Nat.pow 10 p.toNat * Nat.pow 2 (-unit).toNat
    low := (4 * b.significand - if b.narrowBelow then 1 else 2) * scale
    centre := 4 * b.significand * scale
    high := (4 * b.significand + 2) * scale
    closed := b.significand % 2 == 0 }

/-- Whether the `d`-th point of the grid lies in the interval. -/
def Grid.holds (g : Grid) (d : Nat) : Bool :=
  if g.closed then g.low ≤ d * g.step && d * g.step ≤ g.high
  else g.low < d * g.step && d * g.step < g.high

/-- The point of the grid in the interval that is nearest to the centre; of two at the same
distance the even one. -/
def Grid.nearest (g : Grid) : Option Nat :=
  let d := g.centre / g.step
  let below := g.centre - d * g.step
  let above := (d + 1) * g.step - g.centre
  match g.holds d, g.holds (d + 1) with
  | false, false => none
  | true, false => some d
  | false, true => some (d + 1)
  | true, true => some (if below < above || (below == above && d % 2 == 0) then d else d + 1)

/-- Search the grids of `10 ^ p`, `10 ^ (p - 1)`, … for the first with a point in the
interval. -/
def Binary.search (b : Binary) : Nat → Int → Number
  | 0, p => ⟨(b.grid p).centre / (b.grid p).step, p⟩
  | steps + 1, p => match (b.grid p).nearest with
    | some d => ⟨d, p⟩
    | none => b.search steps (p - 1)

/-- A power of ten that no number of the interval reaches: `30103 / 100000` is a little more than
the decimal logarithm of two. -/
def Binary.ceiling (b : Binary) : Int :=
  ((4 * b.significand + 2).log2 + 1 + (b.exponent - 2)) * 30103 / 100000 + 1

/-- The shortest decimal number that rounds to `b`, and the nearest of those. Seventeen digits
always suffice, and the ceiling exceeds the number by less than three powers of ten. -/
def Binary.shortest (b : Binary) : Number := b.search 24 b.ceiling

end PgJson.Decimal
