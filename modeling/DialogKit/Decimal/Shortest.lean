import DialogKit.Decimal.Binary

/-!
# Shortest decimals

The decimal with the fewest digits that still reads back as a given binary number. Every real
nearer to the number than to its neighbours reads back as it, and the two midpoints do so if the
mantissa is even. A decimal grid of step `10 ^ k` is tried from coarse to fine; the first grid with
a point that reads back wins, and of two such points the nearer.
-/

namespace DialogKit.Decimal

/-- Which of two equally near decimals is taken: the upper, or the one whose last digit is even. -/
inductive Tie where
  | up
  | even
  deriving DecidableEq, Repr

/-- The number `digits * 10 ^ scale`. -/
structure Digits where
  digits : Nat
  scale : Int
  deriving DecidableEq, Repr

/-- The reals that read back as one number, in units of `1 / unit`: from `low` to `high` around
`value`, with both ends if `closed`. -/
structure Interval where
  low : Nat
  value : Nat
  high : Nat
  unit : Nat
  closed : Bool

namespace Interval

/-- The interval around `mantissa * 2 ^ exponent`. -/
def around (mantissa : Nat) (exponent : Int) (gapHalves : Bool) : Interval :=
  let factor := Nat.pow 2 (exponent - 2).toNat
  { low := (4 * mantissa - if gapHalves then 1 else 2) * factor
    value := 4 * mantissa * factor
    high := (4 * mantissa + 2) * factor
    unit := Nat.pow 2 (2 - exponent).toNat
    closed := mantissa % 2 == 0 }

def holds (i : Interval) (point : Nat) : Bool :=
  if i.closed then i.low ≤ point && point ≤ i.high else i.low < point && point < i.high

/-- The same interval measured in steps of `10 ^ k`: a grid point is a multiple of `unit`. -/
def onGrid (i : Interval) (k : Int) : Interval :=
  let finer := Nat.pow 10 (-k).toNat
  { i with
    low := i.low * finer
    value := i.value * finer
    high := i.high * finer
    unit := i.unit * Nat.pow 10 k.toNat }

/-- The nearest grid point that reads back, if one of the two around the value does. -/
def gridPoint? (i : Interval) (tie : Tie) : Option Nat :=
  let below := i.value / i.unit
  let down := i.holds (below * i.unit)
  let up := i.holds ((below + 1) * i.unit)
  let twice := 2 * (i.value - below * i.unit)
  if down && up then
    if twice < i.unit || (twice == i.unit && tie == .even && below % 2 == 0) then some below
    else some (below + 1)
  else if down then some below
  else if up then some (below + 1)
  else none

/-- Tries the grids of step `10 ^ k` and finer. -/
def search (i : Interval) (tie : Tie) : Nat → Int → Option Digits
  | 0, _ => none
  | grids + 1, k =>
      match (i.onGrid k).gridPoint? tie with
      | some digits => some ⟨digits, k⟩
      | none => i.search tie grids (k - 1)

end Interval

/-- A power of ten above `mantissa * 2 ^ exponent`, at most two above the least one. -/
def powerAbove (mantissa : Nat) (exponent : Int) : Int :=
  (mantissa.log2 + 1 + exponent) * 30103 / 100000 + 1

def shortest (tie : Tie) (mantissa : Nat) (exponent : Int) (gapHalves : Bool) : Digits :=
  if mantissa = 0 then ⟨0, 0⟩
  else
    let interval := Interval.around mantissa exponent gapHalves
    (interval.search tie 24 (powerAbove mantissa exponent)).getD ⟨0, 0⟩

end DialogKit.Decimal
