import JobMatrix.Decimal.Binary64

/-!
# The shortest decimal of a number

Among the decimals that round to a given double-precision number, the shortest is one with
the fewest digits, and the nearest to the number among those. It is found on ever finer
decimal grids: if a point of a grid rounds to the number, one of the two points around the
number does.
-/

namespace JobMatrix.Decimal

/-- A positive decimal `digits * 10 ^ exponent`. -/
structure Scaled where
  digits : Nat
  exponent : Int
deriving DecidableEq, Inhabited

namespace Shortest

/-- The reals that round to `mantissa * 2 ^ exponent`, in units of a quarter of its last place:
the number itself, the ends of the interval, and whether the ends belong to it. -/
structure Interval where
  low : Nat
  value : Nat
  high : Nat
  closed : Bool

/-- The interval of a positive number. Below a power of two the numbers lie twice as dense. -/
def interval (mantissa : Nat) (exponent : Int) : Interval where
  low := 4 * mantissa -
    (if mantissa = Binary64.leastMantissa ∧ Binary64.minExponent < exponent then 1 else 2)
  value := 4 * mantissa
  high := 4 * mantissa + 2
  closed := mantissa % 2 == 0

/-- Whether `x` lies in the interval when both are counted in the same unit. -/
def Interval.holds (i : Interval) (x : Nat) : Bool :=
  if i.closed then i.low ≤ x && x ≤ i.high else i.low < x && x < i.high

/-- The point of the grid of multiples of `10 ^ k` that lies in the interval nearest to its number,
where the interval is counted in units of `2 ^ s`. -/
def onGrid (i : Interval) (s k : Int) : Option Nat :=
  let p := Nat.pow 2 s.toNat * Nat.pow 10 (-k).toNat
  let q := Nat.pow 10 k.toNat * Nat.pow 2 (-s).toNat
  let i : Interval := ⟨i.low * p, i.value * p, i.high * p, i.closed⟩
  let below := i.value / q
  let above := below + 1
  let belowHolds := 0 < below && i.holds (below * q)
  let aboveHolds := i.holds (above * q)
  if belowHolds && aboveHolds then
    let left := i.value - below * q
    let right := above * q - i.value
    if left < right then some below
    else if right < left then some above
    else if below % 2 = 0 then some below
    else some above
  else if belowHolds then some below
  else if aboveHolds then some above
  else none

/-- The first grid, from `10 ^ k` down, with a point in the interval; the last grid tried is
`fuel` steps finer. -/
def search (i : Interval) (s : Int) : Nat → Int → Scaled
  | 0, k => ⟨i.value, k⟩
  | fuel + 1, k =>
    match onGrid i s k with
    | some digits => ⟨digits, k⟩
    | none => search i s fuel (k - 1)

/-- The shortest decimal that rounds to the positive number `mantissa * 2 ^ exponent`. -/
def decimal (mantissa : Nat) (exponent : Int) : Scaled :=
  let bits : Int := exponent + (mantissa.log2 : Int) + 1
  search (interval mantissa exponent) (exponent - 2) 24 (bits * 30103 / 100000 + 2)

end Shortest

end JobMatrix.Decimal
