import DocStore.Number.Double

/-!
# The shortest decimal of a double

A finite nonzero double is the nearest double to a whole interval of reals.
`Double.shortest` finds the decimal with the fewest digits in that interval, and
of those the one nearest to the double.  The search walks the powers of ten
downwards and tests, in exact arithmetic, the two multiples that surround the
double: the first power with a multiple inside the interval wins.
-/

namespace DocStore

/-- The positive decimal `coefficient * 10 ^ exponent`. -/
structure Decimal where
  coefficient : Nat
  exponent : Int
  deriving DecidableEq, Repr

namespace Double

/-- The reals that round to one double, in quarters of a unit.  The two ends
belong to it exactly when the significand is even. -/
structure Interval where
  low : Nat
  value : Nat
  high : Nat
  closed : Bool

/-- The interval of a nonzero magnitude.  Just above a power of two the gap to
the next lower double is half as wide. -/
def interval (x : Double) : Interval where
  value := 4 * x.magnitude
  high := 4 * x.magnitude + 2 <<< x.scale
  low := 4 * x.magnitude -
    (if x.significand = leastNormal ∧ x.scale ≠ 0 then 1 else 2) <<< x.scale
  closed := x.significand % 2 == 0

namespace Interval

def scaled (i : Interval) (factor : Nat) : Interval :=
  { i with low := i.low * factor, value := i.value * factor, high := i.high * factor }

def admits (i : Interval) (point : Nat) : Bool :=
  if i.closed then i.low ≤ point && point ≤ i.high
  else i.low < point && point < i.high

/-- The multiple of `step` inside the interval that is nearest to the value, as
a factor of `step`. -/
def multiple? (i : Interval) (step : Nat) : Option Nat :=
  let below := i.value / step
  let above := below + 1
  match i.admits (below * step), i.admits (above * step) with
  | true, true =>
    let toBelow := i.value - below * step
    let toAbove := above * step - i.value
    if toBelow < toAbove then some below
    else if toAbove < toBelow then some above
    else some (if below % 2 = 0 then below else above)
  | true, false => some below
  | false, true => some above
  | false, false => none

def decimal? (i : Interval) (exponent : Int) : Option Decimal :=
  let one := 4 * unitsPerOne
  let found :=
    if exponent < 0 then (i.scaled (Nat.pow 10 exponent.natAbs)).multiple? one
    else i.multiple? (Nat.pow 10 exponent.natAbs * one)
  found.map (⟨·, exponent⟩)

/-- The first decimal found for `exponent`, `exponent - 1`, … -/
def search (i : Interval) (exponent : Int) : Nat → Option Decimal
  | 0 => none
  | fuel + 1 => (i.decimal? exponent).or (i.search (exponent - 1) fuel)

end Interval

/-- The shortest decimal of the magnitude of a nonzero double.  The first power
tried is above the value; seventeen digits always suffice, so the search ends
within twenty steps. -/
def shortest (x : Double) : Decimal :=
  let i := x.interval
  let start := ((Nat.log2 i.high : Int) - 1076) * 30103 / 100000 + 1
  (i.search start 24).getD ⟨0, 0⟩

end Double

end DocStore
