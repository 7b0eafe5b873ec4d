/-!
# Doubles

Binary floating-point numbers of 64 bits, as exact data.  Every finite double is
an integer multiple of the least positive one, `2 ^ (-1074)`; `Double.units` is
that multiple, so that two doubles compare as two integers do.  `Binary64` adds
the infinities and the one value that is not a number, which only appear while
numbers are read or computed, never in a document.

All arithmetic is a single exact computation followed by one rounding to the
nearest double, a tie going to the even significand (`Binary64.ofRatio`).
-/

namespace DocStore

/-- The least significand that fills all its bits. -/
abbrev Double.leastNormal : Nat := 4503599627370496

/-- The bound of significands, which have 53 bits. -/
abbrev Double.significandBound : Nat := 9007199254740992

/-- A finite double, `± significand * 2 ^ (scale - 1074)`.  Of the ways to write
a value so, the field `canonical` admits the one whose scale is least. -/
structure Double where
  negative : Bool
  significand : Nat
  scale : Nat
  canonical : significand < Double.significandBound ∧
    (scale = 0 ∨ Double.leastNormal ≤ significand) ∧ scale ≤ 2045
  deriving DecidableEq

namespace Double

def zero (negative : Bool) : Double :=
  ⟨negative, 0, 0, by decide⟩

instance : Inhabited Double := ⟨zero false⟩

/-- The magnitude as a multiple of the least positive double. -/
def magnitude (x : Double) : Nat :=
  x.significand <<< x.scale

/-- The value as a multiple of the least positive double. -/
def units (x : Double) : Int :=
  if x.negative then -(x.magnitude : Int) else x.magnitude

/-- How many units make the number one. -/
def unitsPerOne : Nat := 1 <<< 1074

def neg (x : Double) : Double :=
  { x with negative := !x.negative }

def isWhole (x : Double) : Bool :=
  x.magnitude % unitsPerOne == 0

def truncate (x : Double) : Int :=
  let whole := x.magnitude / unitsPerOne
  if x.negative then -(whole : Int) else whole

end Double

inductive Binary64 where
  | finite (value : Double)
  | infinite (negative : Bool)
  | nan
  deriving DecidableEq

namespace Binary64

/-- A quotient of naturals rounded to a natural, a tie going to the even one. -/
def roundEven (numerator denominator : Nat) : Nat :=
  let quotient := numerator / denominator
  let twiceRest := 2 * (numerator % denominator)
  if twiceRest < denominator then quotient
  else if denominator < twiceRest then quotient + 1
  else quotient + quotient % 2

/-- The double with this significand and scale, or the infinity of its sign when
the pair is out of range. -/
def build (negative : Bool) (significand scale : Nat) : Binary64 :=
  if h : significand < Double.significandBound ∧
      (scale = 0 ∨ Double.leastNormal ≤ significand) ∧ scale ≤ 2045 then
    .finite ⟨negative, significand, scale, h⟩
  else
    .infinite negative

/-- The double nearest to `± numerator / denominator`, a tie going to the even
significand and values past the largest double to an infinity.  The denominator
must not be zero. -/
def ofRatio (negative : Bool) (numerator denominator : Nat) : Binary64 :=
  let inUnits := numerator * Double.unitsPerOne
  let scale := Nat.log2 (inUnits / denominator) - 52
  let significand := roundEven inUnits (denominator <<< scale)
  if significand = Double.significandBound then build negative Double.leastNormal (scale + 1)
  else build negative significand scale

def ofInt (n : Int) : Binary64 :=
  ofRatio (n < 0) n.natAbs 1

def toDouble? : Binary64 → Option Double
  | .finite x => some x
  | _ => none

/-- A key that orders the values: the units of a finite double, and a bound
beyond all of them for an infinity. -/
def orderKey? : Binary64 → Option Int
  | .finite x => some x.units
  | .infinite negative => some (if negative then -((1 <<< 2100 : Nat) : Int) else (1 <<< 2100 : Nat))
  | .nan => none

/-- The order of two values.  What is not a number is not comparable, and the
two zeros are equal. -/
def compare? (x y : Binary64) : Option Ordering := do
  return compare (← x.orderKey?) (← y.orderKey?)

/-- Numeric equality: false as soon as one side is not a number. -/
def same (x y : Binary64) : Bool :=
  x.compare? y == some .eq

def below (x y : Binary64) : Bool :=
  x.compare? y == some .lt

/-- The sign bit; what is not a number counts as positive. -/
def negative : Binary64 → Bool
  | .finite x => x.negative
  | .infinite negative => negative
  | .nan => false

def mul : Binary64 → Binary64 → Binary64
  | .nan, _ | _, .nan => .nan
  | .finite x, .finite y =>
    ofRatio (x.negative != y.negative) (x.magnitude * y.magnitude)
      (Double.unitsPerOne * Double.unitsPerOne)
  | .finite x, .infinite negative | .infinite negative, .finite x =>
    if x.significand = 0 then .nan else .infinite (x.negative != negative)
  | .infinite a, .infinite b => .infinite (a != b)

def div : Binary64 → Binary64 → Binary64
  | .nan, _ | _, .nan => .nan
  | .finite x, .finite y =>
    if y.significand = 0 then
      if x.significand = 0 then .nan else .infinite (x.negative != y.negative)
    else ofRatio (x.negative != y.negative) x.magnitude y.magnitude
  | .finite x, .infinite negative => .finite (.zero (x.negative != negative))
  | .infinite negative, .finite y => .infinite (negative != y.negative)
  | .infinite _, .infinite _ => .nan

def roundHalfAway : Binary64 → Binary64
  | .finite x =>
    ofRatio x.negative
      ((2 * x.magnitude + Double.unitsPerOne) / (2 * Double.unitsPerOne)) 1
  | other => other

/-- `base ^ exponent` by repeated squaring, with a rounding after every product;
`acc` collects the factors of the bits seen so far. -/
def powNat (base acc : Binary64) (exponent : Nat) : Binary64 :=
  let acc := if exponent % 2 = 1 then acc.mul base else acc
  if h : exponent / 2 = 0 then acc
  else powNat (base.mul base) acc (exponent / 2)
termination_by exponent
decreasing_by omega

def powTen (exponent : Int) : Binary64 :=
  let power := powNat (ofInt 10) (ofInt 1) exponent.natAbs
  if exponent < 0 then (ofInt 1).div power else power

end Binary64

end DocStore
