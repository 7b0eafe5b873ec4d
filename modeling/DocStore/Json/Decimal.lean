import DocStore.Number.Reading

/-!
# Numbers in JSON text

The grammar of a JSON number, and the value it is given.  An integer that fits 64
bits is exact.  Any other number is a double, found by a fast rule rather than by
correct rounding: the leading digits that fit a 64-bit word are taken as a
double, which is then multiplied or divided once by a power of ten.  A number
beyond the range of doubles is refused.
-/

namespace DocStore.Json

structure NumberText where
  negative : Bool
  whole : List Char
  fraction : Option (List Char)
  /-- The sign of the exponent, negative or not, and its digits. -/
  exponent : Option (Bool × List Char)

namespace NumberText

def wordMax : Nat := 18446744073709551615

/-- Takes digits into a word as long as it holds them; answers the word and how
many digits are left over. -/
def absorb (word : Nat) : List Char → Nat × Nat
  | [] => (word, 0)
  | c :: rest =>
    let next := 10 * word + (digitValue? c).getD 0
    if wordMax < next then (word, rest.length + 1) else absorb next rest

def powerOfTen (exponent : Nat) : Binary64 :=
  Binary64.ofRatio false (Nat.pow 10 exponent) 1

/-- A word times a power of ten, by one multiplication or division where the
power is in range.  Below that range the division is done in steps of
`10 ^ 308`, and after two of them nothing is left. -/
def scaled? (word : Nat) (exponent : Int) : Option Double :=
  let start := Binary64.ofInt word
  if 308 < exponent then
    if word = 0 then some (.zero false) else none
  else if 0 ≤ exponent then
    (start.mul (powerOfTen exponent.toNat)).toDouble?
  else if -308 ≤ exponent then
    (start.div (powerOfTen exponent.natAbs)).toDouble?
  else if -616 ≤ exponent then
    ((start.div (powerOfTen 308)).div (powerOfTen (exponent.natAbs - 308))).toDouble?
  else
    some (.zero false)

/-- The value of an exponent; one beyond 31 bits counts as infinite. -/
def exponentValue? (digits : List Char) : Option Nat :=
  let value := naturalOfDigits 0 digits
  if value < 2147483648 then some value else none

def double? (t : NumberText) : Option Double := do
  let (word, dropped) := absorb 0 t.whole
  let (word, exponent) : Nat × Int := match t.fraction with
    | none => (word, dropped)
    | some digits =>
      let (all, left) := absorb word digits
      (all, (dropped : Int) - (digits.length - left))
  let magnitude ← match t.exponent with
    | none => scaled? word exponent
    | some (down, digits) =>
      match exponentValue? digits with
      | some value => scaled? word (if down then exponent - value else exponent + value)
      | none => if down ∨ word = 0 then some (.zero false) else none
  return if t.negative then magnitude.neg else magnitude

/-- The integer of a number text without fraction and exponent, unless it is too
long or a negative zero. -/
def integer? (t : NumberText) : Option Integer :=
  match t.fraction, t.exponent with
  | none, none =>
    let magnitude := naturalOfDigits 0 t.whole
    if t.negative then
      if magnitude = 0 then none else Integer.ofInt? (-(magnitude : Int))
    else Integer.ofInt? magnitude
  | _, _ => none

def value? (t : NumberText) : Option Number :=
  match t.integer? with
  | some n => some (.int n)
  | none => t.double?.map .double

/-- The digits of the whole part: a single zero, or a list without a leading
zero. -/
def readWhole? : List Char → Option (List Char × List Char)
  | '0' :: rest =>
    if (rest.takeWhile isDigit).isEmpty then some (['0'], rest) else none
  | cs =>
    let digits := cs.takeWhile isDigit
    if digits.isEmpty then none else some (digits, cs.dropWhile isDigit)

/-- The fraction, if a point follows: then it has a digit at least. -/
def readFraction? : List Char → Option (Option (List Char) × List Char)
  | '.' :: rest =>
    let digits := rest.takeWhile isDigit
    if digits.isEmpty then none else some (some digits, rest.dropWhile isDigit)
  | cs => some (none, cs)

/-- The exponent, if its mark follows: then it has a digit at least. -/
def readExponent? : List Char → Option (Option (Bool × List Char) × List Char)
  | [] => some (none, [])
  | mark :: rest =>
    if mark = 'e' ∨ mark = 'E' then
      let (down, body) := splitSign rest
      let digits := body.takeWhile isDigit
      if digits.isEmpty then none
      else some (some (down, digits), body.dropWhile isDigit)
    else some (none, mark :: rest)

def read? (cs : List Char) : Option (NumberText × List Char) := do
  let (negative, body) := match cs with
    | '-' :: rest => (true, rest)
    | cs => (false, cs)
  let (whole, rest) ← readWhole? body
  let (fraction, rest) ← readFraction? rest
  let (exponent, rest) ← readExponent? rest
  return (⟨negative, whole, fraction, exponent⟩, rest)

end NumberText

end DocStore.Json
