import DocStore.Number.Basic

/-!
# Reading numbers from text

Words and doubles as people and programs type them: an optional sign and decimal
digits for a word, and for a double also a fraction, an exponent, or a name of an
infinity.  A double is the one nearest to the decimal that the text denotes.
-/

namespace DocStore

def digitValue? (c : Char) : Option Nat :=
  if '0' ≤ c ∧ c ≤ '9' then some (c.toNat - 48) else none

def isDigit (c : Char) : Bool :=
  (digitValue? c).isSome

/-- The natural that a list of digits denotes, read after `acc`. -/
def naturalOfDigits (acc : Nat) (digits : List Char) : Nat :=
  digits.foldl (fun n c => 10 * n + (digitValue? c).getD 0) acc

def readNatural? (cs : List Char) : Option Nat :=
  if !cs.isEmpty && cs.all isDigit then some (naturalOfDigits 0 cs) else none

/-- Splits a sign off; without one the number is positive. -/
def splitSign : List Char → Bool × List Char
  | '-' :: rest => (true, rest)
  | '+' :: rest => (false, rest)
  | cs => (false, cs)

/-- A signed 64-bit word: digits after an optional sign. -/
def readInt64? (text : List Char) : Option Integer := do
  let (negative, rest) := splitSign text
  let magnitude ← readNatural? rest
  let value : Int := if negative then -magnitude else magnitude
  let n ← Integer.ofInt? value
  if n.isSigned then some n else none

/-- An unsigned 64-bit word: digits after an optional plus sign. -/
def readUInt64? (text : List Char) : Option UInt64 := do
  let digits := match text with
    | '+' :: rest => rest
    | cs => cs
  let n ← readNatural? digits
  if n < UInt64.size then some (UInt64.ofNat n) else none

namespace Binary64

/-- The double nearest to `± coefficient * 10 ^ exponent`.  A coefficient whose
first digit stands far beyond the range of doubles is settled without computing
the power. -/
def ofDecimal (negative : Bool) (coefficient : Nat) (exponent : Int) : Binary64 :=
  let size : Int := (Nat.toDigits 10 coefficient).length
  if coefficient = 0 then .finite (.zero negative)
  else if 400 < size + exponent then .infinite negative
  else if size + exponent < -400 then .finite (.zero negative)
  else if 0 ≤ exponent then ofRatio negative (coefficient * Nat.pow 10 exponent.toNat) 1
  else ofRatio negative coefficient (Nat.pow 10 exponent.natAbs)

def named? (negative : Bool) (name : String) : Option Binary64 :=
  if name = "inf" ∨ name = "infinity" then some (.infinite negative)
  else if name = "nan" then some .nan
  else none

def readExponent? (text : List Char) : Option Int := do
  let (negative, rest) := splitSign text
  let magnitude ← readNatural? rest
  return if negative then -magnitude else magnitude

/-- A double: an optional sign, then digits with an optional point among or beside
them and an optional exponent, or a name in any case. -/
def read? (text : List Char) : Option Binary64 :=
  let (negative, body) := splitSign text
  match named? negative (String.ofList (body.map Char.toLower)) with
  | some value => some value
  | none => do
    let whole := body.takeWhile isDigit
    let afterWhole := body.dropWhile isDigit
    let (fraction, rest) := match afterWhole with
      | '.' :: more => (more.takeWhile isDigit, more.dropWhile isDigit)
      | other => ([], other)
    guard !(whole.isEmpty && fraction.isEmpty)
    let exponent ← match rest with
      | [] => some 0
      | mark :: digits =>
        if mark = 'e' ∨ mark = 'E' then readExponent? digits else none
    return ofDecimal negative (naturalOfDigits 0 (whole ++ fraction))
      (exponent - fraction.length)

end Binary64

end DocStore
