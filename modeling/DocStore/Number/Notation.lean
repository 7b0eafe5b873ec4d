import DocStore.Number.Basic
import DocStore.Number.Shortest

/-!
# Writing numbers

Doubles are written with the digits of their shortest decimal.  Two forms are in
use: the data form, which has a fraction or an exponent so that it reads back as
a double, and the plain form, which never has an exponent and shows whole
numbers as integers.
-/

namespace DocStore

/-- How the data form of a double spells its exponent. -/
structure DoubleStyle where
  plusSign : Bool

namespace DoubleStyle

/-- JSON text: `1e+16`. -/
def json : DoubleStyle := ⟨true⟩

/-- YAML text: `1e16`. -/
def yaml : DoubleStyle := ⟨false⟩

end DoubleStyle

namespace Decimal

def digits (d : Decimal) : List Char :=
  Nat.toDigits 10 d.coefficient

def leadingPower (d : Decimal) : Int :=
  d.exponent + (d.digits.length : Int) - 1

/-- Positional notation; a whole number has no point. -/
def positional (d : Decimal) : List Char :=
  let digits := d.digits
  if 0 ≤ d.exponent then
    digits ++ List.replicate d.exponent.toNat '0'
  else if 0 ≤ d.leadingPower then
    let whole := d.leadingPower.toNat + 1
    digits.take whole ++ '.' :: digits.drop whole
  else
    '0' :: '.' :: (List.replicate (-d.leadingPower - 1).toNat '0' ++ digits)

/-- One digit before the point, and the power of ten of that digit. -/
def scientific (style : DoubleStyle) (d : Decimal) : List Char :=
  let power := d.leadingPower
  let sign := if power < 0 then ['-'] else if style.plusSign then ['+'] else []
  let fraction := match d.digits.drop 1 with
    | [] => []
    | rest => '.' :: rest
  d.digits.take 1 ++ fraction ++ 'e' :: sign ++ Nat.toDigits 10 power.natAbs

end Decimal

namespace Double

def signText (x : Double) : List Char :=
  if x.negative then ['-'] else []

/-- The data form: positional from `1e-5` up to below `1e16`, with `.0` on a
whole number, and with an exponent outside. -/
def dataText (style : DoubleStyle) (x : Double) : String :=
  if x.significand = 0 then
    String.ofList (x.signText ++ ['0', '.', '0'])
  else
    let d := x.shortest
    let body :=
      if -5 ≤ d.leadingPower ∧ d.leadingPower < 16 then
        if 0 ≤ d.exponent then d.positional ++ ['.', '0'] else d.positional
      else d.scientific style
    String.ofList (x.signText ++ body)

/-- The positional form of the shortest decimal, without an exponent and without
`.0`. -/
def plainText (x : Double) : String :=
  let body := if x.significand = 0 then ['0'] else x.shortest.positional
  String.ofList (x.signText ++ body)

/-- The display form: all digits of a whole number below `10 ^ 21`, and the
plain form of any other double. -/
def displayText (x : Double) : String :=
  if x.isWhole ∧ x.truncate.natAbs < Nat.pow 10 21 then
    String.ofList (x.signText ++ Nat.toDigits 10 x.truncate.natAbs)
  else x.plainText

end Double

def Binary64.plainText : Binary64 → String
  | .finite x => x.plainText
  | .infinite negative => if negative then "-inf" else "inf"
  | .nan => "NaN"

def Integer.text (n : Integer) : String :=
  if n.val < 0 then "-" ++ String.ofList (Nat.toDigits 10 n.val.natAbs)
  else String.ofList (Nat.toDigits 10 n.val.natAbs)

namespace Number

/-- The data form: integers plainly, doubles so that they read back as doubles. -/
def dataText (style : DoubleStyle) : Number → String
  | .int n => n.text
  | .double x => x.dataText style

/-- The display form, in which a whole double looks like the integer. -/
def displayText : Number → String
  | .int n => n.text
  | .double x => x.displayText

end Number

end DocStore
