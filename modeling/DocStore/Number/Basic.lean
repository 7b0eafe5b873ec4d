import DocStore.Number.Double

/-!
# Numbers of a document

A number of a document is an integer that fits a signed or an unsigned 64-bit
word, or a finite double.  The two kinds stay apart: `5` and `5.0` are different
numbers of equal value.  Numbers are compared through doubles
(`Number.toDouble`), so integers that round to the same double compare equal.
-/

namespace DocStore

abbrev Integer.least : Int := -9223372036854775808

abbrev Integer.signedMost : Int := 9223372036854775807

abbrev Integer.most : Int := 18446744073709551615

/-- An integer that fits a signed or an unsigned 64-bit word. -/
structure Integer where
  val : Int
  fits : Integer.least ≤ val ∧ val ≤ Integer.most
  deriving DecidableEq

namespace Integer

instance : Inhabited Integer := ⟨⟨0, by decide⟩⟩

def ofInt? (n : Int) : Option Integer :=
  if h : least ≤ n ∧ n ≤ most then some ⟨n, h⟩ else none

def isSigned (n : Integer) : Bool :=
  n.val ≤ signedMost

/-- The integer as an unsigned word, if it is not negative. -/
def toUInt64? (n : Integer) : Option UInt64 :=
  if 0 ≤ n.val then some (UInt64.ofNat n.val.toNat) else none

def ofUInt64 (n : UInt64) : Integer :=
  ⟨n.toNat, by have := n.toNat_lt; simp only [least, most]; omega⟩

end Integer

/-- A number of a document. -/
inductive Number where
  | int (value : Integer)
  | double (value : Double)
  deriving DecidableEq

namespace Number

instance : Inhabited Number := ⟨.int default⟩

/-- The number of an integer: exact while it fits 64 bits, else the nearest
double, and zero past the range of doubles. -/
def ofInt (n : Int) : Number :=
  match Integer.ofInt? n with
  | some value => .int value
  | none => .double ((Binary64.ofInt n).toDouble?.getD (.zero false))

def ofNat (n : Nat) : Number :=
  ofInt n

/-- The nearest double.  An integer of 64 bits is far inside the range of
doubles, so none is lost to an infinity. -/
def toDouble : Number → Double
  | .int n => (Binary64.ofInt n.val).toDouble?.getD (.zero false)
  | .double x => x

/-- The nearest double as a double of any kind. -/
def toBinary64 (n : Number) : Binary64 :=
  .finite n.toDouble

end Number

end DocStore
