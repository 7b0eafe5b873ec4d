import DocStore.Schema.Supply
import DocStore.Text.LetterCase.Basic
import DocStore.Number.Reading
import DocStore.Text.Parts

/-!
# Defaults, transforms and validators

What a field does to the values that come into it: it fills in a default, changes
them, and checks them.
-/

namespace DocStore

inductive Default where
  | literal (value : Json)
  | generated (generator : Generator)

def Default.resolve : Default → StateM Supply Json
  | .literal value => return value
  | .generated generator => Supply.draw generator

structure Transform where
  name : String
  apply : Json → Json

namespace Transform

/-- A change of texts that leaves other values alone. -/
def ofText (change : String → String) : Json → Json
  | .string s => .string (change s)
  | value => value

/-- Rounds a double to so many decimal digits; a half goes away from zero.
Integers stay, and so does a double whose rounding is not finite. -/
def round (digits : Int) : Json → Json
  | .number (.double x) =>
    let power := Binary64.powTen digits
    match (((Binary64.finite x).mul power).roundHalfAway.div power).toDouble? with
    | some rounded => .number (.double rounded)
    | none => .number (.double x)
  | value => value

/-- A count of digits with an optional sign, of 32 bits. -/
def readDigits? (text : String) : Option Int := do
  let n ← readInt64? text.toList
  if -2147483648 ≤ n.val ∧ n.val < 2147483648 then return n.val else none

def ofName? (name : String) : Option Transform :=
  if name = "trim" then some ⟨name, ofText trim⟩
  else if name = "lowercase" then some ⟨name, ofText lowerCase⟩
  else if name = "uppercase" then some ⟨name, ofText upperCase⟩
  else match (afterStart? "round:" name).bind readDigits? with
    | some digits => some ⟨name, round digits⟩
    | none => none

end Transform

inductive Verdict where
  | passes
  /-- The check fails, with a message of its own or without. -/
  | fails (message : Option String)
  deriving DecidableEq

structure Validator where
  name : String
  check : Json → Verdict

end DocStore
