import DocStore.Json.Text
import DocStore.Text.LetterCase.Basic

/-!
# Comparing values

`Json.same` is equality of values, where numbers are equal when their nearest
doubles are and objects when they hold equal values under the same names in any
order.  `Json.agrees` is the stricter relation that keeps integers and doubles
apart.  `Json.compare?` is the partial order of the relational conditions, and
`localeCompare` the order of texts in sorted results.
-/

namespace DocStore

/-- Equality through the nearest doubles. -/
def Number.same (x y : Number) : Bool :=
  x.toDouble.units == y.toDouble.units

def Number.agrees : Number → Number → Bool
  | .int x, .int y => x == y
  | .double x, .double y => x.units == y.units
  | _, _ => false

namespace Json

mutual

/-- Equality of values, given equality of numbers. -/
def sameBy (eq : Number → Number → Bool) : Json → Json → Bool
  | .null, .null => true
  | .bool a, .bool b => a == b
  | .number a, .number b => eq a b
  | .string a, .string b => a == b
  | .array a, .array b => sameItems eq a b
  | .object a, .object b => a.length == b.length && sameFields eq a b
  | _, _ => false
termination_by structural value => value

def sameItems (eq : Number → Number → Bool) : List Json → List Json → Bool
  | [], [] => true
  | a :: as, b :: bs => sameBy eq a b && sameItems eq as bs
  | _, _ => false
termination_by structural items => items

/-- Every field has an equal one of the same name in the other list. -/
def sameFields (eq : Number → Number → Bool) :
    List (String × Json) → List (String × Json) → Bool
  | [], _ => true
  | (name, a) :: rest, others =>
    (match Fields.get? name others with
      | some b => sameBy eq a b
      | none => false) && sameFields eq rest others
termination_by structural fields => fields

end

/-- Equality of values, numbers being equal when their nearest doubles are. -/
def same (a b : Json) : Bool :=
  sameBy Number.same a b

def agrees (a b : Json) : Bool :=
  sameBy Number.agrees a b

/-- The order of two values: texts by their characters, and any other pair by
their readings as numbers, if both have one. -/
def compare? : Json → Json → Option Ordering
  | .string a, .string b => some (compare a b)
  | a, b => do (← a.numeric?).compare? (← b.numeric?)

end Json

/-- The order of texts in sorted results: without regard to letter case, and
texts that differ in letter case alone in descending order. -/
def localeCompare (a b : String) : Ordering :=
  (compare (foldedChars a.toList) (foldedChars b.toList)).then (compare b a)

end DocStore
