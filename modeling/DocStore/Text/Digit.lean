/-!
# Digits of a base and characters by their codes
-/

namespace DocStore

/-- The value of a digit of a base up to sixteen, its letters in either case. -/
def baseDigit? (base : Nat) (c : Char) : Option Nat :=
  let value? :=
    if '0' ≤ c ∧ c ≤ '9' then some (c.toNat - 48)
    else if 'a' ≤ c ∧ c ≤ 'f' then some (c.toNat - 87)
    else if 'A' ≤ c ∧ c ≤ 'F' then some (c.toNat - 55)
    else none
  value?.filter (· < base)

/-- The natural of some digits of a base; no digits stand for zero. -/
def naturalInBase? (base : Nat) (digits : List Char) : Option Nat := do
  return (← digits.mapM (baseDigit? base)).foldl (fun n digit => base * n + digit) 0

def charOfCode? (n : Nat) : Option Char :=
  if n.isValidChar then some (Char.ofNat n) else none

end DocStore
