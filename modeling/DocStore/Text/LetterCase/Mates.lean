import DocStore.Text.LetterCase.Basic

/-!
# Case mates

Two characters are mates when they differ in letter case alone, one character for
one.  Every character is among its own mates.
-/

namespace DocStore

namespace LetterCase

/-- The code points that a list of runs maps to `n`. -/
def preimages (runs : List Run) (n : Nat) : List Nat :=
  runs.filterMap fun run =>
    let m := ((n : Int) - run.distance).toNat
    if run.first ≤ m && m ≤ run.last && (m - run.first) % run.step == 0 then some m else none

/-- The upper case of a code point, if it is a single one. -/
def upperCode (n : Nat) : Nat :=
  if n = 0x131 then n
  else if 97 ≤ n ∧ n ≤ 122 then n - 32
  else (image? upperRuns n).getD n

/-- The lower case of a code point, if it is a single one. -/
def lowerCode (n : Nat) : Nat :=
  if 65 ≤ n ∧ n ≤ 90 then n + 32 else (image? lowerRuns n).getD n

/-- The code point that stands for all mates of `n`. -/
def mateKey (n : Nat) : Nat :=
  if n = 0x1FD3 then 0x390
  else if n = 0x1FE3 then 0x3B0
  else if n = 0xFB05 then 0xFB06
  else lowerCode (upperCode n)

/-- The code points one case mapping away from `n`. -/
def neighbours (n : Nat) : List Nat :=
  n :: upperCode n :: lowerCode n ::
    (if 97 ≤ n ∧ n ≤ 122 then [n - 32] else []) ++
    (if 65 ≤ n ∧ n ≤ 90 then [n + 32] else []) ++
    (if n = 0x390 then [0x1FD3] else []) ++
    (if n = 0x3B0 then [0x1FE3] else []) ++
    (if n = 0xFB06 then [0xFB05] else []) ++
    preimages lowerRuns n ++ preimages upperRuns n

end LetterCase

open LetterCase

/-- The characters that differ from `c` in letter case alone, and `c`. -/
def caseMates (c : Char) : List Char :=
  let key := mateKey c.toNat
  let near := ((neighbours key).flatMap neighbours).filter (mateKey · = key)
  (c.toNat :: near).eraseDups.map Char.ofNat

/-- The same among the characters of ASCII. -/
def asciiMates (c : Char) : List Char :=
  [c, c.toLower, c.toUpper].eraseDups

end DocStore
