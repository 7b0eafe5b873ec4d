import DocStore.Text.LetterCase.Table

/-!
# Letter case

Full Unicode case mapping of texts, independent of language.  A character may map
to several, and the capital sigma has two lower cases: one at the end of a word
and one everywhere else, so lower case is not a map of the characters alone
(`lowerCase`).  `foldedChars` maps each character by itself.
-/

namespace DocStore

namespace LetterCase

/-- The image of a code point under the first run that holds it. -/
def image? (runs : List Run) (n : Nat) : Option Nat :=
  match runs.find? fun run =>
      run.first ≤ n && n ≤ run.last && (n - run.first) % run.step == 0 with
  | some run => some ((n : Int) + run.distance).toNat
  | none => none

/-- Whether a code point lies in one of the ranges. -/
def inRanges (ranges : List (Nat × Nat)) (n : Nat) : Bool :=
  ranges.any fun (first, last) => first ≤ n && n ≤ last

/-- Whether the character is passed over when a word is looked for. -/
def isIgnorable (c : Char) : Bool :=
  inRanges ignorableRanges c.toNat

def isCased (c : Char) : Bool :=
  inRanges casedRanges c.toNat

/-- Whether the first character that is not passed over has a case. -/
def meetsCased (cs : List Char) : Bool :=
  match cs.dropWhile isIgnorable with
  | [] => false
  | c :: _ => isCased c

end LetterCase

open LetterCase

/-- The lower case of a character by itself. -/
def lowerChar (c : Char) : List Char :=
  if c.toNat < 128 then [c.toLower]
  else if c = 'İ' then ['i', '\u0307']
  else match image? lowerRuns c.toNat with
    | some n => [Char.ofNat n]
    | none => [c]

def upperChar (c : Char) : List Char :=
  if c.toNat < 128 then [c.toUpper]
  else match upperExpansions.lookup c.toNat with
    | some codes => codes.map Char.ofNat
    | none => match image? upperRuns c.toNat with
      | some n => [Char.ofNat n]
      | none => [c]

/-- Every character in lower case by itself. -/
def foldedChars (cs : List Char) : List Char :=
  cs.flatMap lowerChar

/-- The lower case of `cs`; `before` are the characters in front of it, the
nearest first.  A capital sigma that ends a word becomes the final sigma. -/
def lowerAfter (before : List Char) : List Char → List Char
  | [] => []
  | c :: rest =>
    let image :=
      if c = 'Σ' then
        if meetsCased before && !meetsCased rest then ['ς'] else ['σ']
      else lowerChar c
    image ++ lowerAfter (c :: before) rest

def lowerCase (text : String) : String :=
  String.ofList (lowerAfter [] text.toList)

def upperCase (text : String) : String :=
  String.ofList (text.toList.flatMap upperChar)

end DocStore
