import DocStore.Text.Category.Basic
import DocStore.Text.Script.Table
import DocStore.Text.LetterCase.Mates

/-!
# Character classes

Sets of characters as the patterns write them: ranges and properties, combined by
set operations and closed under letter case.
-/

namespace DocStore

inductive CharClass where
  | nothing
  | range (first last : Nat)
  /-- The characters with a property that covers so many ranges. -/
  | property (ranges : Nat) (test : Char → Bool)
  | union (a b : CharClass)
  | both (a b : CharClass)
  | without (a b : CharClass)
  | oneOnly (a b : CharClass)
  | complement (a : CharClass)
  | folded (mates : Char → List Char) (a : CharClass)

namespace CharClass

def holds : CharClass → Char → Bool
  | nothing, _ => false
  | range first last, c => first ≤ c.toNat && c.toNat ≤ last
  | property _ test, c => test c
  | union a b, c => a.holds c || b.holds c
  | both a b, c => a.holds c && b.holds c
  | without a b, c => a.holds c && !b.holds c
  | oneOnly a b, c => a.holds c != b.holds c
  | complement a, c => !a.holds c
  | folded mates a, c => (mates c).any a.holds

/-- About how many ranges of characters with encodings of one length the class covers.
What begins or ends with all characters falls into many. -/
def ranges : CharClass → Nat
  | nothing => 0
  | range first last => 1 + 5 * ((Char.ofNat last).utf8Size - (Char.ofNat first).utf8Size)
  | property n _ => n
  | union a b | both a b | without a b | oneOnly a b => a.ranges + b.ranges
  | complement a => a.ranges + 15
  | folded _ a => a.ranges + min a.ranges 100

/-- Whether the class is written with more than the characters of ASCII. -/
def isWide : CharClass → Bool
  | nothing => false
  | range _ last => 128 ≤ last
  | property _ _ | complement _ => true
  | both a b => a.isWide && b.isWide
  | union a b | oneOnly a b => a.isWide || b.isWide
  | without a _ | folded _ a => a.isWide

def single (c : Char) : CharClass :=
  range c.toNat c.toNat

def ofRanges (ranges : List (Char × Char)) : CharClass :=
  ranges.foldr (fun (first, last) rest => union (range first.toNat last.toNat) rest) nothing

def ofCategories (categories : List Category) : CharClass :=
  property (Category.runCount categories) (Category.oneOf categories)

def negatedIf (negated : Bool) (a : CharClass) : CharClass :=
  if negated then complement a else a

/-- Whether every character of the class is one of ASCII, as far as the first 256
characters tell. -/
def isAscii (a : CharClass) : Bool :=
  !(List.range 128).any fun n => a.holds (Char.ofNat (128 + n))

def digits (unicode : Bool) : CharClass :=
  if unicode then ofCategories [.decimalNumber] else ofRanges [('0', '9')]

def spaces (unicode : Bool) : CharClass :=
  if unicode then property 10 isBlank else ofRanges [('\t', '\r'), (' ', ' ')]

def words (unicode : Bool) : CharClass :=
  if unicode then property 770 isWordChar
  else ofRanges [('0', '9'), ('A', 'Z'), ('_', '_'), ('a', 'z')]

def ofAsciiName? : String → Option CharClass
  | "alnum" => some (ofRanges [('0', '9'), ('A', 'Z'), ('a', 'z')])
  | "alpha" => some (ofRanges [('A', 'Z'), ('a', 'z')])
  | "ascii" => some (range 0 127)
  | "blank" => some (ofRanges [('\t', '\t'), (' ', ' ')])
  | "cntrl" => some (ofRanges [('\x00', '\x1f'), ('\x7f', '\x7f')])
  | "digit" => some (ofRanges [('0', '9')])
  | "graph" => some (ofRanges [('!', '~')])
  | "lower" => some (ofRanges [('a', 'z')])
  | "print" => some (ofRanges [(' ', '~')])
  | "punct" => some (ofRanges [('!', '/'), (':', '@'), ('[', '\x60'), ('\x7b', '~')])
  | "space" => some (spaces false)
  | "upper" => some (ofRanges [('A', 'Z')])
  | "word" => some (words false)
  | "xdigit" => some (ofRanges [('0', '9'), ('A', 'F'), ('a', 'f')])
  | _ => none

end CharClass

end DocStore
