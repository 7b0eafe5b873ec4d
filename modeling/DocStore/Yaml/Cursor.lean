import DocStore.Number.Reading

/-!
# Places in a YAML text

A cursor stands at a character of a text and knows its column and line.  Loops over
the text are given by a turn that moves the cursor forward; a turn that does not
move it ends the loop in failure.
-/

namespace DocStore.Yaml

structure Cursor where
  rest : List Char
  left : Nat
  line : Nat := 0
  column : Nat := 0

def isBreak (c : Char) : Bool :=
  c == '\n' || c == '\r' || c == '\u0085' || c == '\u2028' || c == '\u2029'

/-- Whether a character is a blank within a line. -/
def isSpace (c : Char) : Bool :=
  c == ' ' || c == '\t'

def isName (c : Char) : Bool :=
  c.isAlphanum || c == '_' || c == '-'

/-- Whether the text can hold the character at all. -/
def isAllowed (c : Char) : Bool :=
  let n := c.toNat
  n == 9 || n == 10 || n == 13 || (32 ≤ n && n ≤ 126) || n == 0x85 ||
    (0xA0 ≤ n && n ≤ 0xFFFD) || 0x10000 ≤ n

/-- Whether there is no character, or a blank or the end of a line. -/
def endsWord : List Char → Bool
  | [] => true
  | c :: _ => isSpace c || isBreak c

def endsLine : List Char → Bool
  | [] => true
  | c :: _ => isBreak c

namespace Cursor

def start (text : List Char) : Cursor :=
  ⟨text, text.length, 0, 0⟩

/-- The place `n` characters further on in the line. -/
def skip (cursor : Cursor) (n : Nat) : Cursor :=
  { cursor with
    rest := cursor.rest.drop n, left := cursor.left - n, column := cursor.column + n }

/-- The characters that satisfy a test, and the place behind them. -/
def span (cursor : Cursor) (test : Char → Bool) : List Char × Cursor :=
  let taken := cursor.rest.takeWhile test
  (taken, cursor.skip taken.length)

/-- The place behind the characters that satisfy a test. -/
def skipWhile (cursor : Cursor) (test : Char → Bool) : Cursor :=
  (cursor.span test).2

/-- The line break at the cursor as it counts in texts, and the start of the next
line. -/
def lineBreak? (cursor : Cursor) : Option (Char × Cursor) :=
  let next (n : Nat) : Cursor := { cursor.skip n with line := cursor.line + 1, column := 0 }
  match cursor.rest with
  | '\r' :: '\n' :: _ => some ('\n', next 2)
  | c :: _ =>
    if isBreak c then
      some (if c = '\u2028' ∨ c = '\u2029' then c else '\n', next 1)
    else none
  | [] => none

/-- The start of the next line, if the cursor is at a line break. -/
def skipBreak (cursor : Cursor) : Cursor :=
  match cursor.lineBreak? with
  | some (_, next) => next
  | none => cursor

/-- Whether the marker between documents stands at the cursor. -/
def atMarker (cursor : Cursor) (marker : String) : Bool :=
  cursor.column == 0 && marker.toList.isPrefixOf cursor.rest && endsWord (cursor.rest.drop 3)

def atDocument (cursor : Cursor) : Bool :=
  cursor.atMarker "---" || cursor.atMarker "..."

end Cursor

/-- One turn of a loop over a text. -/
inductive Turn (σ α : Type) where
  | fail
  | stop (result : α) (cursor : Cursor)
  | go (state : σ) (cursor : Cursor)

/-- Runs turns from a state and a place until one stops. -/
def Cursor.turns (turn : σ → Cursor → Turn σ α) (state : σ) (cursor : Cursor) :
    Option (α × Cursor) :=
  match turn state cursor with
  | .fail => none
  | .stop result next => some (result, next)
  | .go state next =>
    if next.left < cursor.left then turns turn state next else none
termination_by cursor.left

end DocStore.Yaml
