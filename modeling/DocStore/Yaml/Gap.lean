import DocStore.Yaml.Cursor

/-!
# Gaps in flowing texts

Blanks and line breaks inside a scalar.  Blanks within a line stand for themselves;
a single line break stands for a blank, and of several the first one is dropped.
-/

namespace DocStore.Yaml

/-- The blanks and line breaks between two words. -/
structure Gap where
  /-- The blanks before any line break, the last one first. -/
  blanks : List Char := []
  /-- Whether a line break has come. -/
  broken : Bool := false
  /-- The first line break, unless it was escaped. -/
  first : Option Char := none
  /-- The other line breaks, the last one first. -/
  more : List Char := []

namespace Gap

def text (gap : Gap) : List Char :=
  if !gap.broken then gap.blanks.reverse
  else match gap.first with
    | some '\n' => if gap.more.isEmpty then [' '] else gap.more.reverse
    | some c => c :: gap.more.reverse
    | none => gap.more.reverse

/-- Reads one character of a gap.  At the start of a line, tabs are refused in
front of the column `indent`. -/
def turn (indent : Nat) (gap : Gap) (cursor : Cursor) : Turn Gap Gap :=
  match cursor.rest, cursor.lineBreak? with
  | _, some (c, next) =>
    if gap.broken then .go { gap with more := c :: gap.more } next
    else .go { gap with blanks := [], broken := true, first := some c } next
  | c :: _, none =>
    if !isSpace c then .stop gap cursor
    else if !gap.broken then .go { gap with blanks := c :: gap.blanks } (cursor.skip 1)
    else if cursor.column < indent && c == '\t' then .fail
    else .go gap (cursor.skip 1)
  | [], none => .stop gap cursor

def read? (indent : Nat) (gap : Gap) (cursor : Cursor) : Option (Gap × Cursor) :=
  cursor.turns (turn indent) gap

end Gap

end DocStore.Yaml
