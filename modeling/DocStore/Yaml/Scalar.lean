import DocStore.Yaml.Gap
import DocStore.Text.Digit

/-!
# Scalars of YAML texts

The readers for scalars without quotes, in single or double quotes, and in literal
or folded blocks.
-/

namespace DocStore.Yaml

/-! ## Without quotes -/

/-- What has been read of a scalar: its characters, the last one first, the gap
behind them, and whether the cursor is at the start or behind a gap. -/
structure PlainDraft where
  text : List Char := []
  gap : Gap := {}
  fresh : Bool := true

/-- The characters that separate the parts of flow collections. -/
def isFlowMark (c : Char) : Bool :=
  c == ',' || c == '[' || c == ']' || c == '\x7b' || c == '\x7d'

/-- One turn of reading a scalar without quotes.  The result tells whether the
cursor is at the start of a line. -/
def plainTurn (inFlow : Bool) (indent : Nat) (draft : PlainDraft) (cursor : Cursor) :
    Turn PlainDraft (List Char × Bool) :=
  let stop : Turn PlainDraft (List Char × Bool) :=
    .stop (draft.text.reverse, draft.gap.broken) cursor
  match cursor.rest with
  | [] => stop
  | c :: rest =>
    if draft.fresh && (cursor.atDocument || c == '#') then stop
    else if isSpace c || isBreak c then
      match Gap.read? indent {} cursor with
      | none => .fail
      | some (gap, next) =>
        if !inFlow && next.column < indent then .stop (draft.text.reverse, gap.broken) next
        else .go { draft with gap, fresh := true } next
    else if inFlow && c == ':' && rest.head?.any (fun d => isFlowMark d || d == '?') then .fail
    else if (c == ':' && endsWord rest) || (inFlow && isFlowMark c) then stop
    else .go ⟨c :: (draft.gap.text.reverse ++ draft.text), {}, false⟩ (cursor.skip 1)

/-- Reads a scalar without quotes; its lines begin at the column `indent` or
later. -/
def readPlain? (inFlow : Bool) (indent : Nat) (cursor : Cursor) :
    Option ((List Char × Bool) × Cursor) :=
  cursor.turns (plainTurn inFlow indent) {}

/-! ## In quotes -/

def escaped? : Char → Option Char
  | '0' => some '\x00'
  | 'a' => some '\x07'
  | 'b' => some '\x08'
  | 't' | '\t' => some '\t'
  | 'n' => some '\n'
  | 'v' => some '\x0b'
  | 'f' => some '\x0c'
  | 'r' => some '\r'
  | 'e' => some '\x1b'
  | ' ' => some ' '
  | '"' => some '"'
  | '\'' => some '\''
  | '/' => some '/'
  | '\\' => some '\\'
  | 'N' => some '\u0085'
  | '_' => some '\u00a0'
  | 'L' => some '\u2028'
  | 'P' => some '\u2029'
  | _ => none

def codeLength? : Char → Option Nat
  | 'x' => some 2
  | 'u' => some 4
  | 'U' => some 8
  | _ => none

def readCode? (length : Nat) (cs : List Char) : Option Char := do
  let digits := cs.take length
  guard (digits.length = length)
  charOfCode? (← naturalInBase? 16 digits)

/-- One turn of reading a scalar in quotes; `text` is what has been read, the last
character first. -/
def quotedTurn (single : Bool) (text : List Char) (cursor : Cursor) :
    Turn (List Char) (List Char) :=
  let through (gap : Gap) (cursor : Cursor) : Turn (List Char) (List Char) :=
    match Gap.read? 0 gap cursor with
    | some (gap, next) => .go (gap.text.reverse ++ text) next
    | none => .fail
  let add (c : Char) (n : Nat) : Turn (List Char) (List Char) :=
    .go (c :: text) (cursor.skip n)
  if cursor.atDocument then .fail
  else match cursor.rest with
    | [] => .fail
    | '\'' :: '\'' :: _ => if single then add '\'' 2 else add '\'' 1
    | '\'' :: _ => if single then .stop text.reverse (cursor.skip 1) else add '\'' 1
    | '"' :: _ => if single then add '"' 1 else .stop text.reverse (cursor.skip 1)
    | '\\' :: rest =>
      if single then add '\\' 1
      else match rest with
        | [] => .fail
        | c :: rest =>
          if isBreak c then through { broken := true } (cursor.skip 1).skipBreak
          else match escaped? c, codeLength? c with
            | some d, _ => add d 2
            | none, some length =>
              match readCode? length rest with
              | some d => add d (2 + length)
              | none => .fail
            | none, none => .fail
    | c :: _ => if isSpace c || isBreak c then through {} cursor else add c 1

def readQuoted? (single : Bool) (cursor : Cursor) : Option (List Char × Cursor) :=
  cursor.turns (quotedTurn single) []

/-! ## In blocks -/

/-- What becomes of the line breaks at the end of a block. -/
inductive Chomping where
  | strip | clip | keep

/-- The marks behind the indicator of a block, in either order: what becomes of the
end, and by how much the block is indented. -/
def readBlockMarks? (cursor : Cursor) : Option ((Chomping × Option Nat) × Cursor) :=
  let chomping? : Char → Option Chomping
    | '+' => some .keep
    | '-' => some .strip
    | _ => none
  let plain := some ((Chomping.clip, none), cursor)
  match cursor.rest with
  | c :: rest =>
    match chomping? c, rest.head? with
    | some chomping, some d =>
      if d == '0' then none
      else if isDigit d then some ((chomping, some (d.toNat - 48)), cursor.skip 2)
      else some ((chomping, none), cursor.skip 1)
    | some chomping, none => some ((chomping, none), cursor.skip 1)
    | none, next =>
      if c == '0' then none
      else if isDigit c then
        match next.bind chomping? with
        | some chomping => some ((chomping, some (c.toNat - 48)), cursor.skip 2)
        | none => some ((.clip, some (c.toNat - 48)), cursor.skip 1)
      else plain
  | [] => plain

/-- One turn of passing empty lines and indentation in a block.  The state holds
the largest column met and the line breaks, the last one first.  An indentation of
zero is not known yet. -/
def indentTurn (indent : Nat) (state : Nat × List Char) (cursor : Cursor) :
    Turn (Nat × List Char) (Nat × List Char) :=
  let inside := indent = 0 ∨ cursor.column < indent
  let (largest, breaks) := (max state.1 cursor.column, state.2)
  match cursor.rest, cursor.lineBreak? with
  | _, some (c, next) => .go (largest, c :: breaks) next
  | c :: _, none =>
    if inside ∧ c = ' ' then .go state (cursor.skip 1)
    else if inside ∧ c = '\t' then .fail
    else .stop (largest, breaks) cursor
  | [], none => .stop (largest, breaks) cursor

structure BlockDraft where
  /-- The characters, the last one first. -/
  text : List Char := []
  /-- The break at the end of the last line. -/
  leading : Option Char := none
  /-- The breaks of the empty lines behind it, the last one first. -/
  trailing : List Char := []
  /-- Whether the last line began with a blank. -/
  blankBefore : Bool := false

/-- The draft with its breaks turned into what they stand for before a line.  A
folded block joins lines by a blank, except beside lines that begin with one. -/
def BlockDraft.joined (folded blankAfter : Bool) (draft : BlockDraft) : List Char :=
  let fold := folded && draft.leading == some '\n' && !draft.blankBefore && !blankAfter
  let first := if fold then (if draft.trailing.isEmpty then [' '] else [])
    else draft.leading.toList
  draft.trailing ++ first ++ draft.text

def blockTurn (folded : Bool) (indent : Nat) (draft : BlockDraft) (cursor : Cursor) :
    Turn BlockDraft BlockDraft :=
  match cursor.rest with
  | [] => .stop draft cursor
  | c :: _ =>
    if cursor.column ≠ indent then .stop draft cursor
    else
      let (line, next) := cursor.span fun c => !isBreak c
      let (leading, next) := match next.lineBreak? with
        | some (c, next) => (some c, next)
        | none => (none, next)
      match next.turns (indentTurn indent) (0, []) with
      | none => .fail
      | some ((_, trailing), next) =>
        let text := line.reverse ++ draft.joined folded (isSpace c)
        .go ⟨text, leading, trailing, isSpace c⟩ next

/-- Reads a block behind its indicator.  `outer` is the indentation around it,
counted from one, and zero at the top. -/
def readBlock? (folded : Bool) (outer : Nat) (cursor : Cursor) :
    Option (List Char × Cursor) := do
  let ((chomping, increment), cursor) ← readBlockMarks? cursor
  let cursor := cursor.skipWhile isSpace
  let cursor := match cursor.rest with
    | '#' :: _ => cursor.skipWhile fun c => !isBreak c
    | _ => cursor
  guard (endsLine cursor.rest)
  let fixed := match increment with
    | some n => outer - 1 + n
    | none => 0
  let ((largest, breaks), cursor) ← cursor.skipBreak.turns (indentTurn fixed) (0, [])
  let indent := if fixed = 0 then max (max largest outer) 1 else fixed
  let (draft, cursor) ← cursor.turns (blockTurn folded indent) { trailing := breaks }
  let ending := match chomping with
    | .strip => []
    | .clip => draft.leading.toList
    | .keep => draft.trailing ++ draft.leading.toList
  return ((ending ++ draft.text).reverse, cursor)

end DocStore.Yaml
