import DocStore.Yaml.Token.Basic

/-!
# Scanning YAML texts

The tokens of a text.  A token that may turn out to be a key is remembered until the
line ends or 1024 characters have passed; when its colon comes, the mark for a key,
and the start of a map if the key begins one, are put in front of it.  Where the
text stops being readable the tokens end, those from the first undecided key on left
out.
-/

namespace DocStore.Yaml

/-- A token that may turn out to be a key. -/
structure KeyMark where
  /-- How many tokens stand in front of it. -/
  number : Nat
  /-- Whether only a key can stand in its place. -/
  required : Bool
  cursor : Cursor

structure Scanner where
  cursor : Cursor
  tokens : Array Token := #[]
  /-- The columns of the open blocks counted from one, the innermost first. -/
  indents : List Nat := []
  /-- Whether a key may begin here. -/
  keyAllowed : Bool := true
  /-- The undecided key of every open flow collection, the innermost first, and that
  of the block around them at the end. -/
  keys : List (Option KeyMark) := [none]

namespace Scanner

def inFlow (s : Scanner) : Bool :=
  1 < s.keys.length

/-- The indentation of the innermost block counted from one, and zero at the top. -/
def indent (s : Scanner) : Nat :=
  s.indents.head?.getD 0

/-- Adds a token, and moves on. -/
def push (s : Scanner) (token : Token) (cursor : Cursor) : Scanner :=
  { s with tokens := s.tokens.push token, cursor }

/-- Moves to the next token, past blanks, comments and line breaks.  A new line may
begin with a key. -/
def spaceTurn (inFlow : Bool) (keyAllowed : Bool) (cursor : Cursor) : Turn Bool Bool :=
  let past := if cursor.column = 0 ∧ cursor.rest.head? = some '\uFEFF' then cursor.skip 1
    else cursor
  let past := past.skipWhile fun c => c == ' ' || (c == '\t' && (inFlow || !keyAllowed))
  let past := if past.rest.head? = some '#' then past.skipWhile fun c => !isBreak c else past
  match past.lineBreak? with
  | some (_, next) => .go (keyAllowed || !inFlow) next
  | none => .stop keyAllowed past

/-- The state in front of the next token. -/
def toNext (s : Scanner) : Scanner :=
  match s.cursor.turns (spaceTurn s.inFlow) s.keyAllowed with
  | some (keyAllowed, cursor) => { s with keyAllowed, cursor }
  | none => s

/-- Whether a key mark is too far back for its colon to come. -/
def isStale (cursor : Cursor) (mark : KeyMark) : Bool :=
  mark.cursor.line < cursor.line || cursor.left + 1024 < mark.cursor.left

/-- Gives up the keys whose colon cannot come any more; none of them may be
required. -/
def dropStale? (s : Scanner) : Option Scanner :=
  let stale (key : Option KeyMark) : Bool := key.any (isStale s.cursor)
  if s.keys.any fun key => stale key && key.any (·.required) then none
  else some { s with keys := s.keys.map fun key => if stale key then none else key }

/-- Gives up the innermost undecided key, which must not be required. -/
def dropKey? (s : Scanner) : Option Scanner :=
  match s.keys with
  | some mark :: outer => if mark.required then none else some { s with keys := none :: outer }
  | _ => some s

/-- Remembers that the next token may be a key. -/
def markKey? (s : Scanner) : Option Scanner :=
  if s.keyAllowed then do
    let required := !s.inFlow && s.indent == s.cursor.column + 1
    let s ← s.dropKey?
    let mark : KeyMark := ⟨s.tokens.size, required, s.cursor⟩
    return { s with keys := some mark :: s.keys.tail }
  else some s

/-- Ends the blocks that are indented further than a column counted from one. -/
def closeBlocks (s : Scanner) (column : Nat) : Scanner :=
  if s.inFlow then s
  else
    let ended := s.indents.takeWhile (column < ·)
    { s with
      indents := s.indents.drop ended.length
      tokens := s.tokens ++ (ended.map fun _ => Token.blockEnd).toArray }

/-- Starts a block at a column, in front of the token with a number, if the column
is further in. -/
def openBlock (s : Scanner) (column number : Nat) (token : Token) : Scanner :=
  if s.inFlow || column + 1 ≤ s.indent then s
  else { s with
    indents := (column + 1) :: s.indents
    tokens := s.tokens.insertIdxIfInBounds number token }

def openFlow? (s : Scanner) (token : Token) : Option Scanner := do
  let s ← s.markKey?
  return { s.push token (s.cursor.skip 1) with keys := none :: s.keys, keyAllowed := true }

def closeFlow? (s : Scanner) (token : Token) : Option Scanner := do
  let s ← s.dropKey?
  let keys := if s.inFlow then s.keys.tail else s.keys
  return { s.push token (s.cursor.skip 1) with keys, keyAllowed := false }

/-- The mark of an item or of a written-out key or value, in a block that it may
open. -/
def blockMark? (s : Scanner) (start token : Token) (keyAllowed : Bool) : Option Scanner := do
  guard (s.inFlow || s.keyAllowed)
  let s := s.openBlock s.cursor.column s.tokens.size start
  let s ← s.dropKey?
  return { s.push token (s.cursor.skip 1) with keyAllowed }

def valueMark? (s : Scanner) : Option Scanner :=
  match s.keys with
  | some mark :: outer =>
    let s := { s with
      tokens := s.tokens.insertIdxIfInBounds mark.number .key
      keys := none :: outer, keyAllowed := false }
    let s := s.openBlock mark.cursor.column mark.number .blockMapStart
    some (s.push .value (s.cursor.skip 1))
  | _ => s.blockMark? .blockMapStart .value (!s.inFlow)

/-- A mark that stands between blocks and ends all of them. -/
def betweenBlocks? (s : Scanner) : Option Scanner := do
  let s ← (s.closeBlocks 0).dropKey?
  return { s with keyAllowed := false }

/-- A token that may be a key, given by a reader. -/
def keyToken? (s : Scanner) (read : Cursor → Option (Token × Cursor)) : Option Scanner := do
  let s ← s.markKey?
  let (token, next) ← read s.cursor
  return { s.push token next with keyAllowed := false }

def plain? (s : Scanner) : Option Scanner := do
  let s ← s.markKey?
  let ((text, atLine), next) ← readPlain? s.inFlow s.indent s.cursor
  return { s.push (.scalar (String.ofList text) .plain) next with keyAllowed := atLine }

def quoted? (s : Scanner) (single : Bool) : Option Scanner :=
  s.keyToken? fun cursor => do
    let (text, next) ← readQuoted? single (cursor.skip 1)
    return (.scalar (String.ofList text) .quoted, next)

def block? (s : Scanner) (folded : Bool) : Option Scanner := do
  let s ← s.dropKey?
  let (text, next) ← readBlock? folded s.indent (s.cursor.skip 1)
  let style : ScalarStyle := if folded then .quoted else .block
  return { s.push (.scalar (String.ofList text) style) next with keyAllowed := true }

/-- Whether a scalar without quotes can begin here. -/
def startsPlain (inFlow : Bool) (c : Char) (rest : List Char) : Bool :=
  !("-?:,[]\x7b\x7d#&*!|>'\"%@\x60".toList.contains c || isSpace c || isBreak c) ||
    (c == '-' && !rest.head?.any isSpace) ||
    (!inFlow && (c == '?' || c == ':') && !endsWord rest)

def token? (s : Scanner) : Option Scanner :=
  let cursor := s.cursor
  match cursor.rest with
  | [] => do
    let s ← s.betweenBlocks?
    return s.push .textEnd cursor
  | c :: rest =>
    if c = '%' ∧ cursor.column = 0 then do
      let s ← s.betweenBlocks?
      let (token, next) ← readDirective? (cursor.skip 1)
      return s.push token next
    else if cursor.atMarker "---" then do
      let s ← s.betweenBlocks?
      return s.push .documentStart (cursor.skip 3)
    else if cursor.atMarker "..." then do
      let s ← s.betweenBlocks?
      return s.push .documentEnd (cursor.skip 3)
    else if c = '[' then s.openFlow? .flowListStart
    else if c = '\x7b' then s.openFlow? .flowMapStart
    else if c = ']' then s.closeFlow? .flowListEnd
    else if c = '\x7d' then s.closeFlow? .flowMapEnd
    else if c = ',' then do
      let s ← s.dropKey?
      return { s.push .flowComma (cursor.skip 1) with keyAllowed := true }
    else if c = '-' ∧ endsWord rest then s.blockMark? .blockListStart .blockItem true
    else if c = '?' ∧ (s.inFlow ∨ endsWord rest) then
      s.blockMark? .blockMapStart .key (!s.inFlow)
    else if c = ':' ∧ (s.inFlow ∨ endsWord rest) then s.valueMark?
    else if c = '*' then s.keyToken? fun cursor =>
      (readAnchor? (cursor.skip 1)).map fun (name, next) => (.alias name, next)
    else if c = '&' then s.keyToken? fun cursor =>
      (readAnchor? (cursor.skip 1)).map fun (name, next) => (.anchor name, next)
    else if c = '!' then s.keyToken? (readWholeTag? s.inFlow)
    else if c = '|' ∧ !s.inFlow then s.block? false
    else if c = '>' ∧ !s.inFlow then s.block? true
    else if c = '\'' then s.quoted? true
    else if c = '"' then s.quoted? false
    else if startsPlain s.inFlow c rest then s.plain?
    else none

def step? (s : Scanner) : Option Scanner := do
  let s ← s.toNext.dropStale?
  let column := if s.cursor.rest.isEmpty then 0 else s.cursor.column + 1
  (s.closeBlocks column).token?

/-- The tokens in front of the first undecided key. -/
def settled (s : Scanner) : List Token :=
  let open? := s.keys.filterMap fun key => key.filter fun mark => !isStale s.cursor mark
  match open?.getLast? with
  | some mark => s.tokens.toList.take mark.number
  | none => s.tokens.toList

def run (s : Scanner) : List Token :=
  match s.step? with
  | none => s.settled
  | some next =>
    if next.tokens.back? = some .textEnd then next.tokens.toList
    else if next.cursor.left < s.cursor.left then run next
    else next.settled
termination_by s.cursor.left

end Scanner

/-- The tokens of a text.  They end with `textEnd` if the whole text can be
read. -/
def tokens (text : String) : List Token :=
  let cs := text.toList
  if cs.all isAllowed then Scanner.run { cursor := .start cs } else []

end DocStore.Yaml
