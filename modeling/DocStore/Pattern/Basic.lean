import DocStore.Pattern.CharSet
import DocStore.Schema.Problem
import DocStore.Number.Reading

/-!
# Patterns

A pattern is the source of a regular expression together with the expression.  The
reader keeps a stack of the groups that are open; a text that is no expression, or
one that nests or grows too far, is refused.
-/

namespace DocStore

namespace Pattern

structure Piece where
  expr : Expr
  /-- How deeply the text of the part nests. -/
  depth : Nat := 0
  /-- Whether the part only sets modes, and so cannot be repeated. -/
  isSetting : Bool := false

def besideDepth (pieces : List Piece) : Nat :=
  1 + pieces.foldl (fun depth piece => max depth piece.depth) 0

/-- The sequence of pieces, given the last one first. -/
def sequenceOf (pieces : List Piece) : Piece :=
  match pieces with
  | [] => { expr := .empty }
  | [piece] => piece
  | pieces =>
    { expr := .sequence (pieces.reverse.map (·.expr)), depth := besideDepth pieces }

/-- What has been read of a group: the finished alternatives and the pieces of the
present one, the last ones first. -/
structure Level where
  modes : Modes
  options : List Piece := []
  pieces : List Piece := []

namespace Level

def add (level : Level) (piece : Piece) : Level :=
  { level with pieces := piece :: level.pieces }

def endOption (level : Level) : Level :=
  { level with options := sequenceOf level.pieces :: level.options, pieces := [] }

def whole (level : Level) : Piece :=
  match level.options with
  | [] => sequenceOf level.pieces
  | _ =>
    let options := level.endOption.options
    { expr := .anyOf (options.reverse.map (·.expr)), depth := besideDepth options }

end Level

/-- The state of the reader: the innermost group, the groups around it, and the
names of groups so far. -/
structure State where
  level : Level
  outer : List Level := []
  names : List (List Char) := []

/-- Whether a character may stand in the name of a group. -/
def isNameChar (first : Bool) (c : Char) : Bool :=
  c == '_' ||
    (if first then isAlphabetic c
      else c == '.' || c == '[' || c == ']' || isAlphabetic c || isNumeric c)

/-- The name of a group, up to the closing angle bracket. -/
def readName? (cs : List Char) : Option (List Char × List Char) :=
  let name := cs.takeWhile (· != '>')
  match name, cs.drop name.length with
  | c :: others, '>' :: rest =>
    if isNameChar true c && others.all (isNameChar false) then some (c :: others, rest)
    else none
  | _, _ => none

def State.openGroup (s : State) (modes : Modes) : State :=
  { s with level := { modes }, outer := s.level :: s.outer }

/-- Reads the head of a group, or a setting of modes, behind the opening bracket. -/
def openGroup? (s : State) (cs : List Char) : Option (State × List Char) :=
  let modes := s.level.modes
  let named (cs : List Char) : Option (State × List Char) := do
    let (name, rest) ← readName? cs
    guard !(s.names.contains name)
    return ({ s with names := name :: s.names }.openGroup modes, rest)
  match modes.next cs with
  | '?' :: '=' :: _ | '?' :: '!' :: _ | '?' :: '<' :: '=' :: _ | '?' :: '<' :: '!' :: _ => none
  | '?' :: 'P' :: '<' :: rest => named rest
  | '?' :: '<' :: rest => named rest
  | '?' :: rest => do
    let (read, stop, rest) ← readModes? ⟨modes, [], false, false⟩ rest
    if stop = ':' then return (s.openGroup read.modes, rest)
    else
      guard !read.seen.isEmpty
      let setting : Piece := { expr := .empty, isSetting := true }
      return ({ s with level := { s.level.add setting with modes := read.modes } }, rest)
  | rest => some (s.openGroup modes, rest)

def closeGroup? (s : State) : Option State :=
  match s.outer with
  | [] => none
  | parent :: outer =>
    let whole := s.level.whole
    some { s with level := parent.add { expr := whole.expr, depth := whole.depth + 1 }, outer }

def dropLazy : List Char → List Char
  | '?' :: rest => rest
  | cs => cs

def repeat? (s : State) (least : Nat) (most : Option Nat) : Option State :=
  match s.level.pieces with
  | piece :: pieces =>
    if piece.isSetting then none
    else
      let expr := .repeated piece.expr least most
      some { s with
        level := { s.level with pieces := { expr, depth := piece.depth + 1 } :: pieces } }
  | [] => none

/-- Digits, and in spaced mode blanks and comments between and behind them; `value`
is that of the digits before. -/
def readDigits (modes : Modes) (value : Option Nat) (cs : List Char) :
    Option Nat × List Char :=
  match _ : modes.next cs with
  | c :: rest =>
    if isDigit c then
      readDigits modes (some (10 * value.getD 0 + (c.toNat - 48))) rest
    else (value, c :: rest)
  | [] => (value, [])
termination_by cs.length
decreasing_by
  rename_i equation _
  have := modes.length_next_le cs
  rw [equation] at this
  simp only [List.length_cons] at this
  omega

/-- A count of repetitions, between blanks: at least one digit, and 32 bits. -/
def readCount? (modes : Modes) (cs : List Char) : Option (Nat × List Char) := do
  let (value, rest) := readDigits modes none (cs.dropWhile isBlank)
  let value ← value
  if value < 4294967296 then return (value, modes.next (rest.dropWhile isBlank)) else none

def readCounts? (modes : Modes) (cs : List Char) :
    Option (Nat × Option Nat × List Char) := do
  let close (least : Nat) (most : Option Nat) (cs : List Char) :
      Option (Nat × Option Nat × List Char) :=
    match cs with
    | '\x7d' :: rest => some (least, most, dropLazy (modes.next rest))
    | _ => none
  let (least, rest) ← readCount? modes (modes.next cs)
  match rest with
  | ',' :: rest =>
    match modes.next rest with
    | '\x7d' :: _ => close least none (modes.next rest)
    | cs =>
      let (most, rest) ← readCount? modes cs
      guard (least ≤ most)
      close least (some most) rest
  | rest => close least (some least) rest

/-- Any character but line breaks, unless the modes say more. -/
def dotClass? (modes : Modes) : Option CharClass :=
  if !modes.unicode then none
  else if modes.dotAll then some (.range 0 0x10FFFF)
  else if modes.returns then some (.complement (.ofRanges [('\n', '\n'), ('\r', '\r')]))
  else some (.complement (.single '\n'))

def escapeExpr? (modes : Modes) : Escape → Option Expr
  | .char c byte => (charClass? modes c byte).map .char
  | .cls cls => some (.char cls)
  | .look assertion => some (.look assertion)

/-- One step of reading, at a character that counts. -/
def step? (s : State) : List Char → Option (State × List Char)
  | [] => none
  | c :: rest =>
    let modes := s.level.modes
    let add (expr : Expr) (rest : List Char) : Option (State × List Char) :=
      some ({ s with level := s.level.add { expr } }, rest)
    let times (least : Nat) (most : Option Nat) : Option (State × List Char) :=
      (repeat? s least most).map fun s => (s, dropLazy rest)
    match c with
    | '(' => openGroup? s rest
    | ')' => (closeGroup? s).map fun s => (s, rest)
    | '|' => some ({ s with level := s.level.endOption }, rest)
    | '[' => do
      let (set, rest) := openSet modes rest
      let (part, rest) ← readSet? modes set [] rest
      guard (modes.unicode || part.cls.isAscii)
      let piece : Piece := { expr := .char part.cls, depth := part.depth }
      return ({ s with level := s.level.add piece }, rest)
    | '?' => times 0 (some 1)
    | '*' => times 0 none
    | '+' => times 1 none
    | '\x7b' => do
      let (least, most, rest) ← readCounts? modes rest
      return (← repeat? s least most, rest)
    | '\\' => do
      let (escape, rest) ← readEscape? modes rest
      add (← escapeExpr? modes escape) rest
    | '.' => do add (.char (← dotClass? modes)) rest
    | '^' => add (.look (if modes.multiLine then .lineStart modes.returns else .textStart)) rest
    | '$' => add (.look (if modes.multiLine then .lineEnd modes.returns else .textEnd)) rest
    | c => do add (.char (← charClass? modes c false)) rest

def readAll? (s : State) (cs : List Char) : Option Piece :=
  match s.level.modes.next cs with
  | [] => if s.outer.isEmpty then some s.level.whole else none
  | next =>
    match step? s next with
    | none => none
    | some (s, rest) => if rest.length < cs.length then readAll? s rest else none
termination_by cs.length

def nestingLimit : Nat := 250

def sizeLimit : Nat := 10485760

end Pattern

structure Pattern where
  source : String
  expr : Expr

namespace Pattern

def read (source : String) : Except PatternProblem Pattern :=
  match readAll? { level := { modes := {} } } source.toList with
  | none => .error .malformed
  | some whole =>
    if nestingLimit < whole.depth then .error .malformed
    else if sizeLimit < whole.expr.room then .error (.tooLarge sizeLimit)
    else .ok ⟨source, whole.expr⟩

def occursIn (pattern : Pattern) (text : String) : Bool :=
  pattern.expr.occursIn text

end Pattern

end DocStore
