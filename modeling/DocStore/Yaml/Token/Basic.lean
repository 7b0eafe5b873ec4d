import DocStore.Yaml.Scalar
import DocStore.Node.Basic

/-!
# Tokens of YAML texts

The marks and scalars of a text, and the readers for those that name something:
anchors, aliases, tags and directives.  The structure that indentation gives a text
appears in the tokens as starts and ends of blocks.
-/

namespace DocStore.Yaml

inductive Token where
  | version (major minor : Nat)
  | tagHandle (handle start : String)
  | documentStart
  | documentEnd
  | blockListStart
  | blockMapStart
  | blockEnd
  | flowListStart
  | flowListEnd
  | flowMapStart
  | flowMapEnd
  | blockItem
  | flowComma
  | key
  | value
  | alias (name : String)
  | anchor (name : String)
  /-- A tag with its handle, which is empty for a tag that is written out. -/
  | tag (handle suffix : String)
  | scalar (text : String) (style : ScalarStyle)
  | textEnd
  deriving DecidableEq

def endsAnchor : List Char → Bool
  | [] => true
  | c :: _ => isSpace c || isBreak c || "?:,]\x7d%@\x60".toList.contains c

/-- The name of an anchor or alias, behind its mark. -/
def readAnchor? (cursor : Cursor) : Option (String × Cursor) :=
  let (name, next) := cursor.span isName
  if name.isEmpty || !endsAnchor next.rest then none else some (String.ofList name, next)

/-- Whether a character may stand in a tag; flow marks only in one that is written
out. -/
def isTagChar (full : Bool) (c : Char) : Bool :=
  isName c || ";/?:@&=+$.!~*'()%".toList.contains c ||
    (full && (c == ',' || c == '[' || c == ']'))

/-- The bytes of escapes by hexadecimal codes, and all other characters as their own
bytes. -/
def tagBytes? : List Char → Option (List UInt8)
  | '%' :: a :: b :: rest => do
    let code ← naturalInBase? 16 [a, b]
    return UInt8.ofNat code :: (← tagBytes? rest)
  | '%' :: _ => none
  | c :: rest => do return (String.singleton c).toUTF8.toList ++ (← tagBytes? rest)
  | [] => some []

/-- The text of tag characters, their escapes resolved. -/
def tagText? (cs : List Char) : Option String := do
  String.fromUTF8? (← tagBytes? cs).toByteArray

/-- A tag, at its first exclamation mark. -/
def readTag? (cursor : Cursor) : Option ((String × String) × Cursor) :=
  match cursor.rest with
  | '!' :: '<' :: _ =>
    let (text, next) := (cursor.skip 2).span (isTagChar true)
    match next.rest with
    | '>' :: _ =>
      if text.isEmpty then none
      else (tagText? text).map fun tag => (("", tag), next.skip 1)
    | _ => none
  | '!' :: _ =>
    let (name, next) := (cursor.skip 1).span isName
    match next.rest with
    | '!' :: _ =>
      let (text, last) := (next.skip 1).span (isTagChar false)
      if text.isEmpty then none
      else (tagText? text).map fun suffix =>
        ((String.ofList ('!' :: name ++ ['!']), suffix), last)
    | _ =>
      let (text, last) := next.span (isTagChar false)
      (tagText? (name ++ text)).map fun suffix =>
        (if suffix.isEmpty then ("", "!") else ("!", suffix), last)
  | _ => none

def readWholeTag? (inFlow : Bool) (cursor : Cursor) : Option (Token × Cursor) := do
  let ((handle, suffix), next) ← readTag? cursor
  guard (endsWord next.rest || (inFlow && next.rest.head? == some ','))
  return (.tag handle suffix, next)

/-- A natural of at most nine digits. -/
def readShort? (cursor : Cursor) : Option (Nat × Cursor) :=
  let (digits, next) := cursor.span isDigit
  if digits.isEmpty || 9 < digits.length then none
  else some (naturalOfDigits 0 digits, next)

def readVersion? (cursor : Cursor) : Option (Token × Cursor) := do
  let (major, next) ← readShort? (cursor.skipWhile isSpace)
  guard (next.rest.head? == some '.')
  let (minor, next) ← readShort? (next.skip 1)
  return (.version major minor, next)

/-- The tag handle that a directive declares. -/
def readHandle? (cursor : Cursor) : Option (Token × Cursor) := do
  let cursor := cursor.skipWhile isSpace
  guard (cursor.rest.head? == some '!')
  let (name, next) := (cursor.skip 1).span isName
  let (handle, next) :=
    if next.rest.head? = some '!' then ('!' :: name ++ ['!'], next.skip 1)
    else ('!' :: name, next)
  guard (handle = ['!'] || (handle.length ≥ 2 && handle.getLast? = some '!'))
  guard (next.rest.head?.any isSpace)
  let (start, next) := (next.skipWhile isSpace).span (isTagChar true)
  guard (!start.isEmpty && endsWord next.rest)
  return (.tagHandle (String.ofList handle) (← tagText? start), next)

/-- A directive with its line, behind the percent sign. -/
def readDirective? (cursor : Cursor) : Option (Token × Cursor) := do
  let (name, next) := cursor.span isName
  guard (!name.isEmpty && endsWord next.rest)
  let (token, next) ← match String.ofList name with
    | "YAML" => readVersion? next
    | "TAG" => readHandle? next
    | _ => none
  let next := next.skipWhile isSpace
  let next := if next.rest.head? = some '#' then next.skipWhile fun c => !isBreak c else next
  guard (endsLine next.rest)
  return (token, next.skipBreak)

end DocStore.Yaml
