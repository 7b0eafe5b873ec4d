import DocStore.Text.Digit
import DocStore.Json.Basic
import DocStore.Json.Decimal

/-!
# Reading JSON text

A strict reader: no comments, no trailing commas, no leading zeros, no control
characters in strings, no unpaired surrogates, and at most 127 arrays and objects
inside one another.  `Json.readTree?` keeps repeated names as they stand;
`Json.read?` merges them.
-/

namespace DocStore.Json

namespace Reader

def isSpace (c : Char) : Bool :=
  c == ' ' || c == '\t' || c == '\n' || c == '\r'

/-- The text from its first character that is no blank. -/
def skipSpace (cs : List Char) : List Char :=
  cs.dropWhile isSpace

def hexWord? (a b c d : Char) : Option Nat :=
  naturalInBase? 16 [a, b, c, d]

def escaped? : Char → Option Char
  | '"' => some '"'
  | '\\' => some '\\'
  | '/' => some '/'
  | 'b' => some '\x08'
  | 'f' => some '\x0c'
  | 'n' => some '\n'
  | 'r' => some '\r'
  | 't' => some '\t'
  | _ => none

/-- The rest of a string after its opening quote: its characters, and the text
after the closing quote. -/
def characters : List Char → Option (List Char × List Char)
  | [] => none
  | '"' :: rest => some ([], rest)
  | '\\' :: 'u' :: a :: b :: c :: d :: '\\' :: 'u' :: e :: f :: g :: h :: rest => do
    let first ← hexWord? a b c d
    if 0xD800 ≤ first ∧ first < 0xDC00 then
      let second ← hexWord? e f g h
      guard (0xDC00 ≤ second ∧ second < 0xE000)
      let code := 0x10000 + (first - 0xD800) * 1024 + (second - 0xDC00)
      let (more, after) ← characters rest
      return (Char.ofNat code :: more, after)
    else
      guard !(0xDC00 ≤ first ∧ first < 0xE000)
      let (more, after) ← characters ('\\' :: 'u' :: e :: f :: g :: h :: rest)
      return (Char.ofNat first :: more, after)
  | '\\' :: 'u' :: a :: b :: c :: d :: rest => do
    let code ← hexWord? a b c d
    guard !(0xD800 ≤ code ∧ code < 0xE000)
    let (more, after) ← characters rest
    return (Char.ofNat code :: more, after)
  | '\\' :: letter :: rest => do
    let c ← escaped? letter
    let (more, after) ← characters rest
    return (c :: more, after)
  | c :: rest => do
    guard (' ' ≤ c)
    let (more, after) ← characters rest
    return (c :: more, after)

mutual

/-- A value at the start of a text, and the text after it.  `depth` is how many
arrays and objects may still be entered. -/
def value (depth : Nat) (cs : List Char) : Nat → Option (Json × List Char)
  | 0 => none
  | fuel + 1 =>
    match skipSpace cs with
    | 'n' :: 'u' :: 'l' :: 'l' :: rest => some (.null, rest)
    | 't' :: 'r' :: 'u' :: 'e' :: rest => some (.bool true, rest)
    | 'f' :: 'a' :: 'l' :: 's' :: 'e' :: rest => some (.bool false, rest)
    | '"' :: rest => (characters rest).map fun (text, after) =>
      (.string (String.ofList text), after)
    | '[' :: rest =>
      match depth, skipSpace rest with
      | 0, _ => none
      | _ + 1, ']' :: after => some (.array [], after)
      | depth + 1, body => (elements depth body fuel).map fun (items, after) =>
        (.array items, after)
    | '{' :: rest =>
      match depth, skipSpace rest with
      | 0, _ => none
      | _ + 1, '}' :: after => some (.object [], after)
      | depth + 1, body => (members depth body fuel).map fun (fields, after) =>
        (.object fields, after)
    | body => do
      let (text, after) ← NumberText.read? body
      return (.number (← text.value?), after)

/-- One item or more, up to the closing bracket. -/
def elements (depth : Nat) (cs : List Char) : Nat → Option (List Json × List Char)
  | 0 => none
  | fuel + 1 => do
    let (item, rest) ← value depth cs fuel
    match skipSpace rest with
    | ']' :: after => return ([item], after)
    | ',' :: more =>
      let (items, after) ← elements depth more fuel
      return (item :: items, after)
    | _ => none

/-- One field or more, up to the closing brace. -/
def members (depth : Nat) (cs : List Char) :
    Nat → Option (List (String × Json) × List Char)
  | 0 => none
  | fuel + 1 => do
    match skipSpace cs with
    | '"' :: body =>
      let (name, rest) ← characters body
      match skipSpace rest with
      | ':' :: more =>
        let (item, rest) ← value depth more fuel
        match skipSpace rest with
        | '}' :: after => return ([(String.ofList name, item)], after)
        | ',' :: more =>
          let (fields, after) ← members depth more fuel
          return ((String.ofList name, item) :: fields, after)
        | _ => none
      | _ => none
    | _ => none

end

end Reader

/-- How many arrays and objects may lie inside one another. -/
def maxNesting : Nat := 127

/-- The value that a text denotes, repeated names kept.  Every call of the reader
but one for each list of items takes a character, so twice the length of the
text bounds the calls. -/
def readTree? (text : String) : Option Json := do
  let cs := text.toList
  let (tree, rest) ← Reader.value maxNesting cs (2 * cs.length + 2)
  guard (Reader.skipSpace rest).isEmpty
  return tree

def read? (text : String) : Option Json :=
  (readTree? text).map merged

end DocStore.Json
