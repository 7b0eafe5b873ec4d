import DocStore.Json.Basic
import DocStore.Number.Notation

/-!
# Writing JSON text

Two layouts of one text: `Json.compact` has no blanks, `Json.pretty` puts every
item and field on a line of its own, two blanks deeper for each level.  Strings
escape the quote, the backslash and the control characters below the blank.
-/

namespace DocStore.Json

def escapeChar (c : Char) : List Char :=
  match c with
  | '"' => ['\\', '"']
  | '\\' => ['\\', '\\']
  | '\x08' => ['\\', 'b']
  | '\x0c' => ['\\', 'f']
  | '\n' => ['\\', 'n']
  | '\r' => ['\\', 'r']
  | '\t' => ['\\', 't']
  | c =>
    if c < ' ' then
      ['\\', 'u', '0', '0', Nat.digitChar (c.toNat / 16), Nat.digitChar (c.toNat % 16)]
    else [c]

def quote (text : String) : List Char :=
  '"' :: (text.toList.flatMap escapeChar ++ ['"'])

def leafText : Json → List Char
  | .bool true => ['t', 'r', 'u', 'e']
  | .bool false => ['f', 'a', 'l', 's', 'e']
  | .number n => (n.dataText .json).toList
  | .string s => quote s
  | _ => ['n', 'u', 'l', 'l']

mutual

def compactChars : Json → List Char
  | .array items => '[' :: (compactItems items ++ [']'])
  | .object fields => '{' :: (compactFields fields ++ ['}'])
  | leaf => leafText leaf
termination_by structural value => value

def compactItems : List Json → List Char
  | [] => []
  | item :: rest => compactChars item ++ compactMoreItems rest
termination_by structural items => items

/-- The items after the first, each with its comma. -/
def compactMoreItems : List Json → List Char
  | [] => []
  | item :: rest => ',' :: (compactChars item ++ compactMoreItems rest)
termination_by structural items => items

def compactFields : List (String × Json) → List Char
  | [] => []
  | (name, value) :: rest =>
    quote name ++ ':' :: (compactChars value ++ compactMoreFields rest)
termination_by structural fields => fields

/-- The fields after the first, each with its comma. -/
def compactMoreFields : List (String × Json) → List Char
  | [] => []
  | (name, value) :: rest =>
    ',' :: (quote name ++ ':' :: (compactChars value ++ compactMoreFields rest))
termination_by structural fields => fields

end

def newLine (level : Nat) : List Char :=
  '\n' :: List.replicate (2 * level) ' '

mutual

/-- The text in lines; `level` is how deep the value lies. -/
def prettyChars (level : Nat) : Json → List Char
  | .array [] => ['[', ']']
  | .array (item :: rest) =>
    '[' :: (newLine (level + 1) ++ prettyChars (level + 1) item ++
      prettyItems (level + 1) rest ++ newLine level ++ [']'])
  | .object [] => ['{', '}']
  | .object ((name, value) :: rest) =>
    '{' :: (newLine (level + 1) ++ quote name ++ [':', ' '] ++
      prettyChars (level + 1) value ++ prettyFields (level + 1) rest ++
      newLine level ++ ['}'])
  | leaf => leafText leaf
termination_by structural value => value

/-- The items after the first, each after a comma on its own line. -/
def prettyItems (level : Nat) : List Json → List Char
  | [] => []
  | item :: rest =>
    ',' :: (newLine level ++ prettyChars level item ++ prettyItems level rest)
termination_by structural items => items

/-- The fields after the first, each after a comma on its own line. -/
def prettyFields (level : Nat) : List (String × Json) → List Char
  | [] => []
  | (name, value) :: rest =>
    ',' :: (newLine level ++ quote name ++ [':', ' '] ++
      prettyChars level value ++ prettyFields level rest)
termination_by structural fields => fields

end

def compact (value : Json) : String :=
  String.ofList (compactChars value)

def pretty (value : Json) : String :=
  String.ofList (prettyChars 0 value)

end DocStore.Json
