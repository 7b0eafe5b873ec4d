import DocStore.Json.Text
import DocStore.Text.LetterCase.Basic

/-!
# Writing YAML text

Values as YAML in block form.  A text stands plain where it can, between single
quotation marks where it would read as something else or has a meaning to YAML, as
a literal block where it has several lines, and between double quotation marks
where nothing else keeps it as it is.
-/

namespace DocStore.Yaml.Writer

inductive Style where
  | plain | single | double | literal
  deriving DecidableEq

def isBreak (c : Char) : Bool :=
  c == '\n' || c == '\r' || c == '\u0085' || c == '\u2028' || c == '\u2029'

def isGap : Option Char → Bool
  | none => true
  | some c => c == ' ' || c == '\t' || c == '\x00' || isBreak c

def isPrintable (c : Char) : Bool :=
  c == '\n' || (' ' ≤ c && c ≤ '~') || ('\u00a0' ≤ c && c ≤ '\ud7ff') ||
    ('\ue000' ≤ c && c ≤ '\ufffd' && c != '\ufeff') || 0x10000 ≤ c.toNat

/-- What a text has that its style depends on. -/
structure Traits where
  hasBreak : Bool := false
  hasIndicator : Bool := false
  hasSpecial : Bool := false
  /-- A space right before the end of a line. -/
  spaceBreak : Bool := false
  /-- A space at the start of a line that is not the first. -/
  breakSpace : Bool := false

/-- Whether a character means something to YAML at its place in a plain text. -/
def isIndicator (before : Option Char) (c : Char) (after : Option Char) : Bool :=
  match before with
  | none =>
    [ '#', ',', '[', ']', '\x7b', '\x7d', '&', '*', '!', '|', '>', '\'', '"', '%', '@',
      '\x60' ].contains c ||
      (['?', ':', '-'].contains c && isGap after)
  | some _ => (c == ':' && isGap after) || (c == '#' && isGap before)

/-- The traits of the rest of a text after a character. -/
def traitsFrom (before : Option Char) : List Char → Traits
  | [] => {}
  | c :: rest =>
    let later := traitsFrom (some c) rest
    { hasBreak := later.hasBreak || isBreak c
      hasIndicator := later.hasIndicator || isIndicator before c rest.head?
      hasSpecial := later.hasSpecial || !isPrintable c
      spaceBreak := later.spaceBreak || (isBreak c && before == some ' ')
      breakSpace := later.breakSpace || (c == ' ' && before.any isBreak) }

/-- Words that some reader takes for a truth value or for nothing. -/
def reservedWords : List String :=
  ["y", "yes", "n", "no", "on", "off", "true", "false", "null", "nil", "~"]

/-- Whether a text would read as something else without quotation marks. -/
def isAmbiguous (text : String) : Bool :=
  match text.toList.head? with
  | none => true
  | some c => isDigit c || ['-', '+', '.'].contains c || reservedWords.contains (lowerCase text)

/-- The style of a text; `isKey` tells whether it stands before a colon on one
line. -/
def style (isKey : Bool) (text : String) : Style :=
  let cs := text.toList
  let traits := traitsFrom none cs
  let startsOpen := cs.head? == some ' ' || cs.head?.any isBreak
  let endsOpen := cs.getLast? == some ' ' || cs.getLast?.any isBreak
  let strict := traits.spaceBreak || traits.hasSpecial
  if cs.contains '\n' then
    if cs.getLast? == some ' ' || strict || isKey then .double else .literal
  else if strict || traits.breakSpace || (isKey && traits.hasBreak) then .double
  else if isAmbiguous text || startsOpen || endsOpen || traits.hasBreak ||
      traits.hasIndicator || ["---".toList, "...".toList].any (·.isPrefixOf cs) then .single
  else .plain

def blanks (n : Nat) : List Char :=
  List.replicate n ' '

def hexDigits (count n : Nat) : List Char :=
  let digits := (Nat.toDigits 16 n).map Char.toUpper
  List.replicate (count - digits.length) '0' ++ digits

def escape (c : Char) : List Char :=
  match c.toNat with
  | 0x00 => ['\\', '0']
  | 0x07 => ['\\', 'a']
  | 0x08 => ['\\', 'b']
  | 0x09 => ['\\', 't']
  | 0x0A => ['\\', 'n']
  | 0x0B => ['\\', 'v']
  | 0x0C => ['\\', 'f']
  | 0x0D => ['\\', 'r']
  | 0x1B => ['\\', 'e']
  | 0x22 => ['\\', '"']
  | 0x5C => ['\\', '\\']
  | 0x85 => ['\\', 'N']
  | 0xA0 => ['\\', '_']
  | 0x2028 => ['\\', 'L']
  | 0x2029 => ['\\', 'P']
  | n =>
    if n ≤ 0xFF then ['\\', 'x'] ++ hexDigits 2 n
    else if n ≤ 0xFFFF then ['\\', 'u'] ++ hexDigits 4 n
    else ['\\', 'U'] ++ hexDigits 8 n

def doubled (c : Char) : List Char :=
  if !isPrintable c || isBreak c || c == '"' || c == '\\' then escape c else [c]

/-- A text line by line: every line that is not empty, but for the first one of a
text that starts within a line, begins with `indent` spaces. -/
def lines (indent : Nat) (write : Char → List Char) (fresh : Bool) : List Char → List Char
  | [] => []
  | c :: rest =>
    if isBreak c then c :: lines indent write true rest
    else (if fresh then blanks indent else []) ++ write c ++ lines indent write false rest

def singleQuoted (indent : Nat) (cs : List Char) : List Char :=
  '\'' :: lines indent (fun c => if c = '\'' then ['\'', '\''] else [c]) false cs ++
    (if cs.getLast?.any isBreak then blanks indent else []) ++ ['\'']

/-- What stands after the bar of a literal block: the indentation where the text
does not show it, and whether the text ends with no line end or with several. -/
def literalHints (cs : List Char) : List Char :=
  (if cs.head? == some ' ' || cs.head?.any isBreak then ['2'] else []) ++
    match cs.reverse with
    | [] => ['-']
    | last :: before =>
      if !isBreak last then ['-']
      else match before with
        | [] => ['+']
        | other :: _ => if isBreak other then ['+'] else []

def literalBlock (indent : Nat) (cs : List Char) : List Char :=
  '|' :: literalHints cs ++ '\n' :: lines indent (fun c => [c]) true cs

def textChars (indent : Nat) (isKey : Bool) (text : String) : List Char :=
  let cs := text.toList
  match style isKey text with
  | .plain => cs
  | .single => singleQuoted indent cs
  | .double => '"' :: cs.flatMap doubled ++ ['"']
  | .literal => literalBlock indent cs

/-- Written characters with the end of their line, unless they end a line already. -/
def endLine (cs : List Char) : List Char :=
  if cs.getLast?.any isBreak then cs else cs ++ ['\n']

/-- Whether a name can stand before a colon on one line. -/
def isSimpleKey (name : String) : Bool :=
  name.utf8ByteSize ≤ 128 && !name.toList.any isBreak

def keyChars (indent : Nat) (name : String) : List Char :=
  if isSimpleKey name then blanks indent ++ textChars (indent + 2) true name ++ [':']
  else blanks indent ++ ['?', ' '] ++ endLine (textChars (indent + 2) false name) ++
    blanks indent ++ [':']

mutual

/-- A value after a dash or a colon.  `inside` tells whether the first part of a
list or an object stands on the same line. -/
def valueChars (indent : Nat) (inside : Bool) : Json → List Char
  | .array [] => " []\n".toList
  | .object [] => " \x7b\x7d\n".toList
  | .array items =>
    if inside then ' ' :: (itemsChars (indent + 2) items).drop (indent + 2)
    else '\n' :: itemsChars indent items
  | .object fields =>
    let chars := fieldsChars (indent + 2) fields
    if inside then ' ' :: chars.drop (indent + 2) else '\n' :: chars
  | .string text => ' ' :: endLine (textChars (indent + 2) false text)
  | .number n => ' ' :: (n.dataText .yaml).toList ++ ['\n']
  | .bool b => if b then " true\n".toList else " false\n".toList
  | .null => " null\n".toList
termination_by structural value => value

def itemsChars (indent : Nat) : List Json → List Char
  | [] => []
  | item :: rest =>
    blanks indent ++ '-' :: valueChars indent true item ++ itemsChars indent rest
termination_by structural items => items

def fieldsChars (indent : Nat) : List (String × Json) → List Char
  | [] => []
  | (name, value) :: rest =>
    keyChars indent name ++ valueChars indent (!isSimpleKey name) value ++
      fieldsChars indent rest
termination_by structural fields => fields

end

end DocStore.Yaml.Writer

namespace DocStore.Json

def yaml (value : Json) : String :=
  String.ofList <| match value with
    | .array (item :: rest) => Yaml.Writer.itemsChars 0 (item :: rest)
    | .object (field :: rest) => Yaml.Writer.fieldsChars 0 (field :: rest)
    | other => (Yaml.Writer.valueChars 0 false other).drop 1

end DocStore.Json
