import DocStore.Pattern.Modes
import DocStore.Pattern.Property
import DocStore.Pattern.Expr
import DocStore.Text.Parts
import DocStore.Text.Digit

/-!
# Escapes in patterns

What a backslash and the characters behind it stand for: a character, a class, or
an assertion.
-/

namespace DocStore.Pattern

inductive Escape where
  /-- A character; `byte` tells whether it was written as two hexadecimal digits. -/
  | char (c : Char) (byte : Bool)
  | cls (cls : CharClass)
  | look (assertion : Assertion)

def readHexDigits? (modes : Modes) (value : Nat) : Nat → List Char → Option (Nat × List Char)
  | 0, cs => some (value, cs)
  | _ + 1, [] => none
  | count + 1, c :: rest =>
    match baseDigit? 16 c with
    | some d => readHexDigits? modes (16 * value + d) count (modes.next rest)
    | none => none

def readBraced? (modes : Modes) (cs : List Char) : Option (List Char × List Char) :=
  match _ : modes.next cs with
  | [] => none
  | '\x7d' :: rest => some ([], rest)
  | c :: rest => (readBraced? modes rest).map fun (text, rest) => (c :: text, rest)
termination_by cs.length
decreasing_by
  rename_i equation
  have := modes.length_next_le cs
  rw [equation] at this
  simp only [List.length_cons] at this
  omega

/-- A character by its hexadecimal code, behind the letter that announces it. -/
def readHex? (modes : Modes) (count : Nat) (cs : List Char) : Option (Escape × List Char) :=
  match modes.next cs with
  | '\x7b' :: rest => do
    let (text, rest) ← readBraced? modes rest
    guard !text.isEmpty
    let c ← charOfCode? (← naturalInBase? 16 text)
    return (.char c false, rest)
  | cs => do
    let (value, rest) ← readHexDigits? modes 0 count cs
    return (.char (← charOfCode? value) (count = 2), rest)

def propertyClass? (text : List Char) : Option (CharClass × Bool) :=
  match splitAtText? ['!', '='] text with
  | some (name, value) => (CharClass.ofValue? name value).map (·, true)
  | none =>
    let cls? := match (splitAtFirst? ':' text).or (splitAtFirst? '=' text) with
      | some (name, value) => CharClass.ofValue? name value
      | none => CharClass.ofName? text
    cls?.map (·, false)

/-- A character property, behind the letter that announces it, and whether its
complement is meant. -/
def readProperty? (modes : Modes) (cs : List Char) :
    Option (CharClass × Bool × List Char) :=
  match modes.next cs with
  | [] | '\\' :: _ => none
  | '\x7b' :: rest => do
    let (text, rest) ← readBraced? modes rest
    let (cls, negated) ← propertyClass? text
    return (cls, negated, rest)
  | c :: rest => do return (← CharClass.ofName? [c], false, rest)

/-- A class under the modes: closed under letter case if that is ignored. -/
def Modes.fold (modes : Modes) (cls : CharClass) : CharClass :=
  if modes.ignoreCase then
    .folded (if modes.unicode then caseMates else asciiMates) cls
  else cls

/-- The words for places at words, in braces behind `\b`.  Braces that do not begin
with a letter or a hyphen are left alone. -/
def readBoundary? (modes : Modes) (cs : List Char) : Option (Assertion × List Char) :=
  let plain := some (.boundary modes.unicode, cs)
  match cs with
  | '\x7b' :: rest =>
    match modes.next rest with
    | [] => none
    | c :: _ =>
      if c.isAlpha || c == '-' then do
        let (word, rest) ← readBraced? modes rest
        match String.ofList word with
        | "start" => some (.wordStart modes.unicode, rest)
        | "end" => some (.wordEnd modes.unicode, rest)
        | "start-half" => some (.wordStartHalf modes.unicode, rest)
        | "end-half" => some (.wordEndHalf modes.unicode, rest)
        | _ => none
      else plain
  | _ => plain

/-- Whether a backslash may stand in front of the character to mean the character
itself. -/
def isEscapable (c : Char) : Bool :=
  c.toNat < 128 && !c.isAlphanum && c != '<' && c != '>'

/-- A class that stands for single bytes when Unicode is off may hold ASCII alone,
so its complement is refused. -/
def asciiOnly? (modes : Modes) (negated : Bool) (cls : CharClass) : Option CharClass :=
  if negated && !modes.unicode then none else some (.negatedIf negated cls)

def readEscape? (modes : Modes) : List Char → Option (Escape × List Char)
  | [] => none
  | c :: rest =>
    let char (c : Char) : Option (Escape × List Char) := some (.char c false, rest)
    let look (assertion : Assertion) : Option (Escape × List Char) :=
      some (.look assertion, rest)
    let cls (negated : Bool) (cls : Bool → CharClass) : Option (Escape × List Char) :=
      (asciiOnly? modes negated (cls modes.unicode)).map fun cls => (.cls cls, rest)
    let property (negated : Bool) : Option (Escape × List Char) := do
      guard modes.unicode
      let (cls, inverse, rest) ← readProperty? modes rest
      return (.cls (.negatedIf (negated != inverse) (modes.fold cls)), rest)
    match c with
    | 'x' => readHex? modes 2 rest
    | 'u' => readHex? modes 4 rest
    | 'U' => readHex? modes 8 rest
    | 'p' => property false
    | 'P' => property true
    | 'd' => cls false .digits
    | 'D' => cls true .digits
    | 's' => cls false .spaces
    | 'S' => cls true .spaces
    | 'w' => cls false .words
    | 'W' => cls true .words
    | 'a' => char '\x07'
    | 'f' => char '\x0c'
    | 't' => char '\t'
    | 'n' => char '\n'
    | 'r' => char '\r'
    | 'v' => char '\x0b'
    | 'A' => look .textStart
    | 'z' => look .textEnd
    | 'B' => look (.noBoundary modes.unicode)
    | '<' => look (.wordStart modes.unicode)
    | '>' => look (.wordEnd modes.unicode)
    | 'b' => do
      let (assertion, rest) ← readBoundary? modes rest
      return (.look assertion, rest)
    | c => if isEscapable c then char c else none

def charClass? (modes : Modes) (c : Char) (byte : Bool) : Option CharClass :=
  if !modes.unicode && byte && 128 ≤ c.toNat then none else some (modes.fold (.single c))

end DocStore.Pattern
