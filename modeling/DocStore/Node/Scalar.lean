import DocStore.Node.Basic
import DocStore.Text.Digit
import DocStore.Number.Reading

/-!
# What a YAML scalar stands for

The words and numbers of the core schema.  Digits after a leading zero are text,
and an integer may be written in base 16, 8 or 2.
-/

namespace DocStore.Scalar

def coreTag (name : String) : String :=
  "tag:yaml.org,2002:" ++ name

def localTag? (tag : Option String) : Option String :=
  match tag.map String.toList with
  | some ('!' :: c :: rest) => some (String.ofList (c :: rest))
  | _ => none

def isNullWord (text : String) : Bool :=
  text == "null" || text == "Null" || text == "NULL" || text == "~"

def boolWord? (text : String) : Option Bool :=
  if text = "true" ∨ text = "True" ∨ text = "TRUE" then some true
  else if text = "false" ∨ text = "False" ∨ text = "FALSE" then some false
  else none

/-- A natural in a base: one digit at least. -/
def readBase? (base : Nat) (cs : List Char) : Option Nat := do
  guard !cs.isEmpty
  naturalInBase? base cs

/-- Whether the text is a zero followed by more digits, after an optional sign. -/
def isPaddedDigits (cs : List Char) : Bool :=
  match (splitSign cs).2 with
  | '0' :: c :: rest => (c :: rest).all isDigit
  | _ => false

/-- A natural with the mark of another base in front. -/
def readMarked? : List Char → Option Nat
  | '0' :: 'x' :: rest => readBase? 16 rest
  | '0' :: 'o' :: rest => readBase? 8 rest
  | '0' :: 'b' :: rest => readBase? 2 rest
  | _ => none

/-- A natural, with an optional plus sign. -/
def readUnsigned? (text : String) : Option Nat :=
  let cs := text.toList
  let body := match cs with
    | '+' :: rest => rest
    | cs => cs
  match readMarked? body with
  | some n => some n
  | none => if isPaddedDigits cs then none else readNatural? body

/-- The magnitude of an integer with a minus sign. -/
def readNegative? (text : String) : Option Nat :=
  match text.toList with
  | '-' :: rest =>
    match readMarked? rest with
    | some n => some n
    | none => if isPaddedDigits ('-' :: rest) then none else readNatural? rest
  | _ => none

def namedDouble? (text : String) : Option Binary64 :=
  if [".inf", ".Inf", ".INF", "+.inf", "+.Inf", "+.INF"].contains text then
    some (.infinite false)
  else if ["-.inf", "-.Inf", "-.INF"].contains text then some (.infinite true)
  else if [".nan", ".NaN", ".NAN"].contains text then some .nan
  else none

/-- A double: a name, or a decimal of finite value. -/
def readDouble? (text : String) : Option Binary64 :=
  match namedDouble? text with
  | some value => some value
  | none =>
    let twoSigns := match text.toList with
      | '+' :: '+' :: _ | '+' :: '-' :: _ => true
      | _ => false
    if twoSigns then none
    else match Binary64.read? text.toList with
      | some (.finite x) => some (.finite x)
      | _ => none

/-- An integer beyond 64 bits that still fits 128. -/
def isWide (magnitude : Nat) (negative : Bool) : Bool :=
  if negative then magnitude ≤ 1 <<< 127 else magnitude < 1 <<< 128

/-- The value of a plain scalar without a tag: the first of null, truth value,
integer and double that its text is, else the text.  There is none for an integer
beyond 64 bits. -/
def plainValue? (text : String) : Option Json :=
  if text.isEmpty || isNullWord text then some .null
  else match boolWord? text with
  | some b => some (.bool b)
  | none =>
    let unsigned := readUnsigned? text
    let negated := readNegative? text
    match unsigned.bind (Integer.ofInt? ·), negated.bind (Integer.ofInt? <| -·) with
    | some n, _ => some (.number (.int n))
    | _, some n => some (.number (.int n))
    | none, none =>
      if unsigned.any (isWide · false) || negated.any (isWide · true) then none
      else if isPaddedDigits text.toList then some (.string text)
      else match readDouble? text with
        | some (.finite x) => some (.number (.double x))
        | some _ => some .null
        | none => some (.string text)

end DocStore.Scalar
