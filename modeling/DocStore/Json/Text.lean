import DocStore.Json.Writer
import DocStore.Text.Parts
import DocStore.Number.Reading

/-!
# Values as texts and as numbers

The reading of a value as a text, on which equality conditions and searches rest,
its reading as a number, on which order rests, and the value that a typed text
stands for.
-/

namespace DocStore.Json

/-- The value as a text: a string is itself, and a whole double looks like an
integer. -/
def display : Json → String
  | .string s => s
  | .number n => n.displayText
  | other => other.compact

def typeName : Json → String
  | .null => "null"
  | .bool _ => "boolean"
  | .number _ => "number"
  | .string _ => "string"
  | .array _ => "array"
  | .object _ => "object"

/-- The value as a number: booleans are one and zero, a text is what it denotes,
and a blank text is zero. -/
def numeric? : Json → Option Binary64
  | .number n => some n.toBinary64
  | .bool b => some (.ofInt (if b then 1 else 0))
  | .string s =>
    match trimBlanks s.toList with
    | [] => some (.ofInt 0)
    | cs => Binary64.read? cs
  | _ => none

/-- The number that a trimmed text denotes: a signed word, else a finite
double. -/
def readNumber? (text : String) : Option Number :=
  let cs := trimBlanks text.toList
  match readInt64? cs with
  | some n => some (.int n)
  | none => ((Binary64.read? cs).bind Binary64.toDouble?).map .double

/-- The id that a typed text stands for: a number where the text denotes one,
else the text itself. -/
def readId (text : String) : Json :=
  match readNumber? text with
  | some n => .number n
  | none => .string text

end DocStore.Json
