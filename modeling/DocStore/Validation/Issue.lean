import DocStore.Schema.TypeTag
import DocStore.Json.Text

/-!
# Validation issues

What a value may violate, and where.  A place is a path of field names and list
positions from the record down.
-/

namespace DocStore

inductive Step where
  | property (name : String)
  | item (index : Nat)
  deriving DecidableEq

structure Place where
  field : String
  steps : List Step
  deriving DecidableEq

namespace Place

/-- The text of the steps: a dot before a property, brackets around a position. -/
def stepsText : List Step → String
  | [] => ""
  | .property name :: rest => "." ++ name ++ stepsText rest
  | .item index :: rest => s!"[{index}]" ++ stepsText rest

/-- The text of a place, such as `items[2].name`. -/
def text (place : Place) : String :=
  place.field ++ stepsText place.steps

def down (place : Place) (step : Step) : Place :=
  { place with steps := place.steps ++ [step] }

end Place

inductive Violation where
  | required
  | wrongType (expected : List TypeTag) (actual : Json)
  | belowMinimum (bound : Binary64)
  | aboveMaximum (bound : Binary64)
  | tooShort (bound : UInt64)
  | tooLong (bound : UInt64)
  | patternMismatch (source : String)
  | malformed (format : TextFormat)
  | notListed (allowed : List Json)
  /-- A custom check failed, with a message of its own or without. -/
  | custom (message : Option String)

def Violation.message : Violation → String
  | .required => "Field is required"
  | .wrongType expected actual =>
    let names := " or ".intercalate (expected.map TypeTag.name)
    s!"Invalid type: expected {names}, got {actual.typeName}"
  | .belowMinimum bound => s!"Value must be >= {bound.plainText}"
  | .aboveMaximum bound => s!"Value must be <= {bound.plainText}"
  | .tooShort bound => s!"Length must be >= {bound.toNat}"
  | .tooLong bound => s!"Length must be <= {bound.toNat}"
  | .patternMismatch source => s!"Value does not match pattern {source}"
  | .malformed format => s!"invalid {format.name} format"
  | .notListed allowed =>
    let texts := ", ".intercalate (allowed.map Json.compact)
    s!"Value must be one of: {texts}"
  | .custom message => message.getD "Custom validation failed"

structure Issue where
  place : Place
  violation : Violation

namespace Issue

/-- The place and the explanation in one line. -/
def text (issue : Issue) : String :=
  issue.place.text ++ ": " ++ issue.violation.message

def toJson (issue : Issue) : Json :=
  .object [("field", .string issue.place.text), ("message", .string issue.violation.message)]

end Issue

end DocStore
