import DocStore.Validation.Issue
import DocStore.Schema.Field
import DocStore.Json.Comparison

/-!
# Validation

The issues of a record under a schema, in the order of the schema's fields.  At one
place they come in the order kind, bounds, listed values, parts, custom check.  A
`null` is only asked whether the field is required.
-/

namespace DocStore

def emailPattern : Except PatternProblem Pattern :=
  Pattern.read "^[^\\s@]+@[^\\s@]+\\.[^\\s@]+$"

def uriPattern : Except PatternProblem Pattern :=
  Pattern.read "^[A-Za-z][A-Za-z0-9+.\\-]*://\\S+$"

def TextFormat.admits (format : TextFormat) (text : String) : Bool :=
  let fits : Except PatternProblem Pattern → Bool
    | .ok pattern => pattern.occursIn text
    | .error _ => false
  match format with
  | .email => fits emailPattern
  | .date => Calendar.isDate text
  | .datetime => Calendar.isDatetime text
  | .uri => fits uriPattern

namespace Rules

def violationIf (bad : Bool) (violation : Violation) : List Violation :=
  if bad then [violation] else []

/-- What a bound has against something, if there is a bound. -/
def violationOf (bound : Option α) (isBad : α → Bool) (violation : α → Violation) :
    List Violation :=
  match bound with
  | some bound => violationIf (isBad bound) (violation bound)
  | none => []

def numberViolations (rules : Rules) (n : Number) : List Violation :=
  violationOf rules.min (fun bound => n.toBinary64.below bound) .belowMinimum ++
  violationOf rules.max (fun bound => bound.below n.toBinary64) .aboveMaximum

def textViolations (rules : Rules) (text : String) : List Violation :=
  violationOf rules.minLength (fun bound => text.length < bound.toNat) .tooShort ++
  violationOf rules.maxLength (fun bound => bound.toNat < text.length) .tooLong ++
  violationOf rules.pattern (fun pattern => !pattern.occursIn text)
    (fun pattern => .patternMismatch pattern.source) ++
  violationOf rules.format (fun format => !format.admits text) .malformed

/-- What the rules have against a value other than `null`, its parts and the custom
check left aside. -/
def violations (rules : Rules) (value : Json) : List Violation :=
  violationIf (!rules.types.any (·.accepts value)) (.wrongType rules.types value) ++
  (match value with
    | .number n => rules.numberViolations n
    | .string s => rules.textViolations s
    | _ => []) ++
  violationOf rules.allowed (fun allowed => !allowed.any (·.same value)) .notListed

def customViolations (rules : Rules) (value : Json) : List Violation :=
  match rules.validator with
  | some validator =>
    match validator.check value with
    | .passes => []
    | .fails message => [.custom message]
  | none => []

end Rules

namespace Field

mutual

def issues (place : Place) : Field → Json → List Issue
  | mk rules properties items, value =>
    if value.isNull then
      if rules.required then [⟨place, .required⟩] else []
    else
      (rules.violations value).map (⟨place, ·⟩) ++
      (match value, properties, items with
        | .object object, some fields, _ => propertyIssues place fields object
        | .array elements, _, some item =>
          elements.zipIdx.flatMap fun (element, k) =>
            issues (place.down (.item k)) item element
        | _, _, _ => []) ++
      (rules.customViolations value).map (⟨place, ·⟩)
termination_by structural field => field

def propertyIssues (place : Place) : List (String × Field) → Record → List Issue
  | [], _ => []
  | (name, field) :: rest, object =>
    let here := place.down (.property name)
    (match Fields.get? name object with
      | some value => issues here field value
      | none => if field.rules.required then [⟨here, .required⟩] else []) ++
    propertyIssues place rest object
termination_by structural fields => fields

end

end Field

namespace Schema

/-- The issues of a top-level field.  A required field that is absent counts unless
the check is lenient. -/
def fieldIssues (lenient : Bool) (record : Record) (name : String) (field : Field) :
    List Issue :=
  let place : Place := ⟨name, []⟩
  match Fields.get? name record with
  | some value => field.issues place value
  | none => if field.rules.required && !lenient then [⟨place, .required⟩] else []

/-- The issues of a record.  Fields without a schema do not count. -/
def issues (schema : Schema) (record : Record) (lenient : Bool) : List Issue :=
  schema.fields.flatMap fun (name, field) => fieldIssues lenient record name field

end Schema

end DocStore
