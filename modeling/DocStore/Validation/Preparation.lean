import DocStore.Validation.Check
import DocStore.Attempt

/-!
# Preparation

What happens to a record before it is checked and stored: a new record gets the
defaults of the fields that it omits, values are transformed from the outside in,
and the instants of creation and change are kept.
-/

namespace DocStore

def createdField : String := "createdAt"

def updatedField : String := "updatedAt"

abbrev Drawing := StateM Supply

namespace Rules

def transformed (rules : Rules) (value : Json) : Json :=
  match rules.transform with
  | some transform => transform.apply value
  | none => value

/-- A record in which a default stands in for an omitted field, if the record is
new. -/
def fillDefault (rules : Rules) (isNew : Bool) (name : String) (record : Record) :
    Drawing Record :=
  match rules.default with
  | some default =>
    if isNew && !Fields.has name record then do
      let value ← default.resolve
      return Fields.put name value record
    else return record
  | none => return record

end Rules

namespace Field

mutual

/-- The value of a field, transformed, and its parts in turn. -/
def prepare (isNew : Bool) : Field → Json → Drawing Json
  | mk rules properties items, value =>
    match rules.transformed value, properties, items with
    | .object object, some fields, _ => do return .object (← prepareFields isNew fields object)
    | .array elements, _, some item => do
      return .array (← elements.mapM (prepareItem isNew item))
    | value, _, _ => return value
termination_by structural field => field

/-- An item: an object by the fields of its properties, if there are any, and
anything else by the transform. -/
def prepareItem (isNew : Bool) : Field → Json → Drawing Json
  | mk rules properties _, value =>
    match value, properties with
    | .object object, some fields => do
      return .object (← prepareFields isNew fields object)
    | value, _ => return rules.transformed value
termination_by structural item => item

/-- A record under fields, one field after the other. -/
def prepareFields (isNew : Bool) : List (String × Field) → Record → Drawing Record
  | [], record => return record
  | (name, field) :: rest, record => do
    let record ← field.rules.fillDefault isNew name record
    match Fields.get? name record with
    | none => prepareFields isNew rest record
    | some value =>
      let value ← prepare isNew field value
      prepareFields isNew rest (Fields.put name value record)
termination_by structural fields => fields

end

end Field

namespace Schema

def stamp (schema : Schema) (isNew : Bool) (instant : Nat) (record : Record) : Record :=
  if schema.timestamps then
    let now := Json.string (Calendar.instantText instant)
    let record := if isNew then Fields.put createdField now record else record
    Fields.put updatedField now record
  else record

def prepare (schema : Schema) (isNew : Bool) (record : Record) : Drawing Record := do
  let record ← Field.prepareFields isNew schema.fields record
  return schema.stamp isNew (← get).instant record

/-- The prepared record, if nothing is wrong with it. -/
def validated (schema : Schema) (isNew lenient : Bool) (record : Record) :
    Attempt Supply Record := do
  let prepared ← schema.prepare isNew record
  match schema.issues prepared lenient with
  | [] => return prepared
  | issues => throw (.invalid issues)

end Schema

end DocStore
