import DocStore.Schema.TypeTag
import DocStore.Schema.Relation
import DocStore.Schema.Hook
import DocStore.Pattern.Basic

/-!
# Fields and schemas

A field says what values may stand in it, what fills it and what changes them, and,
for objects and arrays, what holds of the parts.  A schema gives fields to the
records of a collection.
-/

namespace DocStore

/-- What a field says about a value as a whole. -/
structure Rules where
  types : List TypeTag
  required : Bool := false
  default : Option Default := none
  min : Option Binary64 := none
  max : Option Binary64 := none
  minLength : Option UInt64 := none
  maxLength : Option UInt64 := none
  pattern : Option Pattern := none
  allowed : Option (List Json) := none
  format : Option TextFormat := none
  validator : Option Validator := none
  transform : Option Transform := none
  relation : Option Relation := none

/-- A field: rules for the value itself, fields for its properties if it is an
object, and a field for its items if it is an array. -/
inductive Field where
  | mk (rules : Rules) (properties : Option (List (String × Field))) (items : Option Field)

namespace Field

/-- What the field says about the value itself. -/
def rules : Field → Rules
  | mk rules _ _ => rules

def properties : Field → Option (Fields Field)
  | mk _ properties _ => properties

def items : Field → Option Field
  | mk _ _ items => items

def withRules (field : Field) (change : Rules → Rules) : Field :=
  mk (change field.rules) field.properties field.items

def ofTypes (types : List TypeTag) : Field :=
  mk { types } none none

/-- The value for a record that has no other, `null` where no default is
declared. -/
def defaultOrNull (field : Field) : StateM Supply Json :=
  match field.rules.default with
  | some default => default.resolve
  | none => return .null

end Field

structure Schema where
  name : String
  fields : Fields Field := []
  /-- Whether records keep the instants of their creation and last change. -/
  timestamps : Bool := false

namespace Schema

def relations (schema : Schema) : List (String × Relation) :=
  schema.fields.filterMap fun (name, field) => field.rules.relation.map (name, ·)

end Schema

end DocStore
