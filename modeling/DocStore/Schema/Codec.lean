import DocStore.Schema.Field
import DocStore.Node.Decode

/-!
# Schemas as JSON and from source nodes

Writing leaves out what is absent, and writes a pattern by its source and a
generator or transform by its name.  Reading takes JSON and YAML nodes alike; the
rules that a field's parts must keep together are looked at once all of them have
been read.
-/

namespace DocStore

namespace RelationKind

def name : RelationKind → String
  | .oneToOne => "one_to_one"
  | .oneToMany => "one_to_many"
  | .manyToOne => "many_to_one"
  | .manyToMany => "many_to_many"

/-- The kind of a name, in either of its spellings. -/
def ofName? : String → Option RelationKind
  | "one_to_one" | "oneToOne" => some oneToOne
  | "one_to_many" | "oneToMany" => some oneToMany
  | "many_to_one" | "manyToOne" => some manyToOne
  | "many_to_many" | "manyToMany" => some manyToMany
  | _ => none

end RelationKind

namespace ReferenceAction

def name : ReferenceAction → String
  | .cascade => "cascade"
  | .restrict => "restrict"
  | .setNull => "set_null"
  | .setDefault => "set_default"

/-- The action of a name, in either of its spellings. -/
def ofName? : String → Option ReferenceAction
  | "cascade" => some cascade
  | "restrict" => some restrict
  | "set_null" | "setNull" => some setNull
  | "set_default" | "setDefault" => some setDefault
  | _ => none

end ReferenceAction

namespace Relation

def toJson (relation : Relation) : Json :=
  .object (
    [("type", .string relation.kind.name), ("collection", .string relation.collection),
      ("field", .string relation.field)] ++
    optionalField "foreign_field" (relation.foreignField.map .string) ++
    optionalField "through" (relation.through.map .string) ++
    optionalField "on_delete" (relation.onDelete.map fun action => .string action.name) ++
    optionalField "on_update" (relation.onUpdate.map fun action => .string action.name))

/-- What has been read of a relation; each part is there once it has been met. -/
structure Draft where
  kind : Option RelationKind := none
  collection : Option String := none
  field : Option String := none
  foreignField : Option (Option String) := none
  through : Option (Option String) := none
  onDelete : Option (Option ReferenceAction) := none
  onUpdate : Option (Option ReferenceAction) := none

def partNames : List String :=
  ["type", "collection", "field", "foreign_field", "through", "on_delete", "on_update"]

def readPart (draft : Draft) (name : String) (part : Node) : Reading Draft := do
  let action := Node.optional (Node.oneOf ReferenceAction.ofName?)
  match name with
  | "type" =>
    return { draft with kind := ← Node.once draft.kind (Node.oneOf RelationKind.ofName?) part }
  | "collection" =>
    return { draft with collection := ← Node.once draft.collection Node.text part }
  | "field" => return { draft with field := ← Node.once draft.field Node.text part }
  | "foreign_field" | "foreignField" =>
    return { draft with
      foreignField := ← Node.once draft.foreignField (Node.optional Node.text) part }
  | "through" =>
    return { draft with through := ← Node.once draft.through (Node.optional Node.text) part }
  | "on_delete" | "onDelete" =>
    return { draft with onDelete := ← Node.once draft.onDelete action part }
  | "on_update" | "onUpdate" =>
    return { draft with onUpdate := ← Node.once draft.onUpdate action part }
  | _ => return draft

def ofNode (node : Node) : Reading Relation := do
  let draft ← node.readParts partNames {} readPart
  return {
    kind := ← Node.required draft.kind
    collection := ← Node.required draft.collection
    field := draft.field.getD idField
    foreignField := draft.foreignField.getD none
    through := draft.through.getD none
    onDelete := draft.onDelete.getD none
    onUpdate := draft.onUpdate.getD none }

end Relation

/-- A truth value that is left out when it is false. -/
def flagField (name : String) (value : Bool) : List (String × Json) :=
  if value then [(name, .bool true)] else []

/-- A bound as JSON; one that is not finite is written as `null`. -/
def boundJson : Binary64 → Json
  | .finite x => .number (.double x)
  | _ => .null

def lengthJson (n : UInt64) : Json :=
  .number (.int (.ofUInt64 n))

namespace Rules

/-- The accepted types as JSON: one by itself, several as a list. -/
def typesJson : List TypeTag → Json
  | [tag] => .string tag.name
  | tags => .strings (tags.map TypeTag.name)

def defaultFields : Option Default → List (String × Json)
  | some (.literal value) => [("default", value)]
  | some (.generated generator) => [("generate", .string generator.name)]
  | none => []

/-- The rules as the fields of a JSON object, up to the fields for parts. -/
def toFields (rules : Rules) : List (String × Json) :=
  [("type", typesJson rules.types)] ++
  flagField "required" rules.required ++
  defaultFields rules.default ++
  optionalField "min" (rules.min.map boundJson) ++
  optionalField "max" (rules.max.map boundJson) ++
  optionalField "min_length" (rules.minLength.map lengthJson) ++
  optionalField "max_length" (rules.maxLength.map lengthJson) ++
  optionalField "pattern" (rules.pattern.map fun pattern => .string pattern.source) ++
  optionalField "enum" (rules.allowed.map .array) ++
  optionalField "format" (rules.format.map fun format => .string format.name) ++
  optionalField "transform" (rules.transform.map fun transform => .string transform.name)

end Rules

namespace Field

mutual

def toJson : Field → Json
  | mk rules properties items =>
    .object (rules.toFields ++
      optionalField "properties" (propertiesJson properties) ++
      optionalField "items" (itemsJson items) ++
      optionalField "relation" (rules.relation.map Relation.toJson))
termination_by structural field => field

def propertiesJson : Option (List (String × Field)) → Option Json
  | some fields => some (.object (toJsonEach fields))
  | none => none
termination_by structural properties => properties

def itemsJson : Option Field → Option Json
  | some field => some (toJson field)
  | none => none
termination_by structural items => items

def toJsonEach : List (String × Field) → List (String × Json)
  | [] => []
  | (name, field) :: rest => (name, toJson field) :: toJsonEach rest
termination_by structural fields => fields

end

/-- What has been read of a field; each part is there once it has been met. -/
structure Draft where
  types : Option (List TypeTag) := none
  required : Option Bool := none
  default : Option (Option Json) := none
  generate : Option (Option String) := none
  min : Option (Option Binary64) := none
  max : Option (Option Binary64) := none
  minLength : Option (Option UInt64) := none
  maxLength : Option (Option UInt64) := none
  pattern : Option (Option String) := none
  allowed : Option (Option (List Json)) := none
  format : Option (Option TextFormat) := none
  transform : Option (Option String) := none
  properties : Option (Option (Fields Field)) := none
  items : Option (Option Field) := none
  relation : Option (Option Relation) := none

def partNames : List String :=
  ["type", "required", "default", "generate", "min", "max", "min_length", "max_length",
    "pattern", "enum", "format", "transform", "properties", "items", "relation"]

/-- A type tag: its name, or an object whose only field is the name with `null`. -/
def readTag : Json → Reading TypeTag
  | .string name | .object [(name, .null)] => Node.expect (TypeTag.ofName? name)
  | _ => .error .shape

def readTypes (node : Node) : Reading (List TypeTag) := do
  match ← node.json with
  | .array items => items.mapM readTag
  | value => return [← readTag value]

/-- Reads one part of a field.  How the part would be read as a field or as named
fields is given beside it. -/
def readPart (draft : Draft) (name : String) (part : Node)
    (asField : Unit → Reading Field) (asFields : Unit → Reading (Fields Field)) :
    Reading Draft := do
  match name with
  | "type" => return { draft with types := ← Node.once draft.types readTypes part }
  | "required" => return { draft with required := ← Node.once draft.required Node.flag part }
  | "default" | "defaultValue" =>
    return { draft with default := ← Node.once draft.default (Node.optional Node.json) part }
  | "generate" =>
    return { draft with generate := ← Node.once draft.generate (Node.optional Node.text) part }
  | "min" => return { draft with min := ← Node.once draft.min (Node.optional Node.double) part }
  | "max" => return { draft with max := ← Node.once draft.max (Node.optional Node.double) part }
  | "min_length" | "minLength" =>
    return { draft with minLength := ← Node.once draft.minLength (Node.optional Node.word) part }
  | "max_length" | "maxLength" =>
    return { draft with maxLength := ← Node.once draft.maxLength (Node.optional Node.word) part }
  | "pattern" =>
    return { draft with pattern := ← Node.once draft.pattern (Node.optional Node.text) part }
  | "enum" =>
    let values := Node.optional (Node.listOf Node.json)
    return { draft with allowed := ← Node.once draft.allowed values part }
  | "format" =>
    let format := Node.optional (Node.oneOf TextFormat.ofName?)
    return { draft with format := ← Node.once draft.format format part }
  | "transform" =>
    return { draft with transform := ← Node.once draft.transform (Node.optional Node.text) part }
  | "properties" =>
    let fields := Node.optional fun _ => asFields ()
    return { draft with properties := ← Node.once draft.properties fields part }
  | "items" =>
    let field := Node.optional fun _ => asField ()
    return { draft with items := ← Node.once draft.items field part }
  | "relation" =>
    let relation := Node.optional Relation.ofNode
    return { draft with relation := ← Node.once draft.relation relation part }
  | _ => return draft

def refuse (problem : SchemaProblem) : Reading α :=
  .error (.schema problem)

def readGenerator (name : String) : Reading Generator :=
  match StandardGenerator.ofName? name with
  | some generator => .ok (.standard generator)
  | none => refuse (.unknownGenerator name)

/-- The default of a field, which has a literal one or a generator or neither. -/
def readDefault (literal : Option Json) (generate : Option String) :
    Reading (Option Default) :=
  match literal, generate with
  | some _, some name => refuse (.defaultAndGenerator name)
  | some value, none => .ok (some (.literal value))
  | none, some name => (readGenerator name).map fun generator => some (.generated generator)
  | none, none => .ok none

def readPattern (source : String) : Reading Pattern :=
  (Pattern.read source).mapError fun problem => .schema (.invalidPattern source problem)

def readTransform (name : String) : Reading Transform :=
  match Transform.ofName? name with
  | some transform => .ok transform
  | none => refuse (.unknownTransform name)

def ofDraft (draft : Draft) : Reading Field := do
  let types ← Node.required draft.types
  if types.isEmpty then refuse .noTypes
  else
    let default ← readDefault (draft.default.getD none) (draft.generate.getD none)
    let pattern ← (draft.pattern.getD none).mapM readPattern
    let transform ← (draft.transform.getD none).mapM readTransform
    let rules : Rules := {
      types, default, pattern, transform
      required := draft.required.getD false
      min := draft.min.getD none
      max := draft.max.getD none
      minLength := draft.minLength.getD none
      maxLength := draft.maxLength.getD none
      allowed := draft.allowed.getD none
      format := draft.format.getD none
      relation := draft.relation.getD none }
    return mk rules (draft.properties.getD none) (draft.items.getD none)

mutual

def ofNode : Node → Reading Field
  | .tuple items => do ofDraft (← readTuple partNames items {})
  | .map _ entries => do ofDraft (← readEntries entries {})
  | .scalar s => if Node.isBlankScalar s then ofDraft {} else .error .shape
  | _ => .error .shape
termination_by structural node => node

/-- The named fields that a node stands for.  A repeated name keeps its first place
and its last field. -/
def mapOfNode : Node → Reading (Fields Field)
  | .map _ entries => do return Fields.ofList (← readFields entries)
  | .scalar s => if Node.isBlankScalar s then .ok [] else .error .shape
  | _ => .error .shape
termination_by structural node => node

/-- Reads the parts of a field under their names. -/
def readEntries : List (Option String × Node) → Draft → Reading Draft
  | [], draft => .ok draft
  | (name, part) :: rest, draft => do
    let name ← Node.expect name
    let draft ← readPart draft name part (fun _ => ofNode part) (fun _ => mapOfNode part)
    readEntries rest draft
termination_by structural entries => entries

/-- Reads the parts of a field in their order. -/
def readTuple (names : List String) : List Node → Draft → Reading Draft
  | [], draft => .ok draft
  | part :: rest, draft => do
    let name ← Node.expect names.head?
    let draft ← readPart draft name part (fun _ => ofNode part) (fun _ => mapOfNode part)
    readTuple names.tail rest draft
termination_by structural parts => parts

/-- Reads named fields in the order of the source. -/
def readFields : List (Option String × Node) → Reading (List (String × Field))
  | [] => .ok []
  | (name, part) :: rest => do
    let name ← Node.expect name
    let field ← ofNode part
    let fields ← readFields rest
    return (name, field) :: fields
termination_by structural entries => entries

end

end Field

namespace Schema

def toJson (schema : Schema) : Json :=
  .object (
    [("name", .string schema.name), ("fields", .object (Field.toJsonEach schema.fields))] ++
    flagField "timestamps" schema.timestamps)

/-- What has been read of a schema; each part is there once it has been met. -/
structure Draft where
  name : Option String := none
  fields : Option (Fields Field) := none
  timestamps : Option Bool := none

def readPart (draft : Draft) (name : String) (part : Node) : Reading Draft := do
  match name with
  | "name" => return { draft with name := ← Node.once draft.name Node.text part }
  | "fields" => return { draft with fields := ← Node.once draft.fields Field.mapOfNode part }
  | "timestamps" =>
    return { draft with timestamps := ← Node.once draft.timestamps Node.flag part }
  | _ => return draft

/-- The schema that a node stands for, its name among its parts. -/
def ofNode (node : Node) : Reading Schema := do
  let draft ← node.readParts ["name", "fields", "timestamps"] {} readPart
  return {
    name := ← Node.required draft.name
    fields := draft.fields.getD []
    timestamps := draft.timestamps.getD false }

def ofJson (value : Json) : Reading Schema :=
  ofNode (.ofJson value)

end Schema

end DocStore
