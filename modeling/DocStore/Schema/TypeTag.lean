import DocStore.Json.Basic

/-!
# Type tags and formats

The kinds of value that a field may accept, and the formats that a text may be
asked to have.
-/

namespace DocStore

inductive TypeTag where
  | string | number | boolean | object | array | null | any
  deriving DecidableEq

namespace TypeTag

def name : TypeTag → String
  | .string => "string"
  | .number => "number"
  | .boolean => "boolean"
  | .object => "object"
  | .array => "array"
  | .null => "null"
  | .any => "any"

def ofName? (name : String) : Option TypeTag :=
  [string, number, boolean, object, array, null, any].find? (·.name = name)

def accepts : TypeTag → Json → Bool
  | .string, .string _ | .number, .number _ | .boolean, .bool _ | .object, .object _
  | .array, .array _ | .null, .null | .any, _ => true
  | _, _ => false

end TypeTag

inductive TextFormat where
  | email | date | datetime | uri
  deriving DecidableEq

namespace TextFormat

def name : TextFormat → String
  | .email => "email"
  | .date => "date"
  | .datetime => "datetime"
  | .uri => "uri"

def ofName? (name : String) : Option TextFormat :=
  [email, date, datetime, uri].find? (·.name = name)

end TextFormat

end DocStore
