import DocStore.Text.Blank
import DocStore.Yaml.Document
import DocStore.Failure

/-!
# Configuration of a data directory

Which storage a data directory uses and how its files are called, read from a YAML
text in which every key is optional.
-/

namespace DocStore

/-- The kinds of storage that a data directory can use. -/
inductive Backend where
  | sqlite
  | json
  | memory
  deriving DecidableEq

namespace Backend

def name : Backend → String
  | .sqlite => "sqlite"
  | .json => "json"
  | .memory => "memory"

def ofName? (name : String) : Option Backend :=
  [sqlite, json, memory].find? (·.name = name)

end Backend

structure Config where
  storageKey : String := "restless-db"
  backend : Backend := .sqlite
  /-- The file with the schemas, relative to the data directory. -/
  schemaFile : String := "schema.yaml"
  databaseFile : String := "restless.db"
  /-- The folder of the saved collections, relative to the data directory. -/
  jsonDir : String := "store"
  deriving DecidableEq

namespace Config

/-- The file with the settings, relative to the data directory. -/
def fileName : String := "restless.yaml"

/-- The settings that a source has given so far. -/
structure Draft where
  storageKey : Option String := none
  backend : Option Backend := none
  schemaFile : Option String := none
  databaseFile : Option String := none
  jsonDir : Option String := none

def partNames : List String :=
  ["storage_key", "backend", "schema_file", "database_file", "json_dir"]

def readPart (draft : Draft) (name : String) (part : Node) : Reading Draft :=
  match name with
  | "storage_key" => do
    return { draft with storageKey := ← Node.once draft.storageKey Node.text part }
  | "backend" => do
    return { draft with backend := ← Node.once draft.backend (Node.oneOf Backend.ofName?) part }
  | "schema_file" => do
    return { draft with schemaFile := ← Node.once draft.schemaFile Node.text part }
  | "database_file" => do
    return { draft with databaseFile := ← Node.once draft.databaseFile Node.text part }
  | "json_dir" => do
    return { draft with jsonDir := ← Node.once draft.jsonDir Node.text part }
  | _ => .ok draft

/-- The settings with those that a source leaves out at their defaults. -/
def ofDraft (draft : Draft) : Config :=
  let default : Config := {}
  { storageKey := draft.storageKey.getD default.storageKey
    backend := draft.backend.getD default.backend
    schemaFile := draft.schemaFile.getD default.schemaFile
    databaseFile := draft.databaseFile.getD default.databaseFile
    jsonDir := draft.jsonDir.getD default.jsonDir }

def ofNode (node : Node) : Reading Config := do
  return ofDraft (← node.readParts partNames {} readPart)

/-- The settings of a text; a blank one leaves all at their defaults. -/
def ofText (text : String) : Except Failure Config :=
  if (trimBlanks text.toList).isEmpty then .ok {}
  else ((Yaml.Document.read text).decode ofNode).yaml

def toJson (config : Config) : Json :=
  .object [
    ("storage_key", .string config.storageKey),
    ("backend", .string config.backend.name),
    ("schema_file", .string config.schemaFile),
    ("database_file", .string config.databaseFile),
    ("json_dir", .string config.jsonDir)]

end Config

end DocStore
