import DocStore.Cli.Arguments
import DocStore.Interchange.Format

/-!
# Commands

The commands on a data directory, their arguments, and how they are read from a
command line.
-/

namespace DocStore.Cli

inductive Display where
  | yaml
  | json
  deriving DecidableEq

abbrev Typed := List (String × String)

inductive Command where
  | collections
  | schemas
  | find (collection id : String) (depth : Nat)
  | list (collection : String) (params : Typed)
  | insert (collection : String) (fields : Typed)
  | update (collection id : String) (fields : Typed)
  | replace (collection id : String) (fields : Typed)
  | delete (collection id : String) (dryRun : Bool)
  | validate
  | writeOut (file : Option String) (format : ExchangeFormat)
  | takeIn (file : String) (format : ExchangeFormat)

structure Request where
  dataDir : String
  display : Display
  command : Command

structure CommandRule where
  name : String
  about : String
  plain : List (String × String) := []
  options : List OptionRule := []
  /-- The command that arguments of the right number and form stand for. -/
  command : List String → Given → Option Command

def programName : String := "restless"

def programVersion : String := "0.1.0"

def programAbout : String := "CLI interface for restless"

def commonOptions : List OptionRule := [
  { name := "data-dir", valueName := "DATA_DIR", takes := .anyText, default := some "."
    about := "Path to the data directory (default: current directory)" },
  { name := "format", valueName := "FORMAT", takes := .oneOf ["yaml", "json"]
    default := some "yaml", about := "Output format" }]

def fieldOption (about : String) : OptionRule :=
  { name := "field", valueName := "FIELDS", takes := .pair, about, repeats := true }

def formatOption (about : String) : OptionRule :=
  { name := "format", valueName := "FORMAT", takes := .oneOf ["json", "csv"]
    default := some "json", about }

def collectionArgument : String × String := ("COLLECTION", "Collection name")

def idArgument : String × String := ("ID", "Record id")

def pairs (given : Given) (name : String) : Typed :=
  (given.values name).filterMap pairOf?

def format (given : Given) : ExchangeFormat :=
  ((given.value? "format").bind ExchangeFormat.ofName?).getD .json

/-- Every command in the order in which help shows them. -/
def commandRules : List CommandRule := [
  { name := "collections", about := "List stored collections"
    command := fun
      | [], _ => some .collections
      | _, _ => none },
  { name := "schemas", about := "Show registered schemas"
    command := fun
      | [], _ => some .schemas
      | _, _ => none },
  { name := "get", about := "Get a single record by id"
    plain := [collectionArgument, idArgument]
    options := [
      { name := "expand", valueName := "EXPAND", takes := .count, default := some "0"
        about := "Expand relations this many levels deep" }]
    command := fun
      | [collection, id], given =>
        let depth := (given.value? "expand").bind (readUInt64? ·.toList)
        some (.find collection id ((depth.map UInt64.toNat).getD 0))
      | _, _ => none },
  { name := "list", about := "Query a collection"
    plain := [collectionArgument]
    options := [
      { name := "param", valueName := "PARAMS", takes := .pair, repeats := true
        about := "Query parameters (e.g. --param precio_gt=500 --param _sort=precio)" }]
    command := fun
      | [collection], given => some (.list collection (pairs given "param"))
      | _, _ => none },
  { name := "insert", about := "Insert a new record"
    plain := [collectionArgument]
    options := [fieldOption
      "Field values (e.g. --field nombre=\"Laptop\" --field precio=1200)"]
    command := fun
      | [collection], given => some (.insert collection (pairs given "field"))
      | _, _ => none },
  { name := "update", about := "Merge fields into an existing record"
    plain := [collectionArgument, idArgument]
    options := [fieldOption "Field values to update (e.g. --field estado=enviado)"]
    command := fun
      | [collection, id], given => some (.update collection id (pairs given "field"))
      | _, _ => none },
  { name := "replace", about := "Replace an existing record"
    plain := [collectionArgument, idArgument]
    options := [fieldOption "The new record's fields"]
    command := fun
      | [collection, id], given => some (.replace collection id (pairs given "field"))
      | _, _ => none },
  { name := "delete", about := "Delete a record, applying relation policies"
    plain := [collectionArgument, idArgument]
    options := [
      { name := "dry-run", valueName := "", takes := .nothing
        about := "Show what would be deleted without actually deleting" }]
    command := fun
      | [collection, id], given =>
        some (.delete collection id (given.value? "dry-run").isSome)
      | _, _ => none },
  { name := "validate", about := "Check all stored records against their schemas"
    command := fun
      | [], _ => some .validate
      | _, _ => none },
  { name := "export", about := "Export every collection as JSON or CSV"
    options := [
      { name := "output", valueName := "OUTPUT", takes := .anyText
        about := "Write to this file instead of stdout" },
      formatOption "Export format"]
    command := fun
      | [], given => some (.writeOut (given.value? "output") (format given))
      | _, _ => none },
  { name := "import", about := "Replace every collection with the contents of an export"
    plain := [("FILE", "File produced by \x60export\x60")]
    options := [formatOption "Format of the file"]
    command := fun
      | [file], given => some (.takeIn file (format given))
      | _, _ => none }]

def commandRule? (name : String) : Option CommandRule :=
  commandRules.find? (·.name = name)

/-- The help that is asked for with the words after `help`. -/
def helpHalt : List String → Halt
  | [] => .help none
  | [name] => if name = "help" || (commandRule? name).isSome then .help (some name) else .refused
  | _ => .refused

namespace Request

/-- The command that the arguments after the common options stand for. -/
def readCommand : List String → Except Halt Command
  | [] => .error .refused
  | "help" :: words => .error (helpHalt words)
  | name :: args => do
    match commandRule? name with
    | none => .error .refused
    | some rule =>
      let level : Level :=
        { rules := rule.options, command := some name, room := rule.plain.length }
      let (given, _) ← level.scan {} args
      match rule.command given.plain given with
      | some command => return command
      | none => .error .refused

def read (args : List String) : Except Halt Request := do
  let level : Level :=
    { rules := commonOptions, command := none, hasVersion := true, ends := true }
  let (given, rest) ← level.scan {} args
  let command ← readCommand rest
  let display := if given.value? "format" = some "json" then .json else .yaml
  return ⟨(given.value? "data-dir").getD ".", display, command⟩

end Request

end DocStore.Cli
