import DocStore.Cli.Help
import DocStore.Database.Opening
import DocStore.Query.Codec
import DocStore.Yaml.Writer

/-!
# Running commands

What a command line prints and how it ends, as a function of the files that it
meets.
-/

namespace DocStore.Cli

/-- How a run ends: its exit code and what it printed. -/
structure Outcome where
  code : Nat
  output : String := ""
  errors : String := ""

inductive Shown where
  | value (value : Json)
  | text (text : String)

namespace Shown

def print (display : Display) : Shown → String
  | .text content => content
  | .value shown =>
    match display with
    | .yaml => shown.yaml
    | .json => shown.pretty ++ "\n"

end Shown

/-- The record of typed fields: a JSON text counts as its value, other text as
itself. -/
def recordOfTyped (fields : Typed) : Record :=
  Fields.ofList (fields.map fun (name, text) => (name, (Json.read? text).getD (.string text)))

/-- What stands for a dependent in a trial of a deletion. -/
def dependentJson (dependent : Dependent) : Json :=
  .object [("collection", .string dependent.collection), ("field", .string dependent.field),
    ("on_delete", .orNull (dependent.onDelete.map fun action => .string action.name))]

namespace Command

def onDisk {α : Type} (attempt : Attempt Disk α) : Attempt (Database Medium) α :=
  attempt.onPart (·.store.storage.disk) fun db disk =>
    { db with store := { db.store with storage := { db.store.storage with disk } } }

def present (collection id : String) : Option Record → Attempt (Database Medium) Shown
  | some record => return .value (.object record)
  | none => throw (.notFound collection id)

/-- Runs a command; file names are seen from the folder `cwd`. -/
def run (cwd : String) : Command → Attempt (Database Medium) Shown
  | .collections => do return .value (.strings (← get).store.collections.names)
  | .schemas => do return .value (.array ((← get).registry.all.map Schema.toJson))
  | .find collection id depth => do
    present collection id (← Database.show? collection (Json.readId id) depth)
  | .list collection params => do
    let options := QueryOptions.ofParams (.ofList params)
    return .value (← Database.list collection options).toJson
  | .insert collection fields => do
    return .value (.object (← Database.create collection (recordOfTyped fields)))
  | .update collection id fields => do
    present collection id
      (← Database.patch collection (Json.readId id) (recordOfTyped fields))
  | .replace collection id fields => do
    present collection id
      (← Database.replace collection (Json.readId id) (recordOfTyped fields))
  | .delete collection id true => do
    let key := Json.readId id
    match ← Database.find? collection key with
    | none => throw (.notFound collection id)
    | some record =>
      let dependents ← Database.dependentsOf collection
      let allowed ← Database.canDelete collection key
      return .value (.object [("dry_run", .bool true),
        ("would_delete", .object [("collection", .string collection), ("id", key)]),
        ("allowed", .bool allowed), ("record", .object record),
        ("dependents", .array (dependents.map dependentJson))])
  | .delete collection id false => do
    let key := Json.readId id
    if ← Database.delete collection key then
      return .value (.object [("ok", .bool true), ("deleted", key)])
    else throw (.notFound collection id)
  | .validate => do
    let reports := (← get).reports
    return .value (.object [("valid", .bool reports.isEmpty),
      ("issues", .array (reports.map RecordReport.toJson))])
  | .writeOut none format => do return .text ((← get).exportText format)
  | .writeOut (some file) format => do
    let text := (← get).exportText format
    onDisk (.step fun disk =>
      (disk.write (Disk.join cwd file) text).mapError fun _ => .unwritableExport file)
    return .value (.object [("ok", .bool true), ("output", .string file)])
  | .takeIn file format => do
    let text ← onDisk (.reading fun disk =>
      (disk.read (Disk.join cwd file)).mapError fun _ => .unreadableImport file)
    Database.takeInText format text
    return .value (.object [("ok", .bool true),
      ("collections", .strings (← get).store.collections.names)])

end Command

namespace Command

def files : Command → List String
  | .writeOut (some file) _ => [file]
  | .takeIn file _ => [file]
  | _ => []

end Command

namespace Request

def configFile (request : Request) : String :=
  Disk.join request.dataDir Config.fileName

/-- The paths that a run comes to, given the settings. -/
def places (request : Request) (config : Config) : List String :=
  let folder := Disk.join request.dataDir config.jsonDir
  [Disk.join request.dataDir config.schemaFile,
    Disk.join request.dataDir config.databaseFile, folder,
    Disk.join folder (config.storageKey ++ FolderStorage.ending)] ++ request.command.files

def run (request : Request) (cwd : String) (supply : Supply) : Attempt Disk Shown :=
  fun disk =>
    match (Database.openFolder request.dataDir supply).run disk with
    | (.error failure, disk) => (.error failure, disk)
    | (.ok db, _) =>
      let (result, db) := (request.command.run cwd).run db
      (result, db.store.storage.disk)

end Request

/-- What a command line does that asks for no command. -/
def Halt.outcome : Halt → Outcome
  | .refused => { code := 2, errors := s!"Usage: {programName} [OPTIONS] <COMMAND>\n" }
  | .help command => { code := 0, output := helpText command }
  | .version => { code := 0, output := s!"{programName} {programVersion}\n" }

def run (cwd : String) (supply : Supply) (args : List String) : StateM Disk Outcome := do
  match Request.read args with
  | .error halt => return halt.outcome
  | .ok request =>
    match ← (request.run cwd supply).run with
    | .ok shown => return { code := 0, output := shown.print request.display }
    | .error failure => return { code := 1, errors := s!"ERROR:{failure.message}\n" }

end DocStore.Cli
