import DocStore.Schema.Problem
import DocStore.Validation.Issue
import DocStore.Node.Decode

/-!
# Failures

Every way in which an operation can fail, by its cause, and the one function that
words them.
-/

namespace DocStore

inductive FileProblem where
  | notFound
  | exists
  | notDirectory
  | isDirectory
  | notText
  | badName
  | nameTooLong
  /-- The device reports a text of its own. -/
  | device (report : String)
  deriving DecidableEq

def FileProblem.message : FileProblem → String
  | .notFound => "No such file or directory (os error 2)"
  | .exists => "File exists (os error 17)"
  | .notDirectory => "Not a directory (os error 20)"
  | .isDirectory => "Is a directory (os error 21)"
  | .notText => "stream did not contain valid UTF-8"
  | .badName => "file name contained an unexpected NUL byte"
  | .nameTooLong => "File name too long (os error 36)"
  | .device report => report

inductive DatabaseProblem where
  | malformed
  /-- There is no such file, and none can be made. -/
  | unreachable (path : String)
  /-- A row with the same primary key is there. -/
  | repeatedRow
  deriving DecidableEq

def DatabaseProblem.message : DatabaseProblem → String
  | .malformed => "file is not a database"
  | .unreachable path => "unable to open database file: " ++ path
  | .repeatedRow => "UNIQUE constraint failed: collections.store_key, collections.name"

inductive StorageProblem where
  | invalidKey (key : String)
  | unreadableFile (path : String)
  /-- A row of the database holds no list of records. -/
  | unreadableCollection (name key : String)
  | unwritable (path : String) (problem : FileProblem)
  | pathNotText (path : String)
  | reported (report : String)
  deriving DecidableEq

def StorageProblem.message : StorageProblem → String
  | .invalidKey key => s!"Invalid storage key '{key}'"
  | .unreadableFile path => s!"{path} is unreadable"
  | .unreadableCollection name key => s!"Collection '{name}' under '{key}' is unreadable"
  | .unwritable path problem => s!"Failed to write {path}: {problem.message}"
  | .pathNotText path => s!"Non UTF-8 storage path {path}"
  | .reported report => report

inductive ReferenceProblem where
  /-- A record cannot go while `collection.field` still points at it. -/
  | stillReferenced (owner : String) (id : Json) (collection field : String)
  /-- A key cannot change while `collection.field` still holds its value. -/
  | keyInUse (value : Json) (collection field : String)

def ReferenceProblem.message : ReferenceProblem → String
  | .stillReferenced owner id collection field =>
    s!"Cannot delete {owner}/{id.display}: referenced by {collection}.{field}"
  | .keyInUse value collection field =>
    s!"Cannot change {value.display}: referenced by {collection}.{field}"

inductive Failure where
  | schema (problem : SchemaProblem)
  | invalid (issues : List Issue)
  | notFound (collection id : String)
  | duplicateId (collection : String) (id : Json)
  | referenced (problem : ReferenceProblem)
  | invalidCursor (cursor : String)
  | storage (problem : StorageProblem)
  | file (problem : FileProblem)
  /-- YAML text is malformed or has the wrong shape, or holds a bad schema. -/
  | yaml (problem : Option SchemaProblem)
  /-- JSON text is malformed or has the wrong shape, or holds a bad schema. -/
  | json (problem : Option SchemaProblem)
  | database (problem : DatabaseProblem)
  | noDataDirectory (path : String)
  /-- A line of a CSV text belongs to no collection. -/
  | noCollection (line : Nat)
  /-- No id is left after `last`. -/
  | idsExhausted (collection : String) (last : Json)
  /-- A cascade of deletions nests deeper than its bound. -/
  | cascadeTooDeep
  | unreadableImport (path : String)
  | unwritableExport (path : String)

namespace Failure

/-- The text after a schema problem's heading, if there is one. -/
def schemaSuffix : Option SchemaProblem → String
  | some problem => " Schema error: " ++ problem.message
  | none => ""

def message : Failure → String
  | .schema problem => "Schema error: " ++ problem.message
  | .invalid issues => "Validation failed: " ++ "; ".intercalate (issues.map Issue.text)
  | .notFound collection id => s!"Record not found: {collection}/{id}"
  | .duplicateId collection id => s!"Duplicate id in {collection}: {id.display}"
  | .referenced problem => "Referential integrity violation: " ++ problem.message
  | .invalidCursor cursor => "Invalid cursor: " ++ cursor
  | .storage problem => "Storage error: " ++ problem.message
  | .file problem => "IO error: " ++ problem.message
  | .yaml problem => "YAML error:" ++ schemaSuffix problem
  | .json problem => "JSON error:" ++ schemaSuffix problem
  | .database problem => "SQLite error: " ++ problem.message
  | .noDataDirectory path => "Data directory does not exist: " ++ path
  | .noCollection line => s!"CSV line {line} comes before any '# Collection:' line"
  | .idsExhausted collection last =>
    s!"Cannot generate an id for '{collection}' after {last.display}"
  | .cascadeTooDeep => "Cascade nests too deeply"
  | .unreadableImport path => s!"Failed to read import file '{path}'"
  | .unwritableExport path => s!"Failed to write export file '{path}'"

def asStorage : Failure → Failure
  | .storage problem => .storage problem
  | other => .storage (.reported other.message)

end Failure

namespace Defect

def problem? : Defect → Option SchemaProblem
  | .shape => none
  | .schema problem => some problem

end Defect

/-- A reading of a JSON value, its defect told as a failure. -/
def Reading.json (reading : Reading α) : Except Failure α :=
  reading.mapError fun defect => .json defect.problem?

/-- A reading of a YAML text, its defect told as a failure. -/
def Reading.yaml (reading : Reading α) : Except Failure α :=
  reading.mapError fun defect => .yaml defect.problem?

end DocStore
