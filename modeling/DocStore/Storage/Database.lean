import DocStore.Storage.Adapter
import DocStore.Storage.Disk

/-!
# Storage in a database

A database keeps the records of every collection as JSON text, in memory or in a
file.
-/

namespace DocStore

def Tables.load (tables : Tables) (key : String) : Except Failure (Option Collections) :=
  (tables.find key).mapError fun name => .storage (.unreadableCollection name key)

structure VolatileTables where
  tables : Tables := .empty

/-- The database with its tables changed, unless the change is refused. -/
def VolatileTables.change (next : Tables → Except DatabaseProblem Tables)
    (storage : VolatileTables) : Except Failure VolatileTables :=
  ((next storage.tables).map VolatileTables.mk).mapError Failure.database

instance : Adapter VolatileTables where
  name _ := "sqlite"
  save key collections := .step (VolatileTables.change (·.save key collections))
  load storage key := storage.tables.load key
  remove key := .step (VolatileTables.change fun tables => .ok (tables.remove key))
  clear := .step (VolatileTables.change fun tables => .ok tables.clear)
  has storage key := .ok (storage.tables.has key)

structure DatabaseFile where
  disk : Disk
  path : String

namespace DatabaseFile

/-- The tables of the file.  An empty file is a database without tables. -/
def tables (file : DatabaseFile) : Except Failure Tables :=
  match file.disk.find file.path with
  | .ok (.tables tables) => .ok tables
  | .ok (.text content) =>
    if content.isEmpty then .ok .empty else .error (.database .malformed)
  | .error .notFound => .ok .empty
  | _ => .error (.database (.unreachable file.path))

/-- The file with its tables changed, unless the change is refused. -/
def change (next : Tables → Except DatabaseProblem Tables) (file : DatabaseFile) :
    Except Failure DatabaseFile := do
  let tables ← (next (← file.tables)).mapError Failure.database
  match file.disk.place file.path (.tables tables) with
  | .ok disk => return { file with disk }
  | .error _ => .error (.database (.unreachable file.path))

/-- Opens the file, which comes into being if it is not there. -/
def openFile (disk : Disk) (path : String) : Except Failure DatabaseFile :=
  change .ok ⟨disk, path⟩

end DatabaseFile

instance : Adapter DatabaseFile where
  name _ := "sqlite"
  save key collections := .step (DatabaseFile.change (·.save key collections))
  load file key := do (← file.tables).load key
  remove key := .step (DatabaseFile.change fun tables => .ok (tables.remove key))
  clear := .step (DatabaseFile.change fun tables => .ok tables.clear)
  has file key := do return (← file.tables).has key

end DocStore
