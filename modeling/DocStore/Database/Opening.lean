import DocStore.Database.Basic
import DocStore.Schema.Catalog
import DocStore.Storage.Medium

/-!
# Opening a data directory

The settings say which storage to use; the schemas and the collections are read
where there are any.
-/

namespace DocStore

namespace Config

def ofFolder (disk : Disk) (root : String) : Except Failure Config := do
  let path := Disk.join root fileName
  if disk.holds path then ofText (← (disk.read path).mapError Failure.file)
  else return {}

def medium (config : Config) (disk : Disk) (root : String) : Except Failure Medium := do
  match config.backend with
  | .memory => return ⟨disk, .memory {}⟩
  | .json => return ⟨disk, .folder (Disk.join root config.jsonDir)⟩
  | .sqlite =>
    let file ← DatabaseFile.openFile disk (Disk.join root config.databaseFile)
    return ⟨file.disk, .databaseFile file.path⟩

end Config

namespace Registry

/-- The registry with the schemas of a file, and how many these are. -/
def load (registry : Registry) (disk : Disk) (path : String) :
    Except Failure (Registry × Nat) := do
  let text ← (disk.read path).mapError Failure.file
  let schemas ← (Schema.listOfText text).yaml
  return (registry.registerAll schemas, schemas.length)

end Registry

namespace Database

/-- Opens a data directory.  Its storage is made ready first and stays so, also
when the schemas or the collections then turn out to be unreadable. -/
def openFolder (root : String) (supply : Supply) : Attempt Disk (Database Medium) := do
  if !(← get).isFolder root then throw (.noDataDirectory root)
  let config ← Attempt.reading fun disk => Config.ofFolder disk root
  let medium ← Attempt.reading fun disk => config.medium disk root
  set medium.disk
  let schemaPath := Disk.join root config.schemaFile
  let registry : Registry ←
    if medium.disk.holds schemaPath then
      Attempt.ofResult (Prod.fst <$> Registry.load {} medium.disk schemaPath)
    else pure {}
  let store ← Attempt.ofResult (Store.openAt medium config.storageKey)
  return { root := some root, config, registry, store, supply }

end Database

end DocStore
