import DocStore.Storage.Database
import DocStore.Storage.Folder
import DocStore.Storage.Memory

/-!
# Storage media

A disk together with the kind of storage that is in use, which may be on the disk
or beside it.
-/

namespace DocStore

inductive Home where
  | memory (memory : Memory)
  | folder (path : String)
  | databaseFile (path : String)
  | volatileTables (tables : VolatileTables)

structure Medium where
  disk : Disk
  home : Home

namespace Medium

/-- Runs an attempt of whatever kind of storage is in use. -/
def dispatch {α : Type} (attempt : {A : Type} → [Adapter A] → Attempt A α) :
    Attempt Medium α :=
  fun medium =>
    match medium.home with
    | .memory memory =>
      let (result, memory) := attempt.run memory
      (result, { medium with home := .memory memory })
    | .folder path =>
      let (result, folder) := attempt.run ({ disk := medium.disk, path } : FolderStorage)
      (result, { medium with disk := folder.disk })
    | .databaseFile path =>
      let (result, file) := attempt.run (DatabaseFile.mk medium.disk path)
      (result, { medium with disk := file.disk })
    | .volatileTables tables =>
      let (result, tables) := attempt.run tables
      (result, { medium with home := .volatileTables tables })

/-- What whatever kind of storage is in use tells. -/
def ask {α : Type} (medium : Medium) (answer : {A : Type} → [Adapter A] → A → α) : α :=
  match medium.home with
  | .memory memory => answer memory
  | .folder path => answer ({ disk := medium.disk, path } : FolderStorage)
  | .databaseFile path => answer (DatabaseFile.mk medium.disk path)
  | .volatileTables tables => answer tables

end Medium

instance : Adapter Medium where
  name medium := medium.ask Adapter.name
  save key collections := Medium.dispatch (Adapter.save key collections)
  load medium key := medium.ask (Adapter.load · key)
  remove key := Medium.dispatch (Adapter.remove key)
  clear := Medium.dispatch Adapter.clear
  has medium key := medium.ask (Adapter.has · key)

end DocStore
