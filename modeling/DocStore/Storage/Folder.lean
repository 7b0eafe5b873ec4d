import DocStore.Storage.Adapter
import DocStore.Storage.FilePattern

/-!
# Storage in a folder

One JSON file for each key.  The storage owns its folder: clearing it removes every
JSON file there, whoever wrote it.  The files to be removed are found by a pattern made
of the folder's path, which therefore has to be text.
-/

namespace DocStore

/-- A folder of a disk, made when something is saved. -/
structure FolderStorage where
  disk : Disk
  path : String
  /-- Whether the path is text.  One that is not stands on the disk under a text of its own. -/
  isText : Bool := true

namespace FolderStorage

def ending : String := ".json"

/-- Whether a key can name a file: it is not empty, has no slash of either kind,
and does not begin with a point. -/
def isKey (key : String) : Bool :=
  !key.isEmpty && !key.toList.contains '/' && !key.toList.contains '\\' &&
    key.toList.head? != some '.'

def filePath (folder : FolderStorage) (key : String) : Except Failure String :=
  if isKey key then .ok (Disk.join folder.path (key ++ ending))
  else .error (.storage (.invalidKey key))

def fileText (collections : Collections) : String :=
  collections.toJson.pretty ++ "\n"

def save (key : String) (collections : Collections) (folder : FolderStorage) :
    Except Failure FolderStorage := do
  let path ← folder.filePath key
  let disk ← (folder.disk.makeFolders folder.path).mapError Failure.file
  let disk ← (disk.write path (fileText collections)).mapError fun problem =>
    Failure.storage (.unwritable path problem)
  return { folder with disk }

/-- Reads a key's file, if there is one. -/
def load (folder : FolderStorage) (key : String) : Except Failure (Option Collections) := do
  let path ← folder.filePath key
  if folder.disk.holds path then
    let text ← (folder.disk.read path).mapError Failure.file
    match Collections.readJson? text with
    | some collections => return some collections
    | none => .error (.storage (.unreadableFile path))
  else return none

def removeFile (path : String) (folder : FolderStorage) : Except Failure FolderStorage := do
  let disk ← (folder.disk.remove path).mapError Failure.file
  return { folder with disk }

/-- Removes a key's file, if there is one. -/
def remove (key : String) (folder : FolderStorage) : Except Failure FolderStorage := do
  let path ← folder.filePath key
  if folder.disk.holds path then removeFile path folder else return folder

/-- The pattern of the JSON files in the folder.  An empty path leaves only the slash
of the folder `/`. -/
def pattern (folder : FolderStorage) : String :=
  String.ofList (FilePattern.escape folder.path.toList) ++ "/*" ++ ending

/-- The paths of the files that clearing removes. -/
def files (folder : FolderStorage) : Except Failure (List String) :=
  if folder.isText then .ok (folder.disk.matching folder.pattern)
  else .error (.storage (.pathNotText folder.path))

def removeAll : List String → Attempt FolderStorage Unit
  | [] => pure ()
  | path :: rest => do
    Attempt.step (removeFile path)
    removeAll rest

end FolderStorage

instance : Adapter FolderStorage where
  name _ := "json"
  save key collections := .step (FolderStorage.save key collections)
  load := FolderStorage.load
  remove key := .step (FolderStorage.remove key)
  clear := do FolderStorage.removeAll (← Attempt.ofResult (← get).files)
  has folder key := do return folder.disk.holds (← folder.filePath key)

end DocStore
