import DocStore.Failure
import DocStore.Storage.Tables
import DocStore.Text.Parts

/-!
# Disks

Folders and files by their paths.  A file holds text or the tables of a database;
other programs' bytes are out of sight.  Paths are texts; the empty steps and the
steps `.` of a path do not count, and a step `..` takes back the one before it.
A path that begins with a slash starts at the folder `/`.
-/

namespace DocStore

inductive Entry where
  | text (content : String)
  | tables (tables : Tables)
  | folder
  deriving BEq

namespace Entry

/-- What a file with some content holds. -/
def ofContent (content : String) : Entry :=
  match Tables.ofText? content with
  | some held => .tables held
  | none => .text content

def content? : Entry → Option String
  | .text content => some content
  | .tables held => some held.toText
  | .folder => none

end Entry

/-- Every folder and file by its path in plain form. -/
abbrev Disk := SortedMap Entry

namespace Disk

def join (folder name : String) : String :=
  if name.toList.head? = some '/' then name
  else if folder.isEmpty ∨ folder.toList.getLast? = some '/' then folder ++ name
  else folder ++ "/" ++ name

/-- The steps that count, those in `taken` before them, the last one first. -/
def resolve (taken : List String) : List String → List String
  | [] => taken.reverse
  | step :: rest =>
    if step = "" ∨ step = "." then resolve taken rest
    else if step = ".." then
      match taken with
      | [] | ".." :: _ => resolve (step :: taken) rest
      | ["/"] => resolve taken rest
      | _ :: before => resolve before rest
    else resolve (step :: taken) rest

def steps (path : String) : List String :=
  resolve (if path.toList.head? = some '/' then ["/"] else [])
    ((splitAtChar '/' path.toList).map String.ofList)

def plain (steps : List String) : String :=
  "/".intercalate steps

def nameLimit : Nat := 255

/-- What keeps a text from being a name in a folder. -/
def nameProblem? (name : String) : Option FileProblem :=
  if name.toList.contains '\x00' then some .badName
  else if nameLimit < name.utf8ByteSize then some .nameTooLong
  else none

/-- What stands at the end of some steps that start in the folder with the steps
`above`. -/
def follow (disk : Disk) (above : List String) : List String → Except FileProblem Entry
  | [] => .ok .folder
  | step :: rest =>
    match nameProblem? step, disk.get? (plain (above ++ [step])), rest with
    | some problem, _, _ => .error problem
    | none, none, _ => .error .notFound
    | none, some entry, [] => .ok entry
    | none, some .folder, rest => follow disk (above ++ [step]) rest
    | none, some _, _ => .error .notDirectory

def find (disk : Disk) (path : String) : Except FileProblem Entry :=
  disk.follow [] (steps path)

def holds (disk : Disk) (path : String) : Bool :=
  (disk.find path).isOk

def isFolder (disk : Disk) (path : String) : Bool :=
  match disk.find path with
  | .ok .folder => true
  | _ => false

def read (disk : Disk) (path : String) : Except FileProblem String := do
  match ← disk.find path with
  | .text content => return content
  | .tables _ => .error .notText
  | .folder => .error .isDirectory

/-- The disk with a file at a path, new or instead of an old one, in a folder that
is there. -/
def place (disk : Disk) (path : String) (entry : Entry) : Except FileProblem Disk := do
  let placed := disk.insert (plain (steps path)) entry
  match disk.find path with
  | .ok .folder => .error .isDirectory
  | .ok _ => return placed
  | .error .notFound =>
    match ← disk.follow [] (steps path).dropLast with
    | .folder => return placed
    | _ => .error .notDirectory
  | .error problem => .error problem

def write (disk : Disk) (path content : String) : Except FileProblem Disk :=
  disk.place path (.text content)

/-- The disk with folders all along some steps that start in the folder with the
steps `above`. -/
def makeFoldersFrom (disk : Disk) (above : List String) :
    List String → Except FileProblem Disk
  | [] => .ok disk
  | step :: rest =>
    let here := above ++ [step]
    match nameProblem? step, disk.get? (plain here) with
    | some problem, _ => .error problem
    | none, none => makeFoldersFrom (disk.insert (plain here) .folder) here rest
    | none, some .folder => makeFoldersFrom disk here rest
    | none, some _ => .error (if rest.isEmpty then .exists else .notDirectory)

def makeFolders (disk : Disk) (path : String) : Except FileProblem Disk :=
  disk.makeFoldersFrom [] (steps path)

def remove (disk : Disk) (path : String) : Except FileProblem Disk := do
  match ← disk.find path with
  | .folder => .error .isDirectory
  | _ => return disk.erase (plain (steps path))

/-- The paths of all that lies below a folder, seen from it, in order. -/
def below (disk : Disk) (path : String) : List (String × Entry) :=
  disk.entries.filterMap fun (place, entry) =>
    (afterStart? (plain (steps path ++ [""])) place).map fun rest => (rest, entry)

/-- The paths of the files below a folder, seen from it, in order. -/
def files (disk : Disk) (path : String) : List String :=
  (disk.below path).filterMap fun (place, entry) =>
    match entry with
    | .folder => none
    | _ => some place

/-- The names of all that lies directly in a folder, in order. -/
def names (disk : Disk) (path : String) : List String :=
  ((disk.below path).map Prod.fst).filter fun place => !place.toList.contains '/'

end Disk

end DocStore
