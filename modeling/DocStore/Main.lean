import Std.Time.DateTime.Timestamp
import DocStore.Cli.Run

/-!
# The command line

Looks up the files that a command line comes to, runs it, and writes down what it
has changed.
-/

namespace DocStore.Cli

/-- What stands at a path of the file system. -/
def probe (path : String) : IO (Option Entry) := do
  try
    return some (.ofContent (← IO.FS.readFile path))
  catch
    | .noFileOrDirectory .. => return none
    | .inappropriateType .. => return some .folder
    | _ => return some (.tables .empty)

/-- The disk with what stands along some steps, up to the first that is no
folder. -/
def surveySteps (disk : Disk) (above : List String) : List String → IO Disk
  | [] => return disk
  | step :: rest => do
    let here := above ++ [step]
    match ← probe (Disk.plain here) with
    | none => return disk
    | some .folder => surveySteps (disk.insert (Disk.plain here) .folder) here rest
    | some entry => return disk.insert (Disk.plain here) entry

/-- The disk with what stands along some paths. -/
def survey (disk : Disk) (paths : List String) : IO Disk :=
  paths.foldlM (fun disk path => surveySteps disk [] (Disk.steps path)) disk

/-- Writes down the folders and files in which a disk differs from another one. -/
def writeChanges (old new : Disk) : IO Unit :=
  new.entries.forM fun (path, entry) =>
    if old.get? path == some entry then pure ()
    else match entry.content? with
      | none => IO.FS.createDirAll path
      | some content => IO.FS.writeFile path content

def freshSupply : IO Supply := do
  let now ← Std.Time.Timestamp.now
  let bytes ← IO.getRandomBytes 16
  let seed := bytes.toList.foldl (fun seed byte => seed * 256 + byte.toNat) 0
  return .start now.toMillisecondsSinceUnixEpoch.val.toNat seed

/-- The disk as far as a command line comes to it. -/
def surveyFor (args : List String) : IO Disk := do
  match Request.read args with
  | .error _ => return .empty
  | .ok request =>
    let disk ← survey .empty [request.dataDir, request.configFile]
    let config := (Config.ofFolder disk request.dataDir).toOption.getD {}
    survey disk (request.places config)

end DocStore.Cli

open DocStore.Cli in
def main (args : List String) : IO UInt32 := do
  let disk ← surveyFor args
  let (outcome, changed) := (run "" (← freshSupply) args).run disk
  writeChanges disk changed
  IO.print outcome.output
  IO.eprint outcome.errors
  return outcome.code.toUInt32
