import Respecify.CommandLine.Run

/-!
# The command

This module alone touches files: it reads the directory of the workspace into
a tree, lets the migration run on the tree, and writes what is new in it.
-/

namespace Respecify.Command

open CommandLine

/-- The variables of the environment that set something. -/
def variableNames : List String :=
  ["WORKSPACE_DIR", "HOME_HOSTNAME", "CHANGE_LOG", "BACKUP_DIR", "SCRIPT_EXTENSIONS", "LOG_LEVEL"]

/-- The variables that are set. -/
def readEnvironment : IO Settings.Environment :=
  variableNames.filterMapM fun name => do
    return (← IO.getEnv ("IMPORT_MIGRATOR_" ++ name)).map fun value => (name, text value)

/-- A text as the outside world takes it; it has no surrogates. -/
def display (source : Text) : String :=
  source.toString?.getD ""

/-- Read what stands below a directory. -/
partial def readEntries (directory : IO.FS.DirEntry) (place : Place) :
    IO (List (Place × Node)) := do
  let mut entries : List (Place × Node) := []
  for entry in ← directory.path.readDir do
    let inner := place ++ [text entry.fileName]
    if ← entry.path.isDir then
      entries := entries ++ (inner, .directory) :: (← readEntries entry inner)
    else
      let bytes ← IO.FS.readBinFile entry.path
      entries := entries ++ [(inner, .file (bytes.toList.map UInt8.toNat))]
  return entries

/-- Write what a tree holds and another one did not. -/
def writeEntries (directory : IO.FS.DirEntry) (before after : FileTree) : IO Unit :=
  for (place, node) in after.entries do
    unless before.node? place = some node do
      let path := directory.path / display (Text.join [Path.separator] place)
      match node with
      | .directory => IO.FS.createDirAll path
      | .file bytes => IO.FS.writeBinFile path ⟨(bytes.map UInt8.ofNat).toArray⟩

/-- Run the migration in a directory. -/
def migrateIn (settings : Settings) (options : Options) : IO UInt32 := do
  let directory : IO.FS.DirEntry := ⟨← IO.currentDir, display options.workspace⟩
  let isThere ← directory.path.isDir
  let entries ← if isThere then readEntries directory [] else pure []
  let before : FileTree := ⟨entries⟩
  let root : Location := ⟨[], if isThere then [] else [options.workspace]⟩
  let (answer, after) := migrateAt settings options root before
  writeEntries directory before after
  IO.print (display answer.output)
  match answer.exit with
  | .ok code => return UInt32.ofNat code
  | .error error =>
      IO.eprintln (display error.message)
      return 1

end Respecify.Command

open Respecify Respecify.Command Respecify.CommandLine in
/-- Migrate the workspace that the arguments name. -/
def main (arguments : List String) : IO UInt32 := do
  let settings := Settings.ofEnvironment (← readEnvironment)
  match request settings (arguments.map text) with
  | .help =>
      IO.print (display (helpText settings))
      return 0
  | .refused error =>
      IO.eprint (display (refusal error))
      return 2
  | .run options => migrateIn settings options
