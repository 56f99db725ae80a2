import Respecify.Server.Migration
import Respecify.Workspace.Disk

/-!
# Scripts stored in directories

Every directory directly below the root of a workspace is a server, and the
scripts of the server are the files below it.  A script is known by its place
below the directory of the server.

All files are in one tree.  A location with a slash in front is outside of it, and so
are the backups of a server if the backup folder is empty or starts with a slash: saving
one fails as that of a file whose directory is missing.
-/

namespace Respecify

/-- A workspace and the settings that apply to it. -/
structure Store where
  root : Location
  settings : Settings

namespace Store

/-! ## Loading -/

/-- The script in a file below the directory of a server.  A file without a
script extension, or without UTF-8, holds none. -/
def scriptOf? (settings : Settings) (hostname : Text) (place : Place) (node : Node) :
    Option Script :=
  match node with
  | .directory => none
  | .file bytes =>
      if Path.isScript (place.getLastD []) settings.extensions then
        (Utf8.decode? bytes).map fun code => ⟨Text.join [Path.separator] place, code, hostname⟩
      else
        none

/-- The server in a directory directly below the root.  Hidden directories
hold none. -/
def serverOf? (settings : Settings) (tree : FileTree) (root : Place) (place : Place)
    (node : Node) : Option Server :=
  match place, node with
  | [hostname], .directory =>
      if hostname.startsWith (text ".") then none
      else
        some ⟨hostname, (tree.sortedBelow (root ++ [hostname])).filterMap fun entry =>
          scriptOf? settings hostname entry.1 entry.2⟩
  | _, _ => none

/-- The servers of a workspace with their scripts, in the order of their
places. -/
def load (store : Store) (tree : FileTree) : Except FileError (List Server) :=
  match tree.place? store.root with
  | .error _ => .error .notFound
  | .ok root =>
      if tree.node? root = some .directory then
        .ok ((tree.sortedBelow root).filterMap fun entry =>
          serverOf? store.settings tree root entry.1 entry.2)
      else
        .error .notFound

/-! ## Saving -/

/-- Where a script of a server is stored. -/
def scriptLocation (store : Store) (hostname name : Text) : Location :=
  (store.root.join hostname).join (Path.unrooted name)

/-- The file of a script is there and holds just its text. -/
def isStored (store : Store) (hostname : Text) (script : Script) : Disk Bool := do
  let location := store.scriptLocation hostname script.name
  if ((← get).at? location).isSome then
    return (← Disk.readText location) = script.code
  else
    return false

/-- Save a script, unless its file holds just its text. -/
def saveScript (store : Store) (hostname : Text) (script : Script) : Disk Unit := do
  unless ← store.isStored hostname script do
    let location := store.scriptLocation hostname script.name
    Disk.ensureParent location
    Disk.writeText location script.code

/-- Save scripts of a server, one after the other. -/
def saveScripts (store : Store) (hostname : Text) : List Script → Disk Unit
  | [] => pure ()
  | script :: rest => do
      store.saveScript hostname script
      store.saveScripts hostname rest

/-- Save all scripts of a server. -/
def save (store : Store) (server : Server) : Disk Unit :=
  store.saveScripts server.hostname server.scripts

/-- Write the change log of a report on the home server. -/
def writeLog (store : Store) (report : Report) : Disk Unit := do
  let location := (store.root.join store.settings.home).join store.settings.changeLog
  Disk.ensureParent location
  Disk.writeText location report.changeLog

/-! ## Migrating -/

/-- Do one thing to the workspace. -/
def call (store : Store) : StoreCall → Disk Unit
  | .save server => store.save server
  | .log report => store.writeLog report

/-- Do things to the workspace, one after the other. -/
def callAll (store : Store) : List StoreCall → Disk Unit
  | [] => pure ()
  | first :: rest => do
      store.call first
      store.callAll rest

/-- Migrate the servers of a workspace as a parser reads their scripts.  A dry run
only reports what would become of the scripts. -/
def migrateBy (parser : JavaScript.ScriptParser) (store : Store) (dryRun : Bool) :
    Disk Report := do
  match store.load (← get) with
  | .error error => throw error
  | .ok servers =>
      let batch := BatchMigration.ofServersBy parser store.settings servers
      unless dryRun do store.callAll batch.storeCalls
      return batch.report

/-- Migrate the servers of a workspace. -/
abbrev migrate (store : Store) (dryRun : Bool) : Disk Report :=
  store.migrateBy JavaScript.parse? dryRun

end Store

end Respecify
