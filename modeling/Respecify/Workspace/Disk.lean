import Respecify.Text.Utf8
import Respecify.Workspace.FileTree
import Respecify.Workspace.Location

/-!
# Reading and writing files

Actions on a tree of files.  An action that fails leaves behind what was done
before.  The tree is all there is: what lies outside of it is not found, and an
absolute location does.  Of the errors of a file system, those are told that follow
from what stands in the tree.
-/

namespace Respecify

/-- Why an action on files fails: because of what is there or is not, or because of the
text.  Missing permissions, a full disk or a name that is too long are none of these, and
actions do not fail for them here. -/
inductive FileError where
  /-- Something on the way is missing. -/
  | notFound
  /-- Something else stands at the place. -/
  | occupied
  /-- A file stands where a directory is needed. -/
  | notDirectory
  /-- A directory stands where a file is needed. -/
  | isDirectory
  /-- The file holds no UTF-8. -/
  | undecodable
  /-- The text has no UTF-8 form. -/
  | unencodable
deriving DecidableEq, Repr

/-- The wording of the error. -/
def FileError.message : FileError → Text
  | .notFound => text "No such file or directory"
  | .occupied => text "File exists"
  | .notDirectory => text "Not a directory"
  | .isDirectory => text "Is a directory"
  | .undecodable => text "The file is no UTF-8 text"
  | .unencodable => text "The text has no UTF-8 form"

/-- An action on a tree of files. -/
abbrev Disk := ExceptT FileError (StateM FileTree)

namespace Disk

/-- Do an action, starting from a tree. -/
def perform {α : Type} (action : Disk α) (tree : FileTree) : Except FileError α × FileTree :=
  action.run.run tree

end Disk

namespace FileTree

/-- The segment that leads to the directory above. -/
def up : Text := text ".."

/-- Enter a directory from another one. -/
def enter (tree : FileTree) (place : Place) (name : Text) : Except FileError Place :=
  if name = up then
    if place.isEmpty then .error .notFound else .ok place.dropLast
  else
    match tree.node? (place ++ [name]) with
    | none => .error .notFound
    | some (.file _) => .error .notDirectory
    | some .directory => .ok (place ++ [name])

/-- Follow names from a directory.  All but the last one have to lead to
directories. -/
def walk (tree : FileTree) : Place → List Text → Except FileError Place
  | place, [] => .ok place
  | place, [name] =>
      if name = up then tree.enter place name else .ok (place ++ [name])
  | place, name :: next :: rest =>
      match tree.enter place name with
      | .ok inner => walk tree inner (next :: rest)
      | .error error => .error error

/-- The place of a location.  One with a slash in front is absolute: it starts outside
of the tree, and nothing is ever found there. -/
def place? (tree : FileTree) (location : Location) : Except FileError Place :=
  if location.anchor.isEmpty then tree.walk [] location.names else .error .notFound

/-- What stands at a location. -/
def at? (tree : FileTree) (location : Location) : Option Node :=
  match tree.place? location with
  | .ok place => tree.node? place
  | .error _ => none

/-- A directory stands at the location. -/
def hasDirectory (tree : FileTree) (location : Location) : Bool :=
  tree.at? location == some .directory

/-- The text of the file at a location. -/
def readText (tree : FileTree) (location : Location) : Except FileError Text :=
  match tree.place? location with
  | .error error => .error error
  | .ok place =>
      match tree.node? place with
      | none => .error .notFound
      | some .directory => .error .isDirectory
      | some (.file bytes) =>
          match Utf8.decode? bytes with
          | some source => .ok source
          | none => .error .undecodable

end FileTree

namespace Disk

/-- The place of a location. -/
def place (location : Location) : Disk Place := do
  match (← get).place? location with
  | .ok place => return place
  | .error error => throw error

/-- Make a directory in one that is there. -/
def makeDirectory (location : Location) : Disk Unit := do
  let place ← place location
  if ((← get).node? place).isSome then throw .occupied
  modify fun tree => tree.put place .directory

/-- Make a directory, unless it is there. -/
def ensureDirectory (location : Location) : Disk Unit :=
  tryCatch (makeDirectory location) fun error => do
    unless (← get).hasDirectory location do throw error

/-- Make a directory, and those above it, unless they are there.  The names
are given from the deepest one up. -/
def ensureDirectories (anchor : Text) : List Text → Disk Unit
  | [] => ensureDirectory ⟨anchor, []⟩
  | name :: above =>
      let location : Location := ⟨anchor, (name :: above).reverse⟩
      tryCatch (makeDirectory location) fun error => do
        if error = .notFound then
          ensureDirectories anchor above
          ensureDirectory location
        else
          unless (← get).hasDirectory location do throw error

/-- Make the directory of a location, and those above it. -/
def ensureParent (location : Location) : Disk Unit :=
  ensureDirectories location.anchor location.parent.names.reverse

/-- Write a file.  A file that is there is emptied first, so a text without a
UTF-8 form leaves an empty file. -/
def writeText (location : Location) (code : Text) : Disk Unit := do
  let place ← place location
  if (← get).node? place = some .directory then throw .isDirectory
  modify fun tree => tree.put place (.file [])
  match Utf8.encode? code with
  | some bytes => modify fun tree => tree.put place (.file bytes)
  | none => throw .unencodable

/-- Read a file. -/
def readText (location : Location) : Disk Text := do
  match (← get).readText location with
  | .ok source => return source
  | .error error => throw error

end Disk

end Respecify
