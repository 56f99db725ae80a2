import Respecify.Path.Basic

/-!
# Locations of files

A location is written with slashes.  Segments that are empty or a single dot
do not count; two dots lead to the directory above and are kept, because what
they mean depends on the directories there are.
-/

namespace Respecify

/-- Where a file is looked for. -/
structure Location where
  /-- The slashes in front: none, one, or exactly two. -/
  anchor : Text
  names : List Text
deriving DecidableEq, Repr

namespace Location

/-- The slashes in front of a path: two are kept, more stand for one. -/
def anchorOf (path : Text) : Text :=
  match (path.takeWhile (· == Path.separator)).length with
  | 0 => []
  | 2 => [Path.separator, Path.separator]
  | _ => [Path.separator]

/-- The segments of a path that count. -/
def namesOf (path : Text) : List Text :=
  (Text.splitOn Path.separator path).filter fun name => !name.isEmpty && name != text "."

/-- The location that a path stands for. -/
def ofText (path : Text) : Location :=
  ⟨anchorOf path, namesOf path⟩

/-- Go on from a location.  A path with a slash in front starts anew. -/
def join (location : Location) (path : Text) : Location :=
  if path.startsWith [Path.separator] then ofText path
  else { location with names := location.names ++ namesOf path }

/-- The location of the directory. -/
def parent (location : Location) : Location :=
  { location with names := location.names.dropLast }

/-- How the location is written. -/
def display (location : Location) : Text :=
  if location.anchor.isEmpty && location.names.isEmpty then text "."
  else location.anchor ++ Text.join [Path.separator] location.names

end Location

end Respecify
