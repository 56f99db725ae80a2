import Respecify.Path.Basic
import Respecify.Text.Blank

/-!
# The normal form of a path

A path is brought into the form `/a/b/c`: one slash before each segment, and
no segment that is empty, that stands for the directory itself or the one
above it, or that holds a character no segment may hold.
-/

namespace Respecify.Path

/-! ## Segments -/

/-- The segment that stands for the directory itself. -/
def here : Text := text "."

/-- The segment that stands for the directory above. -/
def above : Text := text ".."

/-- The characters that no segment may hold. -/
def isForbidden (c : Nat) : Bool :=
  isBlank c || (text "\\*?<>|\x22\x27\x60:").contains c

/-- The text can name a file or a directory, unless it is `.` or `..`. -/
def isName (segment : Text) : Bool :=
  !segment.isEmpty && !segment.any isForbidden

/-- The text is a segment of a path in normal form. -/
def isSegment (segment : Text) : Bool :=
  isName segment && segment != here && segment != above

/-- Follow segments from a place, given by its own segments, the deepest first. -/
def follow : List Text → List Text → Option (List Text)
  | place, [] => some place
  | place, segment :: rest =>
      if segment = here then follow place rest
      else if segment = above then
        match place with
        | [] => none
        | _ :: parent => follow parent rest
      else if isName segment then follow (segment :: place) rest
      else none

/-- The path with the given segments. -/
def ofSegments (segments : List Text) : Text :=
  segments.flatMap (separator :: ·)

/-- The segments of a path that starts with a slash.  One slash at its end
does not count. -/
def segments (path : Text) : List Text :=
  let trimmed :=
    if path.endsWith [separator] && path != [separator] then path.dropLast else path
  Text.splitOn separator (trimmed.drop 1)

/-- The normal form of a path that starts with a slash.  There is none if the
path leaves the root, stays at the root or has a segment that names nothing. -/
def resolve? (path : Text) : Option Text :=
  match follow [] (segments path) with
  | none | some [] => none
  | some place => some (ofSegments place.reverse)

/-! ## Paths that start elsewhere -/

/-- The directory with a slash at its start and at its end. -/
def directory (base : Text) : Text :=
  let base := rooted base
  if base.endsWith [separator] then base else base ++ [separator]

/-- The normal form of a path.  A path without a slash at its start is taken
from the first directory from which it leads somewhere, or from the root if no
directory is given. -/
def normalize (path : Text) (bases : List Text) : Option Text :=
  let path := path.strip
  if path.isEmpty then none
  else if path.startsWith [separator] then resolve? path
  else
    (if bases.isEmpty then [[separator]] else bases).findSome? fun base =>
      resolve? (directory base ++ path)

/-- The spellings under which a specifier is looked up: itself, then with the
extension that it may have left out. -/
def variants (specifier : Text) : List Text :=
  if specifier.endsWith moduleExtension then [specifier]
  else [specifier, specifier ++ moduleExtension]

/-- The paths, without repetition, under which a specifier is looked up from
the given directories. -/
def candidates (specifier : Text) (bases : List Text) : List Text :=
  (variants specifier).foldl (fun found variant =>
    match normalize variant bases with
    | some path => if path ∈ found then found else found ++ [path]
    | none => found) []

/-! ## The directories above a script -/

/-- The directories with the given segments, given the deepest first, and
those above, from the deepest to the root. -/
def directoriesAbove : List Text → List Text
  | [] => [[separator]]
  | segment :: parent =>
      (ofSegments (segment :: parent).reverse ++ [separator]) :: directoriesAbove parent

/-- The directories above a script, the nearest first.  Each starts and ends
with a slash. -/
def enclosingDirectories (name : Text) : List Text :=
  let parts := (Text.splitOn separator (unrooted name.strip)).dropLast
  directoriesAbove (parts.filter (!·.isEmpty)).reverse

end Respecify.Path
