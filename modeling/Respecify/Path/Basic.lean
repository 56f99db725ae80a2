import Respecify.Text.Basic

/-!
# Names of scripts

A script is known on its server by a name such as `helpers.js` or
`/scripts/util.js`.  The slash at the start may be missing; the same file is
meant with it and without it.
-/

namespace Respecify.Path

/-- The slash between the segments of a path. -/
def separator : Nat := 0x2F

/-- The extension that an import may leave out. -/
def moduleExtension : Text := text ".js"

/-- The extensions that make a file a script, unless others are configured. -/
def usualExtensions : List Text := [text ".js", text ".ns"]

/-- The prefix that used to mark a script at the root. -/
def rootMarker : Text := text "./"

/-- The path with a slash at its start. -/
def rooted (path : Text) : Text :=
  if path.startsWith [separator] then path else separator :: path

/-- The path without the slash at its start. -/
def unrooted (path : Text) : Text :=
  path.dropStart [separator]

/-- Does the name end with one of the extensions? -/
def isScript (name : Text) (extensions : List Text) : Bool :=
  extensions.any name.endsWith

/-- A path with a slash at its start is left as it is. -/
theorem rooted_cons_separator (path : Text) :
    rooted (separator :: path) = separator :: path := by
  simp [rooted, Text.startsWith]

/-- After its slash is added, a path starts with it. -/
theorem exists_rooted_eq (path : Text) :
    ∃ rest, rooted path = separator :: rest := by
  unfold rooted
  split
  · rename_i slash
    match path, slash with
    | c :: rest, slash =>
        have same : separator = c := by
          simpa only [Text.startsWith, List.isPrefixOf, Bool.and_true, beq_iff_eq] using slash
        exact ⟨rest, by rw [same]⟩
  · exact ⟨path, rfl⟩

/-- Adding a slash once is enough. -/
theorem rooted_rooted (path : Text) :
    rooted (rooted path) = rooted path := by
  obtain ⟨rest, same⟩ := exists_rooted_eq path
  rw [same, rooted_cons_separator]

end Respecify.Path
