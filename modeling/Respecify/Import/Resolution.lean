import Respecify.Path.Convention
import Respecify.Path.Normal

/-!
# What an import resolves to

A specifier is looked up among the names of the scripts known on a server:
first from the root, as the module of that name, then from the directories
above the importing script, as a file.  The first name found decides.
-/

namespace Respecify

/-- Why an import keeps its specifier. -/
inductive Reason where
  /-- No script of that name is known. -/
  | notFound
  /-- The specifier already names a script from the root. -/
  | upToDate
  /-- An earlier run left a banner or a warning above the import. -/
  | annotated
  /-- The specifier is a URL. -/
  | external
deriving DecidableEq, Repr

/-- What an import resolves to. -/
inductive Resolution where
  /-- A script found from the root. -/
  | root (specifier target : Text)
  /-- A script found from a directory above the importing one. -/
  | directory (specifier target : Text)
  /-- Nothing that changes the import. -/
  | unresolved (reason : Reason)
deriving DecidableEq, Repr

namespace Reason

/-- The word for the reason. -/
def label : Reason → String
  | .notFound => "not_found"
  | .upToDate => "up_to_date"
  | .annotated => "annotated"
  | .external => "external"

/-- The reason for which a word stands. -/
def ofLabel? (label : Text) : Option Reason :=
  [notFound, upToDate, annotated, external].find? fun reason => text reason.label == label

/-- Every reason is found by its word. -/
theorem ofLabel?_label (reason : Reason) :
    ofLabel? (text reason.label) = some reason := by
  cases reason <;> decide

end Reason

namespace Resolution

/-- The word for the kind of outcome. -/
def label : Resolution → String
  | .root .. => "root_rewrite"
  | .directory .. => "directory_rewrite"
  | .unresolved _ => "unresolved"

/-- The specifier to write, if the import changes. -/
def newSpecifier? : Resolution → Option Text
  | .root specifier _ | .directory specifier _ => some specifier
  | .unresolved _ => none

/-- The name of the script found. -/
def target? : Resolution → Option Text
  | .root _ target | .directory _ target => some target
  | .unresolved _ => none

/-- The import changes. -/
def isChange (resolution : Resolution) : Bool :=
  resolution.newSpecifier?.isSome

/-- The import calls for a warning. -/
def isMissing (resolution : Resolution) : Bool :=
  resolution == .unresolved .notFound

end Resolution

/-- The names of the scripts known on a server, in order. -/
abbrev Known := List Text

namespace Known

/-- The first name of the module that the specifier names from the root. -/
def rootMatch? (known : Known) (specifier : Text) : Option Text :=
  known.find? fun name => Path.namesModule name (specifier.dropStart Path.rootMarker)

/-- The first name of a file that the specifier names from the nearest of the
directories above the importing script. -/
def directoryMatch? (known : Known) (specifier importer : Text) : Option Text :=
  (Path.candidates specifier (Path.enclosingDirectories importer)).findSome? fun path =>
    known.find? fun name => Path.sameFile name path

/-- Resolve the specifier of an import of the named script. -/
def resolve (known : Known) (specifier importer : Text) : Resolution :=
  if Path.isUrl specifier then .unresolved .external
  else
    match known.rootMatch? specifier with
    | some name =>
        let rooted := Path.rooted name
        if rooted = specifier then .unresolved .upToDate else .root rooted name
    | none =>
        match known.directoryMatch? specifier importer with
        | some name => .directory name name
        | none => .unresolved .notFound

end Known

end Respecify
