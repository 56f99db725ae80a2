import Respecify.CommandLine.Help
import Respecify.Workspace.Store

/-!
# Running the command

The command migrates a workspace and shows the report line by line.
-/

namespace Respecify.CommandLine

/-- Why the command stops without an exit code of its own. -/
inductive RunError where
  /-- The settings name a level of messages that there is not. -/
  | unknownLevel (level : Text)
  /-- A file cannot be read or written. -/
  | file (error : FileError)
deriving DecidableEq, Repr

/-- The wording for a level that there is not. -/
def unknownLevelMessage (level : Text) : Text :=
  text "Unknown level: " ++ level.quoted

/-- The wording of the error. -/
def RunError.message : RunError → Text
  | .unknownLevel level => unknownLevelMessage level
  | .file error => error.message

/-- What the command prints, what it tells about an error of its user, and how
it ends. -/
structure Answer where
  output : Text
  complaint : Text
  exit : Except RunError Nat

/-- The levels of messages, also those that cannot be asked for. -/
def allLevels : List Text :=
  levelNames ++ [text "FATAL", text "WARN", text "NOTSET"]

/-- What is printed for a report. -/
def output (options : Options) (report : Report) : Text :=
  let label := if options.dryRun then text "[DRY RUN] " else []
  let mode := if options.dryRun then text "would change" else text "changed"
  (report.render options.showUnchanged).lines.flatMap
      (fun line => label ++ line ++ [lineFeed]) ++
    [lineFeed] ++ text "Total: " ++ Text.ofNat (report.count .changed) ++ text " scripts " ++
    mode ++ text ", " ++ Text.ofNat (report.count .unchanged) ++ text " unchanged, " ++
    Text.ofNat (report.count .failed) ++ text " failed." ++ [lineFeed]

/-- The exit code for a report: one if some script cannot be migrated. -/
def exitCode (report : Report) : Nat :=
  if report.count .failed = 0 then 0 else 1

/-- Migrate the workspace at a location. -/
def migrateAt (settings : Settings) (options : Options) (root : Location) (tree : FileTree) :
    Answer × FileTree :=
  if !allLevels.contains options.logLevel then
    (⟨[], [], .error (.unknownLevel options.logLevel)⟩, tree)
  else
    let store : Store := ⟨root, settings⟩
    match (store.migrate options.dryRun).perform tree with
    | (.ok report, after) => (⟨output options report, [], .ok (exitCode report)⟩, after)
    | (.error error, after) => (⟨[], [], .error (.file error)⟩, after)

/-- Do what the arguments ask for, in the directory at the root of a tree. -/
def run (environment : Settings.Environment) (arguments : List Text) (tree : FileTree) :
    Answer × FileTree :=
  let settings := Settings.ofEnvironment environment
  match request settings arguments with
  | .help => (⟨helpText settings, [], .ok 0⟩, tree)
  | .refused error => (⟨[], refusal error, .ok 2⟩, tree)
  | .run options => migrateAt settings options (Location.ofText options.workspace) tree

end Respecify.CommandLine
