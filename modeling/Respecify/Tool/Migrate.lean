import Respecify.Tool.Arguments
import Respecify.Workspace.Store

/-!
# The tool that migrates a workspace
-/

namespace Respecify.Tool

/-- What the tool that migrates a workspace does. -/
def migrateDescription : Text :=
  text
    "Migrate every script of every server in a workspace directory and return the change report."

/-- Migrate the workspace in the arguments. -/
def migrate (settings : Settings) (arguments : Members) (tree : FileTree) :
    Except ToolError Report × FileTree :=
  let read : Except ToolError (Text × Bool) := do
    arguments.onlyNamed ["workspaceDirectory", "dryRun"]
    let directory ← arguments.argument "workspaceDirectory"
    requireFilled "workspaceDirectory" directory
    match directory with
    | .text path => return (path, (arguments.argumentOr "dryRun" (.boolean false)).isTruthy)
    | _ => throw .unfit
  match read with
  | .error error => (.error error, tree)
  | .ok (path, dryRun) =>
      let store : Store := ⟨Location.ofText path, settings⟩
      match (store.migrate dryRun).perform tree with
      | (.ok report, after) => (.ok report, after)
      | (.error error, after) => (.error (.file error), after)

end Respecify.Tool
