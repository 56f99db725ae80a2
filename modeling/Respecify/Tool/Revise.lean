import Respecify.Tool.Arguments

/-!
# The tool that migrates one script
-/

namespace Respecify.Tool

/-- What the tool that migrates one script does. -/
def reviseDescription : Text :=
  text "Rewrite the imports of one script against a list of files known on its server."

/-- The answer of the tool that migrates one script. -/
inductive ReviseAnswer where
  /-- The script cannot be parsed. -/
  | failed (message : Text)
  | revised (revision : Revision)

/-- The names on a server of which some are told: the script itself, then the
others. -/
def knownTo (name : Text) (others : List Text) : Known :=
  name :: others.filter fun other => !Path.sameFile other name

/-- Migrate a script, as a parser reads it, against the names of other scripts. -/
def reviseScriptBy (parser : JavaScript.ScriptParser) (name code : Text) (others : List Text) :
    Except ToolError ReviseAnswer :=
  match reviseBy parser (knownTo name others) name code with
  | .ok revision => .ok (.revised revision)
  | .error (.survey (.parse failure)) => .ok (.failed failure.message)
  | .error error => .error (.revision error)

/-- Migrate a script against the names of other scripts. -/
abbrev reviseScript (name code : Text) (others : List Text) : Except ToolError ReviseAnswer :=
  reviseScriptBy JavaScript.parse? name code others

/-- Migrate the script in the arguments. -/
def revise (arguments : Members) : Except ToolError ReviseAnswer := do
  arguments.onlyNamed ["filename", "code", "knownFiles", "hostname"]
  let name ← arguments.argument "filename"
  let code ← arguments.argument "code"
  let others ← arguments.argument "knownFiles"
  let hostname := arguments.argumentOr "hostname" (.text (text "home"))
  requireFilled "filename" name
  requireFilled "code" code
  match Script.ofMembers [("filename", name), ("code", code), ("server", hostname)] with
  | .error issues => throw (.issues issues)
  | .ok script => reviseScript script.name script.code (← others.texts?)

end Respecify.Tool
