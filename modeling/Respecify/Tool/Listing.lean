import Respecify.Tool.Arguments

/-!
# The tool that lists imports
-/

namespace Respecify.Tool

/-- What the tool that lists imports does. -/
def listingDescription : Text :=
  text "List the import declarations of a script with their source ranges."

/-- The answer of the tool that lists imports. -/
inductive ListingAnswer where
  /-- The script cannot be parsed. -/
  | failed (message : Text)
  | found (sites : List ImportSite)

/-- List the imports of a script. -/
def listScript (code : Text) : Except ToolError ListingAnswer :=
  match survey code with
  | .ok sites => .ok (.found sites)
  | .error (.parse failure) => .ok (.failed failure.message)
  | .error error => .error (.revision (.survey error))

/-- List the imports of the script in the arguments. -/
def listing (arguments : Members) : Except ToolError ListingAnswer := do
  arguments.onlyNamed ["code"]
  let code ← arguments.argument "code"
  requireFilled "code" code
  listScript (← code.text?)

end Respecify.Tool
