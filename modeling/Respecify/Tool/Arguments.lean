import Respecify.Migration.Revision
import Respecify.Record.Server
import Respecify.Workspace.Disk

/-!
# Arguments of tools

A tool gets loosely typed arguments.  Some of them must not be null or blank.
-/

namespace Respecify

/-- Why a tool gives no answer. -/
inductive ToolError where
  /-- An argument is absent, unknown, or of a type that the tool cannot use. -/
  | unfit
  /-- A text is needed. -/
  | noText
  /-- An argument is null or blank. -/
  | blank (argument : String)
  /-- The script cannot be read from the arguments. -/
  | issues (issues : List Issue)
  /-- The script cannot be revised, though it can be parsed. -/
  | revision (error : RevisionError)
  /-- A file cannot be read or written. -/
  | file (error : FileError)

namespace Value

/-- The value is null or a blank text. -/
def isBlank : Value → Bool
  | .null => true
  | .text value => value.strip.isEmpty
  | _ => false

/-- The value counts as true. -/
def isTruthy : Value → Bool
  | .null => false
  | .boolean value => value
  | .number value => value != 0
  | .text value => !value.isEmpty
  | .list items => !items.isEmpty
  | .record members => !members.isEmpty

/-- The value as a text. -/
def text? : Value → Except ToolError Text
  | .text value => .ok value
  | _ => .error .noText

/-- The value as a list of texts.  A text counts as the list of its characters,
and a record as the list of its names. -/
def texts? : Value → Except ToolError (List Text)
  | .list items => items.mapM text?
  | .text value => .ok (value.map fun c => [c])
  | .record members => .ok (members.map fun entry => Respecify.text entry.1)
  | _ => .error .unfit

end Value

namespace Members

/-- The arguments have no other names than these. -/
def onlyNamed (arguments : Members) (names : List String) : Except ToolError Unit :=
  if arguments.all fun argument => names.contains argument.1 then .ok () else .error .unfit

/-- An argument that has to be there. -/
def argument (arguments : Members) (name : String) : Except ToolError Value :=
  match arguments.lookup name with
  | some value => .ok value
  | none => .error .unfit

/-- An argument that may be absent. -/
def argumentOr (arguments : Members) (name : String) (fallback : Value) : Value :=
  (arguments.lookup name).getD fallback

end Members

/-- Refuse an argument that is null or blank. -/
def requireFilled (name : String) (value : Value) : Except ToolError Unit :=
  if value.isBlank then .error (.blank name) else .ok ()

/-- The wording for a null or blank argument. -/
def blankMessage (name : String) : Text :=
  text "Missing required field: " ++ text name

end Respecify
