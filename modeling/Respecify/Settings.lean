import Respecify.Path.Backup
import Respecify.Text.Blank
import Respecify.Text.UpperCase

/-!
# Settings of a migration

Settings have defaults, and variables of the environment replace them.
-/

namespace Respecify

/-- What can be set for a migration. -/
structure Settings where
  /-- The directory with one directory for each server. -/
  workspace : Text := text "."
  /-- The server that gets the change log. -/
  home : Text := text "home"
  /-- The name of the change log on that server. -/
  changeLog : Text := text "IMPORT_DETECTED_CHANGES.txt"
  /-- The directory for backups on each server. -/
  backupFolder : Text := Path.backupFolder
  /-- The extensions that make a file a script. -/
  extensions : List Text := Path.usualExtensions
  /-- The level of messages that are logged. -/
  logLevel : Text := text "INFO"
deriving DecidableEq, Repr

namespace Settings

/-- The settings when nothing is set. -/
def default : Settings := {}

/-- The extensions in a list with commas.  Blanks around each do not count,
and a dot that is missing is added. -/
def extensionsOf (list : Text) : List Text :=
  ((Text.splitOn 0x2C list).map Text.strip).filterMap fun item =>
    if item.isEmpty then none
    else if item.startsWith (text ".") then some item
    else some (0x2E :: item)

/-- The variables that are set, without their common prefix. -/
abbrev Environment := List (String × Text)

/-- The settings of an environment. -/
def ofEnvironment (environment : Environment) : Settings :=
  let value (name : String) (fallback : Text) : Text :=
    (environment.lookup name).getD fallback
  { workspace := value "WORKSPACE_DIR" default.workspace
    home := value "HOME_HOSTNAME" default.home
    changeLog := value "CHANGE_LOG" default.changeLog
    backupFolder := value "BACKUP_DIR" default.backupFolder
    extensions := extensionsOf (value "SCRIPT_EXTENSIONS" (text ".js,.ns"))
    logLevel := Text.upperCase (value "LOG_LEVEL" default.logLevel) }

/-- Without variables the settings are the default ones. -/
theorem ofEnvironment_nil : ofEnvironment [] = default := by
  decide

end Settings

end Respecify
