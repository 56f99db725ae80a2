import Respecify.Text.Basic

/-!
# The report of a migration

A report has one entry for each script that was looked at.  It is shown one
line for each entry.
-/

namespace Respecify

/-- What became of a script. -/
inductive Status where
  /-- The script needed no change. -/
  | unchanged
  /-- The script was changed. -/
  | changed
  /-- The script cannot be migrated. -/
  | failed
deriving DecidableEq, Repr

namespace Status

/-- The word for the status. -/
def label : Status → String
  | .unchanged => "no_change"
  | .changed => "changed"
  | .failed => "failed"

/-- The status for which a word stands. -/
def ofLabel? (label : Text) : Option Status :=
  [unchanged, changed, failed].find? fun status => text status.label == label

/-- Every status is found by its word. -/
theorem ofLabel?_label (status : Status) :
    ofLabel? (text status.label) = some status := by
  cases status <;> decide

end Status

/-- What became of one script of a server. -/
structure Entry where
  hostname : Text
  name : Text
  status : Status
  /-- Why the script cannot be migrated. -/
  reason : Option Text := none
  /-- The number of imports that got a new specifier. -/
  changes : Int := 0
  /-- The number of imports that got a warning. -/
  warnings : Int := 0
deriving DecidableEq, Repr

/-- How the entry is shown. -/
def Entry.line (entry : Entry) : Text :=
  let place := entry.name ++ text " on " ++ entry.hostname
  match entry.status with
  | .changed => text "// Changed import statements in " ++ place
  | .failed =>
      text "// Failed to convert " ++ place ++ text ", reason: " ++
        entry.reason.getD (text "None")
  | .unchanged => text "// No change to " ++ place

/-- What became of the scripts of all servers. -/
structure Report where
  entries : List Entry
deriving DecidableEq, Repr

namespace Report

/-- The number of entries with that status. -/
def count (report : Report) (status : Status) : Nat :=
  report.entries.countP (·.status == status)

/-- Some script was changed or cannot be migrated. -/
def isEventful (report : Report) : Bool :=
  report.entries.any (·.status != .unchanged)

/-- The lines of the entries, each with its end.  Those of scripts that needed
no change are left out unless they are asked for. -/
def render (report : Report) (includeUnchanged : Bool) : Text :=
  (report.entries.filter fun entry => includeUnchanged || entry.status != .unchanged).flatMap
    fun entry => entry.line ++ [lineFeed]

/-- The change log: the report without the scripts that needed no change. -/
def changeLog (report : Report) : Text :=
  report.render false

end Report

end Respecify
