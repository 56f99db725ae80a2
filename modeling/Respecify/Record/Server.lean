import Respecify.Record.Validation
import Respecify.Server.Basic
import Respecify.Server.Report

/-!
# Reading servers and reports
-/

namespace Respecify

/-- Read a script. -/
def Script.ofMembers (members : Members) : Reading Script :=
  (Reading.both (members.required "filename" Value.readText)
    (Reading.both (members.optional "code" [] Value.readText)
      (members.optional "server" [] Value.readText))).map
    fun (name, code, hostname) => ⟨name, code, hostname⟩

/-- Read a server. -/
def Server.ofMembers (members : Members) : Reading Server :=
  (Reading.both (members.required "hostname" Value.readText)
    (members.optional "scripts" []
      (Value.readList (Value.readRecord Script.ofMembers)))).map
    fun (hostname, scripts) => ⟨hostname, scripts⟩

/-- Read an entry of a report. -/
def Entry.ofMembers (members : Members) : Reading Entry :=
  (Reading.both (members.required "hostname" Value.readText)
    (Reading.both (members.required "filename" Value.readText)
      (Reading.both (members.required "status" (Value.readChoice Status.ofLabel?))
        (Reading.both (members.optional "reason" none Value.readText?)
          (Reading.both (members.optional "rewritten" 0 Value.readInteger)
            (members.optional "flagged" 0 Value.readInteger)))))).map
    fun (hostname, name, status, reason, changes, warnings) =>
      ⟨hostname, name, status, reason, changes, warnings⟩

end Respecify
