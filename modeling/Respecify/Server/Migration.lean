import Respecify.Migration.Revision
import Respecify.Server.Basic
import Respecify.Server.Report
import Respecify.Settings

/-!
# The migration of servers

Every script of a server is revised against the names that the server had
before.  The texts of the scripts that change are kept as backups, which are
put on the server when all its scripts are done.  A script that cannot be
revised is reported and left as it is.
-/

namespace Respecify

/-! ## One script -/

/-- What revising a script came to. -/
inductive Verdict where
  | failed (error : RevisionError)
  | unchanged
  | changed (revision : Revision)

/-- A script of a server and the verdict on it, if it is one to migrate. -/
structure Judgement where
  script : Script
  verdict? : Option Verdict

namespace Script

/-- Scripts are migrated if they have one of the extensions and are no
backups. -/
def isMigrated (settings : Settings) (script : Script) : Bool :=
  Path.isScript script.name settings.extensions &&
    !Path.isBackup script.name settings.backupFolder

/-- Revise the script as a parser reads it, given the names on its server.  Whatever
stops the revision counts as a failure of this script.  Ranges and sites that do not fit
together would stop the whole migration instead; trees that are drawn as the grammar draws
them have none. -/
def verdictBy (parser : JavaScript.ScriptParser) (known : Known) (script : Script) : Verdict :=
  match reviseBy parser known script.name script.code with
  | .error error => .failed error
  | .ok revision => if revision.code = script.code then .unchanged else .changed revision

/-- Judge the script as a parser reads it, given the names on its server. -/
def judgeBy (parser : JavaScript.ScriptParser) (settings : Settings) (known : Known)
    (script : Script) : Judgement :=
  ⟨script, if script.isMigrated settings then some (script.verdictBy parser known) else none⟩

/-- The backup of the script on a server. -/
def backup (settings : Settings) (hostname : Text) (script : Script) : Script :=
  ⟨Path.backupName script.name settings.backupFolder, script.code, hostname⟩

end Script

namespace Judgement

/-- The script after its migration. -/
def after (judgement : Judgement) : Script :=
  match judgement.verdict? with
  | some (.changed revision) => { judgement.script with code := revision.code }
  | _ => judgement.script

/-- The entry for the script in the report. -/
def entry? (hostname : Text) (judgement : Judgement) : Option Entry :=
  match judgement.verdict? with
  | none => none
  | some (.failed error) =>
      some { hostname, name := judgement.script.name, status := .failed,
             reason := some error.message }
  | some .unchanged =>
      some { hostname, name := judgement.script.name, status := .unchanged }
  | some (.changed revision) =>
      some { hostname, name := judgement.script.name, status := .changed,
             changes := revision.changes, warnings := revision.warnings }

/-- The backup that the migration of the script calls for. -/
def backup? (settings : Settings) (hostname : Text) (judgement : Judgement) : Option Script :=
  match judgement.verdict? with
  | some (.changed _) => some (judgement.script.backup settings hostname)
  | _ => none

end Judgement

/-! ## Backups -/

namespace Script

/-- Keep a backup among those kept before, in place of one of the same name. -/
def keep (backups : List Script) (backup : Script) : List Script :=
  changeFirst backup.name (fun _ => backup) [backup] backups

/-- Put a backup among the scripts of a server.  A script of the same name
gets the text of the backup. -/
def store (scripts : List Script) (backup : Script) : List Script :=
  changeFirst backup.name (fun script => { script with code := backup.code }) [backup] scripts

end Script

/-! ## One server -/

/-- A server whose scripts have been judged. -/
structure ServerMigration where
  settings : Settings
  before : Server
  judgements : List Judgement

namespace Server

/-- Judge the scripts of a server as a parser reads them. -/
def migrateBy (parser : JavaScript.ScriptParser) (settings : Settings) (server : Server) :
    ServerMigration :=
  ⟨settings, server, server.scripts.map (Script.judgeBy parser settings server.names)⟩

/-- Judge the scripts of a server. -/
abbrev migrate (settings : Settings) (server : Server) : ServerMigration :=
  server.migrateBy JavaScript.parse? settings

end Server

namespace ServerMigration

/-- The entries for the scripts of the server. -/
def entries (migration : ServerMigration) : List Entry :=
  migration.judgements.filterMap (Judgement.entry? migration.before.hostname)

/-- The backups that the migration calls for, one for each name. -/
def backups (migration : ServerMigration) : List Script :=
  (migration.judgements.filterMap
    (Judgement.backup? migration.settings migration.before.hostname)).foldl Script.keep []

/-- The server after the migration. -/
def after (migration : ServerMigration) : Server :=
  { migration.before with
    scripts := migration.backups.foldl Script.store (migration.judgements.map Judgement.after) }

/-- Some script of the server changes. -/
def isChanged (migration : ServerMigration) : Bool :=
  migration.entries.any (·.status == .changed)

end ServerMigration

/-! ## All servers -/

/-- What is done to a store of scripts. -/
inductive StoreCall where
  /-- Save all scripts of a server. -/
  | save (server : Server)
  /-- Write the change log of a report. -/
  | log (report : Report)

/-- Servers whose scripts have been judged. -/
abbrev BatchMigration := List ServerMigration

namespace BatchMigration

/-- Judge the scripts of servers as a parser reads them. -/
def ofServersBy (parser : JavaScript.ScriptParser) (settings : Settings)
    (servers : List Server) : BatchMigration :=
  servers.map (Server.migrateBy parser settings)

/-- Judge the scripts of servers. -/
abbrev ofServers (settings : Settings) (servers : List Server) : BatchMigration :=
  ofServersBy JavaScript.parse? settings servers

/-- The report on the migration. -/
def report (batch : BatchMigration) : Report :=
  ⟨batch.flatMap ServerMigration.entries⟩

/-- The servers after the migration. -/
def after (batch : BatchMigration) : List Server :=
  batch.map ServerMigration.after

/-- What the migration does to the store of the servers: every server of which
a script changes is saved, and the change log is written if it is not empty. -/
def storeCalls (batch : BatchMigration) : List StoreCall :=
  (batch.filter ServerMigration.isChanged).map (fun migration => .save migration.after) ++
    if batch.report.isEventful then [.log batch.report] else []

end BatchMigration

end Respecify
