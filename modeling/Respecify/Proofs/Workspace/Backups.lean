import Respecify.Proofs.Workspace.Savings

/-!
# Whether originals are kept on disk

A migration that writes to a workspace saves the scripts of each server in their
order, and most backups behind the scripts.  A run that stops early may have
changed a script and not come to its backup.  When that happens can be told from
the workspace before the run.  A run stops for what stands in the tree or for a text
without a byte form; a backup folder that is empty or starts with a slash is outside of
the tree, so that no backup is kept there.
-/

namespace Respecify

namespace Store

open FileTree

variable {parser : JavaScript.ScriptParser} {store : Store} {tree after : FileTree} {root : Place}
  {servers : List Server}

/-! ## The run of a migration -/

/-- Where the change log is written. -/
def logLocation (store : Store) : Location :=
  (store.root.join store.settings.home).join store.settings.changeLog

theorem saveEach_append (store : Store) (first second : List Saving) :
    store.saveEach (first ++ second) =
      store.saveEach first >>= fun _ => store.saveEach second := by
  induction first with
  | nil => rfl
  | cons saving first inductionHypothesis =>
      rw [List.cons_append, saveEach, inductionHypothesis, saveEach, bind_assoc]

theorem saveScripts_eq (store : Store) (hostname : Text) (scripts : List Script) :
    store.saveScripts hostname scripts = store.saveEach (scripts.map (Saving.mk hostname)) := by
  induction scripts with
  | nil => rfl
  | cons script scripts inductionHypothesis =>
      rw [saveScripts, inductionHypothesis]
      rfl

theorem callAll_append (store : Store) (first second : List StoreCall) :
    store.callAll (first ++ second) =
      store.callAll first >>= fun _ => store.callAll second := by
  induction first with
  | nil => rfl
  | cons call first inductionHypothesis =>
      rw [List.cons_append, callAll, inductionHypothesis, callAll, bind_assoc]

/-- Servers are saved script by script. -/
theorem callAll_saves (store : Store) (servers : List Server) :
    store.callAll (servers.map .save) =
      store.saveEach (servers.flatMap fun server =>
        server.scripts.map (Saving.mk server.hostname)) := by
  induction servers with
  | nil => rfl
  | cons server servers inductionHypothesis =>
      rw [List.map_cons, callAll, inductionHypothesis, List.flatMap_cons, saveEach_append, call,
        save, saveScripts_eq]

/-- A migration saves scripts, and writes the change log if there is something to
tell. -/
theorem callAll_storeCalls (store : Store) (batch : BatchMigration) :
    store.callAll batch.storeCalls =
      store.saveEach batch.savings >>= fun _ =>
        store.callAll (if batch.report.isEventful then [.log batch.report] else []) := by
  have saves := callAll_saves store
    ((batch.filter ServerMigration.isChanged).map ServerMigration.after)
  rw [List.map_map, List.flatMap_map] at saves
  rw [BatchMigration.storeCalls, callAll_append, BatchMigration.savings]
  exact congrArg (· >>= _) saves

/-- What is written behind the scripts changes nothing but the change log, and
adds directories at most. -/
theorem callAll_log (store : Store) (report : Report) (eventful : Bool) (nested : tree.IsNested) :
    let after := (Disk.perform (store.callAll (if eventful then [.log report] else [])) tree).2
    (∀ place, store.logLocation.target? ≠ some place →
        after.node? place = tree.node? place ∨
          tree.node? place = none ∧ after.node? place = some .directory) ∧
      (∀ place, tree.node? place = some .directory → after.node? place = some .directory) ∧
      after.IsNested := by
  cases eventful with
  | false => exact ⟨fun _ _ => Or.inl rfl, fun _ => id, nested⟩
  | true =>
      have parent := Disk.grows_ensureParent store.logLocation tree
      have whole : Disk.perform (store.callAll [.log report]) tree =
          Disk.perform (do
            Disk.ensureParent store.logLocation
            Disk.writeText store.logLocation report.changeLog) tree := by
        change Disk.perform (store.writeLog report >>= fun _ => pure ()) tree = _
        rw [bind_pure_unit]
        rfl
      rw [if_pos rfl, whole, Disk.perform_bind]
      generalize Disk.perform (Disk.ensureParent store.logLocation) tree = outcome at parent
      rcases outcome with ⟨error | _, between⟩
      · exact ⟨fun place _ => parent.same place, fun _ => parent.node?_of_some,
          parent.nested nested⟩
      · have written := Disk.node?_writeText store.logLocation report.changeLog
          (parent.nested nested)
        refine ⟨fun place apart => ?_, fun place directory => ?_, written.2⟩
        · dsimp only
          rw [written.1 place apart]
          exact parent.same place
        · exact Disk.directory_writeText _ _ (parent.node?_of_some directory)
            (parent.nested nested)

/-- A migration of loaded servers writes what is to be written, and tells its
report if nothing stops it. -/
theorem perform_migrate (loaded : store.load tree = .ok servers) :
    let batch := BatchMigration.ofServersBy parser store.settings servers
    let outcome := Disk.perform (store.callAll batch.storeCalls) tree
    (store.migrateBy parser false).perform tree =
      (outcome.1.map fun _ => batch.report, outcome.2) := by
  unfold migrateBy
  rw [Disk.perform_bind, Disk.perform_get]
  dsimp only
  rw [loaded]
  dsimp only
  rw [if_neg (by simp), Disk.perform_bind]
  generalize Disk.perform
    (store.callAll (BatchMigration.ofServersBy parser store.settings servers).storeCalls) tree =
      outcome
  rcases outcome with ⟨error | _, between⟩
  · rfl
  · rfl

/-! ## Originals -/

/-- Every loaded script that is no backup and whose file differs after a run has
its original text stored in the file that the name of its backup tells. -/
def KeepsOriginals (store : Store) (servers : List Server) (before after : FileTree) : Prop :=
  ∀ server ∈ servers, ∀ script ∈ server.scripts,
    Path.isBackup script.name store.settings.backupFolder = false →
    after.at? (store.scriptLocation server.hostname script.name) ≠
      before.at? (store.scriptLocation server.hostname script.name) →
    after.readText (store.scriptLocation server.hostname
      (Path.backupName script.name store.settings.backupFolder)) = .ok script.code

instance (store : Store) (servers : List Server) (before after : FileTree) :
    Decidable (store.KeepsOriginals servers before after) :=
  inferInstanceAs (Decidable (∀ server ∈ servers, ∀ script ∈ server.scripts,
    Path.isBackup script.name store.settings.backupFolder = false →
    after.at? (store.scriptLocation server.hostname script.name) ≠
      before.at? (store.scriptLocation server.hostname script.name) →
    after.readText (store.scriptLocation server.hostname
      (Path.backupName script.name store.settings.backupFolder)) = .ok script.code))

/-- The change log is not written where a script is stored, be it a backup. -/
def LogsApart (parser : JavaScript.ScriptParser) (store : Store) (servers : List Server) : Prop :=
  ∀ server ∈ servers, ∀ script ∈ (server.migrateBy parser store.settings).after.scripts,
    store.logLocation.target? ≠ (store.scriptLocation server.hostname script.name).target?

instance (parser : JavaScript.ScriptParser) (store : Store) (servers : List Server) :
    Decidable (store.LogsApart parser servers) :=
  inferInstanceAs (Decidable (∀ server ∈ servers,
    ∀ script ∈ (server.migrateBy parser store.settings).after.scripts,
      store.logLocation.target? ≠ (store.scriptLocation server.hostname script.name).target?))

/-- What a migration leaves behind at the places of scripts: what its run of saves
leaves there. -/
structure IsMigration (parser : JavaScript.ScriptParser) (store : Store) (before : FileTree)
    (root : Place) (servers : List Server) (saved : Except FileError Unit × FileTree)
    (after : FileTree) : Prop where
  run : IsRun before root (BatchMigration.ofServersBy parser store.settings servers).savings saved
  rooted : after.IsRooted store.root root
  settled : ∀ server ∈ servers,
    ∀ script ∈ (server.migrateBy parser store.settings).after.scripts,
    after.node? (Saving.place root ⟨server.hostname, script⟩) =
        saved.2.node? (Saving.place root ⟨server.hostname, script⟩) ∨
      saved.2.node? (Saving.place root ⟨server.hostname, script⟩) = none ∧
        after.node? (Saving.place root ⟨server.hostname, script⟩) = some .directory

theorem target?_scriptLocation (rooted : tree.IsRooted store.root root) {saving : Saving}
    (named : saving.IsNamed) :
    (store.scriptLocation saving.hostname saving.script.name).target? =
      some (saving.place root) := by
  rw [named.scriptLocation_eq store, Location.target?, if_pos rooted.walked.1,
    Location.leads_append _ (Location.leads_of_walk rooted.walked.2),
    Location.leads_ordinary _ named.ordinary, Saving.place]

/-- The saves of a migration are a run. -/
theorem isRun_savings (parser : JavaScript.ScriptParser) (rooted : tree.IsRooted store.root root)
    (stored : ∀ server ∈ servers, server.IsStored tree root)
    (different : (servers.map Server.hostname).Nodup)
    (folder : IsFolder store.settings.backupFolder) :
    IsRun tree root (BatchMigration.ofServersBy parser store.settings servers).savings
      (Disk.perform
        (store.saveEach (BatchMigration.ofServersBy parser store.settings servers).savings) tree) :=
  isRun_saveEach rooted (fun _ => BatchMigration.isNamed_of_mem_savings stored folder)
    (BatchMigration.pairwise_apart_savings stored folder rooted.nested different)

theorem exists_isMigration {result : Except FileError Report} (proper : tree.IsProper)
    (folder : IsFolder store.settings.backupFolder) (led : tree.place? store.root = .ok root)
    (loaded : store.load tree = .ok servers) (logsApart : store.LogsApart parser servers)
    (migrated : (store.migrateBy parser false).perform tree = (result, after)) :
    ∃ saved, store.IsMigration parser tree root servers saved after ∧
      ∀ report, result = .ok report → saved.1 = .ok () := by
  rcases isStored_of_load proper led loaded with ⟨directory, stored, different⟩
  have rooted : tree.IsRooted store.root root := ⟨led, directory, proper.isNested⟩
  have run := isRun_savings parser rooted stored different folder
  have rootedBetween := rooted.of_kept run.nested run.directories
  have whole := (perform_migrate loaded).symm.trans migrated
  rw [callAll_storeCalls, Disk.perform_bind] at whole
  generalize Disk.perform
    (store.saveEach (BatchMigration.ofServersBy parser store.settings servers).savings) tree =
      outcome
    at run rootedBetween whole
  rcases outcome with ⟨error | _, between⟩
  · cases whole
    exact ⟨_, ⟨run, rootedBetween, fun _ _ _ _ => Or.inl rfl⟩, fun report ok => by cases ok⟩
  · have logged := callAll_log store
      (BatchMigration.ofServersBy parser store.settings servers).report
      (BatchMigration.ofServersBy parser store.settings servers).report.isEventful run.nested
    have left := congrArg Prod.snd whole
    dsimp only at left logged
    rw [left] at logged
    refine ⟨_, ⟨run, rootedBetween.of_kept logged.2.2 logged.2.1, ?_⟩, fun _ _ => rfl⟩
    intro server member script scriptMember
    rcases folder with ⟨segments, filled, named, folderEq⟩
    have isNamed := (stored server member).isNamed filled named folderEq scriptMember
    refine logged.1 _ fun same => logsApart server member script scriptMember ?_
    rw [same]
    exact (target?_scriptLocation rooted isNamed).symm

namespace IsMigration

variable {saved : Except FileError Unit × FileTree} {server : Server} {script : Script}
  {code : Text}

/-- A file at the place of a script stays as the saves leave it. -/
theorem node?_eq_of_file (migration : store.IsMigration parser tree root servers saved after)
    (member : server ∈ servers)
    (scriptMember : script ∈ (server.migrateBy parser store.settings).after.scripts) {node : Node}
    (present : saved.2.node? (Saving.place root ⟨server.hostname, script⟩) = some node) :
    after.node? (Saving.place root ⟨server.hostname, script⟩) = some node := by
  rcases migration.settled server member script scriptMember with kept | ⟨none, _⟩
  · rw [kept, present]
  · rw [present] at none
    cases none

/-- A text at the place of a script is there exactly if the saves leave it there. -/
theorem text?_eq_iff (migration : store.IsMigration parser tree root servers saved after)
    (member : server ∈ servers)
    (scriptMember : script ∈ (server.migrateBy parser store.settings).after.scripts) :
    after.text? (Saving.place root ⟨server.hostname, script⟩) = some code ↔
      saved.2.text? (Saving.place root ⟨server.hostname, script⟩) = some code := by
  rcases migration.settled server member script scriptMember with kept | ⟨none, directory⟩
  · rw [text?_congr kept]
  · simp [text?, none, directory]

end IsMigration

/-! ## Scripts that change, and their backups -/

/-- A script without text does not change, if no import is found in it. -/
theorem code_of_reviseBy_nil {known : Known} {importer : Text} {revision : Revision}
    (empty : ∀ sites, surveyBy parser [] = .ok sites → sites = [])
    (revised : reviseBy parser known importer [] = .ok revision) : revision.code = [] := by
  cases surveyed : surveyBy parser [] with
  | error error =>
      rw [reviseBy, surveyed] at revised
      cases revised
  | ok sites =>
      rw [reviseBy, surveyed, empty sites surveyed] at revised
      cases revised
      rfl

section Stored

variable {saved : Except FileError Unit × FileTree} {server : Server} {script : Script}
  {judgement : Judgement} {revision : Revision}

/-- Where a loaded script is stored, its text is. -/
theorem text?_of_stored (stored : server.IsStored tree root) (member : script ∈ server.scripts) :
    tree.text? (Saving.place root ⟨server.hostname, script⟩) = some script.code := by
  rcases stored.scripts script member with ⟨names, there⟩
  have text := there.text
  rwa [Saving.place, Saving.names_of_key there.filled there.named there.key_eq,
    ← List.singleton_append, ← List.append_assoc]

theorem isNamed_of_stored (stored : server.IsStored tree root) (member : script ∈ server.scripts) :
    (Saving.mk server.hostname script).IsNamed := by
  rcases stored.scripts script member with ⟨names, there⟩
  exact Saving.isNamed_of_key stored.named there.filled there.named there.key_eq

theorem isNamed_backup (stored : server.IsStored tree root) (member : script ∈ server.scripts)
    {settings : Settings} (folder : IsFolder settings.backupFolder) :
    (Saving.mk server.hostname (script.backup settings server.hostname)).IsNamed := by
  rcases stored.scripts script member with ⟨names, there⟩
  rcases folder with ⟨segments, filled, named, whole⟩
  refine Saving.isNamed_of_key stored.named (by simp [filled])
    (fun name nameMember => (List.mem_append.mp nameMember).elim (named name) (there.named name)) ?_
  rw [Server.key_backup, there.key_eq, whole, Text.join_append filled there.filled]
  simp

theorem at?_scriptLocation (rooted : tree.IsRooted store.root root) {saving : Saving}
    (named : saving.IsNamed) :
    tree.at? (store.scriptLocation saving.hostname saving.script.name) =
      tree.node? (saving.place root) := by
  rw [named.scriptLocation_eq store, rooted.at?_eq named.ordinary, Saving.place]

theorem readText_scriptLocation_iff (rooted : tree.IsRooted store.root root) {saving : Saving}
    (named : saving.IsNamed) {code : Text} :
    tree.readText (store.scriptLocation saving.hostname saving.script.name) = .ok code ↔
      tree.text? (saving.place root) = some code := by
  rw [named.scriptLocation_eq store, rooted.readText_eq_ok_iff named.ordinary, Saving.place]

/-- The file of a script stays if the run does not come to it. -/
theorem node?_eq_of_missed (migration : store.IsMigration parser tree root servers saved after)
    (stored : server.IsStored tree root) (serverMember : server ∈ servers)
    (member : judgement ∈ (server.migrateBy parser store.settings).judgements)
    (noBackup : Path.isBackup judgement.script.name store.settings.backupFolder = false)
    (missed : ¬ tree.Reaches root (Saving.place root ⟨server.hostname, judgement.script⟩)
      (BatchMigration.ofServersBy parser store.settings servers).savings) :
    after.node? (Saving.place root ⟨server.hostname, judgement.script⟩) =
      tree.node? (Saving.place root ⟨server.hostname, judgement.script⟩) := by
  have afterMember := Server.after_mem_after stored.distinct member noBackup
  have placeEq : Saving.place root ⟨server.hostname, judgement.script⟩ =
      Saving.place root ⟨server.hostname, judgement.after⟩ :=
    Saving.place_congr root (Server.key_after judgement).symm
  have present := text?_of_stored stored (Server.mem_judgements member).1
  rcases text?_eq_some_iff.mp present with ⟨bytes, file, _⟩
  rcases migration.run.missed _ missed with kept | ⟨none, _⟩
  · rw [placeEq] at file kept ⊢
    rw [migration.node?_eq_of_file serverMember afterMember (kept.trans file), file]
  · rw [file] at none
    cases none

/-- The file of a script that is to change differs exactly if the run comes to
it. -/
theorem node?_ne_iff (migration : store.IsMigration parser tree root servers saved after)
    (empty : ∀ sites, surveyBy parser [] = .ok sites → sites = [])
    (nested : tree.IsNested) (stored : server.IsStored tree root)
    (serverMember : server ∈ servers)
    (member : judgement ∈ (server.migrateBy parser store.settings).judgements)
    (changed : judgement.verdict? = some (.changed revision)) :
    after.node? (Saving.place root ⟨server.hostname, judgement.script⟩) ≠
        tree.node? (Saving.place root ⟨server.hostname, judgement.script⟩) ↔
      tree.Reaches root (Saving.place root ⟨server.hostname, judgement.script⟩)
        (BatchMigration.ofServersBy parser store.settings servers).savings := by
  rcases Server.changed_of_verdict? member changed with ⟨noBackup, revised, differs⟩
  have afterMember := Server.after_mem_after stored.distinct member noBackup
  have savingMember : Saving.mk server.hostname judgement.after ∈
      (BatchMigration.ofServersBy parser store.settings servers).savings :=
    BatchMigration.mem_savings_iff.mpr
      ⟨server, serverMember, Server.isChanged_of_verdict? member changed, rfl, afterMember⟩
  have present := text?_of_stored stored (Server.mem_judgements member).1
  have placeEq : Saving.place root ⟨server.hostname, judgement.script⟩ =
      Saving.place root ⟨server.hostname, judgement.after⟩ :=
    Saving.place_congr root (Server.key_after judgement).symm
  have afterCode : judgement.after.code = revision.code := by
    rw [Judgement.after, changed]
  have filled : judgement.script.code ≠ [] := by
    intro none
    rw [none] at revised differs
    exact differs (code_of_reviseBy_nil empty revised)
  rw [placeEq] at present ⊢
  have runs := migration.run.node?_eq_iff nested savingMember present filled
    (by rw [afterCode]; exact differs)
  rcases text?_eq_some_iff.mp present with ⟨bytes, file, _⟩
  rcases migration.settled server serverMember _ afterMember with kept | ⟨none, directory⟩
  · rw [kept, ne_eq, runs, not_not]
  · rw [none, file] at runs
    rw [directory, file]
    exact iff_of_true (by simp) (by simpa using runs)

/-- The file of a script that is not to change stays, if the script is no backup. -/
theorem node?_eq_of_unchanged (migration : store.IsMigration parser tree root servers saved after)
    (different : (servers.map Server.hostname).Nodup) (stored : server.IsStored tree root)
    (serverMember : server ∈ servers)
    (member : judgement ∈ (server.migrateBy parser store.settings).judgements)
    (noBackup : Path.isBackup judgement.script.name store.settings.backupFolder = false)
    (unchanged : judgement.after = judgement.script) :
    after.node? (Saving.place root ⟨server.hostname, judgement.script⟩) =
      tree.node? (Saving.place root ⟨server.hostname, judgement.script⟩) := by
  by_cases reached : tree.Reaches root (Saving.place root ⟨server.hostname, judgement.script⟩)
      (BatchMigration.ofServersBy parser store.settings servers).savings
  · have afterMember := Server.after_mem_after stored.distinct member noBackup
    rw [unchanged] at afterMember
    have present := text?_of_stored stored (Server.mem_judgements member).1
    rcases text?_eq_some_iff.mp present with ⟨bytes, file, _⟩
    rcases exists_of_reaches reached with ⟨saving, savingMember, there⟩
    rcases BatchMigration.mem_savings_iff.mp savingMember with
      ⟨other, otherMember, isChanged, hostname, _⟩
    have sameServer : other = server := List.inj_on_of_nodup_map different otherMember
      serverMember (hostname.symm.trans (Saving.hostname_of_place there))
    subst sameServer
    have same := migration.run.node?_of_held
      (BatchMigration.mem_savings_iff.mpr ⟨other, otherMember, isChanged, rfl, afterMember⟩)
      present
    rw [migration.node?_eq_of_file serverMember afterMember (same.trans file), file]
  · exact node?_eq_of_missed migration stored serverMember member noBackup reached

/-- The backup of a script that is to change is among what is saved. -/
theorem exists_backup_mem_savings (stored : server.IsStored tree root)
    (serverMember : server ∈ servers)
    (member : judgement ∈ (server.migrateBy parser store.settings).judgements)
    (changed : judgement.verdict? = some (.changed revision)) :
    ∃ backup ∈ (server.migrateBy parser store.settings).after.scripts,
      Saving.mk server.hostname backup ∈
          (BatchMigration.ofServersBy parser store.settings servers).savings ∧
        Saving.place root
            ⟨server.hostname, judgement.script.backup store.settings server.hostname⟩ =
          Saving.place root ⟨server.hostname, backup⟩ ∧
        backup.code = judgement.script.code := by
  rcases Server.exists_backup_mem_after stored.distinct member changed with
    ⟨backup, backupMember, key, code⟩
  exact ⟨backup, backupMember, BatchMigration.mem_savings_iff.mpr
      ⟨server, serverMember, Server.isChanged_of_verdict? member changed, rfl, backupMember⟩,
    Saving.place_congr root ((Server.key_backup _ _ _).trans key.symm), code⟩

/-- The original of a script that is to change is at the place of its backup
exactly if the run leaves it there. -/
theorem text?_backup_iff (migration : store.IsMigration parser tree root servers saved after)
    (stored : server.IsStored tree root) (serverMember : server ∈ servers)
    (member : judgement ∈ (server.migrateBy parser store.settings).judgements)
    (changed : judgement.verdict? = some (.changed revision)) :
    after.text? (Saving.place root
        ⟨server.hostname, judgement.script.backup store.settings server.hostname⟩) =
          some judgement.script.code ↔
      tree.Gets root (BatchMigration.ofServersBy parser store.settings servers).savings
        ⟨server.hostname, judgement.script.backup store.settings server.hostname⟩ := by
  rcases exists_backup_mem_savings stored serverMember member changed with
    ⟨backup, backupMember, savingMember, placeEq, code⟩
  have present := text?_of_stored stored (Server.mem_judgements member).1
  rcases text?_eq_some_iff.mp present with ⟨bytes, _, decoded⟩
  have runs := migration.run.text?_eq_iff savingMember (code ▸ Utf8.isScalar_of_decode? decoded)
  rw [placeEq, migration.text?_eq_iff serverMember backupMember, ← code, runs, Gets, Gets, placeEq]
  change _ ↔ tree.text? _ = some judgement.script.code ∨
    _ ∧ tree.Takes _ judgement.script.code
  rw [code]

/-- What a run tells of the location of a script it tells of its place. -/
theorem at?_ne_iff (migration : store.IsMigration parser tree root servers saved after)
    (rooted : tree.IsRooted store.root root) (stored : server.IsStored tree root)
    (member : script ∈ server.scripts) :
    after.at? (store.scriptLocation server.hostname script.name) ≠
        tree.at? (store.scriptLocation server.hostname script.name) ↔
      after.node? (Saving.place root ⟨server.hostname, script⟩) ≠
        tree.node? (Saving.place root ⟨server.hostname, script⟩) := by
  have named := isNamed_of_stored stored member
  rw [at?_scriptLocation migration.rooted named, at?_scriptLocation rooted named]

theorem readText_backup_iff (migration : store.IsMigration parser tree root servers saved after)
    (folder : IsFolder store.settings.backupFolder) (stored : server.IsStored tree root)
    (member : script ∈ server.scripts) :
    after.readText (store.scriptLocation server.hostname
        (Path.backupName script.name store.settings.backupFolder)) = .ok script.code ↔
      after.text? (Saving.place root
        ⟨server.hostname, script.backup store.settings server.hostname⟩) = some script.code :=
  readText_scriptLocation_iff migration.rooted (isNamed_backup stored member folder)

/-- Originals are kept if the run of saves leaves the backup of each script that it
comes to. -/
theorem keepsOriginals_of_gets (migration : store.IsMigration parser tree root servers saved after)
    (folder : IsFolder store.settings.backupFolder) (rooted : tree.IsRooted store.root root)
    (stored : ∀ server ∈ servers, server.IsStored tree root)
    (different : (servers.map Server.hostname).Nodup)
    (gets : ∀ server ∈ servers,
      ∀ judgement ∈ (server.migrateBy parser store.settings).judgements,
      ∀ revision, judgement.verdict? = some (.changed revision) →
        tree.Reaches root (Saving.place root ⟨server.hostname, judgement.script⟩)
          (BatchMigration.ofServersBy parser store.settings servers).savings →
        tree.Gets root (BatchMigration.ofServersBy parser store.settings servers).savings
          ⟨server.hostname, judgement.script.backup store.settings server.hostname⟩) :
    store.KeepsOriginals servers tree after := by
  intro server serverMember script scriptMember noBackup changes
  have isStored := stored server serverMember
  have member := Server.judge_mem_judgements parser store.settings scriptMember
  have changesHere := (at?_ne_iff migration rooted isStored scriptMember).mp changes
  rcases Server.after_eq_or_changed (script.judgeBy parser store.settings server.names) with
    unchanged | ⟨revision, changed, _⟩
  · exact absurd (node?_eq_of_unchanged migration different isStored serverMember member noBackup
      unchanged) changesHere
  · have reached := not_not.mp fun missed => changesHere
      (node?_eq_of_missed migration isStored serverMember member noBackup missed)
    exact (readText_backup_iff migration folder isStored scriptMember).mpr
      ((text?_backup_iff migration isStored serverMember member changed).mpr
        (gets server serverMember _ member revision changed reached))

end Stored

/-- A migration that ends with a report has kept the originals of all scripts whose
files it changed. -/
theorem keepsOriginals_of_ok {report : Report} (proper : tree.IsProper)
    (folder : IsFolder store.settings.backupFolder) (led : tree.place? store.root = .ok root)
    (loaded : store.load tree = .ok servers) (logsApart : store.LogsApart parser servers)
    (migrated : (store.migrateBy parser false).perform tree = (.ok report, after)) :
    store.KeepsOriginals servers tree after := by
  rcases exists_isMigration proper folder led loaded logsApart migrated with
    ⟨saved, migration, ok⟩
  rcases isStored_of_load proper led loaded with ⟨directory, stored, different⟩
  have rooted : tree.IsRooted store.root root := ⟨led, directory, proper.isNested⟩
  refine keepsOriginals_of_gets migration folder rooted stored different ?_
  intro server serverMember judgement member revision changed _
  have takes := migration.run.ok_iff.mp (ok report rfl)
  rcases exists_backup_mem_savings (stored server serverMember) serverMember member changed with
    ⟨backup, _, backupMember, placeEq, code⟩
  refine Or.inr ⟨?_, ?_⟩
  · rw [placeEq]
    exact reaches_of_takes takes backupMember
  · have taken := takes _ backupMember
    rw [placeEq]
    change tree.Takes _ judgement.script.code
    rwa [← code]

/-- A migration of a workspace keeps the originals of all scripts whose files it
changes, wherever it stops, exactly if it can: for each script that is to change
and that the run of saves comes to, the run also comes to its backup and can save
it, or the original is in that file already.  The parser finds no import in a text
without characters. -/
theorem migrate_keepsOriginals_iff {result : Except FileError Report}
    (empty : ∀ sites, surveyBy parser [] = .ok sites → sites = []) (proper : tree.IsProper)
    (folder : IsFolder store.settings.backupFolder) (led : tree.place? store.root = .ok root)
    (loaded : store.load tree = .ok servers) (logsApart : store.LogsApart parser servers)
    (migrated : (store.migrateBy parser false).perform tree = (result, after)) :
    let savings := (BatchMigration.ofServersBy parser store.settings servers).savings
    store.KeepsOriginals servers tree after ↔
      ∀ server ∈ servers, ∀ judgement ∈ (server.migrateBy parser store.settings).judgements,
        ∀ revision, judgement.verdict? = some (.changed revision) →
          tree.Reaches root (Saving.place root ⟨server.hostname, judgement.script⟩) savings →
          tree.Gets root savings
            ⟨server.hostname, judgement.script.backup store.settings server.hostname⟩ := by
  intro savings
  rcases exists_isMigration proper folder led loaded logsApart migrated with
    ⟨saved, migration, _⟩
  rcases isStored_of_load proper led loaded with ⟨directory, stored, different⟩
  have rooted : tree.IsRooted store.root root := ⟨led, directory, proper.isNested⟩
  constructor
  · intro keeps server serverMember judgement member revision changed reached
    have isStored := stored server serverMember
    have scriptMember := (Server.mem_judgements member).1
    have changes := (node?_ne_iff migration empty proper.isNested isStored serverMember member
      changed).mpr reached
    have kept := keeps server serverMember judgement.script scriptMember
      (Server.changed_of_verdict? member changed).1
      ((at?_ne_iff migration rooted isStored scriptMember).mpr changes)
    exact (text?_backup_iff migration isStored serverMember member changed).mp
      ((readText_backup_iff migration folder isStored scriptMember).mp kept)
  · intro gets
    exact keepsOriginals_of_gets migration folder rooted stored different gets

/-- In a workspace where nothing is in the way of the backup, the original of a
script that changes is kept. -/
theorem migrate_keepsOriginals_iff_free :
    let store : Store := ⟨Location.ofText (text "."), Settings.default⟩
    let tree : FileTree := ⟨[([text "h"], .directory),
      ([text "h", text "a.js"], .file (text "import './b.js';\n")),
      ([text "h", text "b.js"], .file [])]⟩
    let server : Server := ⟨text "h",
      [⟨text "a.js", text "import './b.js';\n", text "h"⟩, ⟨text "b.js", [], text "h"⟩]⟩
    let outcome := (store.migrate false).perform tree
    store.load tree = .ok [server] ∧
      outcome.2.readText (Location.ofText (text "h/a.js")) ≠ .ok (text "import './b.js';\n") ∧
      store.KeepsOriginals [server] tree outcome.2 := by
  intro store tree server outcome
  have loaded : store.load tree = .ok [server] := by decide +kernel
  have proper : tree.IsProper := by decide +kernel
  have folder : IsFolder store.settings.backupFolder :=
    ⟨[text "BACKUP"], by simp, by decide +kernel, by decide +kernel⟩
  have led : tree.place? store.root = .ok [] := by decide +kernel
  have logsApart : store.LogsApart JavaScript.parse? [server] := by decide +kernel
  have performed : (store.migrate false).perform tree = (outcome.1, outcome.2) :=
    (Prod.eta outcome).symm
  have nothing : surveyBy JavaScript.parse? [] = .ok [] := by decide +kernel
  have empty : ∀ sites, surveyBy JavaScript.parse? [] = .ok sites → sites = [] :=
    fun sites found => Except.ok.inj (found.symm.trans nothing)
  have gets : ∀ judgement ∈ (server.migrate store.settings).judgements,
      (judgement.backup? store.settings server.hostname).isSome = true →
        tree.Gets [] (BatchMigration.ofServers store.settings [server]).savings
          ⟨server.hostname, judgement.script.backup store.settings server.hostname⟩ := by
    decide +kernel
  refine ⟨loaded, by decide +kernel,
    (migrate_keepsOriginals_iff empty proper folder led loaded logsApart performed).mpr ?_⟩
  intro owner ownerMember judgement member revision changed _
  cases List.mem_singleton.mp ownerMember
  exact gets judgement member (by rw [Judgement.backup?, changed]; rfl)

/-- A file that stands where the backup folder should be stops a migration when a
script has been changed and its original is nowhere. -/
theorem not_migrate_keepsOriginals :
    let store : Store := ⟨Location.ofText (text "."), Settings.default⟩
    let tree : FileTree := ⟨[([text "h"], .directory),
      ([text "h", text "BACKUP"], .file (text "x")),
      ([text "h", text "a.js"], .file (text "import './b.js';\n")),
      ([text "h", text "b.js"], .file [])]⟩
    let servers : List Server := [⟨text "h",
      [⟨text "a.js", text "import './b.js';\n", text "h"⟩, ⟨text "b.js", [], text "h"⟩]⟩]
    tree.IsProper ∧ store.load tree = .ok servers ∧ store.LogsApart JavaScript.parse? servers ∧
      ((store.migrate false).perform tree).1 = .error .occupied ∧
      ¬ store.KeepsOriginals servers tree ((store.migrate false).perform tree).2 := by
  decide +kernel

end Store

end Respecify
