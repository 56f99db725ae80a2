import Respecify.Proofs.Workspace.Course

/-!
# What a migration does to a workspace

A migration saves whole servers, but the files that it changes can be told from its
report: those of the scripts that were changed, those of their backups, and the change
log if there is something to tell.  A run that only reports tells the same report.
Backups and a change log whose locations are absolute are outside of the tree: a run that
comes to one of them stops there.
-/

namespace Respecify

/-! ## Entries of scripts that change -/

namespace Server

variable {parser : JavaScript.ScriptParser} {settings : Settings} {server : Server}
  {script : Script}

/-- A script that changes has an entry that says so. -/
theorem exists_entry_of_mem_changing (member : script ∈ server.changing parser settings) :
    ∃ entry ∈ (server.migrateBy parser settings).entries, entry.status = .changed ∧
      entry.hostname = server.hostname ∧ entry.name = script.name := by
  rcases exists_revision_of_mem_changing member with
    ⟨scriptMember, migrated, revision, revised, _, differs, _⟩
  rcases exists_entry_of_isMigrated scriptMember migrated with ⟨entry, entryMember, reported⟩
  refine ⟨entry, entryMember, ?_⟩
  cases reported with
  | failed refused =>
      rw [revised] at refused
      cases refused
  | unchanged revisedToo same =>
      cases revised.symm.trans revisedToo
      exact absurd same differs
  | changed => exact ⟨rfl, rfl, rfl⟩

end Server

namespace BatchMigration

variable {parser : JavaScript.ScriptParser} {settings : Settings} {servers : List Server}

/-- Where nothing is to tell, there is nothing to save. -/
theorem savings_eq_nil_of_uneventful
    (uneventful : (ofServersBy parser settings servers).report.isEventful = false) :
    (ofServersBy parser settings servers).savings = [] := by
  have unchanged : (ofServersBy parser settings servers).filter ServerMigration.isChanged = [] := by
    refine List.filter_eq_nil_iff.mpr fun migration member changed => ?_
    rcases List.any_eq_true.mp changed with ⟨entry, entryMember, isChanged⟩
    have quiet := List.any_eq_false.mp uneventful entry
      (List.mem_flatMap.mpr ⟨migration, member, entryMember⟩)
    rw [beq_iff_eq] at isChanged
    rw [isChanged] at quiet
    exact quiet rfl
  rw [savings, unchanged, List.flatMap_nil]

end BatchMigration

namespace Store

open FileTree

variable {parser : JavaScript.ScriptParser} {store : Store} {tree between after : FileTree}
  {root : Place} {servers : List Server} {server : Server} {script : Script} {report : Report}
  {place : Place}

/-! ## The files that a report tells of -/

/-- The report tells of the file at the place: it is that of a script that was changed, or
of its backup, or the change log. -/
def IsTold (store : Store) (report : Report) (place : Place) : Prop :=
  (∃ entry ∈ report.entries, entry.status = .changed ∧
    ((store.scriptLocation entry.hostname entry.name).target? = some place ∨
      (store.scriptLocation entry.hostname
        (Path.backupName entry.name store.settings.backupFolder)).target? = some place)) ∨
    report.isEventful = true ∧ store.logLocation.target? = some place

/-- What a migration with that report does to a workspace with those servers. -/
structure IsEffect (parser : JavaScript.ScriptParser) (store : Store) (servers : List Server)
    (before : FileTree) (report : Report) (after : FileTree) : Prop where
  /-- The report tells of each script to migrate that a revision gives another text. -/
  reported : ∀ server ∈ servers, ∀ script ∈ server.changing parser store.settings,
    ∃ entry ∈ report.entries, entry.status = .changed ∧
      entry.hostname = server.hostname ∧ entry.name = script.name
  /-- A script of which the report says that it was changed was loaded.  Its file holds
  what a revision makes of its text, and its backup the text that it had. -/
  changed : ∀ entry ∈ report.entries, entry.status = .changed →
    ∃ server ∈ servers, ∃ script ∈ server.scripts,
      entry.hostname = server.hostname ∧ entry.name = script.name ∧
      ∃ code, revisedTextBy parser server.names script.name script.code = .ok code ∧
        code ≠ script.code ∧
        after.readText (store.scriptLocation entry.hostname entry.name) = .ok code ∧
        after.readText (store.scriptLocation entry.hostname
          (Path.backupName entry.name store.settings.backupFolder)) = .ok script.code
  /-- The change log is written if some script was changed or could not be migrated. -/
  logged : report.isEventful = true → after.readText store.logLocation = .ok report.changeLog
  /-- If not, nothing is written at all. -/
  silent : report.isEventful = false → after = before
  /-- All other files keep their bytes, and none comes up. -/
  kept : ∀ place, ¬ store.IsTold report place → ∀ bytes,
    after.node? place = some (.file bytes) ↔ before.node? place = some (.file bytes)

/-- The report has an entry for each script that changes. -/
theorem exists_entry_of_changing {settings : Settings} (member : server ∈ servers)
    (changes : script ∈ server.changing parser settings) :
    ∃ entry ∈ (BatchMigration.ofServersBy parser settings servers).report.entries,
      entry.status = .changed ∧ entry.hostname = server.hostname ∧ entry.name = script.name := by
  rcases Server.exists_entry_of_mem_changing changes with ⟨entry, entryMember, told⟩
  exact ⟨entry, List.mem_flatMap.mpr ⟨_, List.mem_map_of_mem member, entryMember⟩, told⟩

/-- The report tells of the files of each script that changes. -/
theorem isTold_of_changing (member : server ∈ servers)
    (changes : script ∈ server.changing parser store.settings)
    (there : (store.scriptLocation server.hostname script.name).target? = some place ∨
      (store.scriptLocation server.hostname
        (Path.backupName script.name store.settings.backupFolder)).target? = some place) :
    store.IsTold (BatchMigration.ofServersBy parser store.settings servers).report place := by
  rcases exists_entry_of_changing member changes with
    ⟨entry, entryMember, isChanged, hostname, name⟩
  refine Or.inl ⟨entry, entryMember, isChanged, ?_⟩
  rwa [hostname, name]

/-! ## Runs and change logs -/

/-- Where the report tells of no file, the saves of a migration leave what there is, or
make a directory. -/
theorem node?_saveEach_of_not_isTold (rooted : tree.IsRooted store.root root)
    (stored : ∀ server ∈ servers, server.IsStored tree root)
    (saved : Disk.perform (store.saveEach
      (BatchMigration.ofServersBy parser store.settings servers).savings) tree = (.ok (), between))
    (run : IsRun tree root (BatchMigration.ofServersBy parser store.settings servers).savings
      (.ok (), between))
    (untold : ¬ store.IsTold (BatchMigration.ofServersBy parser store.settings servers).report
      place) :
    between.node? place = tree.node? place ∨
      tree.node? place = none ∧ between.node? place = some .directory := by
  have evolves := evolves_saveEach store
    (BatchMigration.ofServersBy parser store.settings servers).savings tree
  rw [saved] at evolves
  rcases evolves.same place with same | added | ⟨⟨saving, member, there⟩, _⟩
  · exact Or.inl same
  · exact Or.inr added
  · rcases BatchMigration.mem_savings_iff.mp member with
      ⟨server, serverMember, _, hostname, scriptMember⟩
    rcases saving with ⟨_, script⟩
    cases hostname
    cases Server.origin_of_mem_after scriptMember with
    | @kept old oldMember key code =>
        -- The script is saved with the text that its file has.
        have isStored := stored server serverMember
        have held := text?_of_stored isStored oldMember
        have target := target?_scriptLocation rooted (isNamed_of_stored isStored oldMember)
        rw [locationOf, scriptLocation_congr store server.hostname key, target,
          Option.some.injEq] at there
        rw [← Saving.place_congr root key, ← code] at held
        rw [← Saving.place_congr root key] at there
        rw [← there]
        exact Or.inl (run.node?_of_held member held)
    | converted changes key _ =>
        rw [locationOf, scriptLocation_congr store server.hostname key] at there
        exact absurd (isTold_of_changing serverMember changes (Or.inl there)) untold
    | backup changes key _ =>
        rw [locationOf, scriptLocation_congr store server.hostname key] at there
        exact absurd (isTold_of_changing serverMember changes (Or.inr there)) untold

/-- A file of which the report does not tell is there behind a migration exactly if it was
there before. -/
theorem node?_eq_some_file_iff_of_not_isTold {bytes : List Nat}
    (rooted : tree.IsRooted store.root root)
    (stored : ∀ server ∈ servers, server.IsStored tree root)
    (saved : Disk.perform (store.saveEach
      (BatchMigration.ofServersBy parser store.settings servers).savings) tree = (.ok (), between))
    (run : IsRun tree root (BatchMigration.ofServersBy parser store.settings servers).savings
      (.ok (), between))
    (concluded : Disk.perform (store.conclude
      (BatchMigration.ofServersBy parser store.settings servers).report) between = (.ok (), after))
    (untold : ¬ store.IsTold (BatchMigration.ofServersBy parser store.settings servers).report
      place) :
    after.node? place = some (.file bytes) ↔ tree.node? place = some (.file bytes) := by
  have first := node?_saveEach_of_not_isTold rooted stored saved run untold
  have evolves := evolves_conclude store
    (BatchMigration.ofServersBy parser store.settings servers).report between
  rw [concluded] at evolves
  have second : after.node? place = between.node? place ∨
      between.node? place = none ∧ after.node? place = some .directory :=
    (evolves.same place).imp_right fun others => others.resolve_right fun written =>
      untold (Or.inr written.1)
  rcases second with same | ⟨none, directory⟩
  · rw [same]
    rcases first with same | ⟨none, directory⟩
    · rw [same]
    · simp [none, directory]
  · rcases first with same | ⟨_, present⟩
    · rw [← same, none, directory]
      simp
    · rw [none] at present
      cases present

/-- Behind a migration, the file of each script that changes holds the text of its
revision, and that of its backup holds the text that it had. -/
theorem readText_of_changing (stored : ∀ server ∈ servers, server.IsStored tree root)
    (folder : IsFolder store.settings.backupFolder)
    (migration : store.IsMigration parser tree root servers (.ok (), between) after)
    (member : server ∈ servers)
    (changes : script ∈ server.changing parser store.settings) :
    after.readText (store.scriptLocation server.hostname script.name) =
        .ok (script.convertBy parser server.names) ∧
      after.readText (store.scriptLocation server.hostname
        (Path.backupName script.name store.settings.backupFolder)) = .ok script.code := by
  have isStored := stored server member
  have scriptMember := (Server.exists_revision_of_mem_changing changes).1
  -- What is saved with a key can be read where a script of that key is stored.
  have read : ∀ other ∈ (server.migrateBy parser store.settings).after.scripts,
      ∀ here : Script,
      other.key = here.key → (Saving.mk server.hostname here).IsNamed →
      after.readText (store.scriptLocation server.hostname here.name) = .ok other.code := by
    intro other otherMember here key named
    have saving : Saving.mk server.hostname other ∈
        (BatchMigration.ofServersBy parser store.settings servers).savings :=
      BatchMigration.mem_savings_iff.mpr
        ⟨server, member, Server.isChanged_of_mem_changing changes, rfl, otherMember⟩
    refine (readText_scriptLocation_iff migration.rooted named).mpr ?_
    rw [Saving.place_congr root key.symm]
    exact (migration.text?_eq_iff member otherMember).mpr (migration.run.text?_of_ok saving)
  rcases Server.exists_converted_mem_after isStored.distinct changes with
    ⟨converted, convertedMember, key, code⟩
  rcases Server.exists_original_mem_after isStored.distinct changes with
    ⟨original, originalMember, keyToo, codeToo⟩
  have first := read converted convertedMember script key
    (isNamed_of_stored isStored scriptMember)
  have second := read original originalMember (script.backup store.settings server.hostname)
    keyToo (isNamed_backup isStored scriptMember folder)
  rw [code] at first
  rw [codeToo] at second
  exact ⟨first, second⟩

/-- A migration that ends with its report has changed the files of which it tells, and no
others: each script that was changed holds the text of its revision and its backup the text
that it had, and the change log is written exactly if there is something to tell.  A run
that only reports tells the same and changes nothing. -/
theorem migrate_isEffect (proper : tree.IsProper) (folder : IsFolder store.settings.backupFolder)
    (loaded : store.load tree = .ok servers) (logsApart : store.LogsApart parser servers)
    (migrated : (store.migrateBy parser false).perform tree = (.ok report, after)) :
    store.IsEffect parser servers tree report after ∧
      (store.migrateBy parser true).perform tree = (.ok report, tree) := by
  rcases exists_isRooted_of_load proper loaded with ⟨root, rooted⟩
  rcases isStored_of_load proper rooted.place loaded with ⟨_, stored, different⟩
  rcases course_of_migrate_ok loaded migrated with ⟨rfl, between, saved, concluded⟩
  have run := isRun_savings parser rooted stored different folder
  rw [saved] at run
  refine ⟨⟨?_, ?_, ?_, ?_, ?_⟩, perform_migrate_dry loaded⟩
  · exact fun server member script => exists_entry_of_changing member
  · intro entry entryMember isChanged
    rcases List.mem_flatMap.mp entryMember with ⟨migration, migrationMember, told⟩
    rcases List.mem_map.mp migrationMember with ⟨server, member, rfl⟩
    rcases Server.exists_changing_of_entry told isChanged with ⟨script, changes, hostname, name⟩
    rcases Server.exists_revision_of_mem_changing changes with
      ⟨scriptMember, _, revision, revised, code, differs, _⟩
    rcases exists_isMigration proper folder rooted.place loaded logsApart migrated with
      ⟨⟨_, saves⟩, migration, ok⟩
    cases ok _ rfl
    have read := readText_of_changing stored folder migration member changes
    rw [code] at read
    rw [hostname, name]
    refine ⟨server, member, script, scriptMember, rfl, rfl, revision.code, ?_, differs, read⟩
    rw [revisedTextBy, revised]
    rfl
  · exact fun eventful => readText_of_conclude eventful concluded
  · intro uneventful
    rw [BatchMigration.savings_eq_nil_of_uneventful uneventful] at saved
    rw [conclude, uneventful] at concluded
    cases saved
    cases concluded
    rfl
  · exact fun place untold bytes =>
      node?_eq_some_file_iff_of_not_isTold rooted stored saved run concluded untold

/-- In a workspace with a script to change, a hidden directory and a file that is no script,
the report tells of the script, its backup and the change log. -/
theorem migrate_isEffect_nested :
    let store : Store := ⟨Location.ofText (text "."), Settings.default⟩
    let tree : FileTree := ⟨[([text ".git"], .directory),
      ([text ".git", text "a.js"], .file (text "import './b.js';\n")), ([text "h"], .directory),
      ([text "h", text "a.js"], .file (text "import './b.js';\n")),
      ([text "h", text "b.js"], .file []), ([text "h", text "c.txt"], .file [0xFF])]⟩
    let servers : List Server := [⟨text "h",
      [⟨text "a.js", text "import './b.js';\n", text "h"⟩, ⟨text "b.js", [], text "h"⟩]⟩]
    let outcome := (store.migrate false).perform tree
    ∃ report, outcome.1 = .ok report ∧ report.count .changed = 1 ∧
      store.IsEffect JavaScript.parse? servers tree report outcome.2 ∧
      (store.migrate true).perform tree = (.ok report, tree) := by
  intro store tree servers outcome
  have loaded : store.load tree = .ok servers := by decide +kernel
  have proper : tree.IsProper := by decide +kernel
  have folder : IsFolder store.settings.backupFolder :=
    ⟨[text "BACKUP"], by simp, by decide +kernel, by decide +kernel⟩
  have logsApart : store.LogsApart JavaScript.parse? servers := by decide +kernel
  have counted : outcome.1.toOption.map (·.count .changed) = some 1 := by decide +kernel
  have performed : (store.migrate false).perform tree = (outcome.1, outcome.2) :=
    (Prod.eta outcome).symm
  clear_value outcome
  rcases outcome with ⟨error | report, after⟩
  · cases counted
  · exact ⟨report, rfl, Option.some.inj counted,
      migrate_isEffect proper folder loaded logsApart performed⟩

end Store

end Respecify
