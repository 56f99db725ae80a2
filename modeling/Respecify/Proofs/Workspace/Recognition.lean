import Respecify.Proofs.Workspace.Proper

/-!
# Backups that are recognised

A backup is named by the backup folder and the name of its script, and it is recognised
by how its name begins.  On disk it gets its name anew, from the names on the way to it.
Both agree if the folder is made of ordinary segments.  If it is not, no file at all is
recognised as a backup.  Backups in a folder that is empty or starts with a slash have
absolute locations, outside of the tree: the run stops at the first of them.
-/

namespace Respecify

/-! ## Names that are recognised -/

namespace Path

variable {names : List Text} {folder : Text}

/-- A file is recognised as a backup exactly if the backup folder is made of the names of
directories on the way to it. -/
theorem isBackup_join_iff (filled : names ≠ []) (named : ∀ name ∈ names, IsName name) :
    isBackup (Text.join [separator] names) folder = true ↔
      ∃ segments rest, segments ≠ [] ∧ rest ≠ [] ∧ names = segments ++ rest ∧
        folder = Text.join [separator] segments := by
  rw [isBackup, rooted_join filled named, Text.startsWith, List.isPrefixOf_iff_prefix,
    List.cons_append, List.cons_prefix_cons]
  constructor
  · rintro ⟨_, rest, whole⟩
    have parts : Text.splitOn separator folder ++ Text.splitOn separator rest = names := by
      rw [← Text.splitOn_append_separator, ← List.singleton_append, ← List.append_assoc, whole,
        Text.splitOn_join filled fun name member => (named name member).plain]
    exact ⟨_, _, Text.splitOn_ne_nil separator folder, Text.splitOn_ne_nil separator rest,
      parts.symm, (Text.join_splitOn separator folder).symm⟩
  · rintro ⟨segments, rest, isSegments, isRest, rfl, rfl⟩
    rw [Text.join_append isSegments isRest]
    exact ⟨rfl, List.prefix_append _ _⟩

/-- Only below an ordinary folder a file can be recognised as a backup. -/
theorem isFolder_of_isBackup (filled : names ≠ []) (named : ∀ name ∈ names, IsName name)
    (backup : isBackup (Text.join [separator] names) folder = true) : IsFolder folder := by
  rcases (isBackup_join_iff filled named).mp backup with ⟨segments, rest, isSegments, _, whole, eq⟩
  exact ⟨segments, isSegments,
    fun name member => named name (whole ▸ List.mem_append_left rest member), eq⟩

end Path

/-! ## Backups that a migration leaves -/

namespace Store

open FileTree

variable {parser : JavaScript.ScriptParser} {store : Store} {tree between after : FileTree}
  {root : Place} {servers : List Server} {server : Server} {script : Script} {report : Report}
  {hostname : Text} {location : Location}

/-- The file at a location stands below the directory of the server, it is loaded by a
name that is recognised as that of a backup, and a run on the tree has no entry for it. -/
def IsRecognised (parser : JavaScript.ScriptParser) (store : Store) (tree : FileTree)
    (hostname : Text) (location : Location) : Prop :=
  ∃ root names servers, tree.place? store.root = .ok root ∧
    location.target? = some (root ++ hostname :: names) ∧ store.load tree = .ok servers ∧
    (∃ server ∈ servers, server.hostname = hostname ∧ ∃ script ∈ server.scripts,
      script.name = Text.join [Path.separator] names ∧
        Path.isBackup script.name store.settings.backupFolder = true) ∧
    ∀ entry ∈ (BatchMigration.ofServersBy parser store.settings servers).report.entries,
      entry.hostname = hostname → entry.name ≠ Text.join [Path.separator] names

/-- The backups of all scripts that change are recognised in the tree. -/
def RecognisesBackups (parser : JavaScript.ScriptParser) (store : Store)
    (servers : List Server) (tree : FileTree) : Prop :=
  ∀ server ∈ servers, ∀ script ∈ server.changing parser store.settings,
    store.IsRecognised parser tree server.hostname
      (store.scriptLocation server.hostname
        (Path.backupName script.name store.settings.backupFolder))

/-- Whatever is recognised as a backup in a proper tree shows that the backup folder is an
ordinary one. -/
theorem IsRecognised.isFolder (recognised : store.IsRecognised parser tree hostname location)
    (proper : tree.IsProper) : IsFolder store.settings.backupFolder := by
  rcases recognised with ⟨root, _, servers, led, _, loaded,
    ⟨server, member, _, script, scriptMember, _, backup⟩, _⟩
  rcases (isStored_of_load proper led loaded).2.1 server member |>.scripts script scriptMember with
    ⟨names, there⟩
  rw [there.name] at backup
  exact Path.isFolder_of_isBackup there.filled there.named backup

/-- A run has no entry for a script that is recognised as a backup. -/
theorem isBackup_of_mem_entries {settings : Settings} {entry : Entry}
    (member : entry ∈ (BatchMigration.ofServersBy parser settings servers).report.entries) :
    Path.isBackup entry.name settings.backupFolder = false := by
  rcases List.mem_flatMap.mp member with ⟨migration, migrationMember, told⟩
  rcases List.mem_map.mp migrationMember with ⟨server, _, rfl⟩
  rcases Server.exists_reported_of_mem_entries told with ⟨script, _, migrated, reported⟩
  rw [Script.isMigrated, Bool.and_eq_true, Bool.not_eq_true'] at migrated
  cases reported <;> exact migrated.2

/-- A text below an ordinary backup folder is recognised as a backup. -/
theorem isRecognised_of_text? {segments names : List Text} (proper : tree.IsProper)
    (rooted : tree.IsRooted store.root root) (filled : segments ≠ [])
    (folder : store.settings.backupFolder = Text.join [Path.separator] segments)
    (visible : hostname.startsWith (text ".") = false) (isNames : names ≠ [])
    (isScript : Path.isScript (names.getLastD []) store.settings.extensions = true)
    (held : (tree.text? (root ++ hostname :: (segments ++ names))).isSome = true)
    (target : location.target? = some (root ++ hostname :: (segments ++ names))) :
    store.IsRecognised parser tree hostname location := by
  rcases Option.isSome_iff_exists.mp held with ⟨code, found⟩
  rcases exists_servers_of_load rooted.place rooted.directory with ⟨servers, loaded⟩
  have isLast : Path.isScript ((segments ++ names).getLastD []) store.settings.extensions =
      true := by
    rwa [List.getLastD_eq_getLast?, List.getLast?_append_of_ne_nil _ isNames,
      ← List.getLastD_eq_getLast?]
  rcases exists_script_of_load rooted.nested rooted.place loaded visible
    (List.append_ne_nil_of_left_ne_nil filled names) isLast found with
    ⟨server, member, same, scriptMember⟩
  have backup : Path.isBackup (Text.join [Path.separator] (segments ++ names))
      store.settings.backupFolder = true := by
    refine (Path.isBackup_join_iff (List.append_ne_nil_of_left_ne_nil filled names)
      fun name nameMember => ?_).mpr ⟨segments, names, filled, isNames, rfl, folder⟩
    refine proper.isName_of_node? ?_ name
      (List.mem_append_right root (List.mem_cons_of_mem hostname nameMember))
    rcases text?_eq_some_iff.mp found with ⟨bytes, file, _⟩
    rw [file]
    rfl
  refine ⟨root, segments ++ names, servers, rooted.place, target, loaded,
    ⟨server, member, same, _, scriptMember, rfl, backup⟩, fun entry entryMember _ isName => ?_⟩
  rw [← isName, isBackup_of_mem_entries entryMember] at backup
  cases backup

/-- The backup of a stored script has its place below the backup folder. -/
theorem place_backup {segments names : List Text} {settings : Settings}
    (filled : segments ≠ []) (named : ∀ name ∈ segments, IsName name)
    (folder : settings.backupFolder = Text.join [Path.separator] segments)
    (there : script.IsStoredAt tree (root ++ [hostname]) names) :
    Saving.place root ⟨hostname, script.backup settings hostname⟩ =
      root ++ hostname :: (segments ++ names) := by
  have key : (script.backup settings hostname).key =
      Path.separator :: Text.join [Path.separator] (segments ++ names) := by
    rw [Server.key_backup, there.key_eq, folder, Text.join_append filled there.filled]
    simp
  rw [Saving.place, Saving.names_of_key (List.append_ne_nil_of_left_ne_nil filled names)
    (fun name member => (List.mem_append.mp member).elim (named name) (there.named name)) key]

/-- The saves of a migration leave the text of each script that changes at the place of
its backup. -/
theorem text?_backup_of_saveEach (rooted : tree.IsRooted store.root root)
    (stored : ∀ server ∈ servers, server.IsStored tree root)
    (different : (servers.map Server.hostname).Nodup)
    (folder : IsFolder store.settings.backupFolder)
    (saved : Disk.perform (store.saveEach
      (BatchMigration.ofServersBy parser store.settings servers).savings) tree = (.ok (), between))
    (member : server ∈ servers)
    (changes : script ∈ server.changing parser store.settings) :
    between.text? (Saving.place root
        ⟨server.hostname, script.backup store.settings server.hostname⟩) = some script.code := by
  have run := isRun_savings parser rooted stored different folder
  rw [saved] at run
  rcases Server.exists_revision_of_mem_changing changes with
    ⟨scriptMember, _, _, _, _, _, changed⟩
  rcases exists_backup_mem_savings (stored server member) member
    (Server.judge_mem_judgements _ _ scriptMember) changed with
    ⟨backup, _, saving, placeEq, code⟩
  exact (congrArg between.text? placeEq).trans ((run.text?_of_ok saving).trans
    (congrArg some code))

/-- A migration that tells its report leaves all backups where they are recognised, if the
backup folder is an ordinary one. -/
theorem recognisesBackups_of_isFolder (proper : tree.IsProper)
    (folder : IsFolder store.settings.backupFolder) (loaded : store.load tree = .ok servers)
    (migrated : (store.migrateBy parser false).perform tree = (.ok report, after)) :
    store.RecognisesBackups parser servers after := by
  rcases exists_isRooted_of_load proper loaded with ⟨root, rooted⟩
  rcases isStored_of_load proper rooted.place loaded with ⟨_, stored, different⟩
  rcases course_of_migrate_ok loaded migrated with ⟨_, between, saved, concluded⟩
  have evolvesFirst := evolves_saveEach store
    (BatchMigration.ofServersBy parser store.settings servers).savings tree
  rw [saved] at evolvesFirst
  have evolves := evolves_conclude store report between
  rw [concluded] at evolves
  have rootedAfter : after.IsRooted store.root root :=
    rooted.of_kept (evolves.nested (evolvesFirst.nested rooted.nested)) fun _ directory =>
      evolves.directory (evolvesFirst.directory directory)
  intro server member script changes
  have scriptMember := (Server.exists_revision_of_mem_changing changes).1
  rcases exists_isStoredAt_of_load proper rooted.place loaded member scriptMember with
    ⟨visible, names, there, isScript⟩
  have held : (after.text? (Saving.place root
      ⟨server.hostname, script.backup store.settings server.hostname⟩)).isSome = true := by
    refine evolves.text?_isSome ?_
    rw [text?_backup_of_saveEach rooted stored different folder saved member changes]
    rfl
  have target : (store.scriptLocation server.hostname
      (Path.backupName script.name store.settings.backupFolder)).target? = _ :=
    target?_scriptLocation rootedAfter (isNamed_backup (stored server member) scriptMember folder)
  rcases folder with ⟨segments, filled, named, isFolder⟩
  rw [place_backup filled named isFolder there] at held target
  exact isRecognised_of_text? (isProper_migrate proper migrated) rootedAfter filled isFolder
    visible there.filled isScript held target

/-- A migration that tells its report leaves backups that the next run recognises, and so
passes by, exactly if the backup folder is made of ordinary segments, or if there is no
script to change. -/
theorem migrate_recognisesBackups_iff (proper : tree.IsProper)
    (loaded : store.load tree = .ok servers)
    (migrated : (store.migrateBy parser false).perform tree = (.ok report, after)) :
    store.RecognisesBackups parser servers after ↔
      IsFolder store.settings.backupFolder ∨
        ∀ server ∈ servers, server.changing parser store.settings = [] := by
  constructor
  · intro recognises
    by_cases none : ∀ server ∈ servers, server.changing parser store.settings = []
    · exact Or.inr none
    · rw [not_forall] at none
      rcases none with ⟨server, some⟩
      rw [Classical.not_imp] at some
      rcases List.exists_mem_of_ne_nil _ some.2 with ⟨script, changes⟩
      exact Or.inl ((recognises server some.1 script changes).isFolder
        (isProper_migrate proper migrated))
  · rintro (folder | none) server member script changes
    · exact recognisesBackups_of_isFolder proper folder loaded migrated server member script
        changes
    · rw [none server member] at changes
      cases changes

/-- In an ordinary backup folder, the backup of a script that changes is recognised. -/
theorem migrate_recognisesBackups_iff_ordinary :
    let store : Store := ⟨Location.ofText (text "."), Settings.default⟩
    let tree : FileTree := ⟨[([text "h"], .directory),
      ([text "h", text "a.js"], .file (text "import './b.js';\n")),
      ([text "h", text "b.js"], .file [])]⟩
    let server : Server := ⟨text "h",
      [⟨text "a.js", text "import './b.js';\n", text "h"⟩, ⟨text "b.js", [], text "h"⟩]⟩
    let outcome := (store.migrate false).perform tree
    outcome.1.toOption.isSome = true ∧
      server.changing JavaScript.parse? store.settings ≠ [] ∧
      store.RecognisesBackups JavaScript.parse? [server] outcome.2 := by
  intro store tree server outcome
  have loaded : store.load tree = .ok [server] := by decide +kernel
  have proper : tree.IsProper := by decide +kernel
  have folder : IsFolder store.settings.backupFolder :=
    ⟨[text "BACKUP"], by simp, by decide +kernel, by decide +kernel⟩
  have told : outcome.1.toOption.isSome = true ∧
      server.changing JavaScript.parse? store.settings ≠ [] := by decide +kernel
  have performed : (store.migrate false).perform tree = (outcome.1, outcome.2) :=
    (Prod.eta outcome).symm
  refine ⟨told.1, told.2, ?_⟩
  clear_value outcome
  rcases outcome with ⟨error | report, after⟩
  · cases told.1
  · exact (migrate_recognisesBackups_iff proper loaded performed).mpr (Or.inl folder)

/-- Where the backup folder is written with a slash at its end, the backup of a script is
loaded by a name that does not begin as the name of a backup does. -/
theorem not_migrate_recognisesBackups :
    let store : Store := ⟨Location.ofText (text "."),
      { Settings.default with backupFolder := text "BACKUP/" }⟩
    let tree : FileTree := ⟨[([text "h"], .directory),
      ([text "h", text "a.js"], .file (text "import './b.js';\n")),
      ([text "h", text "b.js"], .file [])]⟩
    let server : Server := ⟨text "h",
      [⟨text "a.js", text "import './b.js';\n", text "h"⟩, ⟨text "b.js", [], text "h"⟩]⟩
    let outcome := (store.migrate false).perform tree
    tree.IsProper ∧ store.load tree = .ok [server] ∧
      outcome.1.toOption.isSome = true ∧
      outcome.2.readText (Location.ofText (text "h/BACKUP/a.js")) =
        .ok (text "import './b.js';\n") ∧
      ¬ store.RecognisesBackups JavaScript.parse? [server] outcome.2 := by
  intro store tree server outcome
  have proper : tree.IsProper := by decide +kernel
  have told : outcome.1.toOption.isSome = true ∧
      outcome.2.readText (Location.ofText (text "h/BACKUP/a.js")) =
        .ok (text "import './b.js';\n") := by decide +kernel
  refine ⟨proper, by decide +kernel, told.1, told.2, fun recognises => ?_⟩
  have changes : (⟨text "a.js", text "import './b.js';\n", text "h"⟩ : Script) ∈
      server.changing JavaScript.parse? store.settings := by decide +kernel
  rcases (recognises server (List.mem_singleton_self _) _ changes).isFolder
    (isProper_migrate proper (Prod.eta outcome).symm) with ⟨segments, filled, named, folder⟩
  -- The parts of the folder are its segments, and the last of them is empty.
  have parts : segments = [text "BACKUP", []] := by
    rw [← Text.splitOn_join filled fun name member => (named name member).plain, ← folder]
    decide +kernel
  exact (named [] (parts ▸ by simp)).nonempty rfl

end Store

end Respecify
