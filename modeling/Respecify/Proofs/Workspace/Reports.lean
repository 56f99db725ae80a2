import Respecify.Proofs.Workspace.Course

/-!
# When a migration tells its report

A file without a text is not loaded, and so it is left alone.  It stops a migration
where the backup of a script that changes is to be stored in its place.  Where no such
file stands, and all that is written has a byte form, only the file system can keep a
migration from telling its report, in which every script to migrate has its entry.  The
file system does so where something in the tree is in the way, and where a backup or the
change log has an absolute location, which is not found.
-/

namespace Respecify

/-! ## Names of scripts -/

namespace Text

/-- A text that is made of names ends with the last of them. -/
theorem getLastD_suffix_join (separator : Text) {names : List Text} (filled : names ≠ []) :
    names.getLastD [] <:+ join separator names := by
  induction names with
  | nil => exact absurd rfl filled
  | cons name names inductionHypothesis =>
      cases names with
      | nil => exact List.suffix_rfl
      | cons other others =>
          exact (inductionHypothesis (List.cons_ne_nil _ _)).trans (List.suffix_append _ _)

end Text

namespace Path

/-- A file is a script if its name ends as that of a script. -/
theorem isScript_join {names extensions : List Text} (filled : names ≠ [])
    (isLast : isScript (names.getLastD []) extensions = true) :
    isScript (Text.join [separator] names) extensions = true := by
  rcases List.any_eq_true.mp isLast with ⟨ending, member, ends⟩
  refine List.any_eq_true.mpr ⟨ending, member, ?_⟩
  rw [Text.endsWith, List.isSuffixOf_iff_suffix] at ends ⊢
  exact ends.trans (Text.getLastD_suffix_join _ filled)

theorem unrooted_backupName (name directory : Text) :
    unrooted (backupName name directory) = directory ++ separator :: unrooted name := by
  rcases exists_rooted_eq name with ⟨rest, slashed⟩
  have whole : rooted (backupName name directory) = separator :: (directory ++ separator :: rest) := by
    rw [rooted_backupName, slashed, List.cons_append]
  rw [unrooted_of_rooted whole, unrooted_of_rooted slashed]

end Path

/-! ## Scripts stored without a way back up -/

namespace Location

/-- A text that starts with a slash starts anew, and leads out of the tree. -/
theorem target?_join_of_startsWith (location : Location) {path : Text}
    (slashed : path.startsWith [Path.separator] = true) :
    (location.join path).target? = none := by
  rw [join, if_pos slashed, target?, if_neg]
  cases path with
  | nil => cases slashed
  | cons c rest =>
      have slash : c = Path.separator := by
        rw [Text.startsWith, List.isPrefixOf_cons_cons, Bool.and_eq_true, beq_iff_eq] at slashed
        exact slashed.1.symm
      subst slash
      rw [ofText, anchorOf, List.takeWhile_cons]
      simp only [beq_self_eq_true, if_true, List.length_cons]
      split
      · omega
      · simp
      · simp

end Location

namespace Store

open FileTree

variable {parser : JavaScript.ScriptParser} {store : Store} {tree after : FileTree} {root : Place}
  {servers : List Server} {saving : Saving}

/-- A script is stored below the directory of its server or out of the tree, if no name
leads back up. -/
theorem isDirect_or_target?_eq_none (named : IsName saving.hostname)
    (ordinary : ∀ name ∈ saving.names, name ≠ up) :
    store.IsDirect saving ∨ (store.locationOf saving).target? = none := by
  have joined := Location.join_join store.root (List.cons_ne_nil saving.hostname [])
    (by simpa using named)
  change store.root.join saving.hostname = _ at joined
  cases slashed : (Path.unrooted saving.script.name).startsWith [Path.separator] with
  | true => exact Or.inr (Location.target?_join_of_startsWith _ slashed)
  | false =>
      refine Or.inl ⟨?_, ordinary⟩
      rw [locationOf, scriptLocation, joined, Location.join, slashed, if_neg (by simp), Saving.names]
      simp

/-- What a migration saves for a server is stored below the directory of the server or
out of the tree, if no name of the backup folder leads back up. -/
theorem isDirect_or_target?_eq_none_of_stored {server : Server} {script : Script}
    (stored : server.IsStored tree root)
    (noWayUp : up ∉ Location.namesOf store.settings.backupFolder)
    (member : script ∈ (server.migrateBy parser store.settings).after.scripts) :
    store.IsDirect ⟨server.hostname, script⟩ ∨
      (store.locationOf ⟨server.hostname, script⟩).target? = none := by
  have ofStored : ∀ old ∈ server.scripts, script.key = old.key →
      store.IsDirect ⟨server.hostname, script⟩ := by
    intro old oldMember key
    rcases stored.scripts old oldMember with ⟨names, there⟩
    have named : (Saving.mk server.hostname script).IsNamed :=
      Saving.isNamed_of_key stored.named there.filled there.named (key.trans there.key_eq)
    exact ⟨named.scriptLocation_eq store, named.ordinary⟩
  cases Server.origin_of_mem_after member with
  | kept oldMember key _ => exact Or.inl (ofStored _ oldMember key)
  | converted changes key _ =>
      exact Or.inl (ofStored _ (Server.exists_revision_of_mem_changing changes).1 key)
  | @backup old changes key _ =>
      rcases stored.scripts old (Server.exists_revision_of_mem_changing changes).1 with
        ⟨names, there⟩
      refine isDirect_or_target?_eq_none stored.named fun name nameMember => ?_
      have unrooted : Path.unrooted script.name =
          store.settings.backupFolder ++ Path.separator :: Path.unrooted old.name := by
        rcases Path.exists_rooted_eq (old.backup store.settings server.hostname).name with
          ⟨rest, slashed⟩
        rw [Path.unrooted_of_rooted (key.trans slashed), ← Path.unrooted_of_rooted slashed]
        exact Path.unrooted_backupName _ _
      rw [Saving.names, unrooted, Location.namesOf_append_separator,
        Path.unrooted_of_rooted there.key_eq, Location.namesOf_join there.filled there.named]
        at nameMember
      rcases List.mem_cons.mp nameMember with rfl | nameMember
      · exact stored.named.ne_up
      · rcases List.mem_append.mp nameMember with inFolder | inScript
        · rintro rfl
          exact noWayUp inFolder
        · exact (there.named name inScript).ne_up

/-! ## Reports -/

/-- The report has an entry for every file below a visible directory of the workspace
that is a script with a text and no backup. -/
def ReportsAll (store : Store) (tree : FileTree) (report : Report) : Prop :=
  ∀ root hostname names code, tree.place? store.root = .ok root →
    hostname.startsWith (text ".") = false → names ≠ [] →
    tree.text? (root ++ hostname :: names) = some code →
    Path.isScript (names.getLastD []) store.settings.extensions = true →
    Path.isBackup (Text.join [Path.separator] names) store.settings.backupFolder = false →
    ∃ entry ∈ report.entries,
      entry.hostname = hostname ∧ entry.name = Text.join [Path.separator] names

/-- Nothing is in the way of a migration but what the file system refuses: no backup is
to be stored in a file without a text, and the texts to write have byte forms. -/
structure IsClear (parser : JavaScript.ScriptParser) (store : Store) (tree : FileTree)
    (servers : List Server) : Prop where
  decodable : ∀ server ∈ servers, ∀ script ∈ server.changing parser store.settings,
    ∀ place ∈ (store.scriptLocation server.hostname
        (Path.backupName script.name store.settings.backupFolder)).target?,
      tree.isUndecodable place = false
  encodable : ∀ server ∈ servers, ∀ script ∈ server.changing parser store.settings,
    ∀ c ∈ script.convertBy parser server.names, isScalar c = true
  logged : (BatchMigration.ofServersBy parser store.settings servers).report.isEventful = true →
    ∀ c ∈ (BatchMigration.ofServersBy parser store.settings servers).report.changeLog,
      isScalar c = true

instance (parser : JavaScript.ScriptParser) (store : Store) (tree : FileTree)
    (servers : List Server) : Decidable (store.IsClear parser tree servers) :=
  decidable_of_iff (_ ∧ _ ∧ _)
    ⟨fun ⟨decodable, encodable, logged⟩ => ⟨decodable, encodable, logged⟩,
      fun ⟨decodable, encodable, logged⟩ => ⟨decodable, encodable, logged⟩⟩

theorem isSystem_of_load {error : FileError} (failed : store.load tree = .error error) :
    error.isSystem = true := by
  rw [load] at failed
  split at failed
  · cases failed
    rfl
  · split at failed
    · cases failed
    · cases failed
      rfl

/-- Whatever was loaded and is to migrate has its entry. -/
theorem reportsAll_of_load (parser : JavaScript.ScriptParser) (nested : tree.IsNested)
    (loaded : store.load tree = .ok servers) :
    store.ReportsAll tree (BatchMigration.ofServersBy parser store.settings servers).report := by
  intro root hostname names code led visible filled held isScript noBackup
  rcases exists_script_of_load nested led loaded visible filled isScript held with
    ⟨server, serverMember, rfl, scriptMember⟩
  have migrated : Script.isMigrated store.settings
      ⟨Text.join [Path.separator] names, code, server.hostname⟩ = true := by
    rw [Script.isMigrated, Path.isScript_join filled isScript, noBackup]
    rfl
  rcases Server.exists_entry_of_isMigrated scriptMember migrated with ⟨entry, told, reported⟩
  refine ⟨entry, List.mem_flatMap.mpr ⟨_, List.mem_map_of_mem serverMember, told⟩, ?_⟩
  cases reported <;> exact ⟨rfl, rfl⟩

section Stored

variable (stored : ∀ server ∈ servers, server.IsStored tree root)
  (rooted : tree.IsRooted store.root root)

include stored rooted

/-- Where a migration is clear, no script is saved in the place of a file without a
text. -/
theorem IsClear.isUndecodable (clear : store.IsClear parser tree servers)
    (member : saving ∈ (BatchMigration.ofServersBy parser store.settings servers).savings)
    {place : Place}
    (there : (store.locationOf saving).target? = some place) :
    tree.isUndecodable place = false := by
  rcases BatchMigration.mem_savings_iff.mp member with
    ⟨server, serverMember, _, hostname, scriptMember⟩
  rcases saving with ⟨_, script⟩
  cases hostname
  have isLoaded : ∀ old ∈ server.scripts, script.key = old.key →
      tree.isUndecodable place = false := by
    intro old oldMember key
    have isStored := stored server serverMember
    have found := target?_scriptLocation rooted (isNamed_of_stored isStored oldMember)
    rw [locationOf, scriptLocation_congr store server.hostname key, found,
      Option.some.injEq] at there
    refine isUndecodable_eq_false_of_text? ?_
    rw [← there, text?_of_stored isStored oldMember]
    rfl
  cases Server.origin_of_mem_after scriptMember with
  | kept oldMember key _ => exact isLoaded _ oldMember key
  | converted changes key _ =>
      exact isLoaded _ (Server.exists_revision_of_mem_changing changes).1 key
  | backup changes key _ =>
      rw [locationOf, scriptLocation_congr store server.hostname key] at there
      exact clear.decodable server serverMember _ changes place there

omit rooted in
/-- Where a migration is clear, all that it saves has a byte form. -/
theorem IsClear.isScalar (clear : store.IsClear parser tree servers)
    (member : saving ∈ (BatchMigration.ofServersBy parser store.settings servers).savings) :
    ∀ c ∈ saving.script.code, Respecify.isScalar c = true := by
  rcases BatchMigration.mem_savings_iff.mp member with
    ⟨server, serverMember, _, _, scriptMember⟩
  have isLoaded : ∀ old ∈ server.scripts, ∀ c ∈ old.code, Respecify.isScalar c = true := by
    intro old oldMember
    rcases text?_eq_some_iff.mp (text?_of_stored (stored server serverMember) oldMember) with
      ⟨bytes, _, decoded⟩
    exact Utf8.isScalar_of_decode? decoded
  cases Server.origin_of_mem_after scriptMember with
  | kept oldMember _ code => exact code ▸ isLoaded _ oldMember
  | converted changes _ code => exact code ▸ clear.encodable server serverMember _ changes
  | backup changes _ code =>
      exact code ▸ isLoaded _ (Server.exists_revision_of_mem_changing changes).1

/-- A migration that tells its report was clear, as far as no name of the backup folder
leads back up. -/
theorem isClear_of_ok {report : Report} (loaded : store.load tree = .ok servers)
    (noWayUp : up ∉ Location.namesOf store.settings.backupFolder)
    (migrated : (store.migrateBy parser false).perform tree = (.ok report, after)) :
    store.IsClear parser tree servers := by
  rcases course_of_migrate_ok loaded migrated with ⟨rfl, between, saved, concluded⟩
  have direct : ∀ saving ∈ (BatchMigration.ofServersBy parser store.settings servers).savings,
      store.IsDirect saving ∨ (store.locationOf saving).target? = none := by
    intro saving member
    rcases BatchMigration.mem_savings_iff.mp member with
      ⟨server, serverMember, _, hostname, scriptMember⟩
    have isDirect := isDirect_or_target?_eq_none_of_stored (stored server serverMember) noWayUp
      scriptMember
    rwa [← hostname] at isDirect
  constructor
  · intro server serverMember script changes place there
    rcases Server.exists_original_mem_after (stored server serverMember).distinct changes with
      ⟨backup, backupMember, key, _⟩
    refine isUndecodable_of_saveEach rooted direct saved ⟨server.hostname, backup⟩
      (BatchMigration.mem_savings_iff.mpr ⟨server, serverMember,
        Server.isChanged_of_mem_changing changes, rfl, backupMember⟩) place ?_
    rw [locationOf, scriptLocation_congr store server.hostname key]
    exact there
  · intro server serverMember script changes
    rcases Server.exists_converted_mem_after (stored server serverMember).distinct changes with
      ⟨converted, convertedMember, _, code⟩
    rw [← code]
    exact isScalar_of_saveEach saved ⟨server.hostname, converted⟩
      (BatchMigration.mem_savings_iff.mpr ⟨server, serverMember,
        Server.isChanged_of_mem_changing changes, rfl, convertedMember⟩)
  · intro eventful
    exact isScalar_of_readText (readText_of_conclude eventful concluded)

/-- A migration that is clear is stopped by the file system only. -/
theorem exists_report_of_isClear {result : Except FileError Report}
    (loaded : store.load tree = .ok servers) (clear : store.IsClear parser tree servers)
    (migrated : (store.migrateBy parser false).perform tree = (result, after))
    (noSystem : ∀ error, result = .error error → error.isSystem = false) :
    result = .ok (BatchMigration.ofServersBy parser store.settings servers).report := by
  rcases course_of_migrate loaded migrated with
    ⟨error, stopped, rfl⟩ | ⟨between, logged, _, concluded, rfl⟩
  · rcases cause_of_saveEach stopped (noSystem error rfl) with
      ⟨saving, member, place, there, undecodable⟩ | ⟨saving, member, unencodable⟩
    · rw [clear.isUndecodable stored rooted member there] at undecodable
      cases undecodable
    · exact absurd (clear.isScalar stored member) unencodable
  · cases logged with
    | ok value => rfl
    | error error =>
        rcases unencodable_of_conclude concluded (noSystem error rfl) with
          ⟨eventful, unencodable⟩
        exact absurd (clear.logged eventful) unencodable

end Stored

/-- Unless the file system refuses something, a migration of a workspace tells its
report, in which each script to migrate has its entry, if it only reports, or if no
backup is to be stored in a file without a text and what is to be written has a byte
form.  Where the backup folder does not lead back up, it tells it in no other case. -/
theorem migrate_reports {dryRun : Bool} {result : Except FileError Report}
    (proper : tree.IsProper)
    (migrated : (store.migrateBy parser dryRun).perform tree = (result, after))
    (noSystem : ∀ error, result = .error error → error.isSystem = false) :
    ∃ servers, store.load tree = .ok servers ∧
      (∀ report, result = .ok report → store.ReportsAll tree report) ∧
      (dryRun = true ∨ store.IsClear parser tree servers → ∃ report, result = .ok report) ∧
      (dryRun = false → up ∉ Location.namesOf store.settings.backupFolder →
        (∃ report, result = .ok report) → store.IsClear parser tree servers) := by
  cases loaded : store.load tree with
  | error error =>
      have stopped : result = .error error := by
        rw [perform_migrate_of_unloaded dryRun loaded] at migrated
        exact (congrArg Prod.fst migrated).symm
      have isSystem := isSystem_of_load loaded
      rw [noSystem error stopped] at isSystem
      cases isSystem
  | ok servers =>
      rcases exists_isRooted_of_load proper loaded with ⟨root, rooted⟩
      have stored := (isStored_of_load proper rooted.place loaded).2.1
      have complete := reportsAll_of_load parser proper.isNested loaded
      refine ⟨servers, rfl, ?_, ?_, ?_⟩
      · rintro report rfl
        cases dryRun with
        | true =>
            rw [perform_migrate_dry loaded] at migrated
            cases migrated
            exact complete
        | false =>
            rw [(course_of_migrate_ok loaded migrated).1]
            exact complete
      · intro noWrites
        cases dryRun with
        | true =>
            rw [perform_migrate_dry loaded] at migrated
            exact ⟨_, (congrArg Prod.fst migrated).symm⟩
        | false =>
            have clear := noWrites.resolve_left (by simp)
            exact ⟨_, exists_report_of_isClear stored rooted loaded clear migrated noSystem⟩
      · rintro rfl noWayUp ⟨report, rfl⟩
        exact isClear_of_ok stored rooted loaded noWayUp migrated

/-- A script without a text and an old backup without one are left alone, and the other
script has its entry. -/
theorem migrate_reports_beside_undecodable :
    let store : Store := ⟨Location.ofText (text "."), Settings.default⟩
    let tree : FileTree := ⟨[([text "h"], .directory), ([text "h", text "BACKUP"], .directory),
      ([text "h", text "BACKUP", text "c.js"], .file [0xFF]),
      ([text "h", text "a.js"], .file (text "import './b.js';\n")),
      ([text "h", text "b.js"], .file [0xFF])]⟩
    let outcome := (store.migrate false).perform tree
    ∃ report, outcome.1 = .ok report ∧
      ∃ entry ∈ report.entries, entry.hostname = text "h" ∧ entry.name = text "a.js" := by
  intro store tree outcome
  have proper : tree.IsProper := by decide +kernel
  have told : outcome.1.toOption.isSome = true := by decide +kernel
  have performed : (store.migrate false).perform tree = (outcome.1, outcome.2) :=
    (Prod.eta outcome).symm
  have noSystem : ∀ error, outcome.1 = .error error → error.isSystem = false := by
    intro error failed
    rw [failed] at told
    cases told
  rcases migrate_reports proper performed noSystem with ⟨servers, loaded, complete, returns, _⟩
  have loadedHere : store.load tree = .ok [⟨text "h",
      [⟨text "a.js", text "import './b.js';\n", text "h"⟩]⟩] := by
    decide +kernel
  have clear : store.IsClear JavaScript.parse? tree servers := by
    cases loaded.symm.trans loadedHere
    decide +kernel
  rcases returns (Or.inr clear) with ⟨report, result⟩
  exact ⟨report, result, complete report result [] (text "h") [text "a.js"]
    (text "import './b.js';\n") (by decide +kernel) (by decide +kernel) (by simp)
    (by decide +kernel) (by decide +kernel) (by decide +kernel)⟩

/-- An old backup without a text stops a migration that only has to replace it, when the
script has been changed already. -/
theorem not_migrate_reports :
    let store : Store := ⟨Location.ofText (text "."), Settings.default⟩
    let tree : FileTree := ⟨[([text "h"], .directory), ([text "h", text "BACKUP"], .directory),
      ([text "h", text "BACKUP", text "a.js"], .file [0xFF]),
      ([text "h", text "a.js"], .file (text "import './b.js';\n")),
      ([text "h", text "b.js"], .file [])]⟩
    let outcome := (store.migrate false).perform tree
    tree.IsProper ∧ outcome.1 = .error .undecodable ∧
      FileError.isSystem .undecodable = false ∧
      outcome.2.readText (Location.ofText (text "h/a.js")) ≠ .ok (text "import './b.js';\n") := by
  decide +kernel

end Store

end Respecify
