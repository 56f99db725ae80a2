import Respecify.Proofs.Server.Effect
import Respecify.Proofs.Workspace.Backups
import Respecify.Proofs.Workspace.Evolution

/-!
# The course of a migration

A migration of a workspace saves scripts and, if it comes to the end of that, writes
its change log.  Each script that it saves was on its server before, with its text or
with the text of its revision, or is the backup of one that changes.
-/

namespace Respecify

/-! ## The scripts of a migrated server -/

namespace Server

variable {parser : JavaScript.ScriptParser} {settings : Settings} {server : Server}
  {script : Script}

/-- What the migration of a server has made a script of. -/
inductive Origin (parser : JavaScript.ScriptParser) (settings : Settings) (server : Server)
    (script : Script) : Prop where
  /-- A script that was there keeps its text. -/
  | kept {old : Script} (member : old ∈ server.scripts) (key : script.key = old.key)
      (code : script.code = old.code)
  /-- A script that changes has the text of its revision. -/
  | converted {old : Script} (member : old ∈ server.changing parser settings)
      (key : script.key = old.key) (code : script.code = old.convertBy parser server.names)
  /-- The backup of a script that changes has the text that the script had. -/
  | backup {old : Script} (member : old ∈ server.changing parser settings)
      (key : script.key = (old.backup settings server.hostname).key)
      (code : script.code = old.code)

theorem origin_of_mem_after
    (member : script ∈ (server.migrateBy parser settings).after.scripts) :
    server.Origin parser settings script := by
  rcases Script.mem_of_mem_foldl_store member with isJudged | ⟨backup, isBackup, key, code⟩
  · rcases List.mem_map.mp isJudged with ⟨judgement, judged, rfl⟩
    rcases List.mem_map.mp judged with ⟨old, oldMember, rfl⟩
    have key := key_after (old.judgeBy parser settings server.names)
    rw [Script.after_judgeBy] at key ⊢
    cases migrated : old.isMigrated settings with
    | false => exact .kept oldMember rfl rfl
    | true =>
        by_cases same : old.convertBy parser server.names = old.code
        · exact .kept oldMember rfl same
        · refine .converted (List.mem_filter.mpr ⟨oldMember, ?_⟩) rfl rfl
          rw [Script.isChangedBy, migrated, Bool.true_and, bne_iff_ne]
          exact same
  · rcases mem_backups_migrateBy isBackup with ⟨old, changes, rfl⟩
    exact .backup changes key code

/-- A script that changes is one to migrate, and a revision gives it another text. -/
theorem exists_revision_of_mem_changing (member : script ∈ server.changing parser settings) :
    script ∈ server.scripts ∧ script.isMigrated settings = true ∧
      ∃ revision, reviseBy parser server.names script.name script.code = .ok revision ∧
        script.convertBy parser server.names = revision.code ∧ revision.code ≠ script.code ∧
        (script.judgeBy parser settings server.names).verdict? = some (.changed revision) := by
  rcases List.mem_filter.mp member with ⟨scriptMember, changes⟩
  rw [Script.isChangedBy, Bool.and_eq_true, bne_iff_ne] at changes
  refine ⟨scriptMember, changes.1, ?_⟩
  cases revised : reviseBy parser server.names script.name script.code with
  | error error =>
      rw [Script.convertBy, revised] at changes
      exact absurd rfl changes.2
  | ok revision =>
      have code : script.convertBy parser server.names = revision.code := by
        rw [Script.convertBy, revised]
        rfl
      rw [code] at changes
      refine ⟨revision, rfl, code, changes.2, ?_⟩
      rw [Script.judgeBy, if_pos changes.1, Script.verdictBy, revised]
      dsimp only
      rw [if_neg changes.2]

/-- An entry tells of a script that is one to migrate. -/
theorem exists_reported_of_mem_entries {entry : Entry}
    (member : entry ∈ (server.migrateBy parser settings).entries) :
    ∃ script ∈ server.scripts, script.isMigrated settings = true ∧
      script.IsReported parser server.names server.hostname entry := by
  rcases List.mem_filterMap.mp member with ⟨judgement, judged, told⟩
  rcases List.mem_map.mp judged with ⟨script, scriptMember, rfl⟩
  change Judgement.entry? server.hostname (script.judgeBy parser settings server.names) = _
    at told
  cases migrated : script.isMigrated settings with
  | false =>
      rw [Script.entry?_judgeBy_eq_none migrated] at told
      cases told
  | true =>
      rcases Script.exists_entry_judgeBy server.hostname migrated with ⟨other, found, reported⟩
      rw [found, Option.some.injEq] at told
      exact ⟨script, scriptMember, migrated, told ▸ reported⟩

/-- A script that is one to migrate has its entry. -/
theorem exists_entry_of_isMigrated (member : script ∈ server.scripts)
    (migrated : script.isMigrated settings = true) :
    ∃ entry ∈ (server.migrateBy parser settings).entries,
      script.IsReported parser server.names server.hostname entry := by
  rcases Script.exists_entry_judgeBy server.hostname migrated with ⟨entry, told, reported⟩
  exact ⟨entry, List.mem_filterMap.mpr ⟨_, judge_mem_judgements parser settings member, told⟩,
    reported⟩

/-- A script of which the report says that it was changed does change. -/
theorem exists_changing_of_entry {entry : Entry}
    (member : entry ∈ (server.migrateBy parser settings).entries)
    (changed : entry.status = .changed) :
    ∃ script ∈ server.changing parser settings,
      entry.hostname = server.hostname ∧ entry.name = script.name := by
  rcases exists_reported_of_mem_entries member with ⟨script, scriptMember, migrated, reported⟩
  cases reported with
  | failed => cases changed
  | unchanged => cases changed
  | changed revised differs =>
      refine ⟨script, List.mem_filter.mpr ⟨scriptMember, ?_⟩, rfl, rfl⟩
      rw [Script.isChangedBy, migrated, Bool.true_and, bne_iff_ne, Script.convertBy, revised]
      exact differs

/-- A server of which a script changes is changed. -/
theorem isChanged_of_mem_changing (member : script ∈ server.changing parser settings) :
    (server.migrateBy parser settings).isChanged = true := by
  rcases exists_revision_of_mem_changing member with ⟨scriptMember, _, _, _, _, _, changed⟩
  exact isChanged_of_verdict? (judge_mem_judgements parser settings scriptMember) changed

section Distinct

variable (distinct : (server.scripts.map Script.key).Nodup)

include distinct

/-- A script that changes is on the server with the text of its revision. -/
theorem exists_converted_mem_after (member : script ∈ server.changing parser settings) :
    ∃ stored ∈ (server.migrateBy parser settings).after.scripts,
      stored.key = script.key ∧ stored.code = script.convertBy parser server.names := by
  rcases exists_revision_of_mem_changing member with
    ⟨scriptMember, migrated, revision, _, code, _, changed⟩
  have judged := judge_mem_judgements parser settings scriptMember
  refine ⟨_, after_mem_after distinct judged (changed_of_verdict? judged changed).1,
    key_after _, ?_⟩
  rw [Script.after_judgeBy, if_pos migrated]

/-- The backup of a script that changes is on the server with the text that the script
had. -/
theorem exists_original_mem_after (member : script ∈ server.changing parser settings) :
    ∃ stored ∈ (server.migrateBy parser settings).after.scripts,
      stored.key = (script.backup settings server.hostname).key ∧ stored.code = script.code := by
  rcases exists_revision_of_mem_changing member with ⟨scriptMember, _, _, _, _, _, changed⟩
  rcases exists_backup_mem_after distinct (judge_mem_judgements parser settings scriptMember)
    changed with ⟨stored, storedMember, key, code⟩
  exact ⟨stored, storedMember, key.trans (key_backup _ _ _).symm, code⟩

end Distinct

end Server

/-! ## Saves, and the change log behind them -/

namespace Store

open FileTree

variable {parser : JavaScript.ScriptParser} {store : Store} {tree between after : FileTree}
  {servers : List Server} {report : Report} {error : FileError}

/-- Scripts of one key are stored at one location. -/
theorem scriptLocation_congr (store : Store) (hostname : Text) {one other : Script}
    (same : one.key = other.key) :
    store.scriptLocation hostname one.name = store.scriptLocation hostname other.name := by
  rcases Path.exists_rooted_eq other.name with ⟨rest, slashed⟩
  have slashedToo : Path.rooted one.name = Path.separator :: rest := same.trans slashed
  rw [scriptLocation, scriptLocation, Path.unrooted_of_rooted slashed,
    Path.unrooted_of_rooted slashedToo]

/-- What is loaded is loaded from a directory. -/
theorem exists_isRooted_of_load (proper : tree.IsProper) (loaded : store.load tree = .ok servers) :
    ∃ root, tree.IsRooted store.root root := by
  cases led : tree.place? store.root with
  | error error =>
      rw [load, led] at loaded
      cases loaded
  | ok root =>
      exact ⟨root, led, (isStored_of_load proper led loaded).1, proper.isNested⟩

/-- Write the change log, if there is something to tell. -/
def conclude (store : Store) (report : Report) : Disk Unit :=
  if report.isEventful then do
    Disk.ensureParent store.logLocation
    Disk.writeText store.logLocation report.changeLog
  else
    pure ()

theorem callAll_eq_conclude (store : Store) (report : Report) :
    store.callAll (if report.isEventful then [.log report] else []) = store.conclude report := by
  rw [conclude]
  split
  · change (store.writeLog report >>= fun _ => pure ()) = _
    rw [bind_pure_unit]
    rfl
  · rfl

/-- A migration that only reports changes nothing. -/
theorem perform_migrate_dry (loaded : store.load tree = .ok servers) :
    (store.migrateBy parser true).perform tree =
      (.ok (BatchMigration.ofServersBy parser store.settings servers).report, tree) := by
  unfold migrateBy
  rw [Disk.perform_bind, Disk.perform_get]
  dsimp only
  rw [loaded]
  rfl

theorem perform_migrate_of_unloaded (dryRun : Bool) (failed : store.load tree = .error error) :
    (store.migrateBy parser dryRun).perform tree = (.error error, tree) := by
  unfold migrateBy
  rw [Disk.perform_bind, Disk.perform_get]
  dsimp only
  rw [failed]
  rfl

/-- A migration is stopped at a save, or it makes all saves and goes on to the change
log. -/
theorem course_of_migrate {result : Except FileError Report}
    (loaded : store.load tree = .ok servers)
    (migrated : (store.migrateBy parser false).perform tree = (result, after)) :
    let batch := BatchMigration.ofServersBy parser store.settings servers
    (∃ error, Disk.perform (store.saveEach batch.savings) tree = (.error error, after) ∧
        result = .error error) ∨
      ∃ between logged, Disk.perform (store.saveEach batch.savings) tree = (.ok (), between) ∧
        Disk.perform (store.conclude batch.report) between = (logged, after) ∧
        result = logged.map fun _ => batch.report := by
  intro batch
  have whole := (perform_migrate loaded).symm.trans migrated
  rw [callAll_storeCalls, callAll_eq_conclude, Disk.perform_bind] at whole
  generalize Disk.perform (store.saveEach batch.savings) tree = outcome at whole
  rcases outcome with ⟨error | _, between⟩
  · cases whole
    exact Or.inl ⟨error, rfl, rfl⟩
  · have left := congrArg Prod.snd whole
    exact Or.inr ⟨between, _, rfl, Prod.ext rfl left, (congrArg Prod.fst whole).symm⟩

/-- A migration that ends with a report has made all saves, and has written what there
was to tell. -/
theorem course_of_migrate_ok (loaded : store.load tree = .ok servers)
    (migrated : (store.migrateBy parser false).perform tree = (.ok report, after)) :
    let batch := BatchMigration.ofServersBy parser store.settings servers
    report = batch.report ∧
      ∃ between, Disk.perform (store.saveEach batch.savings) tree = (.ok (), between) ∧
        Disk.perform (store.conclude report) between = (.ok (), after) := by
  intro batch
  rcases course_of_migrate loaded migrated with
    ⟨error, _, stopped⟩ | ⟨between, logged, saved, concluded, result⟩
  · cases stopped
  · cases logged with
    | error error => cases result
    | ok value =>
        cases result
        exact ⟨rfl, between, saved, concluded⟩

/-! ## The change log -/

/-- Writing the change log changes its file at most. -/
theorem evolves_conclude (store : Store) (report : Report) (tree : FileTree) :
    tree.Evolves
      (fun place => report.isEventful = true ∧ store.logLocation.target? = some place)
      (Disk.perform (store.conclude report) tree).2 := by
  rw [conclude]
  split
  · rename_i eventful
    exact (Disk.evolves_ensureParent_writeText _ _ tree).mono fun place there => ⟨eventful, there⟩
  · exact Evolves.refl _ _

theorem unencodable_of_conclude
    (failed : Disk.perform (store.conclude report) tree = (.error error, after))
    (noSystem : error.isSystem = false) :
    report.isEventful = true ∧ ¬ ∀ c ∈ report.changeLog, isScalar c = true := by
  rw [conclude] at failed
  split at failed
  · rename_i eventful
    exact ⟨eventful, Disk.unencodable_of_ensureParent_writeText failed noSystem⟩
  · cases failed

theorem readText_of_conclude (eventful : report.isEventful = true)
    (done : Disk.perform (store.conclude report) tree = (.ok (), after)) :
    after.readText store.logLocation = .ok report.changeLog := by
  rw [conclude, if_pos eventful] at done
  exact Disk.readText_of_ensureParent_writeText done

end Store

end Respecify
