import Respecify.Proofs.Server.Storing

/-!
# Migrating a server whose scripts are different files

No two scripts of a server are one file.  A migration leaves it so: each script
stays with its old text or its new one, and the backups of those that change are
put in the place of older backups or behind all scripts.
-/

namespace Respecify

namespace Path

theorem rooted_backupName (name directory : Text) :
    rooted (backupName name directory) = separator :: directory ++ rooted name :=
  rooted_cons_separator _

/-- Names of one file lie both below the backup directory, or neither does. -/
theorem isBackup_congr {one other directory : Text} (same : rooted one = rooted other) :
    isBackup one directory = isBackup other directory := by
  rw [isBackup, same, isBackup]

end Path

namespace Server

variable {parser : JavaScript.ScriptParser} {settings : Settings} {server : Server}
  {script : Script} {revision : Revision}

theorem key_backup (settings : Settings) (hostname : Text) (script : Script) :
    (script.backup settings hostname).key =
      Path.separator :: settings.backupFolder ++ script.key :=
  Path.rooted_backupName _ _

/-- Judgements are made of the scripts of the server. -/
theorem mem_judgements {judgement : Judgement}
    (member : judgement ∈ (server.migrateBy parser settings).judgements) :
    judgement.script ∈ server.scripts ∧
      judgement = judgement.script.judgeBy parser settings server.names := by
  rcases List.mem_map.mp member with ⟨script, scriptMember, rfl⟩
  exact ⟨scriptMember, rfl⟩

theorem judge_mem_judgements (parser : JavaScript.ScriptParser) (settings : Settings)
    (member : script ∈ server.scripts) :
    script.judgeBy parser settings server.names ∈ (server.migrateBy parser settings).judgements :=
  List.mem_map_of_mem member

/-- A script that changes is no backup, and its new text is another one. -/
theorem changed_of_verdict? {judgement : Judgement}
    (member : judgement ∈ (server.migrateBy parser settings).judgements)
    (changed : judgement.verdict? = some (.changed revision)) :
    Path.isBackup judgement.script.name settings.backupFolder = false ∧
      reviseBy parser server.names judgement.script.name judgement.script.code = .ok revision ∧
      revision.code ≠ judgement.script.code := by
  rw [(mem_judgements member).2, Script.judgeBy] at changed
  dsimp only at changed
  split at changed
  · rename_i migrated
    rw [Script.isMigrated, Bool.and_eq_true, Bool.not_eq_true'] at migrated
    rw [Option.some.injEq, Script.verdictBy] at changed
    split at changed
    · cases changed
    · rename_i revised
      split at changed
      · cases changed
      · rename_i differs
        cases changed
        exact ⟨migrated.2, revised, differs⟩
  · cases changed

/-- A script that does not change keeps its text. -/
theorem after_eq_or_changed (judgement : Judgement) :
    judgement.after = judgement.script ∨
      ∃ revision, judgement.verdict? = some (.changed revision) ∧
        judgement.after.code = revision.code := by
  rw [Judgement.after]
  split
  · rename_i revision changed
    exact Or.inr ⟨revision, changed, rfl⟩
  · exact Or.inl rfl

/-- A server of which a script changes is changed. -/
theorem isChanged_of_verdict? {judgement : Judgement}
    (member : judgement ∈ (server.migrateBy parser settings).judgements)
    (changed : judgement.verdict? = some (.changed revision)) :
    (server.migrateBy parser settings).isChanged = true := by
  have entry : judgement.entry? server.hostname = some
      { hostname := server.hostname, name := judgement.script.name, status := .changed,
        changes := revision.changes, warnings := revision.warnings } := by
    rw [Judgement.entry?, changed]
  rw [ServerMigration.isChanged, List.any_eq_true]
  exact ⟨_, List.mem_filterMap.mpr ⟨judgement, member, entry⟩, rfl⟩

theorem key_after (judgement : Judgement) : judgement.after.key = judgement.script.key := by
  rw [Judgement.after]
  split <;> rfl

theorem map_key_after (server : Server) (settings : Settings) :
    ((server.migrateBy parser settings).judgements.map Judgement.after).map Script.key =
      server.scripts.map Script.key := by
  rw [migrateBy]
  simp only [List.map_map]
  exact List.map_congr_left fun script _ => key_after _

/-- The scripts that change, with their keys, are among those of the server. -/
theorem backups_keys (server : Server) (settings : Settings) :
    (((server.migrateBy parser settings).judgements.filterMap
        (Judgement.backup? settings server.hostname)).map Script.key).Sublist
      (server.scripts.map fun script => Path.separator :: settings.backupFolder ++ script.key) := by
  rw [migrateBy]
  generalize server.names = known
  generalize server.scripts = scripts
  induction scripts with
  | nil => exact List.Sublist.slnil
  | cons script scripts inductionHypothesis =>
      rw [List.map_cons, List.map_cons, List.filterMap_cons]
      split
      · exact inductionHypothesis.cons _
      · rename_i backup found
        rw [Judgement.backup?] at found
        split at found
        · cases found
          rw [List.map_cons, key_backup]
          exact inductionHypothesis.cons_cons _
        · cases found

variable (distinct : (server.scripts.map Script.key).Nodup)

include distinct

theorem nodup_backups_keys (parser : JavaScript.ScriptParser) (settings : Settings) :
    (((server.migrateBy parser settings).judgements.filterMap
      (Judgement.backup? settings server.hostname)).map Script.key).Nodup := by
  refine (backups_keys server settings).nodup ?_
  have injective : Function.Injective fun key : Text =>
      Path.separator :: settings.backupFolder ++ key := List.append_right_injective _
  have mapped := distinct.map injective
  rwa [List.map_map] at mapped

/-- Every script that changes has its backup. -/
theorem backups_eq (parser : JavaScript.ScriptParser) (settings : Settings) :
    (server.migrateBy parser settings).backups =
      (server.migrateBy parser settings).judgements.filterMap
        (Judgement.backup? settings server.hostname) :=
  Script.foldl_keep [] (nodup_backups_keys distinct parser settings)

/-- After a migration, the scripts of a server are still different files. -/
theorem nodup_after (parser : JavaScript.ScriptParser) (settings : Settings) :
    ((server.migrateBy parser settings).after.scripts.map Script.key).Nodup :=
  Script.nodup_foldl_store (by rwa [map_key_after])

/-- A script that has the name of no backup is on the server after its migration,
as its judgement says. -/
theorem after_mem_after {judgement : Judgement}
    (member : judgement ∈ (server.migrateBy parser settings).judgements)
    (noBackup : Path.isBackup judgement.script.name settings.backupFolder = false) :
    judgement.after ∈ (server.migrateBy parser settings).after.scripts := by
  refine Script.mem_foldl_store_of_ne (List.mem_map_of_mem member) fun backup isBackup same => ?_
  rw [backups_eq distinct, List.mem_filterMap] at isBackup
  rcases isBackup with ⟨other, _, found⟩
  rw [Judgement.backup?] at found
  split at found
  · cases found
    rw [key_after] at same
    have isBackup : Path.isBackup (other.script.backup settings server.hostname).name
        settings.backupFolder = true := Path.isBackup_backupName _ _
    rw [Path.isBackup_congr same, noBackup] at isBackup
    cases isBackup
  · cases found

/-- The backup of a script that changes is on the server after the migration. -/
theorem exists_backup_mem_after {judgement : Judgement}
    (member : judgement ∈ (server.migrateBy parser settings).judgements)
    (changed : judgement.verdict? = some (.changed revision)) :
    ∃ stored ∈ (server.migrateBy parser settings).after.scripts,
      stored.key = Path.separator :: settings.backupFolder ++ judgement.script.key ∧
        stored.code = judgement.script.code := by
  have backed : judgement.script.backup settings server.hostname ∈
      (server.migrateBy parser settings).backups := by
    rw [backups_eq distinct, List.mem_filterMap]
    exact ⟨judgement, member, by rw [Judgement.backup?, changed]⟩
  have backupsDistinct : ((server.migrateBy parser settings).backups.map Script.key).Nodup := by
    rw [backups_eq distinct]
    exact nodup_backups_keys distinct parser settings
  rcases Script.exists_mem_foldl_store backupsDistinct backed _ with
    ⟨stored, storedMember, same, code⟩
  exact ⟨stored, storedMember, same.trans (key_backup _ _ _), code⟩

/-- A script on the server after the migration was there before, or is the backup
of one that was. -/
theorem key_mem_of_mem_after (member : script ∈ (server.migrateBy parser settings).after.scripts) :
    (∃ old ∈ server.scripts, script.key = old.key) ∨
      ∃ old ∈ server.scripts, script.key = Path.separator :: settings.backupFolder ++ old.key := by
  rcases Script.key_mem_of_mem_foldl_store member with found | found
  · rw [map_key_after] at found
    rcases List.mem_map.mp found with ⟨old, oldMember, same⟩
    exact Or.inl ⟨old, oldMember, same.symm⟩
  · rw [backups_eq distinct] at found
    rcases List.mem_map.mp ((backups_keys server settings).subset found) with ⟨old, oldMember, same⟩
    exact Or.inr ⟨old, oldMember, same.symm⟩

end Server

end Respecify
