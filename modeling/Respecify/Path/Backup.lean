import Respecify.Path.Basic

/-!
# Names of backups

Before a script changes, its text is kept in a second file: the same name
below the backup directory.  Files below that directory are never migrated.
-/

namespace Respecify.Path

/-- The backup directory, unless another one is configured. -/
def backupFolder : Text := text "BACKUP"

/-- The name of the backup of a script. -/
def backupName (name : Text) (directory : Text) : Text :=
  separator :: directory ++ rooted name

/-- Does the name lie below the backup directory? -/
def isBackup (name : Text) (directory : Text) : Bool :=
  (rooted name).startsWith (separator :: directory ++ [separator])

/-- The name of a backup is the name of a backup. -/
theorem isBackup_backupName (name directory : Text) :
    isBackup (backupName name directory) directory = true := by
  obtain ⟨rest, slash⟩ := exists_rooted_eq name
  have whole : backupName name directory = separator :: directory ++ [separator] ++ rest := by
    simp only [backupName, slash, List.cons_append, List.append_assoc, List.nil_append]
  have slashed : rooted (backupName name directory) = backupName name directory :=
    rooted_cons_separator _
  rw [isBackup, slashed, whole, Text.startsWith, List.isPrefixOf_iff_prefix]
  exact List.prefix_append _ _

end Respecify.Path
