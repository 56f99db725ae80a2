import Respecify.Proofs.Migration.Stability
import Respecify.Proofs.Server.Effect

/-!
# Migrating a migrated server

A second migration finds the scripts that the first one has left, among more names:
those of the backups.  What is up to date stays so, and what was changed keeps its
banner, so a second migration changes nothing, unless a backup has the name of what
was missing.
-/

namespace Respecify

namespace Script

variable {script backup : Script} {scripts backups : List Script} {settings : Settings}

/-! ## Scripts to migrate among backups -/

/-- Whether a script is migrated depends on its name. -/
theorem isMigrated_congr {other : Script} (same : script.name = other.name) :
    script.isMigrated settings = other.isMigrated settings := by
  rw [isMigrated, isMigrated, same]

/-- A backup takes the place of no script that is migrated. -/
theorem filter_isMigrated_store (isBackup : Path.isBackup backup.name settings.backupFolder = true)
    (scripts : List Script) :
    (store scripts backup).filter (isMigrated settings) = scripts.filter (isMigrated settings) := by
  have notMigrated : ∀ other : Script, other.key = backup.key → other.isMigrated settings = false := by
    intro other same
    rw [isMigrated, Path.isBackup_congr same, isBackup]
    exact Bool.and_false _
  induction scripts with
  | nil =>
      change [backup].filter _ = []
      rw [List.filter_cons, notMigrated backup rfl]
      rfl
  | cons first rest inductionHypothesis =>
      rw [store_cons]
      by_cases same : first.key = backup.key
      · rw [if_pos same, List.filter_cons, List.filter_cons, notMigrated first same,
          notMigrated (withCodeOf (some backup) first) same]
        rfl
      · rw [if_neg same, List.filter_cons, List.filter_cons, inductionHypothesis]

theorem filter_isMigrated_foldl_store
    (areBackups : ∀ backup ∈ backups, Path.isBackup backup.name settings.backupFolder = true)
    (scripts : List Script) :
    (backups.foldl store scripts).filter (isMigrated settings) =
      scripts.filter (isMigrated settings) := by
  induction backups generalizing scripts with
  | nil => rfl
  | cons backup backups inductionHypothesis =>
      rw [List.foldl_cons,
        inductionHypothesis fun other member => areBackups other (List.mem_cons_of_mem _ member),
        filter_isMigrated_store (areBackups backup List.mem_cons_self)]

/-- Storing a backup keeps the names of the scripts. -/
theorem exists_map_name_store (scripts : List Script) (backup : Script) :
    ∃ more, (store scripts backup).map name = scripts.map name ++ more := by
  induction scripts with
  | nil => exact ⟨[backup.name], rfl⟩
  | cons first rest inductionHypothesis =>
      rw [store_cons]
      split
      · exact ⟨[], (List.append_nil _).symm⟩
      · rcases inductionHypothesis with ⟨more, names⟩
        exact ⟨more, by rw [List.map_cons, names, List.map_cons, List.cons_append]⟩

theorem exists_map_name_foldl_store (scripts backups : List Script) :
    ∃ more, (backups.foldl store scripts).map name = scripts.map name ++ more := by
  induction backups generalizing scripts with
  | nil => exact ⟨[], (List.append_nil _).symm⟩
  | cons backup backups inductionHypothesis =>
      rcases exists_map_name_store scripts backup with ⟨first, stored⟩
      rcases inductionHypothesis (store scripts backup) with ⟨more, names⟩
      exact ⟨first ++ more, by rw [List.foldl_cons, names, stored, List.append_assoc]⟩

/-- The entry of a script tells of a change exactly if the revision changes its text. -/
theorem IsReported.status_ne_iff {parser : JavaScript.ScriptParser} {known : Known}
    {hostname : Text} {entry : Entry} (reported : script.IsReported parser known hostname entry) :
    entry.status ≠ .changed ↔ script.convertBy parser known = script.code := by
  unfold convertBy
  cases reported with
  | failed refused => simp [refused, Except.toOption]
  | unchanged revised same => simp [revised, same, Except.toOption]
  | changed revised differs => simp [revised, differs, Except.toOption]

/-- A report tells of no change exactly if no revision changes a text. -/
theorem forall_status_ne_iff {parser : JavaScript.ScriptParser} {known : Known}
    {hostname : Text} {entries : List Entry}
    (reported : List.Forall₂ (IsReported parser known hostname) scripts entries) :
    (∀ entry ∈ entries, entry.status ≠ .changed) ↔
      ∀ script ∈ scripts, script.convertBy parser known = script.code := by
  induction reported with
  | nil => simp
  | cons here _ inductionHypothesis =>
      rw [List.forall_mem_cons, List.forall_mem_cons, inductionHypothesis, here.status_ne_iff]

end Script

namespace Server

variable {parser : JavaScript.ScriptParser} {settings : Settings} {server : Server}

/-- A migration adds names behind those that it finds. -/
theorem exists_names_after :
    ∃ more, (server.migrateBy parser settings).after.names = server.names ++ more := by
  rcases Script.exists_map_name_foldl_store
    ((server.migrateBy parser settings).judgements.map Judgement.after)
    (server.migrateBy parser settings).backups with ⟨more, names⟩
  refine ⟨more, names.trans (congrArg (· ++ more) ?_)⟩
  rw [List.map_map, migrateBy, List.map_map]
  exact List.map_congr_left fun script _ => Script.name_after _

/-- The scripts to migrate are the same ones after a migration, with their new
texts. -/
theorem filter_isMigrated_after :
    (server.migrateBy parser settings).after.scripts.filter (Script.isMigrated settings) =
      (server.scripts.filter (Script.isMigrated settings)).map
        fun script => { script with code := script.convertBy parser server.names } := by
  have areBackups : ∀ backup ∈ (server.migrateBy parser settings).backups,
      Path.isBackup backup.name settings.backupFolder = true := by
    intro backup member
    rcases mem_backups_migrateBy member with ⟨script, _, rfl⟩
    exact Path.isBackup_backupName script.name settings.backupFolder
  rw [ServerMigration.after, Script.filter_isMigrated_foldl_store areBackups, migrateBy]
  dsimp only
  generalize server.names = known
  induction server.scripts with
  | nil => rfl
  | cons script scripts inductionHypothesis =>
      have same : (script.judgeBy parser settings known).after.isMigrated settings =
          script.isMigrated settings := Script.isMigrated_congr (Script.name_after _)
      rw [List.map_cons, List.map_cons, List.filter_cons, List.filter_cons, inductionHypothesis,
        same]
      split
      · rename_i migrated
        rw [Script.after_judgeBy, if_pos migrated, List.map_cons]
      · rfl

/-! ## Migrations that change nothing -/

/-- A migration reports no change if it changes no script. -/
theorem forall_entries_iff :
    (∀ entry ∈ (server.migrateBy parser settings).entries, entry.status ≠ .changed) ↔
      ∀ script ∈ server.scripts, script.isMigrated settings = true →
        script.convertBy parser server.names = script.code := by
  rw [Script.forall_status_ne_iff reported_migrateBy]
  simp only [List.mem_filter, and_imp]

/-- A migration that changes no script leaves the server as it is. -/
theorem after_eq_of_unchanged
    (unchanged : ∀ script ∈ server.scripts, script.isMigrated settings = true →
      script.convertBy parser server.names = script.code) :
    (server.migrateBy parser settings).after = server := by
  have nothing : server.changing parser settings = [] := by
    rw [changing, List.filter_eq_nil_iff]
    intro script member changed
    rw [Script.isChangedBy, Bool.and_eq_true, bne_iff_ne] at changed
    exact changed.2 (unchanged script member changed.1)
  have scripts : (server.migrateBy parser settings).judgements.map Judgement.after =
      server.scripts := by
    rw [migrateBy, List.map_map]
    conv_rhs => rw [← List.map_id server.scripts]
    refine List.map_congr_left fun script member => ?_
    rw [Function.comp_apply, Script.after_judgeBy]
    split
    · rename_i migrated
      rw [unchanged script member migrated]
      rfl
    · rfl
  rw [ServerMigration.after, backups_migrateBy, nothing, scripts]
  rfl

end Server

/-! ## Revising a script among more names -/

namespace Script

variable (parser : JavaScript.ScriptParser) (known : Known) (script : Script)

/-- The imports of the script as a parser finds them; a script that it refuses has
none. -/
def sites : List ImportSite :=
  (surveyBy parser script.code).toOption.getD []

/-- No earlier run has left a comment right above an import of the script. -/
def IsUnmarked : Prop :=
  ∀ site ∈ script.sites parser, ∀ marker ∈ [Warning.marker, Banner.marker],
    script.code.endsWithAt marker site.statementRange.start = false

instance : Decidable (script.IsUnmarked parser) :=
  inferInstanceAs (Decidable (∀ site ∈ script.sites parser,
    ∀ marker ∈ [Warning.marker, Banner.marker],
      script.code.endsWithAt marker site.statementRange.start = false))

/-- Unless the script is refused, its imports stand in order, and its revised text is
read as it was written. -/
def IsReadRevised : Prop :=
  (surveyBy parser script.code).isOk = true →
    Orderly script.code (script.sites parser) ∧
      ((Layout.cut script.code (script.sites parser)).map
        (Passage.revise known script.name)).IsReadBy parser

instance : Decidable (script.IsReadRevised parser known) :=
  inferInstanceAs (Decidable ((surveyBy parser script.code).isOk = true →
    Orderly script.code (script.sites parser) ∧
      ((Layout.cut script.code (script.sites parser)).map
        (Passage.revise known script.name)).IsReadBy parser))

/-- What the imports of the script are missing among some names, they are missing
among others. -/
def StillMisses (others : Known) : Prop :=
  ∀ site ∈ script.sites parser,
    known.resolve site.specifier script.name = .unresolved .notFound →
      others.resolve site.specifier script.name = .unresolved .notFound

instance (others : Known) : Decidable (script.StillMisses parser known others) :=
  inferInstanceAs (Decidable (∀ site ∈ script.sites parser,
    known.resolve site.specifier script.name = .unresolved .notFound →
      others.resolve site.specifier script.name = .unresolved .notFound))

end Script

/-- The passages of a script are unmarked where its sites are. -/
theorem Layout.forall_unmarked_iff {layout : Layout} {sites : List ImportSite}
    (sited : Sited 0 layout.passages sites)
    (declared : ∀ passage ∈ layout.passages, isDeclaration passage.declaration = true) :
    (∀ site ∈ sites, ∀ marker ∈ [Warning.marker, Banner.marker],
        layout.text.endsWithAt marker site.statementRange.start = false) ↔
      ∀ passage ∈ layout.passages, passage.Unmarked := by
  apply forall_site_iff sited declared
  intro first passage last site whole closed here
  rw [whole, List.forall_mem_cons, List.forall_mem_singleton, ← Bool.not_eq_true,
    ← Bool.not_eq_true, here.endsWithAt_iff closed Warning.marker_plain,
    here.endsWithAt_iff closed Banner.marker_plain, Passage.Unmarked, and_comm]

/-- Where no comment of an earlier run stands above an import, a revision settles it
among more names unless they have what it was missing. -/
theorem Passage.Unmarked.settled_revise_append_iff {passage : Passage}
    (unmarked : passage.Unmarked) {known more : Known} {importer : Text} :
    (passage.revise known importer).Settled (known ++ more) importer ↔
      (known.resolve passage.specifier importer = .unresolved .notFound →
        (known ++ more).resolve passage.specifier importer = .unresolved .notFound) := by
  rw [Passage.settled_revise_iff Known.resolve_append_of_upToDate, unmarked.strip_before]
  simp [unmarked.1, unmarked.2]

/-- The new text of a script whose imports stand in order is that of its layout, passage
by passage. -/
theorem Script.convertBy_eq_text {parser : JavaScript.ScriptParser} {script : Script}
    {sites : List ImportSite} (known : Known)
    (surveyed : surveyBy parser script.code = .ok sites) (orderly : Orderly script.code sites) :
    let layout := Layout.cut script.code sites
    (layout.text = script.code ∧ Sited 0 layout.passages sites ∧
        ∀ passage ∈ layout.passages, isDeclaration passage.declaration = true) ∧
      script.convertBy parser known =
        (layout.map (Passage.revise known script.name)).text := by
  intro layout
  rcases exists_reviseBy known script.name surveyed orderly with ⟨revision, revised⟩
  have revisedSites : revision.outcomes.map Outcome.site = sites :=
    Except.ok.inj ((outcomes_of_reviseBy revised).1.symm.trans surveyed)
  have cut := Layout.cut_of_reviseBy revised (revisedSites.symm ▸ orderly)
  rw [revisedSites] at cut
  rcases cut with ⟨whole, sited, declared, code⟩
  refine ⟨⟨whole, sited, declared⟩, ?_⟩
  rw [Script.convertBy, revised, ← code]
  rfl

/-- A script without comments of earlier runs keeps its new text among more names
exactly if they do not have what it was missing. -/
theorem Script.convertBy_append_iff {parser : JavaScript.ScriptParser} {script : Script}
    {known : Known} (unmarked : script.IsUnmarked parser)
    (readRevised : script.IsReadRevised parser known) (more : Known) :
    Script.convertBy parser (known ++ more)
        { script with code := script.convertBy parser known } = script.convertBy parser known ↔
      script.StillMisses parser known (known ++ more) := by
  cases surveyed : surveyBy parser script.code with
  | error error =>
      simp [Script.StillMisses, Script.sites, Script.convertBy, reviseBy, surveyed,
        Except.toOption]
  | ok sites =>
      have sitesEq : script.sites parser = sites := by
        rw [Script.sites, surveyed]
        rfl
      rw [Script.IsUnmarked, sitesEq] at unmarked
      rw [Script.IsReadRevised, sitesEq, surveyed] at readRevised
      rw [Script.StillMisses, sitesEq]
      rcases readRevised rfl with ⟨orderly, read⟩
      rcases Script.convertBy_eq_text known surveyed orderly with
        ⟨⟨whole, sited, declared⟩, converted⟩
      have plain : ∀ passage ∈ (Layout.cut script.code sites).passages, passage.Unmarked := by
        rw [← Layout.forall_unmarked_iff sited declared, whole]
        exact unmarked
      rcases read.exists_unchanged_iff (known ++ more) script.name with
        ⟨again, revisedAgain, _, same⟩
      have convertedAgain : Script.convertBy parser (known ++ more)
          { script with code := script.convertBy parser known } = again.code := by
        rw [Script.convertBy, converted, revisedAgain]
        rfl
      have misses := @Layout.forall_site_iff _ _ sited declared
        (fun passage => known.resolve passage.specifier script.name = .unresolved .notFound →
          (known ++ more).resolve passage.specifier script.name = .unresolved .notFound)
        (fun site => known.resolve site.specifier script.name = .unresolved .notFound →
          (known ++ more).resolve site.specifier script.name = .unresolved .notFound)
        fun _ _ _ _ _ _ here => by rw [here.specifier_eq]
      rw [convertedAgain, converted, same, Layout.map, List.forall_mem_map,
        forall₂_congr fun passage member => (plain passage member).settled_revise_append_iff,
        ← misses]

namespace Server

variable {parser : JavaScript.ScriptParser} {settings : Settings} {server : Server}

/-- A second migration right after the first one changes nothing, and reports no
change, exactly if no backup that the first one has added is what an import was
missing.  Before the first one, no import has a comment of an earlier run above it, and
what it writes is read as it was written. -/
theorem migrateBy_after_unchanged_iff
    (unmarked : ∀ script ∈ server.scripts, script.isMigrated settings = true →
      script.IsUnmarked parser)
    (read : ∀ script ∈ server.scripts, script.isMigrated settings = true →
      script.IsReadRevised parser server.names) :
    let first := server.migrateBy parser settings
    let again := first.after.migrateBy parser settings
    ((∀ entry ∈ again.entries, entry.status ≠ .changed) ∧ again.after = first.after) ↔
      ∀ script ∈ server.scripts, script.isMigrated settings = true →
        script.StillMisses parser server.names first.after.names := by
  intro first again
  rcases @exists_names_after parser settings server with ⟨more, names⟩
  have unchanged : (∀ entry ∈ again.entries, entry.status ≠ .changed) ↔
      ∀ script ∈ server.scripts, script.isMigrated settings = true →
        script.StillMisses parser server.names first.after.names := by
    have kept : (∀ script ∈ first.after.scripts, script.isMigrated settings = true →
        script.convertBy parser first.after.names = script.code) ↔
        ∀ script ∈ first.after.scripts.filter (Script.isMigrated settings),
          script.convertBy parser first.after.names = script.code := by
      simp only [List.mem_filter, and_imp]
    rw [forall_entries_iff, kept, filter_isMigrated_after, List.forall_mem_map, names]
    simp only [List.mem_filter, and_imp]
    refine forall₂_congr fun script member => forall_congr' fun migrated => ?_
    exact Script.convertBy_append_iff (unmarked script member migrated)
      (read script member migrated) more
  rw [unchanged]
  refine and_iff_left_of_imp fun misses => after_eq_of_unchanged ?_
  exact forall_entries_iff.mp (unchanged.mpr misses)

/-- An import that is changed, one that is missed and a script that is refused are left
alone by a second migration. -/
theorem migrateBy_after_unchanged_iff_missed :
    let server : Server := ⟨text "h", [
      ⟨text "a.js", text "import './b.js';\nlet x = 1;\n", text "h"⟩,
      ⟨text "b.js", text "let x = 1\nimport {c} from './c.js'\n", text "h"⟩,
      ⟨text "d.js", text "import './a.js' x", text "h"⟩]⟩
    let first := server.migrateBy JavaScript.parse? .default
    let again := first.after.migrateBy JavaScript.parse? .default
    first.entries.map Entry.status = [.changed, .changed, .failed] ∧
      (∀ entry ∈ again.entries, entry.status ≠ .changed) ∧ again.after = first.after := by
  intro server first again
  have evaluated : first.entries.map Entry.status = [.changed, .changed, .failed] ∧
      (∀ script ∈ server.scripts, script.IsUnmarked JavaScript.parse?) ∧
      (∀ script ∈ server.scripts, script.IsReadRevised JavaScript.parse? server.names) ∧
      ∀ script ∈ server.scripts,
        script.StillMisses JavaScript.parse? server.names first.after.names := by
    decide +kernel
  rcases evaluated with ⟨statuses, unmarked, read, misses⟩
  refine ⟨statuses, (migrateBy_after_unchanged_iff ?_ ?_).mpr ?_⟩
  · exact fun script member _ => unmarked script member
  · exact fun script member _ => read script member
  · exact fun script member _ => misses script member

/-- An import of the backup of its own script is missed by the first migration and
found by the second one, which puts the changed text in the place of the original. -/
theorem not_migrateBy_after_unchanged :
    let server : Server :=
      ⟨text "h", [⟨text "a.js", text "import './BACKUP/a.js';\n", text "h"⟩]⟩
    let first := (server.migrate .default).after
    (∀ script ∈ server.scripts, script.IsUnmarked JavaScript.parse?) ∧
      (first.migrate .default).entries.map Entry.status = [.changed] ∧
      first.find? (text "BACKUP/a.js") =
        some ⟨text "/BACKUP/a.js", text "import './BACKUP/a.js';\n", text "h"⟩ ∧
      (first.migrate .default).after.find? (text "BACKUP/a.js") =
        some ⟨text "/BACKUP/a.js", Warning.block ++ text "import './BACKUP/a.js';\n", text "h"⟩ := by
  decide +kernel

end Server

end Respecify
