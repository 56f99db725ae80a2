import Respecify.Proofs.Import.Place
import Respecify.Proofs.Migration.Passage
import Respecify.Proofs.Server.Migration

/-!
# What a migration does to a server

A migration is a pass over the scripts that changes them one after the other in
their places, while later imports are resolved among scripts that have changed
already.  Only the names of scripts are looked at, and those stay, so each script
is revised as if it were the first.  The backups are stored behind the pass: one
for each name, over the first script of that name or behind all scripts.
-/

namespace Respecify

namespace Script

/-! ## One script of a migration -/

variable {parser : JavaScript.ScriptParser} {settings : Settings} {known : Known}
  {hostname : Text}

/-- The text of the script after a revision, or its own text if it has none. -/
def convertBy (parser : JavaScript.ScriptParser) (known : Known) (script : Script) : Text :=
  ((reviseBy parser known script.name script.code).toOption.map Revision.code).getD script.code

/-- The script is one to migrate, and a revision gives it another text. -/
def isChangedBy (parser : JavaScript.ScriptParser) (settings : Settings) (known : Known)
    (script : Script) : Bool :=
  script.isMigrated settings && script.convertBy parser known != script.code

/-- What a report says of a script that is one to migrate. -/
inductive IsReported (parser : JavaScript.ScriptParser) (known : Known) (hostname : Text)
    (script : Script) : Entry → Prop where
  /-- The script cannot be revised; the entry tells why. -/
  | failed {error : RevisionError}
      (refused : reviseBy parser known script.name script.code = .error error) :
      IsReported parser known hostname script
        { hostname, name := script.name, status := .failed, reason := some error.message }
  /-- A revision keeps the text of the script. -/
  | unchanged {revision : Revision}
      (revised : reviseBy parser known script.name script.code = .ok revision)
      (same : revision.code = script.code) :
      IsReported parser known hostname script
        { hostname, name := script.name, status := .unchanged }
  /-- A revision changes the text; the entry has its counts. -/
  | changed {revision : Revision}
      (revised : reviseBy parser known script.name script.code = .ok revision)
      (differs : revision.code ≠ script.code) :
      IsReported parser known hostname script
        { hostname, name := script.name, status := .changed,
          changes := revision.changes, warnings := revision.warnings }

theorem name_after (judgement : Judgement) : judgement.after.name = judgement.script.name := by
  rw [Judgement.after]
  split <;> rfl

/-- A script to migrate gets the text of its revision. -/
theorem after_judgeBy (script : Script) :
    (script.judgeBy parser settings known).after =
      if script.isMigrated settings then { script with code := script.convertBy parser known }
      else script := by
  unfold judgeBy verdictBy convertBy Judgement.after
  cases script.isMigrated settings with
  | false => rfl
  | true =>
      cases reviseBy parser known script.name script.code with
      | error error => rfl
      | ok revision =>
          by_cases same : revision.code = script.code <;> simp [same, Except.toOption]

/-- A script that changes calls for its backup. -/
theorem backup?_judgeBy (script : Script) :
    (script.judgeBy parser settings known).backup? settings hostname =
      if script.isChangedBy parser settings known then some (script.backup settings hostname)
      else none := by
  unfold judgeBy verdictBy isChangedBy convertBy Judgement.backup?
  cases script.isMigrated settings with
  | false => rfl
  | true =>
      cases reviseBy parser known script.name script.code with
      | error error => simp [Except.toOption]
      | ok revision =>
          by_cases same : revision.code = script.code <;> simp [same, Except.toOption]

/-- The entry of a script to migrate says what its revision comes to. -/
theorem exists_entry_judgeBy {script : Script} (hostname : Text)
    (migrated : script.isMigrated settings = true) :
    ∃ entry, Judgement.entry? hostname (script.judgeBy parser settings known) = some entry ∧
      script.IsReported parser known hostname entry := by
  unfold judgeBy verdictBy Judgement.entry?
  rw [if_pos migrated]
  cases revised : reviseBy parser known script.name script.code with
  | error error => exact ⟨_, rfl, .failed revised⟩
  | ok revision =>
      by_cases same : revision.code = script.code
      · simp only [if_pos same]
        exact ⟨_, rfl, .unchanged revised same⟩
      · simp only [if_neg same]
        exact ⟨_, rfl, .changed revised same⟩

/-- Of scripts that are not migrated, a report has no entry. -/
theorem entry?_judgeBy_eq_none {script : Script} (other : script.isMigrated settings = false) :
    Judgement.entry? hostname (script.judgeBy parser settings known) = none := by
  unfold judgeBy Judgement.entry?
  rw [other]
  rfl

end Script

/-! ## A pass over the scripts -/

/-- A pass over the scripts of a server under way: the scripts as they stand, and the
entries and the backups so far. -/
structure Pass where
  scripts : List Script
  entries : List Entry
  backups : List Script

namespace Pass

variable (parser : JavaScript.ScriptParser) (settings : Settings) (hostname : Text)

/-- Judge the script at a position, given the names of the scripts as they stand, and
change it in its place. -/
def visit (pass : Pass) (position : Nat) : Pass :=
  match pass.scripts[position]? with
  | none => pass
  | some script =>
      let judgement := script.judgeBy parser settings (pass.scripts.map Script.name)
      { scripts := pass.scripts.set position judgement.after
        entries := pass.entries ++ (Judgement.entry? hostname judgement).toList
        backups := (judgement.backup? settings hostname).toList.foldl Script.keep pass.backups }

/-- The pass that has come to judgements of the first scripts. -/
def behind (done : List Judgement) (rest : List Script) : Pass where
  scripts := done.map Judgement.after ++ rest
  entries := done.filterMap (Judgement.entry? hostname)
  backups := (done.filterMap (Judgement.backup? settings hostname)).foldl Script.keep []

variable {parser settings hostname}

/-- A visit judges the script as if no other had changed, since their names have not. -/
theorem visit_behind {done : List Judgement} {rest : List Script} {script : Script}
    {known : Known}
    (names : done.map (fun judgement => judgement.script.name) ++
      (script :: rest).map Script.name = known) :
    (behind settings hostname done (script :: rest)).visit parser settings hostname done.length =
      behind settings hostname (done ++ [script.judgeBy parser settings known]) rest := by
  -- The scripts that have changed are still known under their names.
  have namesNow : (behind settings hostname done (script :: rest)).scripts.map Script.name =
      known := by
    rw [← names, behind, List.map_append, List.map_map]
    exact congrArg (· ++ _) (List.map_congr_left fun judgement _ => Script.name_after judgement)
  have here : (behind settings hostname done (script :: rest)).scripts[done.length]? =
      some script := by
    simp [behind]
  rw [visit, here, namesNow]
  dsimp only
  generalize script.judgeBy parser settings known = judgement
  simp only [behind, List.filterMap_append, List.foldl_append, List.filterMap_cons,
    List.filterMap_nil]
  cases judgement.entry? hostname <;> cases judgement.backup? settings hostname <;> simp

/-- The rest of a pass judges the scripts that are left. -/
theorem foldl_visit_behind {done : List Judgement} {rest : List Script} {known : Known}
    (names : done.map (fun judgement => judgement.script.name) ++ rest.map Script.name = known) :
    (List.range' done.length rest.length).foldl (visit parser settings hostname)
        (behind settings hostname done rest) =
      behind settings hostname (done ++ rest.map (Script.judgeBy parser settings known)) [] := by
  induction rest generalizing done with
  | nil => simp
  | cons script rest inductionHypothesis =>
      have others := @inductionHypothesis (done ++ [script.judgeBy parser settings known])
        (by rw [← names]; simp [Script.judgeBy])
      rw [List.length_cons, List.range'_succ, List.foldl_cons, visit_behind names]
      simpa using others

end Pass

namespace Server

variable (parser : JavaScript.ScriptParser) (settings : Settings) (server : Server)

/-- A pass over the scripts of a server, from the first to the last. -/
def pass : Pass :=
  (List.range server.scripts.length).foldl (Pass.visit parser settings server.hostname)
    ⟨server.scripts, [], []⟩

/-- A pass over the scripts comes to their judgements. -/
theorem pass_eq : server.pass parser settings =
    Pass.behind settings server.hostname (server.migrateBy parser settings).judgements [] := by
  have whole := @Pass.foldl_visit_behind parser settings server.hostname [] server.scripts
    server.names rfl
  rw [List.length_nil, ← List.range_eq_range'] at whole
  exact whole

/-! ## The effect of a migration -/

/-- The scripts that a migration changes, in order. -/
def changing : List Script :=
  server.scripts.filter (Script.isChangedBy parser settings server.names)

/-- The last one of the scripts that a migration changes and whose backup is the
file of that name. -/
def original? (name : Text) : Option Script :=
  (server.changing parser settings).reverse.find? fun script =>
    Path.sameFile (Path.backupName script.name settings.backupFolder) name

/-- What a migration does to a server: the entries that it reports, and the server
behind it. -/
structure IsEffect (entries : List Entry) (after : Server) : Prop where
  hostname_eq : after.hostname = server.hostname
  /-- There is one entry for each script to migrate, in order. -/
  reported : List.Forall₂ (Script.IsReported parser server.names server.hostname)
    (server.scripts.filter (Script.isMigrated settings)) entries
  /-- A script to migrate stands where it was, with the text of its own revision. -/
  converted : ∀ earlier script later, server.scripts = earlier ++ script :: later →
    script.isMigrated settings = true →
      after.scripts[earlier.length]? = some { script with code := script.convertBy parser server.names }
  /-- Of the other scripts, the first one that is the backup of scripts that change has
  the text of the last of them. -/
  overwritten : ∀ earlier script later original, server.scripts = earlier ++ script :: later →
    script.isMigrated settings = false → server.original? parser settings script.name = some original →
      (∀ other ∈ earlier, Path.sameFile other.name script.name = false) →
        after.scripts[earlier.length]? = some { script with code := original.code }
  /-- All others stay as they are. -/
  kept : ∀ earlier script later, server.scripts = earlier ++ script :: later →
    script.isMigrated settings = false →
      (server.original? parser settings script.name = none ∨
        ∃ other ∈ earlier, Path.sameFile other.name script.name = true) →
        after.scripts[earlier.length]? = some script
  /-- Behind them come the backups for which there was no script, each name once, in
  the order in which the scripts that change call for them first. -/
  added : (after.scripts.drop server.scripts.length).map Script.name =
    ((server.changing parser settings).map
      fun script => Path.backupName script.name settings.backupFolder).eraseDups.filter
        fun name => (server.find? name).isNone
  /-- Each has the text of the last script that changes with that backup. -/
  added_code : ∀ backup ∈ after.scripts.drop server.scripts.length,
    backup.hostname = server.hostname ∧
      (server.original? parser settings backup.name).map Script.code = some backup.code
  /-- So the first script that is the backup of one that changes has the text of the
  last one with that backup. -/
  backed_up : ∀ script ∈ server.changing parser settings,
    ∃ stored original,
      after.find? (Path.backupName script.name settings.backupFolder) = some stored ∧
        server.original? parser settings (Path.backupName script.name settings.backupFolder) =
          some original ∧ stored.code = original.code

variable {parser settings server}

/-- The backups are those of the scripts that change, one for each name. -/
theorem backups_migrateBy :
    (server.migrateBy parser settings).backups =
      ((server.changing parser settings).map (Script.backup settings server.hostname)).foldl
        Script.keep [] := by
  have called : ∀ scripts : List Script,
      (scripts.map (Script.judgeBy parser settings server.names)).filterMap
          (Judgement.backup? settings server.hostname) =
        (scripts.filter (Script.isChangedBy parser settings server.names)).map
          (Script.backup settings server.hostname) := by
    intro scripts
    induction scripts with
    | nil => rfl
    | cons script scripts inductionHypothesis =>
        rw [List.map_cons, List.filterMap_cons, Script.backup?_judgeBy, inductionHypothesis,
          List.filter_cons]
        cases script.isChangedBy parser settings server.names <;> rfl
  exact congrArg (List.foldl Script.keep []) (called server.scripts)

theorem nodup_backups_migrateBy :
    ((server.migrateBy parser settings).backups.map Script.key).Nodup := by
  rw [backups_migrateBy]
  exact Script.nodup_map_key_foldl Script.map_key_keep List.nodup_nil

/-- The backup of a name is that of the last script that changes with it. -/
theorem ofKey?_backups (name : Text) :
    Script.ofKey? (server.migrateBy parser settings).backups (Path.rooted name) =
      (server.original? parser settings name).map (Script.backup settings server.hostname) := by
  rw [backups_migrateBy, Script.ofKey?_foldl_keep, ← List.map_reverse, Script.ofKey?,
    List.find?_map]
  rfl

/-- A script that is migrated is the backup of none. -/
theorem original?_eq_none {script : Script} (migrated : script.isMigrated settings = true) :
    server.original? parser settings script.name = none := by
  rw [original?, List.find?_eq_none]
  intro other _ same
  have isBackup := Path.isBackup_backupName other.name settings.backupFolder
  rw [Path.isBackup_congr (beq_iff_eq.mp same)] at isBackup
  rw [Script.isMigrated, isBackup] at migrated
  simp at migrated

/-- What stands in the place of a script after the migration. -/
theorem getElem?_after {earlier later : List Script} {script : Script}
    (whole : server.scripts = earlier ++ script :: later) :
    (server.migrateBy parser settings).after.scripts[earlier.length]? =
      some (if script.key ∈ earlier.map Script.key then
          (script.judgeBy parser settings server.names).after
        else (script.judgeBy parser settings server.names).after.withCodeOf
          ((server.original? parser settings script.name).map
            (Script.backup settings server.hostname))) := by
  have split : (server.migrateBy parser settings).judgements.map Judgement.after =
      (earlier.map fun other => (other.judgeBy parser settings server.names).after) ++
        (script.judgeBy parser settings server.names).after ::
          later.map fun other => (other.judgeBy parser settings server.names).after := by
    simp [migrateBy, whole, Function.comp_def]
  have keys : (earlier.map fun other =>
      (other.judgeBy parser settings server.names).after).map Script.key =
        earlier.map Script.key := by
    rw [List.map_map]
    exact List.map_congr_left fun other _ => key_after _
  have place := Script.getElem?_foldl_store (@nodup_backups_migrateBy parser settings server)
    (earlier.map fun other => (other.judgeBy parser settings server.names).after)
    (later.map fun other => (other.judgeBy parser settings server.names).after)
    (script.judgeBy parser settings server.names).after
  rw [List.length_map, ← split, keys, key_after] at place
  rw [← ofKey?_backups]
  exact place

/-- Behind the scripts stand the backups that are the file of none of them. -/
theorem drop_after :
    (server.migrateBy parser settings).after.scripts.drop server.scripts.length =
      (server.migrateBy parser settings).backups.filter
        fun backup => backup.key ∉ server.scripts.map Script.key := by
  have behind := Script.drop_foldl_store (@nodup_backups_migrateBy parser settings server)
    ((server.migrateBy parser settings).judgements.map Judgement.after)
  rw [map_key_after, List.length_map] at behind
  have lengthEq : (server.migrateBy parser settings).judgements.length = server.scripts.length :=
    List.length_map _
  rwa [lengthEq] at behind

theorem mem_backups_migrateBy {backup : Script}
    (member : backup ∈ (server.migrateBy parser settings).backups) :
    ∃ script ∈ server.changing parser settings, script.backup settings server.hostname = backup := by
  have distinct := @nodup_backups_migrateBy parser settings server
  rw [backups_migrateBy] at member distinct
  exact List.mem_map.mp (Script.mem_of_mem_foldl_keep distinct member)

/-- The name of a backup has its slash. -/
theorem key_of_mem_backups {backup : Script}
    (member : backup ∈ (server.migrateBy parser settings).backups) : backup.key = backup.name := by
  rcases mem_backups_migrateBy member with ⟨script, _, rfl⟩
  exact key_backup settings server.hostname script

/-- The names of the backups are kept in the order in which the scripts that change
call for them first. -/
theorem map_key_backups_migrateBy :
    (server.migrateBy parser settings).backups.map Script.key =
      ((server.changing parser settings).map
        fun script => Path.backupName script.name settings.backupFolder).eraseDups := by
  rw [backups_migrateBy, Script.map_key_foldl_keep, List.map_map]
  exact congrArg List.eraseDups
    (List.map_congr_left fun script _ => key_backup settings server.hostname script)

/-- Each backup is that of the last script that changes with its name. -/
theorem exists_original_of_mem_backups {backup : Script}
    (member : backup ∈ (server.migrateBy parser settings).backups) :
    ∃ original, server.original? parser settings backup.name = some original ∧
      original.backup settings server.hostname = backup := by
  have found := Script.ofKey?_eq_some_of_mem nodup_backups_migrateBy member
  have told := @ofKey?_backups parser settings server backup.name
  change Script.ofKey? _ backup.key = _ at told
  rw [found] at told
  exact Option.map_eq_some_iff.mp told.symm

theorem key_mem_map_iff {script : Script} {scripts : List Script} :
    script.key ∈ scripts.map Script.key ↔
      ∃ other ∈ scripts, Path.sameFile other.name script.name = true := by
  simp only [List.mem_map, Script.sameFile_iff]

/-- There is an entry for each script to migrate. -/
theorem reported_migrateBy :
    List.Forall₂ (Script.IsReported parser server.names server.hostname)
      (server.scripts.filter (Script.isMigrated settings))
      (server.migrateBy parser settings).entries := by
  rw [ServerMigration.entries, migrateBy]
  dsimp only
  generalize server.names = known
  induction server.scripts with
  | nil => exact List.Forall₂.nil
  | cons script scripts inductionHypothesis =>
      rw [List.filter_cons, List.map_cons, List.filterMap_cons]
      cases migrated : script.isMigrated settings with
      | false =>
          rw [Script.entry?_judgeBy_eq_none migrated]
          exact inductionHypothesis
      | true =>
          rcases Script.exists_entry_judgeBy server.hostname migrated with ⟨entry, told, reported⟩
          rw [told]
          exact List.Forall₂.cons reported inductionHypothesis

/-- A migration has the effect that is told script by script. -/
theorem isEffect_migrateBy (parser : JavaScript.ScriptParser) (settings : Settings)
    (server : Server) :
    server.IsEffect parser settings (server.migrateBy parser settings).entries
      (server.migrateBy parser settings).after where
  hostname_eq := rfl
  reported := reported_migrateBy
  converted := by
    intro earlier script later whole migrated
    rw [getElem?_after whole, original?_eq_none migrated, Option.map_none, Script.withCodeOf_none,
      ite_self, Script.after_judgeBy, if_pos migrated]
  overwritten := by
    intro earlier script later original whole other found first
    have absent : script.key ∉ earlier.map Script.key := by
      rw [key_mem_map_iff]
      rintro ⟨one, member, same⟩
      rw [first one member] at same
      cases same
    have unchanged : ¬script.isMigrated settings = true := by simp [other]
    rw [getElem?_after whole, if_neg absent, found, Script.after_judgeBy, if_neg unchanged]
    rfl
  kept := by
    intro earlier script later whole other present
    have unchanged : ¬script.isMigrated settings = true := by simp [other]
    rw [getElem?_after whole, Script.after_judgeBy, if_neg unchanged]
    rcases present with none | found
    · rw [none, Option.map_none, Script.withCodeOf_none, ite_self]
    · rw [if_pos (key_mem_map_iff.mpr found)]
  added := by
    rw [drop_after, ← map_key_backups_migrateBy, List.filter_map]
    have named : ∀ backup ∈ (server.migrateBy parser settings).backups,
        ((fun name => (server.find? name).isNone) ∘ Script.key) backup =
          decide (backup.key ∉ server.scripts.map Script.key) := by
      intro backup member
      rw [Function.comp_apply]
      have rooted : Path.rooted backup.key = backup.key := Path.rooted_rooted backup.name
      have found : server.find? backup.key = Script.ofKey? server.scripts (Path.rooted backup.key) :=
        rfl
      rw [found, rooted, Bool.eq_iff_iff, Option.isNone_iff_eq_none, Script.ofKey?_eq_none_iff,
        decide_eq_true_iff]
    rw [List.filter_congr named]
    exact List.map_congr_left fun backup member =>
      (key_of_mem_backups (List.mem_of_mem_filter member)).symm
  added_code := by
    intro backup member
    rw [drop_after] at member
    rcases exists_original_of_mem_backups (List.mem_of_mem_filter member) with
      ⟨original, found, rfl⟩
    exact ⟨rfl, by rw [found]; rfl⟩
  backed_up := by
    intro script member
    have called : Path.backupName script.name settings.backupFolder ∈
        (server.migrateBy parser settings).backups.map Script.key := by
      rw [map_key_backups_migrateBy, List.mem_eraseDups]
      exact List.mem_map_of_mem member
    rcases List.mem_map.mp called with ⟨backup, backupMember, keyEq⟩
    rcases exists_original_of_mem_backups backupMember with ⟨original, last, rfl⟩
    rcases Script.exists_ofKey?_foldl_store nodup_backups_migrateBy backupMember
      ((server.migrateBy parser settings).judgements.map Judgement.after) with ⟨stored, found, code⟩
    rw [key_of_mem_backups backupMember] at keyEq
    refine ⟨stored, original, ?_, keyEq ▸ last, code⟩
    rw [← keyEq]
    exact found

/-! ## Scripts that fail -/

section Failures

variable {known : Known} {importer source : Text} {error : RevisionError}

/-- A script whose imports stand in order fails only if its imports cannot be told. -/
theorem exists_failure_of_orderly
    (orderly : ∀ sites, surveyBy parser source = .ok sites → Orderly source sites)
    (refused : reviseBy parser known importer source = .error error) :
    ∃ failure, surveyBy parser source = .error failure ∧ error = .survey failure := by
  cases surveyed : surveyBy parser source with
  | error failure =>
      rw [reviseBy, surveyed] at refused
      exact ⟨failure, rfl, (Except.error.inj refused).symm⟩
  | ok sites =>
      rcases exists_reviseBy known importer surveyed (orderly sites surveyed) with
        ⟨revision, revised⟩
      cases refused.symm.trans revised

/-- A script whose tree is drawn as the grammar draws it fails only if it is no module. -/
theorem exists_failure_of_isDrawnBy (drawn : isDrawnBy parser source = true)
    (short : source.length ≤ TextRange.greatestLength)
    (refused : reviseBy parser known importer source = .error error) :
    ∃ failure, surveyBy parser source = .error (.parse failure) ∧
      error = .survey (.parse failure) := by
  rcases exists_orderly_of_isDrawnBy drawn short with ⟨failure, failed⟩ | ⟨sites, surveyed, orderly⟩
  · rw [reviseBy, failed] at refused
    exact ⟨failure, failed, (Except.error.inj refused).symm⟩
  · rcases exists_reviseBy known importer surveyed orderly with ⟨revision, revised⟩
    cases refused.symm.trans revised

end Failures

/-- A pass over the scripts of a server that changes them in their places, with the
backups stored behind it, comes to what the migration of the server comes to: the
effect that is told script by script, whatever the other scripts are.  A script whose
imports stand in order fails only if they cannot be told, and one whose tree is drawn as
the grammar draws it only if it is no module. -/
theorem migrateBy_effect (parser : JavaScript.ScriptParser) (settings : Settings)
    (server : Server) :
    let pass := server.pass parser settings
    let after := { server with scripts := pass.backups.foldl Script.store pass.scripts }
    (server.migrateBy parser settings).entries = pass.entries ∧
      (server.migrateBy parser settings).after = after ∧
      server.IsEffect parser settings pass.entries after ∧
      ∀ script ∈ server.scripts, ∀ error,
        reviseBy parser server.names script.name script.code = .error error →
          ((∀ sites, surveyBy parser script.code = .ok sites → Orderly script.code sites) →
            ∃ failure, surveyBy parser script.code = .error failure ∧
              error = .survey failure) ∧
          (isDrawnBy parser script.code = true →
            script.code.length ≤ TextRange.greatestLength →
              ∃ failure, surveyBy parser script.code = .error (.parse failure) ∧
                error = .survey (.parse failure) ∧ error.message = failure.message) := by
  intro pass after
  have passEq : pass = _ := pass_eq parser settings server
  have entries : (server.migrateBy parser settings).entries = pass.entries := by
    rw [passEq]
    rfl
  have servers : (server.migrateBy parser settings).after = after := by
    change _ = { server with scripts := pass.backups.foldl Script.store pass.scripts }
    rw [passEq]
    simp [Pass.behind, ServerMigration.after, ServerMigration.backups, migrateBy]
  have effect := isEffect_migrateBy parser settings server
  rw [entries, servers] at effect
  refine ⟨entries, servers, effect, fun script _ error refused => ⟨fun orderly => ?_, ?_⟩⟩
  · exact exists_failure_of_orderly orderly refused
  · intro drawn short
    rcases exists_failure_of_isDrawnBy drawn short refused with ⟨failure, surveyed, rfl⟩
    exact ⟨failure, surveyed, rfl, rfl⟩

/-- The script that changes has its text stored in the place of its old backup, and the
one with a `return` outside functions is no module. -/
theorem migrateBy_effect_backup :
    let server : Server := ⟨text "h",
      [⟨text "a.js", text "import './b.js';\nlet x = 1;\n", text "h"⟩,
        ⟨text "b.js", text "import './a.js';\nreturn;\n", text "h"⟩,
        ⟨text "BACKUP/a.js", text "import './c.js';", text "g"⟩]⟩
    let migration := server.migrateBy JavaScript.parse? .default
    migration.after.scripts[2]? =
        some ⟨text "BACKUP/a.js", text "import './b.js';\nlet x = 1;\n", text "g"⟩ ∧
      ∃ failure, surveyBy JavaScript.parse? (text "import './a.js';\nreturn;\n") =
        .error (.parse failure) := by
  intro server migration
  rcases migrateBy_effect JavaScript.parse? .default server with ⟨_, after, effect, failures⟩
  constructor
  · rw [after]
    exact effect.overwritten (server.scripts.take 2) _ []
      ⟨text "a.js", text "import './b.js';\nlet x = 1;\n", text "h"⟩ rfl (by decide +kernel)
      (by decide +kernel) (by decide +kernel)
  · have facts : (reviseBy JavaScript.parse? server.names (text "b.js")
          (text "import './a.js';\nreturn;\n")).isOk = false ∧
        isDrawnBy JavaScript.parse? (text "import './a.js';\nreturn;\n") = true := by
      decide +kernel
    cases revised : reviseBy JavaScript.parse? server.names (text "b.js")
        (text "import './a.js';\nreturn;\n") with
    | ok revision =>
        rw [revised] at facts
        cases facts.1
    | error error =>
        rcases (failures ⟨text "b.js", text "import './a.js';\nreturn;\n", text "h"⟩
          (by decide +kernel) error revised).2 facts.2 (by decide +kernel) with
          ⟨failure, surveyed, _⟩
        exact ⟨failure, surveyed⟩

end Server

end Respecify
