import Respecify.Proofs.Import.Place
import Respecify.Proofs.Import.Resolution
import Respecify.Proofs.Migration.Difference
import Respecify.Tool.Revise

/-!
# The tool for one script and the migration of its server

The tool knows the script itself first and the other names as they are told to it, and
it says whether there are edits.  The migration of a server knows the names in the order
of the server, and it looks whether the texts differ.  Where no two names are of one
module, the two agree on every script that is migrated.
-/

namespace Respecify

variable {parser : JavaScript.ScriptParser} {settings : Settings}

/-! ## One revision -/

/-- What a revision comes to depends on which names are known, not on their order. -/
theorem reviseBy_congr {known others : Known} {importer source : Text}
    (same : ∀ name, name ∈ known ↔ name ∈ others)
    (distinct : (known.map Path.modulePath).Nodup) :
    reviseBy parser known importer source = reviseBy parser others importer source := by
  unfold reviseBy Revision.ofSites
  simp only [Known.ofSites_congr same distinct]

/-- A script whose tree is drawn as the grammar draws it is no module, or it has a
revision, which has edits exactly if it changes the text. -/
theorem reviseBy_of_isDrawnBy (known : Known) (importer : Text) {source : Text}
    (drawn : isDrawnBy parser source = true) (short : source.length ≤ TextRange.greatestLength) :
    (∃ failure, reviseBy parser known importer source = .error (.survey (.parse failure))) ∨
      ∃ revision, reviseBy parser known importer source = .ok revision ∧
        (revision.isChanged = true ↔ revision.code ≠ source) := by
  rcases exists_orderly_of_isDrawnBy drawn short with ⟨failure, failed⟩ | ⟨sites, surveyed, orderly⟩
  · left
    rw [reviseBy, failed]
    exact ⟨failure, rfl⟩
  · right
    rcases exists_reviseBy known importer surveyed orderly with
      ⟨revision, revised⟩
    refine ⟨revision, revised, isChanged_iff_code_ne surveyed (fun site member => ?_) revised⟩
    exact (Bool.and_eq_true_iff.mp (orderly.declared site member)).1

/-! ## One entry of a report -/

theorem Judgement.name_of_entry? {judgement : Judgement} {hostname : Text} {entry : Entry}
    (told : judgement.entry? hostname = some entry) : entry.name = judgement.script.name := by
  unfold entry? at told
  split at told <;> cases told <;> rfl

namespace Script.IsReported

variable {known : Known} {hostname : Text} {script : Script} {entry : Entry}

/-- The entry of a script that cannot be revised tells why. -/
theorem of_error {error : RevisionError}
    (reported : script.IsReported parser known hostname entry)
    (failed : reviseBy parser known script.name script.code = .error error) :
    entry.status = .failed ∧ entry.reason = some error.message := by
  cases reported with
  | failed refused =>
      cases refused.symm.trans failed
      exact ⟨rfl, rfl⟩
  | unchanged revised keeps => cases revised.symm.trans failed
  | changed revised differs => cases revised.symm.trans failed

/-- The entry of a script that has a revision tells whether there are edits. -/
theorem status_of_ok {revision : Revision}
    (reported : script.IsReported parser known hostname entry)
    (revised : reviseBy parser known script.name script.code = .ok revision)
    (edited : revision.isChanged = true ↔ revision.code ≠ script.code) :
    entry.status = if revision.isChanged then .changed else .unchanged := by
  cases reported with
  | failed refused => cases refused.symm.trans revised
  | unchanged answered keeps =>
      cases answered.symm.trans revised
      rw [if_neg (mt edited.mp (not_not.mpr keeps))]
  | changed answered differs =>
      cases answered.symm.trans revised
      rw [if_pos (edited.mpr differs)]

end Script.IsReported

namespace Server

variable {server : Server} {earlier later : List Script} {script : Script}

/-- Where no two scripts have one name, the report has no entries of that name but the
one that the script gives rise to. -/
theorem filter_entries_migrateBy (parser : JavaScript.ScriptParser) (settings : Settings)
    (distinct : server.names.Nodup)
    (whole : server.scripts = earlier ++ script :: later) :
    (server.migrateBy parser settings).entries.filter (fun entry => entry.name = script.name) =
      (Judgement.entry? server.hostname
        (script.judgeBy parser settings server.names)).toList := by
  have others : ∀ scripts : List Script, script.name ∉ scripts.map Script.name →
      ((scripts.map (Script.judgeBy parser settings server.names)).filterMap
        (Judgement.entry? server.hostname)).filter (fun entry => entry.name = script.name) =
          [] := by
    intro scripts absent
    rw [List.filter_eq_nil_iff]
    intro entry member same
    rcases List.mem_filterMap.mp member with ⟨judgement, judged, told⟩
    rcases List.mem_map.mp judged with ⟨other, isOther, rfl⟩
    have name : entry.name = other.name := Judgement.name_of_entry? told
    refine absent (List.mem_map.mpr ⟨other, isOther, ?_⟩)
    rw [← name, of_decide_eq_true same]
  rw [names, whole, List.map_append, List.map_cons, List.nodup_middle, List.nodup_cons,
    List.mem_append, not_or] at distinct
  have entries : (server.migrateBy parser settings).entries =
      (server.scripts.map (Script.judgeBy parser settings server.names)).filterMap
        (Judgement.entry? server.hostname) := rfl
  rw [entries, whole, List.map_append, List.map_cons, List.filterMap_append, List.filterMap_cons,
    List.filter_append, others earlier distinct.1.1, List.nil_append]
  cases told : Judgement.entry? server.hostname (script.judgeBy parser settings server.names) with
  | none => exact others later distinct.1.2
  | some entry =>
      have name : entry.name = script.name := Judgement.name_of_entry? told
      dsimp only
      rw [List.filter_cons_of_pos (by simpa using name), others later distinct.1.2]
      rfl

end Server

namespace Tool

/-! ## The tool and the batch -/

/-- The tool knows the names on the server if it is told all of them but that of the
script itself, which it may be told or not. -/
theorem mem_knownTo_iff {known : Known} {name : Text} {others : List Text}
    (distinct : (known.map Path.modulePath).Nodup)
    (same : ∀ other, other ∈ known ↔ other ∈ others ∨ other = name) (other : Text) :
    other ∈ known ↔ other ∈ knownTo name others := by
  rw [knownTo, List.mem_cons, List.mem_filter, Bool.not_eq_true', same]
  constructor
  · rintro (isOther | isName)
    · cases twin : Path.sameFile other name with
      | false => exact Or.inr ⟨isOther, rfl⟩
      | true =>
          left
          exact List.inj_on_of_nodup_map distinct ((same other).mpr (Or.inl isOther))
            ((same name).mpr (Or.inr rfl)) (Path.modulePath_eq_of_sameFile twin)
    · exact Or.inl isName
  · rintro (isName | ⟨isOther, _⟩)
    · exact Or.inr isName
    · exact Or.inl isOther

/-- An answer of the tool says of a script what a report says of it, and gives the text
that a migration leaves in it. -/
structure ReviseAnswer.Agrees (answer : ReviseAnswer) (entry : Entry) (left : Script) : Prop where
  /-- The tool fails exactly where the report has a failure. -/
  failed : (∃ message, answer = .failed message) ↔ entry.status = .failed
  /-- It fails for the reason that the report tells. -/
  reason : ∀ message, answer = .failed message → entry.reason = some message
  /-- It changes the script exactly where the report has a change. -/
  changed : (∃ revision, answer = .revised revision ∧ revision.isChanged = true) ↔
    entry.status = .changed
  /-- Its text is the text of the script on the server afterwards. -/
  code : ∀ revision, answer = .revised revision → revision.code = left.code

theorem ReviseAnswer.Agrees.of_failed {message : Text} {entry : Entry} {left : Script}
    (status : entry.status = .failed) (reason : entry.reason = some message) :
    (ReviseAnswer.failed message).Agrees entry left where
  failed := ⟨fun _ => status, fun _ => ⟨message, rfl⟩⟩
  reason := fun _ same => by rw [reason, ReviseAnswer.failed.inj same]
  changed := by simp [status]
  code := fun _ same => nomatch same

theorem ReviseAnswer.Agrees.of_revised {revision : Revision} {entry : Entry} {left : Script}
    (status : entry.status = if revision.isChanged then .changed else .unchanged)
    (code : revision.code = left.code) : (ReviseAnswer.revised revision).Agrees entry left where
  failed := by cases changed : revision.isChanged <;> simp [status, changed]
  reason := fun _ same => nomatch same
  changed := by cases changed : revision.isChanged <;> simp [status, changed]
  code := fun _ same => by rw [← ReviseAnswer.revised.inj same, code]

/-- The tool for one script agrees with the migration of the server of that script, if no
two names on the server are of one module and the tool is told those names, in whatever
order and how often it may be, with the name of the script itself or without it. -/
theorem reviseScriptBy_agrees {server : Server} {earlier later : List Script} {script : Script}
    {others : List Text} (distinct : (server.names.map Path.modulePath).Nodup)
    (whole : server.scripts = earlier ++ script :: later)
    (migrated : script.isMigrated settings = true)
    (same : ∀ name, name ∈ server.names ↔ name ∈ others ∨ name = script.name)
    (drawn : isDrawnBy parser script.code = true)
    (short : script.code.length ≤ TextRange.greatestLength) :
    let migration := server.migrateBy parser settings
    ∃ answer entry left,
      reviseScriptBy parser script.name script.code others = .ok answer ∧
        migration.entries.filter (fun entry => entry.name = script.name) = [entry] ∧
        migration.after.scripts[earlier.length]? = some left ∧ left.name = script.name ∧
        answer.Agrees entry left := by
  intro migration
  have revises : reviseBy parser (knownTo script.name others) script.name script.code =
      reviseBy parser server.names script.name script.code :=
    (reviseBy_congr (mem_knownTo_iff distinct same) distinct).symm
  have answers := reviseBy_of_isDrawnBy server.names script.name drawn short
  rcases @Script.exists_entry_judgeBy parser settings server.names script server.hostname
    migrated with ⟨entry, told, reported⟩
  have entries := Server.filter_entries_migrateBy parser settings
    (List.Nodup.of_map _ distinct) whole
  rw [told] at entries
  have left := (Server.isEffect_migrateBy parser settings server).converted earlier script later
    whole migrated
  unfold reviseScriptBy
  rw [revises]
  rcases answers with ⟨failure, failed⟩ | ⟨revision, revised, edited⟩
  · rcases reported.of_error failed with ⟨status, reason⟩
    rw [failed]
    exact ⟨_, entry, _, rfl, entries, left, rfl, .of_failed status reason⟩
  · have status := reported.status_of_ok revised edited
    rw [revised]
    refine ⟨_, entry, _, rfl, entries, left, rfl, .of_revised status ?_⟩
    rw [Script.convertBy, revised]
    rfl

/-- The tool is told the names on a server backwards, one of them twice and without that
of the script itself.  It changes one import and warns of the other, like the batch. -/
theorem reviseScriptBy_agrees_backwards :
    let code := text "import './lib/util';\nimport './gone';\n"
    let server : Server := ⟨text "home", [⟨text "lib/util.js", [], text "home"⟩,
      ⟨text "m.js", code, text "home"⟩, ⟨text "a.ns", [], text "home"⟩]⟩
    let others := [text "a.ns", text "lib/util.js", text "a.ns"]
    let migration := server.migrateBy JavaScript.parse? .default
    ∃ revision entry left,
      reviseScriptBy JavaScript.parse? (text "m.js") code others = .ok (.revised revision) ∧
        revision.code = Banner.block (text "import './lib/util';") ++
          text "import '/lib/util.js';\n" ++ Warning.block ++ text "import './gone';\n" ∧
        migration.entries.filter (fun entry => entry.name = text "m.js") = [entry] ∧
        entry.status = .changed ∧
        migration.after.scripts[1]? = some left ∧ left.code = revision.code := by
  have turned : ∀ first own last name : Text,
      name ∈ [first, own, last] ↔ name ∈ [last, first, last] ∨ name = own := by
    intro first own last name
    simp only [List.mem_cons, List.not_mem_nil, or_false]
    tauto
  intro code server others migration
  have drawn : isDrawnBy JavaScript.parse? code = true := by decide +kernel
  have revised : (reviseBy JavaScript.parse? (knownTo (text "m.js") others) (text "m.js")
      code).toOption.map (fun revision => (revision.isChanged, revision.code)) =
      some (true, Banner.block (text "import './lib/util';") ++
        text "import '/lib/util.js';\n" ++ Warning.block ++ text "import './gone';\n") := by
    decide +kernel
  have same : ∀ name, name ∈ server.names ↔ name ∈ others ∨ name = text "m.js" :=
    turned (text "lib/util.js") (text "m.js") (text "a.ns")
  rcases @reviseScriptBy_agrees JavaScript.parse? .default server (server.scripts.take 1)
      (server.scripts.drop 2) ⟨text "m.js", code, text "home"⟩ others (by decide +kernel) rfl
      (by decide +kernel) same drawn (by decide +kernel) with
    ⟨answer, entry, left, answered, entries, placed, _, agrees⟩
  rw [show (server.scripts.take 1).length = 1 from rfl] at placed
  cases given : reviseBy JavaScript.parse? (knownTo (text "m.js") others) (text "m.js") code with
  | error error =>
      rw [given] at revised
      cases revised
  | ok revision =>
      rw [given] at revised
      rcases Prod.mk.inj (Option.some.inj revised) with ⟨filled, texts⟩
      have told : reviseScriptBy JavaScript.parse? (text "m.js") code others =
          .ok (.revised revision) := by
        rw [reviseScriptBy, given]
      obtain rfl : ReviseAnswer.revised revision = answer :=
        Except.ok.inj (told.symm.trans answered)
      exact ⟨revision, entry, left, told, texts, entries,
        agrees.changed.mp ⟨revision, rfl, filled⟩, placed, (agrees.code revision rfl).symm⟩

end Tool

end Respecify
