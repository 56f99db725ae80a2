import Mathlib.Data.List.Induction
import Respecify.Migration.Migrator

/-!
# Calls of a migrator

A migrator is called any number of times, and between the calls its script may get
another text.  It is never found at work, and its progress is that of its result.  Runs
that fail leave no trace.  The first one that does not fail revises the text that the
script has then, and all later ones give its revision again.
-/

namespace Respecify

/-- A script that was revised has changed or has not. -/
theorem Revision.progress_cases (revision : Revision) :
    revision.progress = .unchanged ∨ revision.progress = .changed := by
  unfold progress
  split <;> simp

namespace Migrator

variable {parser : JavaScript.ScriptParser} {migrator : Migrator} {revision : Revision}
  {error : RevisionError}

/-! ## Between two calls -/

/-- No call is under way: the progress is that of the result, and without a result there
is none. -/
def IsAtRest (migrator : Migrator) : Prop :=
  migrator.progress = (migrator.result.map Revision.progress).getD .pending

theorem isAtRest_start (importer code : Text) (known : Known) :
    (start importer code known).IsAtRest :=
  rfl

namespace IsAtRest

variable (rests : migrator.IsAtRest)

include rests

theorem progress_eq (kept : migrator.result = some revision) :
    migrator.progress = revision.progress := by
  rw [rests, kept]
  rfl

theorem pending_iff : migrator.progress = .pending ↔ migrator.result = none := by
  cases kept : migrator.result with
  | none =>
      rw [rests, kept]
      simp
  | some revision =>
      rw [rests.progress_eq kept]
      rcases revision.progress_cases with same | same <;> simp [same]

theorem progress_ne_working : migrator.progress ≠ .working := by
  cases kept : migrator.result with
  | none => simp [rests.pending_iff.mpr kept]
  | some revision =>
      rw [rests.progress_eq kept]
      rcases revision.progress_cases with same | same <;> simp [same]

end IsAtRest

/-! ## One run -/

theorem runBy_of_result (kept : migrator.result = some revision) :
    migrator.runBy parser = (.ok revision, migrator) := by
  rw [runBy, kept]

theorem runBy_of_none (unrevised : migrator.result = none) :
    migrator.runBy parser =
      (reviseBy parser migrator.known migrator.importer migrator.code,
        migrator.begin.finish
          (reviseBy parser migrator.known migrator.importer migrator.code)) := by
  rw [runBy, unrevised]
  rfl

/-- A migrator that begins and fails is back where it was. -/
theorem begin_finish_error (rests : migrator.IsAtRest) (unrevised : migrator.result = none)
    (error : RevisionError) : migrator.begin.finish (.error error) = migrator := by
  have pending := rests.pending_iff.mpr unrevised
  rw [begin, finish, ← pending]

/-- What a run can do: give the result again, keep a first result, or fail. -/
theorem runBy_cases (parser : JavaScript.ScriptParser) (rests : migrator.IsAtRest) :
    (∃ revision, migrator.result = some revision ∧
        migrator.runBy parser = (.ok revision, migrator)) ∨
      migrator.result = none ∧
        ((∃ revision, migrator.runBy parser = (.ok revision,
            { migrator with progress := revision.progress, result := some revision })) ∨
          ∃ error, migrator.runBy parser = (.error error, migrator)) := by
  cases kept : migrator.result with
  | some revision => exact Or.inl ⟨revision, rfl, runBy_of_result kept⟩
  | none =>
      right
      refine ⟨rfl, ?_⟩
      rw [runBy_of_none kept]
      cases reviseBy parser migrator.known migrator.importer migrator.code with
      | ok revision => exact Or.inl ⟨revision, rfl⟩
      | error error =>
          right
          exact ⟨error, by rw [begin_finish_error rests kept]⟩

/-- A run that fails leaves the migrator as it was. -/
theorem runBy_of_failed (rests : migrator.IsAtRest)
    (failed : (migrator.runBy parser).1 = .error error) :
    (migrator.runBy parser).2 = migrator := by
  rcases runBy_cases parser rests with ⟨_, _, ran⟩ | ⟨_, ⟨_, ran⟩ | ⟨_, ran⟩⟩
  · rw [ran]
  · rw [ran] at failed
    cases failed
  · rw [ran]

/-- A run that does not fail leaves its answer as the result. -/
theorem runBy_of_answered (rests : migrator.IsAtRest)
    (answered : (migrator.runBy parser).1 = .ok revision) :
    (migrator.runBy parser).2.result = some revision := by
  rcases runBy_cases parser rests with ⟨_, kept, ran⟩ | ⟨_, ⟨_, ran⟩ | ⟨_, ran⟩⟩
  · rw [ran] at answered ⊢
    rw [kept, Except.ok.inj answered]
  · rw [ran] at answered ⊢
    rw [Except.ok.inj answered]
  · rw [ran] at answered
    cases answered

/-! ## One call -/

/-- The text of the script after a call: only a change of the script changes it. -/
def Call.codeAfter (code : Text) : Call → Text
  | .run => code
  | .resolve _ _ => code
  | .setCode other => other

theorem IsAtRest.performBy (rests : migrator.IsAtRest) (call : Call) :
    (migrator.performBy parser call).IsAtRest := by
  cases call with
  | run =>
      rw [Migrator.performBy]
      rcases runBy_cases parser rests with ⟨_, _, ran⟩ | ⟨_, ⟨_, ran⟩ | ⟨_, ran⟩⟩
      · rwa [ran]
      · rw [ran]
        rfl
      · rwa [ran]
  | resolve source sites => exact rests
  | setCode code => exact rests

/-- A call leaves alone what the script is called and what is known. -/
theorem performBy_script (rests : migrator.IsAtRest) (call : Call) :
    (migrator.performBy parser call).importer = migrator.importer ∧
      (migrator.performBy parser call).known = migrator.known ∧
      (migrator.performBy parser call).code = call.codeAfter migrator.code := by
  cases call with
  | run =>
      rw [performBy]
      rcases runBy_cases parser rests with ⟨_, _, ran⟩ | ⟨_, ⟨_, ran⟩ | ⟨_, ran⟩⟩
      all_goals
        rw [ran]
        exact ⟨rfl, rfl, rfl⟩
  | resolve source sites => exact ⟨rfl, rfl, rfl⟩
  | setCode code => exact ⟨rfl, rfl, rfl⟩

/-- There is no result after a call if there was none before, unless the call is a run
that does not fail. -/
theorem performBy_result_eq_none_iff (rests : migrator.IsAtRest) (call : Call) :
    (migrator.performBy parser call).result = none ↔
      migrator.result = none ∧
        (call = .run → ∃ error, (migrator.runBy parser).1 = .error error) := by
  cases call with
  | run =>
      rw [performBy]
      rcases runBy_cases parser rests with
        ⟨_, kept, ran⟩ | ⟨unrevised, ⟨_, ran⟩ | ⟨_, ran⟩⟩
      · simp [ran, kept]
      · simp [ran]
      · simp [ran, unrevised]
  | resolve source sites => simp [performBy]
  | setCode code => simp [performBy, setCode]

theorem performBy_result (kept : migrator.result = some revision) (call : Call) :
    (migrator.performBy parser call).result = some revision := by
  cases call with
  | run => rwa [performBy, runBy_of_result kept]
  | resolve source sites => exact kept
  | setCode code => exact kept

/-! ## Sequences of calls -/

/-- The text of the script after calls. -/
def codeAfter (code : Text) (calls : List Call) : Text :=
  calls.foldl Call.codeAfter code

theorem performAllBy_append (parser : JavaScript.ScriptParser) (migrator : Migrator)
    (first second : List Call) :
    migrator.performAllBy parser (first ++ second) =
      (migrator.performAllBy parser first).performAllBy parser second :=
  List.foldl_append

theorem IsAtRest.performAllBy (rests : migrator.IsAtRest) (calls : List Call) :
    (migrator.performAllBy parser calls).IsAtRest := by
  induction calls generalizing migrator with
  | nil => exact rests
  | cons call calls inductionHypothesis => exact inductionHypothesis (rests.performBy call)

theorem performAllBy_script (rests : migrator.IsAtRest) (calls : List Call) :
    (migrator.performAllBy parser calls).importer = migrator.importer ∧
      (migrator.performAllBy parser calls).known = migrator.known ∧
      (migrator.performAllBy parser calls).code = codeAfter migrator.code calls := by
  induction calls generalizing migrator with
  | nil => exact ⟨rfl, rfl, rfl⟩
  | cons call calls inductionHypothesis =>
      obtain ⟨importer, known, code⟩ := @performBy_script parser _ rests call
      have later := inductionHypothesis (@IsAtRest.performBy parser _ rests call)
      rwa [importer, known, code] at later

/-- A result is kept. -/
theorem performAllBy_result (kept : migrator.result = some revision) (calls : List Call) :
    (migrator.performAllBy parser calls).result = some revision := by
  induction calls generalizing migrator with
  | nil => exact kept
  | cons call calls inductionHypothesis => exact inductionHypothesis (performBy_result kept call)

/-- There is no result as long as every run fails. -/
theorem performAllBy_result_eq_none_iff (rests : migrator.IsAtRest)
    (unrevised : migrator.result = none) (calls : List Call) :
    (migrator.performAllBy parser calls).result = none ↔
      ∀ before behind, calls = before ++ .run :: behind →
        ∃ error, ((migrator.performAllBy parser before).runBy parser).1 = .error error := by
  -- The last call decides, since a run is told of by the calls before it.
  induction calls using List.reverseRecOn with
  | nil => simp [performAllBy, unrevised]
  | append_singleton calls call inductionHypothesis =>
      have last : migrator.performAllBy parser (calls ++ [call]) =
          (migrator.performAllBy parser calls).performBy parser call :=
        performAllBy_append parser migrator calls [call]
      rw [last, performBy_result_eq_none_iff (rests.performAllBy calls), inductionHypothesis]
      constructor
      · rintro ⟨earlier, latest⟩ before behind split
        rcases behind.eq_nil_or_concat with rfl | ⟨behind, other, rfl⟩
        · obtain ⟨rfl, isRun⟩ := List.append_inj' split rfl
          exact latest (List.singleton_inj.mp isRun)
        · rw [List.concat_eq_append, ← List.cons_append, ← List.append_assoc] at split
          exact earlier before behind (List.append_inj' split rfl).1
      · intro each
        constructor
        · intro before behind split
          exact each before (behind ++ [call]) (by simp [split])
        · rintro rfl
          exact each calls [] rfl

/-! ## A new migrator -/

/-- The migrator that a new one is after calls, and what a run gives then. -/
structure IsAfter (parser : JavaScript.ScriptParser) (importer code : Text) (known : Known)
    (calls : List Call) (migrator : Migrator) : Prop where
  /-- It is not found at work. -/
  idle : migrator.progress ≠ .working
  /-- It is pending as long as it has no result. -/
  pending_iff : migrator.progress = .pending ↔ migrator.result = none
  /-- With a result its progress is that of the result. -/
  progress_eq : ∀ revision, migrator.result = some revision →
    migrator.progress = revision.progress
  /-- The text of the script is the one that it was given last. -/
  code_eq : migrator.code = codeAfter code calls
  /-- A run that fails leaves everything as it is. -/
  failed : ∀ error, (migrator.runBy parser).1 = .error error →
    (migrator.runBy parser).2 = migrator
  /-- If every run before has failed, a run revises the text that the script has now. -/
  first : (∀ before behind, calls = before ++ .run :: behind → ∃ error,
      (((start importer code known).performAllBy parser before).runBy parser).1 =
        .error error) →
    (migrator.runBy parser).1 = reviseBy parser known importer (codeAfter code calls)
  /-- If a run before has not failed, its revision is the result, and a run gives it
  again. -/
  later : ∀ before behind revision, calls = before ++ .run :: behind →
    (((start importer code known).performAllBy parser before).runBy parser).1 =
        .ok revision →
      migrator.result = some revision ∧ migrator.runBy parser = (.ok revision, migrator)

/-- A new migrator, called in any way, keeps to this. -/
theorem performAllBy_isAfter (parser : JavaScript.ScriptParser) (importer code : Text)
    (known : Known) (calls : List Call) :
    IsAfter parser importer code known calls
      ((start importer code known).performAllBy parser calls) := by
  have begins := isAtRest_start importer code known
  have rests := @IsAtRest.performAllBy parser _ begins calls
  obtain ⟨sameImporter, sameKnown, sameCode⟩ := @performAllBy_script parser _ begins calls
  have unrevised := @performAllBy_result_eq_none_iff parser _ begins rfl calls
  constructor
  · exact rests.progress_ne_working
  · exact rests.pending_iff
  · exact fun revision => rests.progress_eq
  · exact sameCode
  · exact fun error => runBy_of_failed rests
  · intro each
    rw [runBy_of_none (unrevised.mpr each), sameImporter, sameKnown, sameCode]
    rfl
  · rintro before behind revision rfl answered
    have kept := runBy_of_answered (begins.performAllBy before) answered
    have still : ((start importer code known).performAllBy parser
        (before ++ .run :: behind)).result = some revision := by
      rw [performAllBy_append]
      exact performAllBy_result kept behind
    exact ⟨still, runBy_of_result still⟩

/-- The first run fails.  The second one revises another text, and the third one gives
that revision again, though the script has the first text again by then. -/
theorem performAllBy_isAfter_recovered :
    let importer := text "m.js"
    let broken := text "import './b.js'; import"
    let valid := text "import './b.js';"
    let known : Known := [text "b.js"]
    let migrator := (start importer broken known).performAllBy JavaScript.parse?
      [.run, .setCode valid, .run, .setCode broken]
    (∃ error, (start importer broken known).run.1 = .error error) ∧
      ∃ revision, revise known importer valid = .ok revision ∧ migrator.code = broken ∧
        migrator.progress = .changed ∧ migrator.run = (.ok revision, migrator) := by
  intro importer broken valid known migrator
  have fails : (revise known importer broken).toOption.isNone = true := by decide +kernel
  have works : (revise known importer valid).toOption.map Revision.progress = some .changed := by
    decide +kernel
  have stands := performAllBy_isAfter JavaScript.parse? importer broken known
  have failed : ∃ error, (start importer broken known).run.1 = .error error := by
    have answer := (stands []).first (by simp)
    cases revised : revise known importer broken with
    | ok revision =>
        rw [revised] at fails
        cases fails
    | error error => exact ⟨error, answer.trans revised⟩
  refine ⟨failed, ?_⟩
  cases revised : revise known importer valid with
  | error error =>
      rw [revised] at works
      cases works
  | ok revision =>
      have second := (stands [.run, .setCode valid]).first (by
        intro before behind split
        rcases before with _ | ⟨call, _ | ⟨other, rest⟩⟩
        · exact failed
        · simp at split
        · simp at split)
      have last := stands [.run, .setCode valid, .run, .setCode broken]
      obtain ⟨kept, again⟩ := last.later [.run, .setCode valid] [.setCode broken] revision rfl
        (second.trans revised)
      rw [revised] at works
      refine ⟨revision, rfl, last.code_eq, ?_, again⟩
      rw [last.progress_eq revision kept]
      exact Option.some.inj works

end Migrator

end Respecify
