import Respecify.Migration.Revision

/-!
# A migrator for one script

A migrator revises its script once and keeps the result.  It never changes
the script; whoever holds the script does, after keeping a backup.
-/

namespace Respecify

/-- How far a migrator has come. -/
inductive Progress where
  /-- The script has not been revised. -/
  | pending
  /-- The script is being revised. -/
  | working
  /-- The script was revised and needs no change. -/
  | unchanged
  /-- The script was revised and changes. -/
  | changed
deriving DecidableEq, Repr

/-- The word for the progress. -/
def Progress.label : Progress → String
  | .pending => "pending"
  | .working => "rewriting"
  | .unchanged => "unchanged"
  | .changed => "rewritten"

/-- How far a migrator has come with this result. -/
def Revision.progress (revision : Revision) : Progress :=
  if revision.isChanged then .changed else .unchanged

/-- A script, what is known on its server, and how far its revision has come. -/
structure Migrator where
  importer : Text
  code : Text
  known : Known
  progress : Progress
  result : Option Revision

namespace Migrator

/-- A migrator that has not started. -/
def start (importer code : Text) (known : Known) : Migrator :=
  ⟨importer, code, known, .pending, none⟩

/-- Take up the work. -/
def begin (migrator : Migrator) : Migrator :=
  { migrator with progress := .working }

/-- End the work, with a result or without one. -/
def finish (migrator : Migrator) : Except RevisionError Revision → Migrator
  | .ok revision => { migrator with progress := revision.progress, result := some revision }
  | .error _ => { migrator with progress := .pending }

/-- Revise the script, as a parser reads it, unless that was done before.  After an error
the next run starts over. -/
def runBy (parser : JavaScript.ScriptParser) (migrator : Migrator) :
    Except RevisionError Revision × Migrator :=
  match migrator.result with
  | some revision => (.ok revision, migrator)
  | none =>
      let working := migrator.begin
      let answer := reviseBy parser working.known working.importer working.code
      (answer, working.finish answer)

/-- Revise the script, unless that was done before. -/
def run (migrator : Migrator) : Except RevisionError Revision × Migrator :=
  migrator.runBy JavaScript.parse?

/-- The outcomes that given imports of a text would have. -/
def resolve (migrator : Migrator) (source : Text) (sites : List ImportSite) :
    List Outcome :=
  Outcome.ofSites migrator.known migrator.importer source sites

/-- The script gets another text. -/
def setCode (migrator : Migrator) (code : Text) : Migrator :=
  { migrator with code := code }

/-! ## Sequences of calls -/

/-- What can be done with a migrator. -/
inductive Call where
  | run
  | resolve (source : Text) (sites : List ImportSite)
  | setCode (code : Text)

/-- The migrator after a call. -/
def performBy (parser : JavaScript.ScriptParser) (migrator : Migrator) : Call → Migrator
  | .run => (migrator.runBy parser).2
  | .resolve _ _ => migrator
  | .setCode code => migrator.setCode code

/-- The migrator after calls. -/
def performAllBy (parser : JavaScript.ScriptParser) (migrator : Migrator)
    (calls : List Call) : Migrator :=
  calls.foldl (performBy parser) migrator

end Migrator

end Respecify
