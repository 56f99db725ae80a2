import Respecify.Import.Survey
import Respecify.Migration.Plan

/-!
# The revision of one script

A script is revised by finding its imports, resolving each of them, planning
the edits from the last import to the first, and making them.
-/

namespace Respecify

/-- Why a script cannot be revised. -/
inductive RevisionError where
  /-- The imports of the script cannot be told. -/
  | survey (error : SurveyError)
  /-- The planned edits overlap. -/
  | overlap (conflict : EditConflict)
deriving DecidableEq, Repr

/-- The wording of the error. -/
def RevisionError.message : RevisionError → Text
  | .survey error => error.message
  | .overlap conflict => conflict.message

/-- What revising a script came to. -/
structure Revision where
  /-- The text of the script before. -/
  before : Text
  /-- The text of the script after. -/
  code : Text
  /-- The outcome of each import, in source order. -/
  outcomes : List Outcome
  /-- The edits in the order in which they were planned. -/
  edits : List Edit

namespace Revision

/-- The script changed. -/
def isChanged (revision : Revision) : Bool :=
  !revision.edits.isEmpty

/-- The number of imports that got a new specifier. -/
def changes (revision : Revision) : Nat :=
  revision.outcomes.countP (·.resolution.isChange)

/-- The number of imports that got a warning. -/
def warnings (revision : Revision) : Nat :=
  revision.outcomes.countP (·.resolution.isMissing)

/-- Carry out the outcomes of the imports of a text. -/
def ofOutcomes (source : Text) (outcomes : List Outcome) : Except EditConflict Revision :=
  let edits := Outcome.allEdits source (Outcome.lastFirst outcomes)
  match Edit.apply source edits with
  | .ok code => .ok ⟨source, code, outcomes, edits⟩
  | .error conflict => .error conflict

/-- Revise a text whose imports are given. -/
def ofSites (known : Known) (importer source : Text) (sites : List ImportSite) :
    Except EditConflict Revision :=
  ofOutcomes source (Outcome.ofSites known importer source sites)

end Revision

/-- Revise the named script, as a parser reads it: resolve its imports among
the known names. -/
def reviseBy (parser : JavaScript.ScriptParser) (known : Known) (importer source : Text) :
    Except RevisionError Revision :=
  match surveyBy parser source with
  | .error error => .error (.survey error)
  | .ok sites =>
      match Revision.ofSites known importer source sites with
      | .ok revision => .ok revision
      | .error conflict => .error (.overlap conflict)

/-- Revise the named script: resolve its imports among the known names. -/
def revise (known : Known) (importer source : Text) : Except RevisionError Revision :=
  reviseBy JavaScript.parse? known importer source

/-- The text of the named script with its imports changed, as a parser reads it. -/
def revisedTextBy (parser : JavaScript.ScriptParser) (known : Known) (importer source : Text) :
    Except RevisionError Text :=
  (reviseBy parser known importer source).map Revision.code

/-- The text of the named script with its imports changed. -/
def revisedText (known : Known) (importer source : Text) : Except RevisionError Text :=
  revisedTextBy JavaScript.parse? known importer source

end Respecify
