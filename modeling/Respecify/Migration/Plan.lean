import Respecify.Import.Outcome
import Respecify.Source.Edit

/-!
# The edits that carry out the outcomes

An import that changes gets its new specifier and a banner above it.  One
whose script is not found gets a warning.  A warning that no longer holds is
taken away.
-/

namespace Respecify.Outcome

/-- The new specifier and the banner of an import that changes, or the warning
of one whose script is not found. -/
def mainEdits (source : Text) (outcome : Outcome) : List Edit :=
  let statement := outcome.site.statementRange
  match outcome.resolution with
  | .root specifier _ | .directory specifier _ =>
      [Edit.replacement outcome.site.specifierRange specifier,
        Edit.insertion statement.start (Banner.block (statement.slice source))]
  | .unresolved .notFound => [Edit.insertion statement.start Warning.block]
  | .unresolved _ => []

/-- A warning above the import would no longer hold. -/
def resolves (outcome : Outcome) : Bool :=
  outcome.resolution.isChange || outcome.resolution == .unresolved .upToDate

/-- The removal of a warning that no longer holds. -/
def cleanupEdits (source : Text) (outcome : Outcome) : List Edit :=
  if outcome.resolves then
    ((Warning.span? source outcome.site).map (Edit.replacement · [])).toList
  else
    []

/-- The edits that carry out one outcome. -/
def edits (source : Text) (outcome : Outcome) : List Edit :=
  outcome.mainEdits source ++ outcome.cleanupEdits source

/-- The edits that carry out outcomes, one outcome after the other. -/
def allEdits (source : Text) (outcomes : List Outcome) : List Edit :=
  outcomes.flatMap (edits source)

end Respecify.Outcome
