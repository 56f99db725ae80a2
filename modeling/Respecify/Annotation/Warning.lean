import Respecify.Import.Site

/-!
# The warning above an import without a target

An import whose script is not found gets a comment above it.  The comment is
found again later, so that it is not written twice, and so that it can be
taken away once the script is there.
-/

namespace Respecify.Warning

/-- The comment. -/
def comment : Text :=
  text
    "// This import statement may be broken by a recent upgrade. Check the path to the script."

/-- The comment on a line of its own. -/
def block : Text :=
  [lineFeed] ++ comment ++ [lineFeed]

/-- Where the marker ends right before the import, if it does. -/
def markerSpan? (source : Text) (site : ImportSite) (marker : Text) : Option TextRange :=
  let start := site.statementRange.start
  if source.endsWithAt marker start then
    some ⟨start - marker.length, start, Nat.sub_le start marker.length⟩
  else
    none

/-- Where a warning stands right above the import, if it does; the line end
before it belongs to it. -/
def span? (source : Text) (site : ImportSite) : Option TextRange :=
  match markerSpan? source site block with
  | some span => some span
  | none => markerSpan? source site (comment ++ [lineFeed])

end Respecify.Warning
