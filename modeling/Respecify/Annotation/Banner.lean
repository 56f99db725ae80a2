import Respecify.Import.Site

/-!
# The banner above a changed import

Above an import that was changed, a banner keeps the statement as it was: a
line that opens the banner, a block comment with the statement, and a line
that closes it.
-/

namespace Respecify.Banner

/-- The line that opens a banner. -/
def opening : Text :=
  text "// =============================== original line ==============================="

/-- The line that closes a banner. -/
def closing : Text :=
  text "// ============================================================================="

/-- What ends a block comment. -/
def commentEnd : Text := text "*/"

/-- How a banner writes what would end its comment. -/
def escapedEnd : Text := text "*\\/"

/-- What starts each line of the statement. -/
def lineStart : Text := text " * "

/-- The lines of a statement as they stand in a banner. -/
def body (statement : Text) : Text :=
  (statement.replace commentEnd escapedEnd).replace [lineFeed] (lineFeed :: lineStart)

/-- The banner that keeps a statement. -/
def block (statement : Text) : Text :=
  [lineFeed] ++ opening ++ [lineFeed] ++ text "/**" ++ [lineFeed] ++ lineStart ++
    body statement ++ [lineFeed] ++ text " */" ++ [lineFeed] ++ closing ++ [lineFeed]

/-- The last line of a banner stands right above the import. -/
def precedes (source : Text) (site : ImportSite) : Bool :=
  source.endsWithAt (closing ++ [lineFeed]) site.statementRange.start

end Respecify.Banner
