import Respecify.Source.Range

/-!
# Import declarations found in a script

A site says what an import declaration names and where it stands.  Its type
keeps what later steps rely on: the range of the specifier is not empty and
lies inside the range of the statement.
-/

namespace Respecify

/-- An import declaration of a script, and where it stands. -/
structure ImportSite where
  /-- The text between the quotes, escapes untouched. -/
  specifier : Text
  /-- Where that text stands. -/
  specifierRange : TextRange
  /-- Where the whole declaration stands. -/
  statementRange : TextRange
  /-- The line on which the declaration starts; the first line is one. -/
  line : Int
  specifier_nonempty : specifierRange.start < specifierRange.stop
  specifier_inside : statementRange.contains specifierRange = true
deriving DecidableEq

/-- What makes two ranges no site. -/
inductive SiteError where
  /-- The range of the specifier is empty. -/
  | empty
  /-- The range of the specifier is longer than a machine word can tell. -/
  | overlong
  /-- The range of the specifier lies outside that of the statement. -/
  | outside (specifier statement : TextRange)
deriving DecidableEq, Repr

/-- The wording of the error. -/
def SiteError.message : SiteError → Text
  | .empty => text "Import specifier range must not be empty"
  | .overlong => text "Import specifier range is too long"
  | .outside specifier statement =>
      text "Specifier range " ++ specifier.display ++ text " lies outside statement range " ++
        statement.display

namespace ImportSite

/-- The site with the given parts, if the ranges fit together. -/
def ofParts? (specifier : Text) (specifierRange statementRange : TextRange) (line : Int) :
    Except SiteError ImportSite :=
  if TextRange.greatestLength < specifierRange.length then
    .error .overlong
  else if nonempty : specifierRange.start < specifierRange.stop then
    if inside : statementRange.contains specifierRange = true then
      .ok ⟨specifier, specifierRange, statementRange, line, nonempty, inside⟩
    else
      .error (.outside specifierRange statementRange)
  else
    .error .empty

end ImportSite

end Respecify
