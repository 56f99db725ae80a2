import Respecify.CommandLine.Arguments

/-!
# The help text of the command line

Help texts stand in a column of their own and are broken between words.
-/

namespace Respecify.CommandLine

/-- The name of the command. -/
def programName : Text := text "import-migrator"

/-- What the command does. -/
def description : Text :=
  text "Rewrite legacy './' script imports to the root-relative convention."

/-- The column in which help texts start. -/
def helpColumn : Nat := 24

/-- The number of characters of a help text on one line. -/
def helpWidth : Nat := 54

/-- So many blanks. -/
def blanks (count : Nat) : Text :=
  List.replicate count 0x20

/-- Put words on lines of a width.  The current line comes first; a word that
is too long for any line is cut. -/
def fill (width : Nat) : Nat → Text → List Text → List Text
  | 0, line, _ => [line]
  | _, line, [] => if line.isEmpty then [] else [line]
  | bound + 1, [], word :: rest =>
      if word.length ≤ width then fill width bound word rest
      else word.take width :: fill width bound [] (word.drop width :: rest)
  | bound + 1, line, word :: rest =>
      if line.length + 1 + word.length ≤ width then
        fill width bound (line ++ [0x20] ++ word) rest
      else if width < word.length then
        let room := width - line.length - 1
        if room = 0 then line :: fill width bound [] (word :: rest)
        else (line ++ [0x20] ++ word.take room) :: fill width bound [] (word.drop room :: rest)
      else
        line :: fill width bound [] (word :: rest)

/-- A character between words. -/
def isSpace (c : Nat) : Bool :=
  c == 0x20 || (0x09 ≤ c && c ≤ 0x0D)

/-- The words of a text. -/
def words (source : Text) : List Text :=
  ((Text.splitOn 0x20 (source.map fun c => if isSpace c then 0x20 else c)).filter
    fun word => !word.isEmpty)

/-- A help text on lines of its own column. -/
def wrapped (source : Text) : List Text :=
  fill helpWidth (2 * source.length + 2) [] (words source)

/-- One thing that is explained: its form, then its help text.  The text
starts on the line of the form if there is room. -/
def explained (form help : Text) : Text :=
  let head := blanks 2 ++ form
  let indent := lineFeed :: blanks helpColumn
  let body := Text.join indent (wrapped help)
  (if head.length + 2 ≤ helpColumn then head ++ blanks (helpColumn - head.length)
    else head ++ indent) ++ body ++ [lineFeed]

/-- The levels that can be asked for, as the help shows them. -/
def levelChoice : Text :=
  text "\x7b" ++ Text.join (text ",") levelNames ++ text "\x7d"

/-- How the command is used. -/
def usage : Text :=
  let indent := lineFeed :: blanks 23
  text "usage: " ++ programName ++ text " [-h] [--dry-run] [--show-unchanged]" ++
    indent ++ text "[--log-level " ++ levelChoice ++ text "]" ++
    indent ++ text "[workspace]" ++ [lineFeed]

/-- The help text, given the settings. -/
def helpText (settings : Settings) : Text :=
  let or (value : Text) : Text := text " (default: " ++ value ++ text ")"
  usage ++ [lineFeed] ++ description ++ [lineFeed, lineFeed] ++
    text "positional arguments:" ++ [lineFeed] ++
    explained (text "workspace")
      (text "Directory holding one sub-directory per server" ++ or settings.workspace) ++
    [lineFeed] ++ text "options:" ++ [lineFeed] ++
    explained (text "-h, --help") (text "show this help message and exit") ++
    explained (text "--dry-run") (text "Report changes without writing anything") ++
    explained (text "--show-unchanged") (text "Also list scripts that needed no change") ++
    explained (text "--log-level " ++ levelChoice)
      (text "Logging level" ++ or settings.logLevel)

/-- What is told when the arguments are refused. -/
def refusal (error : UsageError) : Text :=
  usage ++ programName ++ text ": error: " ++ error.message ++ [lineFeed]

end Respecify.CommandLine
