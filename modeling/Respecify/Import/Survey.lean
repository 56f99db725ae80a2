import Respecify.Import.Site
import Respecify.JavaScript.Bindings
import Respecify.JavaScript.ModuleRules
import Respecify.JavaScript.Parse
import Respecify.JavaScript.Recovery

/-!
# A survey of the imports of a script

A script is checked step by step: its characters, its grammar, the rules of
module code, the names bound at its top, and the place of its imports.  The
first step that fails gives the failure.  Trees count bytes, sites count
characters.
-/

namespace Respecify

open JavaScript

/-- Why the imports of a script cannot be told. -/
inductive SurveyError where
  /-- The script cannot be parsed. -/
  | parse (failure : Failure)
  /-- The ends of an import are in the wrong order. -/
  | range (error : RangeError)
  /-- The ranges of an import do not fit together. -/
  | site (error : SiteError)
deriving DecidableEq, Repr

/-- The wording of the error. -/
def SurveyError.message : SurveyError → Text
  | .parse failure => failure.message
  | .range error => error.message
  | .site error => error.message

/-- The position of a character, its column counted in characters. -/
def characterPosition (source : Text) (offset : Nat) : Position where
  line := (source.take offset).count lineFeed + 1
  column := ((source.take offset).reverse.takeWhile (· != lineFeed)).length + 1

/-- The characters of a text; a surrogate is none. -/
def characters (source : Text) : Except Failure (List Char) :=
  match source.findIdx? (!isScalar ·) with
  | some offset =>
      .error ⟨.invalidCharacter (source.getD offset 0), some (characterPosition source offset)⟩
  | none => .ok (source.map Char.ofNat)

/-- The tree of a script that follows the grammar, as a parser reads it.  One that
does not fails at the first fault of what the parser recovers. -/
def parseScriptBy (parser : ScriptParser) (source : Text) : Except Failure Tree := do
  let given ← characters source
  match parser.tree? given with
  | some tree => return tree
  | none => throw (RecoveredTree.failureOf (Utf8.encode source) (parser.recovered? given))

/-- Check that a tree is one of module code: no forbidden node, no name bound
twice, no import inside another statement. -/
def checkModule (source : Source) (program : Tree) : Except Failure Unit := do
  if let some violation := program.firstViolation? false then
    throw (source.failure violation.fault violation.tree)
  if let some binding := firstClash? (bindings source program) then
    throw (source.failure (.redeclared binding.name) binding.tree)
  if let some tree := program.firstNestedImport? .program then
    throw (source.failure .nestedImport tree)

/-- The range between two byte offsets, counted in characters. -/
def rangeOf (offsets : ByteIndex) (start stop : Nat) : Except SurveyError TextRange :=
  match TextRange.ofInts? (offsets.charactersBefore start) (offsets.charactersBefore stop) with
  | .ok range => .ok range
  | .error error => .error (.range error)

/-- The site of an import declaration.  One with an empty specifier, or with
none, is passed over. -/
def siteOf? (source : Source) (offsets : ByteIndex) (statement : Tree) :
    Except SurveyError (Option ImportSite) :=
  match statement.child? .source with
  | none => .ok none
  | some specifier => do
      let start := offsets.charactersBefore (specifier.span.start + 1)
      let stop := offsets.charactersBefore (specifier.span.stop - 1)
      if stop ≤ start then
        return none
      let specifierRange ← rangeOf offsets (specifier.span.start + 1) (specifier.span.stop - 1)
      let statementRange ← rangeOf offsets statement.span.start statement.span.stop
      match ImportSite.ofParts? (specifierRange.slice source.text) specifierRange statementRange
        (source.lineOf statement.span.start) with
      | .ok site => return some site
      | .error error => throw (.site error)

/-- The sites of the import declarations directly below the root of a
tree. -/
def sitesOf (source : Source) (program : Tree) : Except SurveyError (List ImportSite) := do
  let sites ← program.imports.mapM (siteOf? source (ByteIndex.ofText source.text))
  return sites.filterMap id

/-- The sites of a module given by its tree. -/
def surveyTree (source : Source) (program : Tree) : Except SurveyError (List ImportSite) :=
  match checkModule source program with
  | .error failure => .error (.parse failure)
  | .ok () => sitesOf source program

/-- The import declarations of a script, in source order, as a parser reads
it. -/
def surveyBy (parser : ScriptParser) (source : Text) : Except SurveyError (List ImportSite) :=
  match parseScriptBy parser source with
  | .error failure => .error (.parse failure)
  | .ok program => surveyTree (Source.ofText source) program

/-- The import declarations of a script, in source order. -/
def survey (source : Text) : Except SurveyError (List ImportSite) :=
  surveyBy parse? source

end Respecify
