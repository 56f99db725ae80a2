import Respecify.JavaScript.Grammar.Declaration

/-!
# Imports and exports

Import declarations are accepted wherever a statement is; a rule of module
code refuses those that are not at the top of the script.
-/

namespace Respecify.JavaScript.Grammar

variable (grammar : Grammar) (bound : Nat)

/-- Read the name of an export: a name, a string or the word `default`. -/
def exportName : Parser Tree := do
  match ← Parser.nextWord? with
  | some "default" => Parser.anyWord .identifier
  | some _ => Parser.name
  | none => Parser.string

/-- Read names in braces with commas between them, each by `specifier`. -/
def specifiers (kind : Kind) (specifier : Parser Tree) : Parser Tree := do
  let start ← Parser.start
  Parser.symbol "\x7b"
  let trees ←
    if (← Parser.nextIs "\x7d") || (← Parser.nextIs ",") then
      pure []
    else
      let first ← specifier
      let others ← Parser.many bound anotherFollows (Parser.symbol "," *> specifier)
      pure (first :: others)
  let _ ← Parser.symbol? ","
  Parser.symbol "\x7d"
  Parser.close kind start trees
where
  /-- Is there a comma with another name behind it? -/
  anotherFollows : Parser Bool := do
    let before ← get
    let found ← (do return (← Parser.symbol? ",") && !(← Parser.nextIs "\x7d"))
    set before
    return found

/-- Read the word `from` and the string after it. -/
def fromClause : Parser Tree := do
  Parser.word "from"
  return (← Parser.string).withRole .source

/-- Read an imported name with the name it is bound to. -/
def importSpecifier : Parser Tree := do
  let start ← Parser.start
  let bindable ← Parser.nextIsName
  let name ← exportName
  if ← Parser.word? "as" then
    let renamed ← Parser.name
    Parser.close .importSpecifier start [name.withRole .name, renamed.withRole .renamed]
  else
    unless bindable do failure
    Parser.close .importSpecifier start [name.withRole .name]

/-- Read the import of a whole module under a name. -/
def namespaceImport : Parser Tree := do
  let start ← Parser.start
  Parser.symbol "*"
  Parser.word "as"
  let name ← Parser.name
  Parser.close .namespaceImport start [name]

/-- Read imported names in braces, or the import of a whole module. -/
def importedNames : Parser Tree := do
  if ← Parser.nextIs "*" then namespaceImport
  else specifiers bound .namedImports importSpecifier

/-- Read what an import binds. -/
def importClause : Parser Tree := do
  let start ← Parser.start
  if ← Parser.nextIsName then
    let name ← Parser.name
    let others ← if ← Parser.symbol? "," then pure [← importedNames bound] else pure []
    Parser.close .importClause start (name :: others)
  else
    Parser.close .importClause start [← importedNames bound]

/-- Read the attributes of an import, if they come next on the same line. -/
def importAttributes : Parser (List Tree) := do
  if !(← Parser.endsHere true) && (← Parser.nextIsWord "with") then
    let start ← Parser.start
    Parser.word "with"
    let object ← grammar.object bound
    unless object.form.isExpression do failure
    return [← Parser.close .importAttribute start [object.tree]]
  return []

/-- Read an import declaration. -/
def importStatement : Parser Tree := do
  let start ← Parser.start
  Parser.word "import"
  let text ← Parser.upcoming
  let clause ←
    if text.head? == some '\x22' || text.head? == some '\x27' then
      pure [(← Parser.string).withRole .source]
    else
      pure [← importClause bound, ← fromClause]
  let attributes ← grammar.importAttributes bound
  Parser.semicolon true
  Parser.close .importStatement start (clause ++ attributes)

/-- Read an exported name with the name it is known by outside. -/
def exportSpecifier : Parser Tree := do
  let start ← Parser.start
  let name ← exportName
  if ← Parser.word? "as" then
    let renamed ← exportName
    Parser.close .exportSpecifier start [name.withRole .name, renamed.withRole .renamed]
  else
    Parser.close .exportSpecifier start [name.withRole .name]

/-- Read an export of another module's names, from the star on. -/
def exportAll : Parser (List Tree) := do
  let start ← Parser.start
  Parser.symbol "*"
  let names ←
    if ← Parser.word? "as" then
      pure [← Parser.close .namespaceExport start [← exportName]]
    else
      pure []
  let source ← fromClause
  return names ++ [source]

/-- Read exported names in braces, and the module they come from. -/
def exportNames : Parser (List Tree) := do
  let clause ← specifiers bound .exportClause exportSpecifier
  if !(← Parser.endsHere true) && (← Parser.nextIsWord "from") then
    return [clause, ← fromClause]
  return [clause]

/-- Read an exported declaration whose last line can also be an expression,
or that expression. -/
def exportDefault : Parser Tree := do
  let before ← get
  let declared? ← (some <$> grammar.declaration bound true <|> pure none)
  let declares := declared?.isSome && !(← continuesExpression)
  match declared?, declares with
  | some declared, true => return declared.withRole .declaration
  | _, _ =>
      set before
      let value ← grammar.value .ending
      Parser.semicolon false
      return value.withRole .value

/-- Read an export. -/
def exportStatement : Parser Tree := do
  let start ← Parser.start
  let decorators ← grammar.decorators bound
  Parser.word "export"
  if decorators.isEmpty && (← Parser.nextIs "*") then
    let trees ← exportAll
    Parser.semicolon true
    Parser.close .exportStatement start trees
  else if decorators.isEmpty && (← Parser.nextIs "\x7b") then
    let trees ← exportNames bound
    Parser.semicolon true
    Parser.close .exportStatement start trees
  else
    let exported ←
      if ← Parser.word? "default" then grammar.exportDefault bound
      else pure ((← grammar.declaration bound false).withRole .declaration)
    Parser.close .exportStatement start (decorators ++ [exported])

end Respecify.JavaScript.Grammar
