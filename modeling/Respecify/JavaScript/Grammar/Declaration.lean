import Respecify.JavaScript.Grammar.Operand

/-!
# Declarations

Declarations of variables, functions and classes.
-/

namespace Respecify.JavaScript.Grammar

variable (grammar : Grammar) (bound : Nat)

/-- Read what a declaration binds: a name or a pattern in braces or
brackets. -/
def binding : Parser Tree := do
  let cover? : Option Cover ←
    if ← Parser.nextIs "\x7b" then some <$> grammar.object bound
    else if ← Parser.nextIs "[" then (fun result => some result.2) <$> grammar.list bound
    else pure none
  match cover? with
  | some cover =>
      unless cover.form.isPattern do failure
      return cover.tree.asPattern
  | none => Parser.name

/-- Read a variable with its initial value, if it has one, and tell whether it
has. -/
def declarator (place : Place) : Parser (Tree × Bool) := do
  let start ← Parser.start
  let target := (← grammar.binding bound).withRole .name
  if (← Parser.nextIs "=") && !(← Parser.endsHere true) then
    Parser.symbol "="
    let value ← grammar.value place
    return (← Parser.close .variableDeclarator start [target, value.withRole .value], true)
  return (← Parser.close .variableDeclarator start [target], false)

/-- Read variables with commas between them, at most so many, up to the end of
their declaration.  Without an initial value no operator can follow the last
one. -/
def declarators : Nat → Parser (List Tree)
  | 0 => failure
  | limit + 1 => do
      let (first, valued) ← grammar.declarator bound .ending
      if !(← Parser.endsHere (!valued)) then
        if ← Parser.symbol? "," then
          return first :: (← declarators limit)
      Parser.semicolon (!valued)
      return [first]

/-- Read a declaration of variables from its first word on. -/
def variableList (word : String) : Parser Tree := do
  let start ← Parser.start
  Parser.word word
  let trees ← grammar.declarators bound (bound + 1)
  let kind := if word == "var" then Kind.variableDeclaration else .lexicalDeclaration
  Parser.close kind start trees

/-- Does the word `let` come next and start a declaration?  It is a plain name
where an operator follows, or a line break where a statement may end. -/
def nextDeclaresLet (omissible : Bool) : Parser Bool := do
  let before ← get
  if ← Parser.word? "let" then
    let ended ← Parser.endsHere false
    let text ← Parser.upcoming
    let word ← Parser.nextWord?
    set before
    return !(omissible && ended) &&
      (text.head? == some '[' || text.head? == some '\x7b' ||
        word.any fun word => word != "in" && word != "instanceof")
  return false

/-- Does the word `async` come next, with the word `function` behind it, on the
same line where a statement may end? -/
def nextIsAsyncFunction (omissible : Bool) : Parser Bool := do
  let before ← get
  if ← Parser.word? "async" then
    let ended ← Parser.endsHere false
    let found ← Parser.nextIsWord "function"
    set before
    return !(omissible && ended) && found
  return false

/-- Read the declaration of a function. -/
def functionDeclaration : Parser Tree := do
  let start ← Parser.start
  let _ ← Parser.word? "async"
  let tree ← grammar.function bound .functionDeclaration .generatorDeclaration start
  if (tree.child? .name).isNone then failure
  return tree

/-- Read the declaration of a class. -/
def classDeclaration : Parser Tree := do
  let start ← Parser.start
  let decorators ← grammar.decorators bound
  let tree ← grammar.classFrom bound .classDeclaration start decorators
  if (tree.child? .name).isNone then failure
  return tree

/-- Read a declaration; `omissible` tells that an expression could stand here
as well, which a line break might end. -/
def declaration (omissible : Bool) : Parser Tree := do
  if ← nextIsAsyncFunction omissible then
    grammar.functionDeclaration bound
  else if ← nextDeclaresLet omissible then
    grammar.variableList bound "let"
  else
    match ← Parser.nextWord? with
    | some "var" => grammar.variableList bound "var"
    | some "const" => grammar.variableList bound "const"
    | some "function" => grammar.functionDeclaration bound
    | some "class" => grammar.classDeclaration bound
    | none => grammar.classDeclaration bound
    | _ => failure

end Respecify.JavaScript.Grammar
