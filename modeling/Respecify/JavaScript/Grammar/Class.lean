import Respecify.JavaScript.Grammar.Function

/-!
# Classes

The body of a class holds methods, fields and static blocks.  A field ends
like a statement, so a line break after its name can end it: the word `get` on
a line of its own is a field, not the start of a method on the next line.
-/

namespace Respecify.JavaScript.Grammar

variable (grammar : Grammar) (bound : Nat)

/-- The characters after a word in a class body that make it the key of a
member. -/
def afterClassKey : List Char :=
  ['(', '=', ';', '\x7d']

/-- Read a block that initialises a class, if one comes next. -/
def staticBlock? : Parser (Option Tree) := do
  let before ← get
  let start ← Parser.start
  if ← Parser.word? "static" then
    if ← Parser.nextIs "\x7b" then
      return some (← Parser.close .staticBlock start [← grammar.block bound])
  set before
  return none

/-- Read a member of a class. -/
def classMember : Parser Tree := do
  let start ← Parser.start
  let decorators ← grammar.decorators bound
  if decorators.isEmpty then
    if let some block ← grammar.staticBlock? bound then
      return block
  let (methodOnly, _) ← modifiers afterClassKey (Parser.endsHere true)
  let key ← grammar.key
  let before := decorators ++ [key]
  if methodOnly || ((← Parser.nextIs "(") && !(← Parser.endsHere true)) then
    grammar.method bound start before
  else
    if (← Parser.nextIs "=") && !(← Parser.endsHere true) then
      Parser.symbol "="
      let value ← grammar.value .ending
      let field ← Parser.close .fieldDefinition start (before ++ [value])
      Parser.semicolon false
      return field
    else
      let field ← Parser.close .fieldDefinition start before
      Parser.semicolon true
      return field

/-- Read the members of a class up to the closing brace. -/
def classMembers : Nat → Parser (List Tree)
  | 0 => failure
  | limit + 1 => do
      if ← Parser.symbol? "\x7d" then
        return []
      if ← Parser.symbol? ";" then
        classMembers limit
      else
        let first ← grammar.classMember bound
        return first :: (← classMembers limit)

/-- Read a class from the word `class` on, after its decorators.  A class may
be nameless. -/
def classFrom (kind : Kind) (start : Nat) (decorators : List Tree) : Parser Tree := do
  Parser.word "class"
  let names ←
    if ← Parser.nextIsName then pure [(← Parser.name).withRole .name] else pure []
  let heritage ←
    if ← Parser.nextIsWord "extends" then
      let heritageStart ← Parser.start
      Parser.word "extends"
      let parent ← grammar.value .inside
      pure [← Parser.close .classHeritage heritageStart [parent]]
    else
      pure []
  let bodyStart ← Parser.start
  Parser.symbol "\x7b"
  let members ← grammar.classMembers bound (bound + 1)
  let body ← Parser.close .classBody bodyStart members
  Parser.close kind start (decorators ++ names ++ heritage ++ [body])

end Respecify.JavaScript.Grammar
